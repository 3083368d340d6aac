import Phrasebook.Proofs.Text.Cuts
import Phrasebook.Proofs.Tree.Regions

/-! Regions that are laid out in order. What such a region prints accounts for the span that it
stands for, every octet once, and can be read as text. -/

namespace Phrasebook.Region

open Piece Utf8

mutual

/-- Whether a region is laid out over a source: inner regions lie in order, texts can be written, and
the source is cut between characters. -/
def Laid (source : Bytes) : Region → Prop
  | node _ (.source a b) inner => Fits source a b inner
  | node _ (.text span texts) inner =>
    inner = [] ∧ (∀ p ∈ span, Cuts source p.1 p.2) ∧ ∀ t ∈ texts, (encode? t).isSome = true
  | node _ (.around span before after) inner =>
    inner.map Region.span = [span] ∧ LaidIn source inner ∧
      ∀ t ∈ before ++ after, (encode? t).isSome = true

def LaidIn (source : Bytes) : List Region → Prop
  | [] => True
  | r :: rest => Laid source r ∧ LaidIn source rest

def Fits (source : Bytes) (cursor stop : Nat) : List Region → Prop
  | [] => Cuts source cursor stop
  | r :: rest =>
    Laid source r ∧
    match r.span with
    | some (a, b) => Cuts source cursor a ∧ Fits source b stop rest
    | none => Fits source cursor stop rest

end

variable {source : Bytes} {r : Region} {rs rest : List Region} {a b c d : Nat}

theorem fits_spanned (hr : r.span = some (a, b)) :
    Fits source c d (r :: rest) ↔ Laid source r ∧ Cuts source c a ∧ Fits source b d rest := by
  rw [Fits, hr]

theorem fits_unspanned (hr : r.span = none) :
    Fits source c d (r :: rest) ↔ Laid source r ∧ Fits source c d rest := by
  rw [Fits, hr]

theorem splice_spanned (hr : r.span = some (a, b)) :
    splice c d (r :: rest) = .kept c a :: (pieces r ++ splice b d rest) := by
  rw [splice, hr]

theorem splice_unspanned (hr : r.span = none) :
    splice c d (r :: rest) = pieces r ++ splice c d rest := by
  rw [splice, hr]

theorem isText_inserted (texts : List Text) :
    ∀ p ∈ texts.map Piece.inserted, p.isText = true := by
  intro p hp
  obtain ⟨t, -, rfl⟩ := List.mem_map.1 hp
  rfl

theorem emitted_inserted_map (texts : List Text) : Emitted (texts.map Piece.inserted) := by
  induction texts with
  | nil => exact emitted_nil
  | cons t rest ih => exact emitted_inserted.2 ih

def Accounts (span : Option (Nat × Nat)) (ps : List Piece) : Prop :=
  match span with
  | some (a, b) => Tiles a b ps
  | none => ∀ p ∈ ps, p.isText = true

theorem Accounts.between {span : Option (Nat × Nat)} {ps : List Piece} (h : Accounts span ps)
    (before after : List Text) :
    Accounts span (before.map .inserted ++ (ps ++ after.map .inserted)) := by
  cases span with
  | none =>
    intro p hp
    rcases List.mem_append.1 hp with hp | hp
    · exact isText_inserted before p hp
    rcases List.mem_append.1 hp with hp | hp
    · exact h p hp
    · exact isText_inserted after p hp
  | some span =>
    have hafter := tiles_of_texts (isText_inserted after) (tiles_nil.2 (Eq.refl span.2))
    rw [List.append_nil] at hafter
    exact tiles_of_texts (isText_inserted before) (tiles_append h hafter)

mutual

theorem Laid.cuts : ∀ {r : Region} {a b : Nat}, Laid source r → r.span = some (a, b) →
    Cuts source a b
  | node _ (.source c d) inner, a, b, h, hr => by
    rw [Laid] at h
    cases hr
    exact Fits.cuts h
  | node _ (.text span texts) inner, a, b, h, hr => by
    rw [Laid] at h
    exact h.2.1 (a, b) hr
  | node _ (.around span before after) inner, a, b, h, hr => by
    rw [Laid] at h
    exact LaidIn.cuts h.2.1 (by rw [h.1, show span = some (a, b) from hr])

theorem LaidIn.cuts : ∀ {rs : List Region} {a b : Nat}, LaidIn source rs →
    rs.map Region.span = [some (a, b)] → Cuts source a b
  | [], _, _, _, hr => by simp at hr
  | r :: rest, a, b, h, hr => by
    rw [LaidIn] at h
    rw [List.map_cons, List.cons.injEq] at hr
    exact Laid.cuts h.1 hr.1

theorem Fits.cuts : ∀ {rs : List Region} {c d : Nat}, Fits source c d rs → Cuts source c d
  | [], c, d, h => by rwa [Fits] at h
  | r :: rest, c, d, h => by
    cases hr : r.span with
    | none => exact Fits.cuts ((fits_unspanned hr).1 h).2
    | some p =>
      obtain ⟨hlaid, hbefore, hrest⟩ := (fits_spanned hr).1 h
      have hspan := Laid.cuts hlaid hr
      have hafter := Fits.cuts hrest
      exact ⟨hbefore.1, hafter.2.1, Nat.le_trans hbefore.2.2 (Nat.le_trans hspan.2.2 hafter.2.2)⟩

end

mutual

theorem Laid.accounts : ∀ {r : Region}, Laid source r → Accounts r.span r.pieces
  | node _ (.source a b) inner, h => by
    rw [Laid] at h
    rw [pieces]
    exact Fits.tiles h
  | node _ (.text none texts) inner, h => isText_inserted texts
  | node _ (.text (some (a, b)) texts) inner, h => by
    have hcuts := Laid.cuts h rfl
    exact tiles_replaced.2 ⟨rfl, hcuts.2.2, emitted_inserted_map texts, tiles_nil.2 rfl⟩
  | node _ (.around span before after) inner, h => by
    rw [Laid] at h
    rw [pieces]
    exact (LaidIn.accounts h.2.1 h.1).between before after

theorem LaidIn.accounts : ∀ {rs : List Region} {span : Option (Nat × Nat)}, LaidIn source rs →
    rs.map Region.span = [span] → Accounts span (piecesIn rs)
  | [], _, _, hr => by simp at hr
  | r :: rest, span, h, hr => by
    rw [LaidIn] at h
    rw [List.map_cons, List.cons.injEq, List.map_eq_nil_iff] at hr
    obtain ⟨rfl, rfl⟩ := hr
    rw [piecesIn, piecesIn, List.append_nil]
    exact Laid.accounts h.1

theorem Fits.tiles : ∀ {rs : List Region} {c d : Nat}, Fits source c d rs → Tiles c d (splice c d rs)
  | [], c, d, h => by
    rw [Fits] at h
    exact tiles_kept.2 ⟨rfl, h.2.2, tiles_nil.2 rfl⟩
  | r :: rest, c, d, h => by
    cases hr : r.span with
    | none =>
      obtain ⟨hlaid, hrest⟩ := (fits_unspanned hr).1 h
      have haccounts := Laid.accounts hlaid
      rw [hr] at haccounts
      rw [splice_unspanned hr]
      exact tiles_of_texts haccounts (Fits.tiles hrest)
    | some p =>
      obtain ⟨hlaid, hbefore, hrest⟩ := (fits_spanned hr).1 h
      have haccounts := Laid.accounts hlaid
      rw [hr] at haccounts
      rw [splice_spanned hr]
      exact tiles_kept.2 ⟨rfl, hbefore.2.2, tiles_append haccounts (Fits.tiles hrest)⟩

end

def ends (cursor : Nat) : List Region → Nat
  | [] => cursor
  | r :: rest =>
    match r.span with
    | some (_, b) => ends b rest
    | none => ends cursor rest

theorem ends_spanned (hr : r.span = some (a, b)) : ends c (r :: rest) = ends b rest := by
  rw [ends, hr]

theorem ends_unspanned (hr : r.span = none) : ends c (r :: rest) = ends c rest := by
  rw [ends, hr]

theorem fits_append : Fits source c d (rs ++ rest) ↔
    Fits source c (ends c rs) rs ∧ Fits source (ends c rs) d rest := by
  induction rs generalizing c with
  | nil =>
    rw [List.nil_append, ends, Fits]
    constructor
    · intro h
      have hcuts := Fits.cuts h
      exact ⟨⟨hcuts.1, hcuts.1, Nat.le_refl c⟩, h⟩
    · exact And.right
  | cons r rs ih =>
    cases hr : r.span with
    | none =>
      rw [List.cons_append, fits_unspanned hr, fits_unspanned hr, ends_unspanned hr, ih, and_assoc]
    | some p =>
      rw [List.cons_append, fits_spanned hr, fits_spanned hr, ends_spanned hr, ih, and_assoc,
        and_assoc]

theorem ends_of_unspanned (h : ∀ r ∈ rs, r.span = none) : ends c rs = c := by
  induction rs with
  | nil => rfl
  | cons r rs ih =>
    rw [List.forall_mem_cons] at h
    rw [ends_unspanned h.1, ih h.2]

theorem ends_of_getLast? (hr : rs.getLast? = some r) (hspan : r.span = some (a, b)) :
    ends c rs = b := by
  induction rs generalizing c with
  | nil => simp at hr
  | cons s rest ih =>
    cases rest with
    | nil =>
      obtain rfl : s = r := by simpa using hr
      rw [ends_spanned hspan, ends]
    | cons t rest =>
      rw [List.getLast?_cons_cons] at hr
      cases hs : s.span with
      | none => rw [ends_unspanned hs, ih hr]
      | some p => rw [ends_spanned hs, ih hr]

/-- Whether pieces can be read as text. -/
def Reads (source : Bytes) (ps : List Piece) : Prop :=
  ∃ bytes, octetsOf source ps = some bytes ∧ IsText bytes

theorem Reads.append {ps qs : List Piece} (hp : Reads source ps) (hq : Reads source qs) :
    Reads source (ps ++ qs) := by
  obtain ⟨x, hx, hx'⟩ := hp
  obtain ⟨y, hy, hy'⟩ := hq
  exact ⟨x ++ y, octetsOf_append_eq hx hy, hx'.append hy'⟩

theorem reads_kept (h : Cuts source a b) : Reads source [.kept a b] :=
  ⟨_, by rw [octetsOf_singleton, octets], h.isText⟩

theorem reads_inserted (source : Bytes) {texts : List Text}
    (h : ∀ t ∈ texts, (encode? t).isSome = true) :
    Reads source (texts.map .inserted) := by
  induction texts with
  | nil => exact ⟨[], rfl, [], rfl⟩
  | cons t rest ih =>
    rw [List.forall_mem_cons] at h
    obtain ⟨bytes, hbytes⟩ := Option.isSome_iff_exists.1 h.1
    have hfirst : Reads source [.inserted t] :=
      ⟨bytes, by rw [octetsOf_singleton, octets, hbytes], t, hbytes⟩
    exact hfirst.append (ih h.2)

mutual

theorem Laid.reads : ∀ {r : Region}, Laid source r → Reads source r.pieces
  | node _ (.source a b) inner, h => by
    rw [Laid] at h
    rw [pieces]
    exact Fits.reads h
  | node _ (.text none texts) inner, h => by
    rw [Laid] at h
    exact reads_inserted source h.2.2
  | node _ (.text (some (a, b)) texts) inner, h => by
    rw [Laid] at h
    obtain ⟨bytes, hbytes, htext⟩ := reads_inserted source h.2.2
    exact ⟨bytes, by rw [pieces, octetsOf_singleton, octets, hbytes], htext⟩
  | node _ (.around span before after) inner, h => by
    rw [Laid] at h
    simp only [List.mem_append] at h
    rw [pieces]
    exact (reads_inserted source fun t ht => h.2.2 t (.inl ht)).append
      ((LaidIn.reads h.2.1).append (reads_inserted source fun t ht => h.2.2 t (.inr ht)))

theorem LaidIn.reads : ∀ {rs : List Region}, LaidIn source rs → Reads source (piecesIn rs)
  | [], _ => ⟨[], rfl, [], rfl⟩
  | r :: rest, h => by
    rw [LaidIn] at h
    rw [piecesIn]
    exact (Laid.reads h.1).append (LaidIn.reads h.2)

theorem Fits.reads : ∀ {rs : List Region} {c d : Nat}, Fits source c d rs →
    Reads source (splice c d rs)
  | [], c, d, h => by
    rw [Fits] at h
    exact reads_kept h
  | r :: rest, c, d, h => by
    cases hr : r.span with
    | none =>
      obtain ⟨hlaid, hrest⟩ := (fits_unspanned hr).1 h
      rw [splice_unspanned hr]
      exact (Laid.reads hlaid).append (Fits.reads hrest)
    | some p =>
      obtain ⟨hlaid, hbefore, hrest⟩ := (fits_spanned hr).1 h
      rw [splice_spanned hr]
      exact (reads_kept hbefore).append ((Laid.reads hlaid).append (Fits.reads hrest))

end

end Phrasebook.Region
