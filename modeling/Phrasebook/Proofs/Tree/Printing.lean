import Phrasebook.Proofs.Log
import Phrasebook.Proofs.Tree.Holding

/-! What an arena prints that holds a laid out region: the octets of the region's pieces. -/

namespace Phrasebook

open Piece Utf8

variable {a : Arena} {fuel : Nat}

namespace Arena

theorem renderParts_append {ps qs : List Part} {x y : Bytes} (hp : renderParts (a.render fuel) ps = .ok x)
    (hq : renderParts (a.render fuel) qs = .ok y) : renderParts (a.render fuel) (ps ++ qs) = .ok (x ++ y) := by
  induction ps generalizing x with
  | nil =>
    rw [renderParts] at hp
    cases hp
    exact hq
  | cons p ps ih =>
    cases p with
    | text t =>
      rw [renderParts] at hp
      obtain ⟨u, hu, hp⟩ := except_bind_eq_ok.1 hp
      obtain ⟨v, hv, hp⟩ := except_bind_eq_ok.1 hp
      cases hp
      rw [List.cons_append, renderParts, hu, ih hv, List.append_assoc]
      rfl
    | node i =>
      rw [renderParts] at hp
      obtain ⟨u, hu, hp⟩ := except_bind_eq_ok.1 hp
      obtain ⟨v, hv, hp⟩ := except_bind_eq_ok.1 hp
      cases hp
      rw [List.cons_append, renderParts, hu, ih hv, List.append_assoc]
      rfl

theorem renderParts_texts {texts : List Text} {bytes : Bytes}
    (h : octetsOf a.source (texts.map .inserted) = some bytes) :
    renderParts (a.render fuel) (texts.map .text) = .ok bytes := by
  induction texts generalizing bytes with
  | nil =>
    rw [List.map_nil, octetsOf] at h
    cases h
    rw [List.map_nil, renderParts]
  | cons t rest ih =>
    rw [List.map_cons, octetsOf, Option.bind_eq_some_iff] at h
    obtain ⟨x, hx, h⟩ := h
    obtain ⟨y, hy, rfl⟩ := Option.map_eq_some_iff.1 h
    rw [octets, ← encode_eq_ok] at hx
    rw [List.map_cons, renderParts, hx, ih hy]
    rfl

end Arena

namespace Region

def Prints (a : Arena) (fuel : Nat) (r : Region) : Prop :=
  ∃ bytes, octetsOf a.source r.pieces = some bytes ∧ a.render fuel r.id = .ok bytes

mutual

theorem IsPlain.octets {source : Bytes} : ∀ {r : Region} {p : Nat × Nat}, IsPlain r →
    Laid source r → r.span = some p →
      octetsOf source r.pieces = some (source.slice (some p.1) (some p.2))
  | node _ (.source c d) inner, p, h, hlaid, hspan => by
    rw [IsPlain] at h
    rw [Laid] at hlaid
    cases hspan
    rw [pieces]
    exact ArePlain.octets h.2 hlaid
  | node _ (.text _ _) inner, p, h, _, _ => by simp [IsPlain, Form.isSource] at h
  | node _ (.around _ _ _) inner, p, h, _, _ => by simp [IsPlain, Form.isSource] at h

theorem ArePlain.octets {source : Bytes} : ∀ {rs : List Region} {c d : Nat}, ArePlain rs →
    Fits source c d rs → octetsOf source (splice c d rs) = some (source.slice (some c) (some d))
  | [], c, d, _, _ => by rw [splice, octetsOf_singleton, Piece.octets]
  | r :: rest, c, d, h, hfits => by
    rw [ArePlain] at h
    obtain ⟨p, hspan⟩ : ∃ p, r.span = some p := by
      cases r with
      | node i form inner =>
        cases form with
        | source a b => exact ⟨(a, b), rfl⟩
        | text _ _ => simp [IsPlain, Form.isSource] at h
        | around _ _ _ => simp [IsPlain, Form.isSource] at h
    obtain ⟨hlaid, hbefore, hrest⟩ := (fits_spanned hspan).1 hfits
    have hr := IsPlain.octets h.1 hlaid hspan
    have hmore := ArePlain.octets h.2 hrest
    have hle := (Laid.cuts hlaid hspan).2.2
    have hle' := (Fits.cuts hrest).2.2
    rw [splice_spanned hspan]
    rw [octetsOf_cons_eq (by rw [Piece.octets]) (octetsOf_append_eq hr hmore),
      slice_append hle hle', slice_append hbefore.2.2 (Nat.le_trans hle hle')]

end

theorem octetsOf_text (source : Bytes) (i : NodeId) (span : Option (Nat × Nat)) (texts : List Text)
    (inner : List Region) : octetsOf source (node i (.text span texts) inner).pieces =
      octetsOf source (texts.map .inserted) := by
  cases span with
  | none => rw [pieces]
  | some p => rw [pieces, octetsOf_singleton, Piece.octets]

mutual

theorem Holds.prints : ∀ {r : Region} {parent : Option NodeId} {fuel : Nat}, Holds a parent r →
    Marked a r → Laid a.source r → r.ids.length ≤ fuel → Prints a fuel r
  | node i form inner, parent, 0, _, _, _, hfuel => by simp at hfuel
  | node i (.source c d) inner, parent, fuel + 1, h, hmarked, hlaid, hfuel => by
    have hfills := Holds.fills h
    rw [Holds] at h
    rw [Marked] at hmarked
    obtain ⟨m, hm, rfl⟩ := Option.map_eq_some_iff.1 hfills.start
    simp only [id_node, inner_node, form_node] at hm hfills
    have hparts : (a.cell i).parts = none := hfills.parts
    have hstop : (a.cell i).stop = some d := hfills.stop
    rw [Prints, id_node, Arena.render, hparts]
    by_cases hdirty : (a.cell i).dirty = true
    · rw [Laid] at hlaid
      rw [ids_node, List.length_cons] at hfuel
      have hinner := HoldsIn.spliced h.2.2.2 hmarked.2 hlaid (Nat.le_of_succ_le_succ hfuel)
      simpa [hdirty, hm, hstop, hfills.children, pieces] using hinner
    · have hclean : (a.cell i).dirty = false := by simpa using hdirty
      have hplain : IsPlain (node i (.source m.offset d) inner) := ⟨rfl, hmarked.1 rfl hclean⟩
      refine ⟨_, IsPlain.octets hplain hlaid rfl, ?_⟩
      simp [hclean, hm, hstop]
  | node i (.text span texts) inner, parent, fuel + 1, h, hmarked, hlaid, hfuel => by
    have hparts : (a.cell i).parts = some (texts.map .text) := (Holds.fills h).parts
    rw [Laid] at hlaid
    obtain ⟨bytes, hbytes, -⟩ := reads_inserted a.source hlaid.2.2
    refine ⟨bytes, by rw [octetsOf_text, hbytes], ?_⟩
    rw [id_node, Arena.render, hparts]
    exact Arena.renderParts_texts hbytes
  | node i (.around span before after) inner, parent, fuel + 1, h, hmarked, hlaid, hfuel => by
    have hparts := (Holds.fills h).parts
    rw [Holds] at h
    rw [Marked] at hmarked
    rw [Laid] at hlaid
    rw [ids_node, List.length_cons] at hfuel
    simp only [List.mem_append] at hlaid
    obtain ⟨x, hx, -⟩ := reads_inserted a.source fun t ht => hlaid.2.2 t (.inl ht)
    obtain ⟨z, hz, -⟩ := reads_inserted a.source fun t ht => hlaid.2.2 t (.inr ht)
    obtain ⟨y, hy, hy'⟩ := HoldsIn.parts h.2.2.2 hmarked.2 hlaid.2.1 (Nat.le_of_succ_le_succ hfuel)
    refine ⟨x ++ (y ++ z), ?_, ?_⟩
    · rw [pieces]
      exact octetsOf_append_eq hx (octetsOf_append_eq hy hz)
    · rw [id_node] at hparts ⊢
      rw [Arena.render, hparts]
      simp only [form_node, Form.parts, inner_node, List.map_map]
      exact Arena.renderParts_append (Arena.renderParts_texts hx)
        (Arena.renderParts_append hy' (Arena.renderParts_texts hz))

theorem HoldsIn.parts : ∀ {rs : List Region} {parent : Option NodeId} {fuel : Nat},
    HoldsIn a parent rs → MarkedIn a rs → LaidIn a.source rs → (idsIn rs).length ≤ fuel →
      ∃ bytes, octetsOf a.source (piecesIn rs) = some bytes ∧
        Arena.renderParts (a.render fuel) (rs.map fun r => .node r.id) = .ok bytes
  | [], _, _, _, _, _, _ => ⟨[], rfl, by rw [List.map_nil, Arena.renderParts]⟩
  | r :: rest, parent, fuel, h, hmarked, hlaid, hfuel => by
    rw [HoldsIn] at h
    rw [MarkedIn] at hmarked
    rw [LaidIn] at hlaid
    rw [idsIn_cons, List.length_append] at hfuel
    obtain ⟨x, hx, hx'⟩ := Holds.prints h.1 hmarked.1 hlaid.1 (by omega : r.ids.length ≤ fuel)
    obtain ⟨y, hy, hy'⟩ :=
      HoldsIn.parts h.2 hmarked.2 hlaid.2 (by omega : (idsIn rest).length ≤ fuel)
    refine ⟨x ++ y, ?_, ?_⟩
    · rw [piecesIn]
      exact octetsOf_append_eq hx hy
    · rw [List.map_cons, Arena.renderParts, hx', hy']
      rfl

theorem HoldsIn.spliced : ∀ {rs : List Region} {parent : Option NodeId} {fuel c d : Nat},
    HoldsIn a parent rs → MarkedIn a rs → Fits a.source c d rs → (idsIn rs).length ≤ fuel →
      ∃ bytes, octetsOf a.source (splice c d rs) = some bytes ∧
        a.renderSpliced (a.render fuel) (some c) (some d) (rs.map id) = .ok bytes
  | [], _, fuel, c, d, _, _, _, _ =>
    ⟨_, by rw [splice, octetsOf_singleton, Piece.octets], by rw [List.map_nil, Arena.renderSpliced]⟩
  | r :: rest, parent, fuel, c, d, h, hmarked, hfits, hfuel => by
    rw [HoldsIn] at h
    rw [MarkedIn] at hmarked
    rw [idsIn_cons, List.length_append] at hfuel
    have hstart := (Holds.fills h.1).start
    have hstop := (Holds.fills h.1).stop
    change _ = r.span.map Prod.fst at hstart
    change _ = r.span.map Prod.snd at hstop
    cases hspan : r.span with
    | none =>
      obtain ⟨hlaid, hrest⟩ := (fits_unspanned hspan).1 hfits
      obtain ⟨x, hx, hx'⟩ := Holds.prints h.1 hmarked.1 hlaid (by omega : r.ids.length ≤ fuel)
      obtain ⟨y, hy, hy'⟩ :=
        HoldsIn.spliced h.2 hmarked.2 hrest (by omega : (idsIn rest).length ≤ fuel)
      rw [hspan, Option.map_none, Option.map_eq_none_iff] at hstart
      refine ⟨x ++ y, ?_, ?_⟩
      · rw [splice_unspanned hspan]
        exact octetsOf_append_eq hx hy
      · rw [List.map_cons, Arena.renderSpliced]
        simp only [hstart, hx', hy']
        rfl
    | some p =>
      obtain ⟨hlaid, -, hrest⟩ := (fits_spanned hspan).1 hfits
      obtain ⟨x, hx, hx'⟩ := Holds.prints h.1 hmarked.1 hlaid (by omega : r.ids.length ≤ fuel)
      obtain ⟨y, hy, hy'⟩ :=
        HoldsIn.spliced h.2 hmarked.2 hrest (by omega : (idsIn rest).length ≤ fuel)
      rw [hspan, Option.map_some] at hstart hstop
      obtain ⟨m, hm, hoffset⟩ := Option.map_eq_some_iff.1 hstart
      refine ⟨a.source.slice (some c) (some p.1) ++ (x ++ y), ?_, ?_⟩
      · rw [splice_spanned hspan]
        exact octetsOf_cons_eq (by rw [Piece.octets]) (octetsOf_append_eq hx hy)
      · rw [List.map_cons, Arena.renderSpliced]
        simp only [hm, hstop, hoffset, hx', hy']
        rfl

end

/-- The pieces of a whole file with one region in it. -/
def filePieces (source : Bytes) (z : Region) : List Piece := splice 0 source.length [z]

end Region

/-- Whether an arena shows a file of which a region is the root's: it holds the region, all that
changed is marked, no node has two places, and the root is laid out over the source. -/
structure Arena.Shows (a : Arena) (z : Region) : Prop where
  holds : Region.Holds a none z
  marked : Region.Marked a z
  nodup : z.ids.Nodup
  id_eq : z.id = Arena.root
  isSource : z.form.isSource = true
  fits : Region.Fits a.source 0 a.source.length [z]

namespace Arena.Shows

variable {z : Region}

theorem exists_span (h : a.Shows z) : ∃ p, z.span = some p := by
  have hsource := h.isSource
  cases z with
  | node i form inner =>
    cases form with
    | source b c => exact ⟨(b, c), rfl⟩
    | text _ _ => cases hsource
    | around _ _ _ => cases hsource

theorem laid (h : a.Shows z) : Region.Laid a.source z := by
  obtain ⟨p, hspan⟩ := h.exists_span
  exact ((Region.fits_spanned hspan).1 h.fits).1

theorem isPlain (h : a.Shows z) (hclean : a.isModified = false) : Region.IsPlain z := by
  have hmarked := h.marked
  have hroot := h.id_eq
  have hsource := h.isSource
  cases z with
  | node i form inner =>
    rw [Region.id_node] at hroot
    rw [Region.Marked, hroot] at hmarked
    exact ⟨hsource, hmarked.1 hsource hclean⟩

theorem print_clean (h : a.Shows z) (hclean : a.isModified = false) :
    ∃ text, a.print = .ok text ∧ encode? text = octetsOf a.source (z.filePieces a.source) := by
  have hplain : Region.ArePlain [z] := ⟨h.isPlain hclean, trivial⟩
  have hwhole := Region.ArePlain.octets hplain h.fits
  have hslice : a.source.slice (some 0) (some a.source.length) = a.source := by
    simp [Bytes.slice]
  rw [hslice] at hwhole
  obtain ⟨bytes, hbytes, text, htext⟩ := Region.Fits.reads h.fits
  obtain rfl : a.source = bytes := Option.some.inj (hwhole.symm.trans hbytes)
  refine ⟨text, ?_, htext.trans hwhole.symm⟩
  rw [Arena.print, hclean]
  exact decodeFault_eq_ok.2 htext

theorem print_modified (h : a.Shows z) (hdirty : a.isModified = true) :
    ∃ text, a.print = .ok text ∧ encode? text = octetsOf a.source (z.filePieces a.source) := by
  obtain ⟨p, hspan⟩ := h.exists_span
  obtain ⟨hlaid, hbefore, hafter⟩ := (Region.fits_spanned hspan).1 h.fits
  rw [Region.Fits] at hafter
  have hfuel : z.ids.length ≤ a.cells.size + 1 :=
    Nat.le_succ_of_le (Region.length_le_size h.holds h.nodup)
  obtain ⟨bytes, hbytes, hrender⟩ := Region.Holds.prints h.holds h.marked hlaid hfuel
  obtain ⟨bytes', hbytes', middle, hmiddle⟩ := Region.Laid.reads hlaid
  obtain rfl : bytes = bytes' := Option.some.inj (hbytes.symm.trans hbytes')
  obtain ⟨head, hhead⟩ := hbefore.isText
  obtain ⟨tail, htail⟩ := hafter.isText
  have hfills := h.holds.fills
  rw [h.id_eq] at hfills hrender
  have hstart : (a.cell Arena.root).start.map (·.offset) = some p.1 := by
    rw [hfills.start, show z.form.span = some p from hspan, Option.map_some]
  have hstop : (a.cell Arena.root).stop = some p.2 := by
    rw [hfills.stop, show z.form.span = some p from hspan, Option.map_some]
  have hrest : a.source.slice (some p.2) none =
      a.source.slice (some p.2) (some a.source.length) := by simp [Bytes.slice]
  have hheadOk : decodeFault (a.source.slice none (some p.1)) = .ok head :=
    decodeFault_eq_ok.2 hhead
  have hmiddleOk : a.text Arena.root = .ok middle := by
    rw [Arena.text, hrender]
    exact decodeFault_eq_ok.2 hmiddle
  have htailOk : decodeFault (a.source.slice (some p.2) none) = .ok tail := by
    rw [hrest]
    exact decodeFault_eq_ok.2 htail
  refine ⟨head ++ (middle ++ tail), ?_, ?_⟩
  · rw [Arena.print, hdirty, if_pos rfl]
    dsimp only
    rw [hstart, hstop, hheadOk, hmiddleOk, htailOk, ← List.append_assoc]
    rfl
  · rw [Region.filePieces, Region.splice_spanned hspan, Region.splice,
      encode?_append hhead (encode?_append hmiddle htail)]
    refine (octetsOf_cons_eq (by rw [octets]) (octetsOf_append_eq hbytes ?_)).symm
    rw [octetsOf_singleton, octets]

theorem print (h : a.Shows z) :
    ∃ text, a.print = .ok text ∧ encode? text = octetsOf a.source (z.filePieces a.source) := by
  cases hmodified : a.isModified with
  | false => exact h.print_clean hmodified
  | true => exact h.print_modified hmodified

end Arena.Shows
end Phrasebook
