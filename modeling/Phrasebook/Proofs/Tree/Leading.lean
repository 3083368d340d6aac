import Phrasebook.Proofs.Text.Cuts
import Phrasebook.Proofs.Tree.Edits

/-! What stands before a replaced literal in a printed text. Texts that are put in and new text end with
a character of no word, so a word can only reach a literal from the source right before it. -/

namespace Phrasebook

open Node Piece

namespace Piece

/-- The pieces in front of a piece that is printed somewhere among others. -/
inductive Leads : List Piece → List Piece → Piece → Prop
  | here {p : Piece} {rest : List Piece} : Leads (p :: rest) [] p
  | later {p q : Piece} {rest before : List Piece} (h : Leads rest before p) :
      Leads (q :: rest) (q :: before) p
  | replaced {p : Piece} {a b : Nat} {new rest before : List Piece} (h : Leads new before p) :
      Leads (.replaced a b new :: rest) before p
  | reemitted {p : Piece} {a b : Nat} {inside rest before : List Piece} (h : Leads inside before p) :
      Leads (.reemitted a b inside :: rest) before p

variable {source : Bytes} {p : Piece} {ps qs before : List Piece} {a b : Nat}

theorem leads_append (h : Leads (ps ++ qs) before p) :
    Leads ps before p ∨ ∃ more, before = ps ++ more ∧ Leads qs more p := by
  induction ps generalizing before with
  | nil => exact .inr ⟨before, rfl, h⟩
  | cons q ps ih =>
    cases h with
    | here => exact .inl .here
    | later h =>
      obtain hps | ⟨more, rfl, hqs⟩ := ih h
      · exact .inl (.later hps)
      · exact .inr ⟨more, rfl, hqs⟩
    | replaced h => exact .inl (.replaced h)
    | reemitted h => exact .inl (.reemitted h)

theorem Leads.octets (h : Leads ps before p) {bytes : Bytes} (hps : octetsOf source ps = some bytes) :
    ∃ x y z, octetsOf source before = some x ∧ Piece.octets source p = some y ∧ bytes = x ++ (y ++ z) := by
  induction h generalizing bytes with
  | here =>
    rw [octetsOf, Option.bind_eq_some_iff] at hps
    obtain ⟨y, hy, hps⟩ := hps
    obtain ⟨z, hz, rfl⟩ := Option.map_eq_some_iff.1 hps
    exact ⟨[], y, z, rfl, hy, rfl⟩
  | later _ ih =>
    rw [octetsOf, Option.bind_eq_some_iff] at hps
    obtain ⟨w, hw, hps⟩ := hps
    obtain ⟨v, hv, rfl⟩ := Option.map_eq_some_iff.1 hps
    obtain ⟨x, y, z, hx, hy, rfl⟩ := ih hv
    exact ⟨w ++ x, y, z, octetsOf_cons_eq hw hx, hy, (List.append_assoc _ _ _).symm⟩
  | replaced _ ih =>
    rw [octetsOf, Option.bind_eq_some_iff] at hps
    obtain ⟨w, hw, hps⟩ := hps
    obtain ⟨v, hv, rfl⟩ := Option.map_eq_some_iff.1 hps
    rw [Piece.octets] at hw
    obtain ⟨x, y, z, hx, hy, rfl⟩ := ih hw
    exact ⟨x, y, z ++ v, hx, hy, by simp⟩
  | reemitted _ ih =>
    rw [octetsOf, Option.bind_eq_some_iff] at hps
    obtain ⟨w, hw, hps⟩ := hps
    obtain ⟨v, hv, rfl⟩ := Option.map_eq_some_iff.1 hps
    rw [Piece.octets] at hw
    obtain ⟨x, y, z, hx, hy, rfl⟩ := ih hw
    exact ⟨x, y, z ++ v, hx, hy, by simp⟩

theorem Leads.mem_literals {new : List Piece} (h : Leads ps before (.replaced a b new)) :
    (a, b, slots new) ∈ literalsOf ps := by
  generalize hp : Piece.replaced a b new = p at h
  induction h with
  | here =>
    subst hp
    simp [literalsOf, literals]
  | later _ ih => exact List.mem_append_right _ (ih hp)
  | replaced _ ih => exact List.mem_append_left _ (List.mem_cons_of_mem _ (ih hp))
  | reemitted _ ih => exact List.mem_append_left _ (ih hp)

theorem Leads.emitted {c d : Nat} {new : List Piece} (h : Leads ps before (.replaced c d new))
    (hps : (∃ a b, Tiles a b ps) ∨ Emitted ps) : Emitted new := by
  generalize hp : Piece.replaced c d new = p at h
  induction h with
  | here =>
    subst hp
    obtain ⟨a, b, htiles⟩ | hemitted := hps
    · exact (tiles_replaced.1 htiles).2.2.1
    · simp only [Emitted] at hemitted
  | @later _ q rest _ _ ih =>
    refine ih ?_ hp
    obtain ⟨a, b, htiles⟩ | hemitted := hps
    · cases q with
      | kept => exact .inl ⟨_, b, (tiles_kept.1 htiles).2.2⟩
      | inserted => exact .inl ⟨a, b, by simpa only [Tiles] using htiles⟩
      | replaced => exact .inl ⟨_, b, (tiles_replaced.1 htiles).2.2.2⟩
      | reemitted => simp only [Tiles] at htiles
    · cases q with
      | kept => simp only [Emitted] at hemitted
      | inserted => exact .inr (emitted_inserted.1 hemitted)
      | replaced => simp only [Emitted] at hemitted
      | reemitted => exact .inr (emitted_reemitted.1 hemitted).2
  | replaced _ ih =>
    refine ih (.inr ?_) hp
    obtain ⟨a, b, htiles⟩ | hemitted := hps
    · exact (tiles_replaced.1 htiles).2.2.1
    · simp only [Emitted] at hemitted
  | reemitted _ ih =>
    refine ih (.inl ?_) hp
    obtain ⟨a, b, htiles⟩ | hemitted := hps
    · simp only [Tiles] at htiles
    · exact ⟨_, _, (emitted_reemitted.1 hemitted).1⟩

theorem not_leads_texts {new : List Piece} (hps : ∀ p ∈ ps, p.isText = true) :
    ¬ Leads ps before (.replaced a b new) := by
  intro h
  have hmem := h.mem_literals
  rw [literalsOf_texts hps] at hmem
  cases hmem

end Piece

section Settling

variable (word : CodePoint → Bool) (source : Bytes)

def Begins (u : Bytes) : Prop :=
  u ≠ [] ∧ ∃ c bytes, word c = true ∧ Utf8.encodePoint c = some bytes ∧ u <+: bytes

/-- Whether what is printed up to an offset of the source ends with part of a word only where the source
does so before that offset. -/
def Settled (x : Bytes) (a : Nat) : Prop := ∀ u, Begins word u → u <:+ x → u <:+ source.take a

def Closed (x : Bytes) : Prop := ∀ u, Begins word u → ¬ u <:+ x

def Closes (t : Text) : Prop := ∃ c, t.getLast? = some c ∧ word c = false

/-- Pieces for the source from `a` to `b` that leave what is printed settled, and in which it is settled
before every replaced literal. -/
structure Safe (a b : Nat) (ps : List Piece) : Prop where
  ends : ∀ x y, Settled word source x a → octetsOf source ps = some y → Settled word source (x ++ y) b
  leads : ∀ x before c d new z, Settled word source x a → Leads ps before (.replaced c d new) →
    octetsOf source before = some z → Settled word source (x ++ z) c

/-- Pieces of new text in which every span of the source follows on a closed text, as the start says for
the front, and which are closed at their end, if that is said. -/
inductive Chain : Bool → List Piece → Bool → Prop
  | nil {f g : Bool} (hg : g = true → f = true) : Chain f [] g
  | text {f g g' : Bool} {t : Text} {es : List Piece}
      (ht : g = true → Closes word t ∨ (t = [] ∧ f = true)) (h : Chain g es g') :
      Chain f (.inserted t :: es) g'
  | span {g : Bool} {a b : Nat} {qs es : List Piece} (hqs : Safe word source a b qs)
      (h : Chain false es g) : Chain true (.reemitted a b qs :: es) g

end Settling

section Pieces

variable {word : CodePoint → Bool} {source x y : Bytes} {a b m : Nat} {f g : Bool} {t : Text}
  {ps qs es fs gs : List Piece}

theorem Begins.of_prefix {u v : Bytes} (h : Begins word u) (hv : v <+: u) (hne : v ≠ []) : Begins word v := by
  obtain ⟨-, c, bytes, hc, hbytes, hu⟩ := h
  exact ⟨hne, c, bytes, hc, hbytes, hv.trans hu⟩

theorem Closed.settled (h : Closed word x) (a : Nat) : Settled word source x a :=
  fun u hu hux => (h u hu hux).elim

theorem settled_nil (a : Nat) : Settled word source [] a :=
  fun _ hu hux => (hu.1 (List.suffix_nil.1 hux)).elim

theorem suffix_append_cases {u x y : Bytes} (h : u <:+ x ++ y) :
    u <:+ y ∨ ∃ v, v ≠ [] ∧ u = v ++ y ∧ v <:+ x := by
  obtain ⟨w, hw⟩ := h
  obtain ⟨v, rfl, hy⟩ | ⟨v, rfl, hy⟩ := List.append_eq_append_iff.1 hw
  · cases v with
    | nil => exact .inl ⟨[], by simpa using hy⟩
    | cons b v => exact .inr ⟨b :: v, by simp, hy, ⟨w, rfl⟩⟩
  · exact .inl ⟨v, hy.symm⟩

theorem Settled.kept (h : Settled word source x a) (hab : a ≤ b) :
    Settled word source (x ++ source.slice (some a) (some b)) b := by
  intro u hu hux
  rw [← take_append_slice hab]
  obtain hux | ⟨v, hne, rfl, hvx⟩ := suffix_append_cases hux
  · exact hux.trans (List.suffix_append _ _)
  · obtain ⟨w, hw⟩ := h v (hu.of_prefix (List.prefix_append _ _) hne) hvx
    exact ⟨w, by rw [← List.append_assoc, hw]⟩

theorem closed_of_closes (ht : Closes word t) (hy : Utf8.encode? t = some y) (x : Bytes) :
    Closed word (x ++ y) := by
  rintro u ⟨hne, c, bytes, hc, hbytes, hu⟩ hux
  obtain ⟨d, hlast, hd⟩ := ht
  obtain ⟨rfl, -⟩ := Utf8.eq_last_of_suffix hbytes hu hne hy hlast hux
  rw [hc] at hd
  cases hd

theorem Safe.append (hp : Safe word source a m ps) (hq : Safe word source m b qs) :
    Safe word source a b (ps ++ qs) where
  ends x y hx hy := by
    rw [octetsOf_append, Option.bind_eq_some_iff] at hy
    obtain ⟨v, hv, hy⟩ := hy
    obtain ⟨w, hw, rfl⟩ := Option.map_eq_some_iff.1 hy
    rw [← List.append_assoc]
    exact hq.ends _ _ (hp.ends x v hx hv) hw
  leads x before c d new z hx h hz := by
    obtain h | ⟨more, rfl, hmore⟩ := leads_append h
    · exact hp.leads x before c d new z hx h hz
    · rw [octetsOf_append, Option.bind_eq_some_iff] at hz
      obtain ⟨v, hv, hz⟩ := hz
      obtain ⟨w, hw, rfl⟩ := Option.map_eq_some_iff.1 hz
      rw [← List.append_assoc]
      exact hq.leads _ _ c d new w (hp.ends x v hx hv) hmore hw

theorem safe_kept (hab : a ≤ b) : Safe word source a b [.kept a b] where
  ends x y hx hy := by
    rw [octetsOf_singleton, octets] at hy
    cases hy
    exact hx.kept hab
  leads x before c d new z hx h _ := by
    cases h with
    | later h => cases h

theorem Chain.mono {f' : Bool} (h : Chain word source f es g) (hf : f = true → f' = true) :
    Chain word source f' es g := by
  cases h with
  | nil hg => exact .nil (hf ∘ hg)
  | text ht h => exact .text (fun hg => (ht hg).imp id fun ⟨ht, h⟩ => ⟨ht, hf h⟩) h
  | span hqs h =>
    obtain rfl := hf rfl
    exact .span hqs h

theorem Chain.append {f' : Bool} (h : Chain word source f es f') (h' : Chain word source f' fs g) :
    Chain word source f (es ++ fs) g := by
  induction h with
  | nil hg => exact h'.mono hg
  | text ht _ ih => exact .text ht (ih h')
  | span hqs _ ih => exact .span hqs (ih h')

theorem Chain.ends (h : Chain word source f es g) (hx : f = true → Closed word x)
    (hy : octetsOf source es = some y) : g = true → Closed word (x ++ y) := by
  induction h generalizing x y with
  | nil hg =>
    cases hy
    rw [List.append_nil]
    exact hx ∘ hg
  | text ht _ ih =>
    rw [octetsOf, Option.bind_eq_some_iff] at hy
    obtain ⟨v, hv, hy⟩ := hy
    obtain ⟨w, hw, rfl⟩ := Option.map_eq_some_iff.1 hy
    rw [← List.append_assoc]
    refine ih (fun hg => ?_) hw
    obtain ht | ⟨rfl, hf⟩ := ht hg
    · exact closed_of_closes ht hv x
    · cases hv
      rw [List.append_nil]
      exact hx hf
  | span hqs _ ih =>
    rw [octetsOf, Option.bind_eq_some_iff] at hy
    obtain ⟨v, hv, hy⟩ := hy
    obtain ⟨w, hw, rfl⟩ := Option.map_eq_some_iff.1 hy
    rw [← List.append_assoc]
    exact ih (fun h => by cases h) hw

theorem Chain.leads (h : Chain word source f es g) (hx : f = true → Closed word x) {before new : List Piece}
    {c d : Nat} {z : Bytes} (hleads : Leads es before (.replaced c d new))
    (hz : octetsOf source before = some z) : Settled word source (x ++ z) c := by
  induction h generalizing x before z with
  | nil => cases hleads
  | text ht _ ih =>
    cases hleads with
    | later hleads =>
      rw [octetsOf, Option.bind_eq_some_iff] at hz
      obtain ⟨v, hv, hz⟩ := hz
      obtain ⟨w, hw, rfl⟩ := Option.map_eq_some_iff.1 hz
      rw [← List.append_assoc]
      refine ih (fun hg => ?_) hleads hw
      obtain ht | ⟨rfl, hf⟩ := ht hg
      · exact closed_of_closes ht hv x
      · cases hv
        rw [List.append_nil]
        exact hx hf
  | span hqs _ ih =>
    cases hleads with
    | later hleads =>
      rw [octetsOf, Option.bind_eq_some_iff] at hz
      obtain ⟨v, hv, hz⟩ := hz
      obtain ⟨w, hw, rfl⟩ := Option.map_eq_some_iff.1 hz
      rw [← List.append_assoc]
      exact ih (fun h => by cases h) hleads hw
    | reemitted hleads => exact hqs.leads x before c d new z ((hx rfl).settled _) hleads hz

theorem Chain.split (h : Chain word source f (fs ++ .reemitted a b qs :: gs) g) :
    Chain word source f fs true ∧ Safe word source a b qs ∧ Chain word source false gs g := by
  induction fs generalizing f with
  | nil =>
    cases h with
    | span hqs h => exact ⟨.nil id, hqs, h⟩
  | cons p fs ih =>
    cases h with
    | text ht h =>
      obtain ⟨hfs, hqs, hgs⟩ := ih h
      exact ⟨.text ht hfs, hqs, hgs⟩
    | span hps h =>
      obtain ⟨hfs, hqs, hgs⟩ := ih h
      exact ⟨.span hps hfs, hqs, hgs⟩

theorem safe_texts (h : Chain word source false es true) (ht : ∀ p ∈ es, p.isText = true) (a : Nat) :
    Safe word source a a es where
  ends x y _ hy := (h.ends (fun h => by cases h) hy rfl).settled a
  leads x before c d new z _ hleads _ := (not_leads_texts ht hleads).elim

theorem safe_replaced (h : Chain word source false es true) :
    Safe word source a b [.replaced a b es] where
  ends x y _ hy := by
    rw [octetsOf_singleton, octets] at hy
    exact (h.ends (fun h => by cases h) hy rfl).settled b
  leads x before c d new z hx hleads hz := by
    cases hleads with
    | here =>
      cases hz
      rwa [List.append_nil]
    | later hleads => cases hleads
    | replaced hleads => exact h.leads (fun h => by cases h) hleads hz

theorem safe_around (h : Chain word source false (fs ++ .reemitted a b qs :: gs) true)
    (hf : ∀ p ∈ fs, p.isText = true) (hg : ∀ p ∈ gs, p.isText = true) :
    Safe word source a b (fs ++ (qs ++ gs)) := by
  obtain ⟨hfs, hqs, hgs⟩ := h.split
  exact (safe_texts hfs hf a).append (hqs.append (safe_texts hgs hg b))

end Pieces

end Phrasebook
