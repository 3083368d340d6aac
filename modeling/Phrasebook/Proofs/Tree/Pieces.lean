import Phrasebook.Proofs.Text.Utf8
import Phrasebook.Tree.Node

/-! Printed text in terms of the source it came from. A printed text is a list of pieces: octets of
the source that were kept, texts that were put between them, and literals whose octets gave way to
new text. The new text of a literal may take up spans of the source again, inside which there are
pieces of the same sorts. -/

namespace Phrasebook

inductive Piece
  | kept (start stop : Nat)
  | inserted (text : Text)
  | replaced (start stop : Nat) (new : List Piece)
  /-- Inside new text, the source from one offset to another once more. -/
  | reemitted (start stop : Nat) (inside : List Piece)

/-- What the new text of a literal consists of, whatever happened inside the spans it takes up. -/
inductive Slot
  | text (t : Text)
  | span (start stop : Nat)
deriving DecidableEq

namespace Piece

mutual

/-- The octets of a piece; none when a text in it has none. -/
def octets (source : Bytes) : Piece → Option Bytes
  | kept a b => some (source.slice (some a) (some b))
  | inserted t => Utf8.encode? t
  | replaced _ _ new => octetsOf source new
  | reemitted _ _ inside => octetsOf source inside

/-- The octets of a list of pieces. -/
def octetsOf (source : Bytes) : List Piece → Option Bytes
  | [] => some []
  | p :: rest => (octets source p).bind fun bytes => (octetsOf source rest).map (bytes ++ ·)

end

mutual

/-- Whether pieces account for the source from `a` to `b`: what is kept and what is replaced lies
end to end, and what is put in between takes no room. -/
def Tiles (a b : Nat) : List Piece → Prop
  | [] => a = b
  | kept c d :: rest => c = a ∧ a ≤ d ∧ Tiles d b rest
  | inserted _ :: rest => Tiles a b rest
  | replaced c d new :: rest => c = a ∧ a ≤ d ∧ Emitted new ∧ Tiles d b rest
  | reemitted _ _ _ :: _ => False
termination_by pieces => sizeOf pieces

/-- Whether pieces are the new text of a literal: texts, and spans of the source that are accounted
for in turn. -/
def Emitted : List Piece → Prop
  | [] => True
  | inserted _ :: rest => Emitted rest
  | reemitted c d inside :: rest => Tiles c d inside ∧ Emitted rest
  | kept _ _ :: _ => False
  | replaced _ _ _ :: _ => False
termination_by pieces => sizeOf pieces

end

section

variable {a b c d : Nat} {t : Text} {rest : List Piece}

theorem tiles_nil : Tiles a b [] ↔ a = b := by simp only [Tiles]

theorem tiles_kept : Tiles a b (kept c d :: rest) ↔ c = a ∧ a ≤ d ∧ Tiles d b rest := by
  simp only [Tiles]

theorem tiles_replaced {new : List Piece} :
    Tiles a b (replaced c d new :: rest) ↔ c = a ∧ a ≤ d ∧ Emitted new ∧ Tiles d b rest := by
  simp only [Tiles]

theorem emitted_nil : Emitted [] := by simp only [Emitted]

theorem emitted_inserted : Emitted (inserted t :: rest) ↔ Emitted rest := by simp only [Emitted]

theorem emitted_reemitted {inside : List Piece} :
    Emitted (reemitted c d inside :: rest) ↔ Tiles c d inside ∧ Emitted rest := by
  simp only [Emitted]

end

/-- The texts and spans that new text consists of. -/
def slots : List Piece → List Slot
  | [] => []
  | inserted t :: rest => .text t :: slots rest
  | reemitted a b _ :: rest => .span a b :: slots rest
  | _ :: rest => slots rest

mutual

def literals : Piece → List (Nat × Nat × List Slot)
  | kept _ _ => []
  | inserted _ => []
  | replaced a b new => (a, b, slots new) :: literalsOf new
  | reemitted _ _ inside => literalsOf inside

/-- The literals replaced in a list of pieces: where each one was, and its new text. -/
def literalsOf : List Piece → List (Nat × Nat × List Slot)
  | [] => []
  | p :: rest => literals p ++ literalsOf rest

end

@[simp] theorem literalsOf_append (ps qs : List Piece) :
    literalsOf (ps ++ qs) = literalsOf ps ++ literalsOf qs := by
  induction ps with
  | nil => rfl
  | cons p ps ih => rw [List.cons_append, literalsOf, ih, literalsOf, List.append_assoc]

@[simp] theorem slots_append (ps qs : List Piece) : slots (ps ++ qs) = slots ps ++ slots qs := by
  induction ps with
  | nil => rfl
  | cons p ps ih => cases p <;> simp [slots, ih]

theorem octetsOf_append (source : Bytes) (ps qs : List Piece) :
    octetsOf source (ps ++ qs) =
      (octetsOf source ps).bind fun bytes => (octetsOf source qs).map (bytes ++ ·) := by
  induction ps with
  | nil => simp [octetsOf]
  | cons p ps ih =>
    rw [List.cons_append, octetsOf, octetsOf, ih]
    cases octets source p <;> cases octetsOf source ps <;> cases octetsOf source qs <;> simp

theorem octetsOf_append_eq {source : Bytes} {ps qs : List Piece} {a b : Bytes}
    (hp : octetsOf source ps = some a) (hq : octetsOf source qs = some b) :
    octetsOf source (ps ++ qs) = some (a ++ b) := by
  rw [octetsOf_append, hp, hq]
  rfl

theorem octetsOf_cons_eq {source : Bytes} {p : Piece} {ps : List Piece} {a b : Bytes}
    (hp : octets source p = some a) (hps : octetsOf source ps = some b) :
    octetsOf source (p :: ps) = some (a ++ b) := by
  rw [octetsOf, hp, hps]
  rfl

theorem octetsOf_singleton (source : Bytes) (p : Piece) :
    octetsOf source [p] = octets source p := by
  rw [octetsOf]
  cases octets source p <;> simp [octetsOf]

theorem take_append_slice {source : Bytes} {a b : Nat} (hab : a ≤ b) :
    source.take a ++ source.slice (some a) (some b) = source.take b := by
  rw [show source.slice (some a) (some b) = (source.take b).drop a from rfl, ← Nat.min_eq_left hab,
    ← List.take_take, Nat.min_eq_left hab, List.take_append_drop]

theorem octetsOf_reemitted {source : Bytes} {a b : Nat} (fs qs gs : List Piece) :
    octetsOf source (fs ++ reemitted a b qs :: gs) = octetsOf source (fs ++ (qs ++ gs)) := by
  rw [octetsOf_append, octetsOf_append, octetsOf_append, octetsOf, octets]

theorem tiles_append {a m b : Nat} {ps qs : List Piece} (hp : Tiles a m ps) (hq : Tiles m b qs) :
    Tiles a b (ps ++ qs) := by
  induction ps generalizing a with
  | nil =>
    obtain rfl : a = m := by simpa [Tiles] using hp
    exact hq
  | cons p ps ih =>
    cases p with
    | kept c d =>
      simp only [Tiles, List.cons_append] at hp ⊢
      exact ⟨hp.1, hp.2.1, ih hp.2.2⟩
    | inserted t =>
      simp only [Tiles, List.cons_append] at hp ⊢
      exact ih hp
    | replaced c d new =>
      simp only [Tiles, List.cons_append] at hp ⊢
      exact ⟨hp.1, hp.2.1, hp.2.2.1, ih hp.2.2.2⟩
    | reemitted c d inside => simp [Tiles] at hp

theorem emitted_append {ps qs : List Piece} (hp : Emitted ps) (hq : Emitted qs) :
    Emitted (ps ++ qs) := by
  induction ps with
  | nil => exact hq
  | cons p ps ih =>
    cases p with
    | inserted t =>
      simp only [Emitted, List.cons_append] at hp ⊢
      exact ih hp
    | reemitted c d inside =>
      simp only [Emitted, List.cons_append] at hp ⊢
      exact ⟨hp.1, ih hp.2⟩
    | kept c d => simp [Emitted] at hp
    | replaced c d new => simp [Emitted] at hp

theorem tiles_of_emitted {a b : Nat} {fs gs qs : List Piece}
    (h : Emitted (fs ++ reemitted a b qs :: gs)) : Tiles a b qs := by
  induction fs with
  | nil => exact (emitted_reemitted.1 h).1
  | cons p fs ih =>
    cases p with
    | inserted t => exact ih (emitted_inserted.1 h)
    | reemitted c d inside => exact ih (emitted_reemitted.1 h).2
    | kept c d => simp [Emitted] at h
    | replaced c d new => simp [Emitted] at h

def isText : Piece → Bool
  | inserted _ => true
  | _ => false

theorem tiles_of_texts {a b : Nat} {ps qs : List Piece} (hp : ∀ p ∈ ps, p.isText = true)
    (hq : Tiles a b qs) : Tiles a b (ps ++ qs) := by
  induction ps with
  | nil => exact hq
  | cons p ps ih =>
    rw [List.forall_mem_cons] at hp
    cases p with
    | inserted t => simpa only [Tiles, List.cons_append] using ih hp.2
    | kept c d => simp [isText] at hp
    | replaced c d new => simp [isText] at hp
    | reemitted c d inside => simp [isText] at hp

theorem literalsOf_texts {ps : List Piece} (hp : ∀ p ∈ ps, p.isText = true) :
    literalsOf ps = [] := by
  induction ps with
  | nil => rfl
  | cons p ps ih =>
    rw [List.forall_mem_cons] at hp
    cases p with
    | inserted t => simpa [literalsOf, literals] using ih hp.2
    | kept c d => simp [isText] at hp
    | replaced c d new => simp [isText] at hp
    | reemitted c d inside => simp [isText] at hp

theorem texts_of_slots {es es' : List Piece} (h : slots es' = slots es) (he' : Emitted es')
    (he : ∀ p ∈ es, p.isText = true) : ∀ p ∈ es', p.isText = true := by
  induction es' generalizing es with
  | nil => simp
  | cons p es' ih =>
    cases p with
    | kept c d => simp [Emitted] at he'
    | replaced c d new => simp [Emitted] at he'
    | reemitted c d inside =>
      cases es with
      | nil => simp [slots] at h
      | cons q es =>
        rw [List.forall_mem_cons] at he
        cases q <;> simp [slots, isText] at h he
    | inserted t =>
      cases es with
      | nil => simp [slots] at h
      | cons q es =>
        rw [List.forall_mem_cons] at he
        cases q with
        | inserted t' =>
          simp only [slots, List.cons.injEq] at h
          rw [List.forall_mem_cons]
          exact ⟨rfl, ih h.2 (by simpa only [Emitted] using he') he.2⟩
        | kept c d => simp [isText] at he
        | replaced c d new => simp [isText] at he
        | reemitted c d inside => simp [isText] at he

theorem split_of_slots {es fs gs qs : List Piece} {a b : Nat} (hes : Emitted es)
    (h : slots es = slots (fs ++ reemitted a b qs :: gs)) (hf : ∀ p ∈ fs, p.isText = true)
    (hg : ∀ p ∈ gs, p.isText = true) :
    ∃ fs' qs' gs', es = fs' ++ reemitted a b qs' :: gs' ∧ (∀ p ∈ fs', p.isText = true) ∧
      ∀ p ∈ gs', p.isText = true := by
  induction fs generalizing es with
  | nil =>
    cases es with
    | nil => simp [slots] at h
    | cons p es =>
      cases p with
      | kept c d => simp [Emitted] at hes
      | replaced c d new => simp [Emitted] at hes
      | inserted t => simp [slots] at h
      | reemitted c d inside =>
        simp only [slots, List.nil_append, List.cons.injEq, Slot.span.injEq] at h
        obtain ⟨⟨rfl, rfl⟩, h⟩ := h
        simp only [Emitted] at hes
        exact ⟨[], inside, es, rfl, by simp, texts_of_slots h hes.2 hg⟩
  | cons q fs ih =>
    rw [List.forall_mem_cons] at hf
    cases q with
    | kept c d => simp [isText] at hf
    | replaced c d new => simp [isText] at hf
    | reemitted c d inside => simp [isText] at hf
    | inserted t =>
      cases es with
      | nil => simp [slots] at h
      | cons p es =>
        cases p with
        | kept c d => simp [Emitted] at hes
        | replaced c d new => simp [Emitted] at hes
        | reemitted c d inside => simp [slots] at h
        | inserted t' =>
          simp only [slots, List.cons_append, List.cons.injEq] at h
          simp only [Emitted] at hes
          obtain ⟨fs', qs', gs', rfl, hf', hg'⟩ := ih hes h.2 hf.2
          refine ⟨inserted t' :: fs', qs', gs', rfl, ?_, hg'⟩
          rw [List.forall_mem_cons]
          exact ⟨rfl, hf'⟩

end Piece
end Phrasebook
