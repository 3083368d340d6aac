import Mathlib.Data.List.TakeWhile
import Mathlib.Data.Nat.Digits.Defs
import Phrasebook.Json.Reader
import Phrasebook.Json.Writer
import Phrasebook.Proofs.Text.Digits
import Phrasebook.Proofs.Text.Utf8

/-! Reading back strings, numbers and words. A value without parts is read the same whatever stands behind
it, as long as what stands there cannot go on the value. -/

namespace Phrasebook.Json

variable {α β : Type}

/-- A reading that comes to a value, with a text ahead of it. -/
def Reads (x : Except (Refusal × Nat) (α × Cursor)) (a : α) (rest : Text) : Prop :=
  ∃ position, x = .ok (a, ⟨position, rest⟩)

theorem Reads.map {x : Except (Refusal × Nat) (α × Cursor)} {a : α} {rest : Text} (h : Reads x a rest)
    (f : α → β) : Reads (x.map fun (a, cur) => (f a, cur)) (f a) rest := by
  obtain ⟨position, rfl⟩ := h
  exact ⟨position, rfl⟩

/-! ### Strings -/

def backslash : CodePoint := ⟨0x5C, by decide⟩

def quote : CodePoint := CodePoint.ofNat 0x22

section Strings

variable {opening position : Nat} {t tail rest : Text} {c e next : CodePoint}

theorem readString_plain (hquote : c.val ≠ 0x22) (hcontrol : ¬ c.val < 0x20) (hescape : c.val ≠ 0x5C) :
    readString opening position (c :: tail) =
      (readString opening (position + 1) tail).map fun (t, cur) => (c :: t, cur) := by
  rw [readString.eq_def]
  simp only [hquote, hcontrol, hescape, if_false]

theorem readString_escape (he : e.val ≠ 0x75) (hvalue : simpleEscape? e = some c) :
    readString opening position (backslash :: e :: tail) =
      (readString opening (position + 2) tail).map fun (t, cur) => (c :: t, cur) := by
  rw [readString.eq_def]
  simp [backslash, he, hvalue]

theorem readString_unicode {u a b d : CodePoint} (hu : u.val = 0x75)
    (hvalue : fourHex? a b d e = some c) (hhigh : c.isHigh = false) :
    readString opening position (backslash :: u :: a :: b :: d :: e :: next :: tail) =
      (readString opening (position + 6) (next :: tail)).map fun (t, cur) => (c :: t, cur) := by
  rw [readString.eq_def]
  simp [backslash, hu, hvalue, hhigh]

theorem fourHex?_hex {n : Nat} (h : n < 16 ^ 4) : ∃ a b c d, Text.hex 4 n = [a, b, c, d] ∧
    fourHex? a b c d = some (CodePoint.ofNat n) := by
  have hlength := Text.length_hex (by decide) h
  obtain ⟨a, b, c, d, hhex⟩ : ∃ a b c d, Text.hex 4 n = [a, b, c, d] := by
    rcases hhex : Text.hex 4 n with _ | ⟨a, _ | ⟨b, _ | ⟨c, _ | ⟨d, _ | ⟨e, more⟩⟩⟩⟩⟩ <;>
      rw [hhex] at hlength <;> simp at hlength
    exact ⟨a, b, c, d, rfl⟩
  refine ⟨a, b, c, d, hhex, ?_⟩
  have hnumber := Text.hexNumber_hex 4 n
  have hdigits : ∀ c ∈ Text.hex 4 n, c.isHex = true := fun c => Text.isHex_of_mem_hex
  rw [hhex] at hnumber hdigits
  rw [fourHex?, if_pos (List.all_eq_true.2 hdigits), hnumber]

theorem reads_escapeChar (c : CodePoint)
    (h : ∀ position, Reads (readString opening position (next :: tail)) t rest) :
    Reads (readString opening position (escapeChar c ++ next :: tail)) (c :: t) rest := by
  have hsingle (e : CodePoint) (v : Nat) (hv : v < 0x110000) (hc : c.val = v) (he : e.val ≠ 0x75)
      (hvalue : simpleEscape? e = some ⟨v, hv⟩) :
      Reads (readString opening position (backslash :: e :: next :: tail)) (c :: t) rest := by
    obtain ⟨w, hw⟩ := c
    obtain rfl : w = v := hc
    rw [readString_escape he hvalue]
    exact (h _).map _
  unfold escapeChar
  split
  next hc => exact hsingle quote 0x22 (by decide) hc (by decide) (by decide)
  next hquote =>
  split
  next hc => exact hsingle backslash 0x5C (by decide) hc (by decide) (by decide)
  next hescape =>
  split
  next hc => exact hsingle (CodePoint.ofChar 'n') 0x0A (by decide) hc (by decide) (by decide)
  split
  next hc => exact hsingle (CodePoint.ofChar 'r') 0x0D (by decide) hc (by decide) (by decide)
  split
  next hc => exact hsingle (CodePoint.ofChar 't') 0x09 (by decide) hc (by decide) (by decide)
  split
  next hc => exact hsingle (CodePoint.ofChar 'f') 0x0C (by decide) hc (by decide) (by decide)
  split
  next hc => exact hsingle (CodePoint.ofChar 'b') 0x08 (by decide) hc (by decide) (by decide)
  split
  next hcontrol =>
    obtain ⟨a, b, d, e, hhex, hvalue⟩ := fourHex?_hex (show c.val < 16 ^ 4 by omega)
    have hhigh : c.isHigh = false := by
      simp only [CodePoint.isHigh, Bool.and_eq_false_iff, decide_eq_false_iff_not]
      omega
    rw [Utf8.ofNat_val] at hvalue
    rw [hhex]
    show Reads (readString opening position
      (backslash :: CodePoint.ofChar 'u' :: a :: b :: d :: e :: next :: tail)) _ _
    rw [readString_unicode (by decide) hvalue hhigh]
    exact (h _).map _
  next hcontrol =>
    show Reads (readString opening position (c :: next :: tail)) _ _
    rw [readString_plain hquote hcontrol hescape]
    exact (h _).map _

theorem reads_escaped (opening position : Nat) (t rest : Text) :
    Reads (readString opening position (t.flatMap escapeChar ++ quote :: rest)) t rest := by
  induction t generalizing position with
  | nil => exact ⟨position + 1, by rw [readString.eq_def]; rfl⟩
  | cons c t ih =>
    rw [List.flatMap_cons, List.append_assoc]
    obtain ⟨next, tail, htail⟩ : ∃ next tail, t.flatMap escapeChar ++ quote :: rest = next :: tail :=
      List.exists_cons_of_ne_nil (by simp)
    rw [htail] at ih ⊢
    exact reads_escapeChar c ih

end Strings

/-! ### Values without parts -/

def EndsValue (rest : Text) : Prop := ∀ c, rest.head? = some c → c.val = 0x2C ∨ c.val = 0x0A

section Atoms

variable {position position' : Nat} {rest t u word : Text} {c w : CodePoint} {v : Json}

theorem EndsValue.nil : EndsValue [] := fun _ h => by cases h

theorem EndsValue.ne (h : EndsValue (c :: rest)) : c.isDigit = false ∧ c.val ≠ 0x2E ∧ c.val ≠ 0x65 ∧
    c.val ≠ 0x45 ∧ c.val ≠ 0x2B ∧ c.val ≠ 0x2D := by
  have hc := h c rfl
  simp only [CodePoint.isDigit, Bool.and_eq_false_iff, decide_eq_false_iff_not]
  omega

theorem digitRun_append (t : Text) (h : EndsValue rest) :
    digitRun (t ++ rest) = ((digitRun t).1, (digitRun t).2 ++ rest) := by
  induction t with
  | nil =>
    cases rest with
    | nil => rfl
    | cons c rest => simp [digitRun, h.ne.1]
  | cons c t ih =>
    obtain ⟨hrun, hafter⟩ := Prod.mk.inj ih
    cases hc : c.isDigit <;> simp [digitRun, hc, hrun, hafter]

theorem fractionPart_append (t : Text) (h : EndsValue rest) :
    fractionPart (t ++ rest) = (fractionPart t).map fun (ds, after) => (ds, after ++ rest) := by
  cases t with
  | nil =>
    cases rest with
    | nil => rfl
    | cons c rest => simp [fractionPart, h.ne.2.1]
  | cons c t =>
    simp only [fractionPart, List.cons_append, digitRun_append t h]
    split <;> rfl

def exponentSign (t : Text) : Bool × Nat × Text :=
  match t with
  | s :: more =>
    if s.val = 0x2D then (true, 1, more)
    else if s.val = 0x2B then (false, 1, more) else (false, 0, t)
  | [] => (false, 0, t)

theorem exponentSign_append (t : Text) (h : EndsValue rest) :
    exponentSign (t ++ rest) =
      ((exponentSign t).1, (exponentSign t).2.1, (exponentSign t).2.2 ++ rest) := by
  cases t with
  | nil =>
    cases rest with
    | nil => rfl
    | cons c rest => simp [exponentSign, h.ne.2.2.2.2]
  | cons s t =>
    simp only [exponentSign, List.cons_append]
    split
    · rfl
    · split <;> rfl

theorem exponentPart_cons (c : CodePoint) (t : Text) : exponentPart (c :: t) =
    if c.val = 0x65 ∨ c.val = 0x45 then
      if (digitRun (exponentSign t).2.2).1 = [] then none
      else
        let n : Int := Text.digitNumber 10 (digitRun (exponentSign t).2.2).1
        some (if (exponentSign t).1 then -n else n,
          1 + (exponentSign t).2.1 + (digitRun (exponentSign t).2.2).1.length,
          (digitRun (exponentSign t).2.2).2)
    else none := rfl

theorem exponentPart_append (t : Text) (h : EndsValue rest) :
    exponentPart (t ++ rest) = (exponentPart t).map fun (e, n, after) => (e, n, after ++ rest) := by
  cases t with
  | nil =>
    cases rest with
    | nil => rfl
    | cons c rest => simp [exponentPart, h.ne.2.2.1, h.ne.2.2.2.1]
  | cons c t =>
    rw [List.cons_append, exponentPart_cons, exponentPart_cons, exponentSign_append t h]
    dsimp only
    rw [digitRun_append _ h]
    split
    · split <;> rfl
    · rfl

def wholePart (t : Text) : Text :=
  match t with
  | c :: _ => if c.val = 0x30 then [c] else (digitRun t).1
  | [] => []

theorem wholePart_append (t : Text) (h : EndsValue rest) :
    wholePart (t ++ rest) = wholePart t ∧
      (t ++ rest).drop (wholePart t).length = t.drop (wholePart t).length ++ rest := by
  constructor
  · cases t with
    | nil =>
      cases rest with
      | nil => rfl
      | cons c rest =>
        have hzero : c.val ≠ 0x30 := by
          have := h c rfl
          omega
        simp [wholePart, digitRun, hzero, h.ne.1]
    | cons c t =>
      simp only [wholePart, List.cons_append]
      rw [← List.cons_append, digitRun_append _ h]
  · refine List.drop_append_of_le_length ?_
    cases t with
    | nil => exact Nat.le_refl 0
    | cons c t =>
      simp only [wholePart]
      split
      · simp
      · exact (List.takeWhile_prefix _).length_le

def readScaled (negative : Bool) (start size : Nat) (whole digits after : Text) : Read Json :=
  let mantissa := Text.digitNumber 10 (whole ++ digits)
  match exponentPart after with
  | some (e, n, rest) =>
    .ok (float (nearestFloat negative mantissa (e - digits.length)), ⟨start + size + n, rest⟩)
  | none =>
    if digits = [] then
      if digitLimit < whole.length then .error (.digits whole.length, start)
      else
        let n : Int := Text.digitNumber 10 whole
        .ok (int (if negative then -n else n), ⟨start + size, after⟩)
    else .ok (float (nearestFloat negative mantissa (-digits.length)), ⟨start + size, after⟩)

theorem readScaled_append {negative : Bool} {size : Nat} {whole digits after : Text}
    (h : Reads (readScaled negative position size whole digits after) v []) (hrest : EndsValue rest) :
    Reads (readScaled negative position' size whole digits (after ++ rest)) v rest := by
  obtain ⟨q, h⟩ := h
  unfold readScaled at h ⊢
  rw [exponentPart_append _ hrest]
  cases hexponent : exponentPart after with
  | some found =>
    obtain ⟨e, n, left⟩ := found
    simp only [hexponent] at h
    cases h
    exact ⟨_, rfl⟩
  | none =>
    simp only [hexponent] at h
    simp only [Option.map_none]
    split at h
    next hnil =>
      rw [if_pos hnil]
      split at h
      next => cases h
      next hlimit =>
        rw [if_neg hlimit]
        cases h
        exact ⟨_, rfl⟩
    next hnil =>
      rw [if_neg hnil]
      cases h
      exact ⟨_, rfl⟩

def readUnsigned (negative : Bool) (start : Nat) (t : Text) : Read Json :=
  let whole := wholePart t
  if whole = [] then .error (.value, start)
  else
    let after := t.drop whole.length
    let size := (if negative then 1 else 0) + whole.length
    let (digits, size', after') := match fractionPart after with
      | some (ds, rest) => (ds, size + 1 + ds.length, rest)
      | none => ([], size, after)
    readScaled negative start size' whole digits after'

theorem readUnsigned_append {negative : Bool} (h : Reads (readUnsigned negative position t) v [])
    (hrest : EndsValue rest) : Reads (readUnsigned negative position' (t ++ rest)) v rest := by
  obtain ⟨hwhole, hafter⟩ := wholePart_append t hrest
  unfold readUnsigned at h ⊢
  dsimp only at h ⊢
  rw [hwhole, hafter, fractionPart_append _ hrest]
  split at h
  next =>
    obtain ⟨q, h⟩ := h
    cases h
  next hne =>
    rw [if_neg hne]
    cases hfraction : fractionPart (t.drop (wholePart t).length) with
    | none =>
      rw [hfraction] at h
      exact readScaled_append h hrest
    | some found =>
      rw [hfraction] at h
      exact readScaled_append h hrest

def isNegative (t : Text) : Bool :=
  match t with
  | c :: _ => c.val == 0x2D
  | [] => false

theorem readNumber_eq (t : Text) : readNumber ⟨position, t⟩ =
    readUnsigned (isNegative t) position (if isNegative t then t.drop 1 else t) := rfl

theorem readNumber_append (h : Reads (readNumber ⟨position, t⟩) v []) (hrest : EndsValue rest) :
    Reads (readNumber ⟨position', t ++ rest⟩) v rest := by
  cases t with
  | nil =>
    obtain ⟨q, h⟩ := h
    cases h
  | cons c t =>
    rw [readNumber_eq] at h ⊢
    cases hminus : c.val == 0x2D with
    | true =>
      simp only [List.cons_append, isNegative, hminus, if_true, List.drop_one, List.tail_cons] at h ⊢
      exact readUnsigned_append h hrest
    | false =>
      simp only [List.cons_append, isNegative, hminus, Bool.false_eq_true, if_false] at h ⊢
      exact readUnsigned_append h hrest

end Atoms

section Words

variable {position position' : Nat} {rest t word : Text} {c : CodePoint} {v : Json} {fuel : Nat}

def words : List (Text × Json) :=
  [("null", null), ("true", bool true), ("false", bool false), ("NaN", float (0.0 / 0.0)),
   ("Infinity", float (1.0 / 0.0)), ("-Infinity", float (-1.0 / 0.0))]

def word? (cur : Cursor) : Option (Json × Cursor) :=
  words.findSome? fun (w, v) => (cur.word? w).map fun c => (v, c)

theorem readAtom_eq (cur : Cursor) :
    readAtom cur = match word? cur with
      | some found => .ok found
      | none => readNumber cur := rfl

theorem cursorWord?_append (position : Nat) (hword : ∀ c ∈ word, c.val ≠ 0x2C ∧ c.val ≠ 0x0A) (hrest : EndsValue rest) :
    Cursor.word? ⟨position', t ++ rest⟩ word = (Cursor.word? ⟨position, t⟩ word).map fun cur =>
      ⟨position' + (cur.position - position), cur.ahead ++ rest⟩ := by
  unfold Cursor.word?
  by_cases hle : word <+: t
  · rw [if_pos (List.isPrefixOf_iff_prefix.2 (hle.trans (List.prefix_append t rest))),
      if_pos (List.isPrefixOf_iff_prefix.2 hle), List.drop_append_of_le_length hle.length_le]
    simp
  · rw [if_neg (mt List.isPrefixOf_iff_prefix.1 hle), if_neg ?_]
    · rfl
    intro hboth
    rcases List.prefix_or_prefix_of_prefix (List.isPrefixOf_iff_prefix.1 hboth)
      (List.prefix_append t rest) with h | ⟨more, rfl⟩
    · exact hle h
    · have hmore := (List.prefix_append_right_inj t).1 (List.isPrefixOf_iff_prefix.1 hboth)
      cases more with
      | nil => exact hle (by simp)
      | cons c more =>
        obtain ⟨left, rfl⟩ := hmore
        obtain ⟨hcomma, hline⟩ := hword c (by simp)
        exact (hrest c rfl).elim hcomma hline

theorem words_plain : ∀ w ∈ words, ∀ c ∈ w.1, c.val ≠ 0x2C ∧ c.val ≠ 0x0A := by
  have hnames : ∀ n ∈ words.map (·.1), ∀ c ∈ n, c.val ≠ 0x2C ∧ c.val ≠ 0x0A := by decide
  exact fun w hw => hnames w.1 (List.mem_map_of_mem hw)

theorem word?_append (position : Nat) (hrest : EndsValue rest) :
    word? ⟨position', t ++ rest⟩ = (word? ⟨position, t⟩).map fun (v, cur) =>
      (v, ⟨position' + (cur.position - position), cur.ahead ++ rest⟩) := by
  unfold word?
  have hwords := words_plain
  generalize words = ws at hwords
  induction ws with
  | nil => rfl
  | cons w ws ih =>
    obtain ⟨hw, hws⟩ := List.forall_mem_cons.1 hwords
    rw [List.findSome?_cons, List.findSome?_cons, ih hws]
    dsimp only
    rw [cursorWord?_append position hw hrest]
    cases Cursor.word? ⟨position, t⟩ w.1 <;> rfl

theorem readAtom_append (h : Reads (readAtom ⟨position, t⟩) v []) (hrest : EndsValue rest) :
    Reads (readAtom ⟨position', t ++ rest⟩) v rest := by
  rw [readAtom_eq] at h ⊢
  rw [word?_append position hrest]
  cases hfound : word? ⟨position, t⟩ with
  | none =>
    rw [hfound] at h
    exact readNumber_append h hrest
  | some found =>
    obtain ⟨w, left⟩ := found
    rw [hfound] at h
    obtain ⟨q, h⟩ := h
    cases h
    exact ⟨_, rfl⟩

/-- A character that a value without parts may begin with: a digit, a minus sign, or the first letter of
a word. -/
def opensAtom (c : CodePoint) : Bool :=
  c.isDigit || c.val == 0x2D || c.val == 0x6E || c.val == 0x74 || c.val == 0x66 || c.val == 0x4E ||
    c.val == 0x49

theorem opensAtom_eq_true : opensAtom c = true ↔ (0x30 ≤ c.val ∧ c.val ≤ 0x39) ∨ c.val = 0x2D ∨
    c.val = 0x6E ∨ c.val = 0x74 ∨ c.val = 0x66 ∨ c.val = 0x4E ∨ c.val = 0x49 := by
  simp [opensAtom, CodePoint.isDigit, or_assoc]

theorem opensAtom_of_reads (h : Reads (readAtom ⟨position, t⟩) v rest) :
    ∃ c more, t = c :: more ∧ opensAtom c = true := by
  obtain ⟨q, h⟩ := h
  cases t with
  | nil => cases h
  | cons c more =>
  refine ⟨c, more, rfl, Classical.byContradiction fun hopens => ?_⟩
  have hfirst : ∀ w ∈ words, ∃ d more, w.1 = d :: more ∧ opensAtom d = true := by
    simp only [words, List.forall_mem_cons]
    exact ⟨⟨_, _, rfl, rfl⟩, ⟨_, _, rfl, rfl⟩, ⟨_, _, rfl, rfl⟩, ⟨_, _, rfl, rfl⟩, ⟨_, _, rfl, rfl⟩,
      ⟨_, _, rfl, rfl⟩, by simp⟩
  have hword : word? ⟨position, c :: more⟩ = none := by
    refine List.findSome?_eq_none_iff.2 fun w hw => ?_
    obtain ⟨d, letters, hd, hletter⟩ := hfirst w hw
    have hdiffer : d ≠ c := fun heq => hopens (heq ▸ hletter)
    dsimp only
    rw [Cursor.word?, hd, if_neg]
    · rfl
    · simp [List.isPrefixOf, hdiffer]
  rw [opensAtom_eq_true] at hopens
  have hminus : (c.val == 0x2D) = false := beq_false_of_ne (by omega)
  have hwhole : wholePart (c :: more) = [] := by
    have hzero : c.val ≠ 0x30 := by omega
    have hdigit : c.isDigit = false := by
      simp only [CodePoint.isDigit, Bool.and_eq_false_iff, decide_eq_false_iff_not]
      omega
    simp [wholePart, hzero, digitRun, hdigit]
  rw [readAtom_eq, hword] at h
  dsimp only at h
  rw [readNumber_eq, isNegative, hminus, readUnsigned] at h
  simp only [Bool.false_eq_true, if_false] at h
  rw [if_pos hwhole] at h
  cases h

theorem reads_of_readAtom (position : Nat) (h : Reads (readAtom ⟨position, t⟩) v []) (hrest : EndsValue rest) :
    Reads (readValue (fuel + 1) ⟨position', t ++ rest⟩) v rest := by
  obtain ⟨c, more, rfl, hc⟩ := opensAtom_of_reads h
  rw [opensAtom_eq_true] at hc
  have hopening : c.val ≠ 0x22 ∧ c.val ≠ 0x5B ∧ c.val ≠ 0x7B := by omega
  rw [List.cons_append, readValue]
  simp only [hopening, if_false]
  exact readAtom_append h hrest

theorem word?_of_digits (ht : ∀ c ∈ t, c.isDigit = true ∨ c.val = 0x2D) :
    word? ⟨position, t⟩ = none := by
  have hletter : ∀ w ∈ words, ∃ c ∈ w.1, c.isDigit = false ∧ c.val ≠ 0x2D := by
    have hnames : ∀ n ∈ words.map (·.1), ∃ c ∈ n, c.isDigit = false ∧ c.val ≠ 0x2D := by decide
    exact fun w hw => hnames w.1 (List.mem_map_of_mem hw)
  refine List.findSome?_eq_none_iff.2 fun w hw => ?_
  obtain ⟨c, hc, hdigit, hminus⟩ := hletter w hw
  dsimp only
  rw [Cursor.word?, if_neg]
  · rfl
  · intro hle
    rcases ht c ((List.isPrefixOf_iff_prefix.1 hle).subset hc) with h | h
    · rw [hdigit] at h
      cases h
    · exact hminus h

theorem readUnsigned_ofNat (position : Nat) (negative : Bool) {n : Nat} (hn : (Text.ofNat n).length ≤ digitLimit) :
    Reads (readUnsigned negative position (Text.ofNat n)) (int (if negative then -n else n)) [] := by
  obtain ⟨hnumber, hdigits, c, more, hhead, hzero⟩ := Text.ofNat_spec n
  have hrun : digitRun (Text.ofNat n) = (Text.ofNat n, []) := by
    rw [digitRun, List.takeWhile_eq_self_iff.2 hdigits, List.dropWhile_eq_nil_iff.2 hdigits]
  have hwhole : wholePart (Text.ofNat n) = Text.ofNat n := by
    rw [wholePart.eq_def, hhead]
    dsimp only
    split
    next h =>
      obtain rfl := hzero h
      have hdigit : Text.ofNat 0 = [⟨0x30, by decide⟩] := by decide
      rw [hdigit] at hhead
      cases hhead
      rfl
    next => rw [← hhead, hrun]
  have hne : Text.ofNat n ≠ [] := by
    rw [hhead]
    exact List.cons_ne_nil c more
  refine ⟨position + ((if negative then 1 else 0) + (Text.ofNat n).length), ?_⟩
  unfold readUnsigned
  dsimp only
  rw [hwhole, if_neg hne, List.drop_length]
  show readScaled negative position _ (Text.ofNat n) [] [] = _
  unfold readScaled
  show (if ([] : Text) = [] then _ else _) = _
  rw [if_pos rfl, if_neg (Nat.not_lt.2 hn), hnumber]
  rfl

theorem reads_ofInt {n : Int} (hn : (Text.ofNat n.natAbs).length ≤ digitLimit) :
    Reads (readAtom ⟨position, Text.ofInt n⟩) (int n) [] := by
  obtain ⟨-, hdigits, c, more, hhead, -⟩ := Text.ofNat_spec n.natAbs
  have hplain : ∀ d ∈ Text.ofInt n, d.isDigit = true ∨ d.val = 0x2D := by
    intro d hd
    unfold Text.ofInt at hd
    split at hd
    · rcases List.mem_cons.1 hd with rfl | hd
      · exact .inr rfl
      · exact .inl (hdigits d hd)
    · exact .inl (hdigits d hd)
  rw [readAtom_eq, word?_of_digits hplain]
  dsimp only
  rw [readNumber_eq, Text.ofInt]
  split
  next hsign =>
    have hvalue : (-(n.natAbs : Int)) = n := by omega
    have h := readUnsigned_ofNat position true hn
    rw [if_pos rfl, hvalue] at h
    exact h
  next hsign =>
    have hvalue : (n.natAbs : Int) = n := by omega
    have hminus : isNegative (Text.ofNat n.natAbs) = false := by
      have hc := hdigits c (by rw [hhead]; exact List.mem_cons_self)
      simp only [CodePoint.isDigit, Bool.and_eq_true, decide_eq_true_eq] at hc
      rw [hhead]
      exact beq_false_of_ne (by omega)
    have h := readUnsigned_ofNat position false hn
    rw [if_neg (by decide), hvalue] at h
    rw [hminus]
    exact h

end Words

end Phrasebook.Json
