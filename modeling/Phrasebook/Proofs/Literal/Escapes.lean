import Phrasebook.Proofs.Literal.Quoting

/-! The value of a string as the language defines it, in UTF-16 code units, beside the value that is
read from it. The grammar of a string in strict mode has no escapes but those below; an escape for half
a pair of surrogates gives that half alone, whether or not the other one stands next to it. -/

namespace Phrasebook

namespace Utf16

theorem units_append (t u : Text) : units (t ++ u) = units t ++ units u := List.flatMap_append

theorem unitsOf_pair {c d : CodePoint} (hc : c.isHigh = true) (hd : d.isLow = true) :
    unitsOf (pair c d) = unitsOf c ++ unitsOf d := by
  simp only [CodePoint.isHigh, CodePoint.isLow, Bool.and_eq_true, decide_eq_true_eq] at hc hd
  have hlt : 0x10000 + (c.val - 0xD800) * 0x400 + (d.val - 0xDC00) < 0x110000 := by omega
  have hval : (pair c d).val = 0x10000 + (c.val - 0xD800) * 0x400 + (d.val - 0xDC00) := by
    rw [pair, CodePoint.ofNat, dif_pos hlt]
  rw [unitsOf, if_neg (by omega), unitsOf, if_pos (by omega), unitsOf, if_pos (by omega), hval,
    List.singleton_append, List.cons.injEq, List.cons.injEq]
  exact ⟨by omega, by omega, rfl⟩

theorem units_join? {t u : Text} (h : join? t = some u) : units u = units t := by
  induction t using join?.induct generalizing u with
  | case1 =>
    cases h
    rfl
  | case2 c hc d rest hd ih =>
    rw [join?.eq_def] at h
    simp only [hc, hd, if_true] at h
    obtain ⟨u', hu', rfl⟩ := Option.map_eq_some_iff.1 h
    rw [units, List.flatMap_cons, unitsOf_pair hc hd, ← units, ih hu', List.append_assoc]
    rfl
  | case3 c hc d rest hd => simp [join?, hc, hd] at h
  | case4 c hc => simp [join?, hc] at h
  | case5 c rest hc hl =>
    rw [join?.eq_def] at h
    simp [hc, hl] at h
  | case6 c rest hc hl ih =>
    rw [join?.eq_def] at h
    simp only [hc, hl, if_false, Bool.false_eq_true] at h
    obtain ⟨u', hu', rfl⟩ := Option.map_eq_some_iff.1 h
    rw [units, List.flatMap_cons, ← units, ih hu']
    rfl

theorem units_joinPairs (t : Text) : units (joinPairs t) = units t := by
  cases hj : join? t with
  | none => rw [joinPairs, hj, Option.getD_none]
  | some u =>
    rw [joinPairs, hj, Option.getD_some]
    exact units_join? hj

end Utf16

namespace Escape

/-- The single characters behind a backslash that stand for a code unit: `b`, `t`, `n`, `v`, `f`, `r`,
the two quotes and the backslash. -/
def singleEscapes : List (Nat × Nat) :=
  [(0x62, 0x08), (0x74, 0x09), (0x6E, 0x0A), (0x76, 0x0B), (0x66, 0x0C), (0x72, 0x0D),
   (0x22, 0x22), (0x27, 0x27), (0x5C, 0x5C)]

/-- What may stand behind a backslash when `rest` follows it, and the code units of that. A line end
behind a backslash says nothing. -/
inductive EscapeSequence (rest : Text) : Text → List Nat → Prop
  | single {c : CodePoint} {unit : Nat} (h : (c.val, unit) ∈ singleEscapes) :
      EscapeSequence rest [c] [unit]
  | itself {c : CodePoint} (hsingle : ∀ e ∈ singleEscapes, c.val ≠ e.1) (hdigit : c.isDigit = false)
      (hnumber : c.val ≠ 0x75 ∧ c.val ≠ 0x78) (hline : isLineEnd c = false) :
      EscapeSequence rest [c] (Utf16.unitsOf c)
  | null {c : CodePoint} (h : c.val = 0x30) (hrest : ∀ d ∈ rest.head?, d.isDigit = false) :
      EscapeSequence rest [c] [0]
  | hex {digits : Text} (hlength : digits.length = 2) (hdigits : ∀ d ∈ digits, d.isHex = true) :
      EscapeSequence rest (CodePoint.ofNat 0x78 :: digits) [Text.hexNumber digits]
  | unit {digits : Text} (hlength : digits.length = 4) (hdigits : ∀ d ∈ digits, d.isHex = true) :
      EscapeSequence rest (CodePoint.ofNat 0x75 :: digits) [Text.hexNumber digits]
  | point {digits : Text} {c : CodePoint} (hempty : digits ≠ [])
      (hdigits : ∀ d ∈ digits, d.isHex = true) (hc : Text.hexNumber digits = c.val) :
      EscapeSequence rest (CodePoint.ofNat 0x75 :: CodePoint.ofNat 0x7B ::
        (digits ++ [CodePoint.ofNat 0x7D])) (Utf16.unitsOf c)
  | line {c : CodePoint} (h : isLineEnd c = true)
      (hrest : c.val = 0x0D → ∀ d ∈ rest.head?, d.val ≠ 0x0A) : EscapeSequence rest [c] []
  | lines : EscapeSequence rest [CodePoint.ofNat 0x0D, CodePoint.ofNat 0x0A] []

/-- What stands between the quotes of a string, and its value. The line and the paragraph separator may
stand there as they are, the line feed and the carriage return may not. -/
inductive StringBody (quote : CodePoint) : Text → List Nat → Prop
  | nil : StringBody quote [] []
  | char {c : CodePoint} {rest : Text} {units : List Nat} (hquote : c ≠ quote) (hslash : c.val ≠ 0x5C)
      (hline : c.val ≠ 0x0A ∧ c.val ≠ 0x0D) (h : StringBody quote rest units) :
      StringBody quote (c :: rest) (Utf16.unitsOf c ++ units)
  | escape {spelling rest : Text} {value units : List Nat} (hescape : EscapeSequence rest spelling value)
      (h : StringBody quote rest units) :
      StringBody quote (CodePoint.ofNat 0x5C :: (spelling ++ rest)) (value ++ units)

section

variable {quote c : CodePoint} {raw rest spelling digits : Text} {units value : List Nat}

theorem takeWhile_isHex (hdigits : ∀ d ∈ digits, d.isHex = true) (rest : Text) :
    (digits ++ CodePoint.ofNat 0x7D :: rest).takeWhile CodePoint.isHex = digits ∧
      (digits ++ CodePoint.ofNat 0x7D :: rest).dropWhile CodePoint.isHex =
        CodePoint.ofNat 0x7D :: rest := by
  have hclose : ¬ (CodePoint.ofNat 0x7D).isHex = true := by decide
  constructor
  · rw [List.takeWhile_append_of_pos hdigits, List.takeWhile_cons_of_neg hclose, List.append_nil]
  · rw [List.dropWhile_append_of_pos hdigits, List.dropWhile_cons_of_neg hclose]

theorem exactHex?_append {n : Nat} (hlength : digits.length = n)
    (hdigits : ∀ d ∈ digits, d.isHex = true) (rest : Text) :
    exactHex? n (digits ++ rest) = some digits := by
  rw [exactHex?, List.take_left' hlength]
  exact if_pos ⟨hlength, List.all_eq_true.2 hdigits⟩

theorem bracedHex?_of_isHex (hdigits : ∀ d ∈ digits, d.isHex = true) (hempty : digits ≠ [])
    (rest : Text) : bracedHex? (digits ++ rest) = none := by
  obtain ⟨d, ds, rfl⟩ := List.exists_cons_of_ne_nil hempty
  have hne : (d.val == 0x7B) = false := by
    refine beq_false_of_ne fun hbrace => ?_
    have hd := hdigits d List.mem_cons_self
    rw [eq_ofNat hbrace] at hd
    exact absurd hd (by decide)
  simp only [List.cons_append, bracedHex?, hne, Bool.false_and, Bool.false_eq_true, if_false]

theorem bracedHex?_braces (hempty : digits ≠ []) (hdigits : ∀ d ∈ digits, d.isHex = true)
    (rest : Text) :
    bracedHex? (CodePoint.ofNat 0x7B :: (digits ++ CodePoint.ofNat 0x7D :: rest)) = some digits := by
  obtain ⟨htake, hdrop⟩ := takeWhile_isHex hdigits rest
  have hopen : ((CodePoint.ofNat 0x7B).val == 0x7B) = true := rfl
  have hclose : ((CodePoint.ofNat 0x7D).val == 0x7D) = true := rfl
  have hsome : digits.isEmpty = false := by simpa using hempty
  simp only [bracedHex?, htake, hdrop, hsome, hopen, hclose, List.head?_cons, Option.any_some,
    Bool.not_false, Bool.and_self, if_true]

theorem hexNumber_lt_of_length {n : Nat} (hlength : digits.length = n) :
    Text.hexNumber digits < 16 ^ n := by
  induction digits using List.reverseRecOn generalizing n with
  | nil =>
    subst hlength
    decide
  | append_singleton ds d ih =>
    obtain rfl : ds.length + 1 = n := by simpa using hlength
    have hd : d.hexValue?.getD 0 < 16 := by
      rw [CodePoint.hexValue?]
      split_ifs with h₁ h₂ h₃ <;> simp only [Bool.and_eq_true, decide_eq_true_eq] at * <;>
        simp <;> omega
    have hds := ih rfl
    have hsplit : Text.hexNumber (ds ++ [d]) = Text.hexNumber ds * 16 + d.hexValue?.getD 0 := by
      rw [Text.hexNumber, List.map_append, Text.ofDigits_append]
      rfl
    rw [hsplit, pow_succ]
    omega

theorem point_eq {n : Nat} (h : n < 0x110000) : point n = .ok [⟨n, h⟩] := dif_pos h

theorem units_singleton (c : CodePoint) : Utf16.units [c] = Utf16.unitsOf c := by
  rw [Utf16.units, List.flatMap_cons, List.flatMap_nil, List.append_nil]

theorem exists_point {n : Nat} (hlength : digits.length = n) (hn : n ≤ 4) :
    ∃ v, point (Text.hexNumber digits) = .ok v ∧ Utf16.units v = [Text.hexNumber digits] := by
  have hlt : Text.hexNumber digits < 0x10000 :=
    Nat.lt_of_lt_of_le (hexNumber_lt_of_length hlength) (Nat.pow_le_pow_right (by decide) hn)
  refine ⟨_, point_eq (by omega), ?_⟩
  rw [units_singleton, Utf16.unitsOf, if_pos hlt]

theorem control?_of_mem {unit : Nat} (h : (c.val, unit) ∈ singleEscapes) :
    (∀ rest, reading c rest = .ok ⟨[CodePoint.ofNat unit], 1⟩) ∧ unit < 0x10000 := by
  simp only [singleEscapes, List.mem_cons, Prod.mk.injEq, List.not_mem_nil, or_false] at h
  rcases h with ⟨hc, rfl⟩ | ⟨hc, rfl⟩ | ⟨hc, rfl⟩ | ⟨hc, rfl⟩ | ⟨hc, rfl⟩ | ⟨hc, rfl⟩ | ⟨hc, rfl⟩ |
    ⟨hc, rfl⟩ | ⟨hc, rfl⟩
  all_goals
    rw [eq_ofNat hc]
    exact ⟨fun _ => rfl, by decide⟩

theorem EscapeSequence.reading (h : EscapeSequence rest spelling value) :
    ∃ c more v, spelling = c :: more ∧
      Escape.reading c (more ++ rest) = .ok ⟨v, spelling.length⟩ ∧ Utf16.units v = value := by
  cases h with
  | @single c unit h =>
    obtain ⟨hreads, hlt⟩ := control?_of_mem h
    refine ⟨c, [], _, rfl, hreads rest, ?_⟩
    have hval : (CodePoint.ofNat unit).val = unit := by
      rw [CodePoint.ofNat, dif_pos (by omega)]
    rw [units_singleton, Utf16.unitsOf, hval, if_pos hlt]
  | @itself c hsingle hdigit hnumber hline =>
    refine ⟨c, [], [c], rfl, ?_, units_singleton c⟩
    have hoctal : isOctal c = false := by
      simp only [CodePoint.isDigit, isOctal, Bool.and_eq_false_iff, decide_eq_false_iff_not] at hdigit ⊢
      omega
    have hreturn : ¬ c.val = 0x0D := by
      rintro h
      simp [isLineEnd, h] at hline
    have hcontrol : control? c = none := by
      simp only [singleEscapes, List.forall_mem_cons] at hsingle
      obtain ⟨hb, ht, hn, hv, hf, hr, -⟩ := hsingle
      simp only [control?, hn, ht, hr, hb, hf, hv, if_false]
    simp only [Escape.reading, hnumber.1, hnumber.2, hoctal, hreturn, hline, hcontrol, if_false,
      false_and, Bool.false_eq_true, List.length_singleton]
  | @null c hc hrest =>
    refine ⟨c, [], [CodePoint.ofNat 0], rfl, ?_, rfl⟩
    have hnext : (rest.take 2).takeWhile isOctal = [] := by
      cases rest with
      | nil => rfl
      | cons d ds =>
        have hd := hrest d rfl
        have hoctal : ¬ isOctal d = true := by
          simp only [CodePoint.isDigit, isOctal, Bool.and_eq_true, Bool.and_eq_false_iff,
            decide_eq_true_eq, decide_eq_false_iff_not] at hd ⊢
          omega
        rw [List.take_succ_cons, List.takeWhile_cons_of_neg hoctal]
    rw [eq_ofNat hc, List.nil_append]
    have hoctal : isOctal (CodePoint.ofNat 0x30) = true := rfl
    have hu : ¬ (CodePoint.ofNat 0x30).val = 0x75 := by decide
    have hx : ¬ (CodePoint.ofNat 0x30).val = 0x78 := by decide
    simp only [Escape.reading, hu, hx, hoctal, hnext, if_false, if_true]
    rfl
  | @hex digits hlength hdigits =>
    obtain ⟨v, hv, hunits⟩ := exists_point hlength (by decide)
    refine ⟨_, digits, v, rfl, ?_, hunits⟩
    have hx : (CodePoint.ofNat 0x78).val = 0x78 := rfl
    have hu : ¬ (0x78 : Nat) = 0x75 := by decide
    simp only [Escape.reading, hx, hu, if_true, if_false, exactHex?_append hlength hdigits, hv,
      List.length_cons, hlength]
    rfl
  | @unit digits hlength hdigits =>
    obtain ⟨v, hv, hunits⟩ := exists_point hlength (by decide)
    refine ⟨_, digits, v, rfl, ?_, hunits⟩
    have hempty : digits ≠ [] := by
      rintro rfl
      cases hlength
    have hu : (CodePoint.ofNat 0x75).val = 0x75 := rfl
    simp only [Escape.reading, hu, if_true, bracedHex?_of_isHex hdigits hempty,
      exactHex?_append hlength hdigits, hv, List.length_cons, hlength]
    rfl
  | @point digits c hempty hdigits hc =>
    refine ⟨_, _, [c], rfl, ?_, units_singleton c⟩
    have hu : (CodePoint.ofNat 0x75).val = 0x75 := rfl
    have hlt : Text.hexNumber digits < 0x110000 := hc ▸ c.isLt
    have hpoint : Escape.point (Text.hexNumber digits) = .ok [c] := by
      rw [point_eq hlt]
      simp only [hc]
    have hbraces := bracedHex?_braces hempty hdigits rest
    simp only [List.cons_append, List.append_assoc, List.nil_append, Escape.reading, hu, if_true,
      hbraces, hpoint, List.length_cons, List.length_append, List.length_nil]
    rfl
  | @line c h hrest =>
    refine ⟨c, [], [], rfl, ?_, rfl⟩
    have hcases : c.val = 0x0A ∨ c.val = 0x0D ∨ c.val = 0x2028 ∨ c.val = 0x2029 := by
      simpa [isLineEnd, or_assoc] using h
    have hnumber : ¬ c.val = 0x75 ∧ ¬ c.val = 0x78 := by omega
    have hoctal : isOctal c = false := by
      simp only [isOctal, Bool.and_eq_false_iff, decide_eq_false_iff_not]
      omega
    have hpair : ¬ (c.val = 0x0D ∧ rest.head?.any (fun d => d.val == 0x0A) = true) := by
      rintro ⟨hreturn, hfeed⟩
      obtain ⟨d, hd, hval⟩ := (Option.any_eq_true _ _).1 hfeed
      exact hrest hreturn d hd (by simpa using hval)
    simp only [List.nil_append, Escape.reading, hnumber.1, hnumber.2, hoctal, hpair, h, if_false,
      if_true, Bool.false_eq_true, List.length_singleton]
  | lines => exact ⟨_, _, [], rfl, rfl, rfl⟩

theorem StringBody.unescape (h : StringBody quote raw units) :
    ∃ v, unescapeFrom 0 raw = .ok v ∧ Utf16.units v = units := by
  induction h with
  | nil => exact ⟨[], rfl, rfl⟩
  | @char c rest units _ hslash _ _ ih =>
    obtain ⟨v, hv, rfl⟩ := ih
    refine ⟨c :: v, ?_, rfl⟩
    cases rest with
    | nil =>
      cases hv
      rfl
    | cons d rest =>
      rw [unescapeFrom.eq_def]
      simp only [hslash, if_false, hv]
      rfl
  | @escape spelling rest value units hescape _ ih =>
    obtain ⟨v, hv, rfl⟩ := ih
    obtain ⟨c, more, w, rfl, hreading, rfl⟩ := hescape.reading
    refine ⟨w ++ v, ?_, Utf16.units_append w v⟩
    rw [List.cons_append, unescapeFrom_escape hreading, ← List.cons_append, unescapeFrom_append, hv]
    rfl

theorem StringBody.head (h : StringBody quote raw units) :
    ∀ c ∈ raw.head?, c.val ≠ 0x0A ∧ c.val ≠ 0x0D := by
  cases h with
  | nil => simp
  | char _ _ hline _ =>
    rintro c ⟨⟩
    exact hline
  | escape _ _ =>
    rintro c ⟨⟩
    decide

theorem foldCrLf_append {lead : Text} (h : ∀ c ∈ lead, c.val ≠ 0x0D) (rest : Text) :
    Text.foldCrLf (lead ++ rest) = lead ++ Text.foldCrLf rest := by
  induction lead with
  | nil => rfl
  | cons c lead ih =>
    obtain ⟨hc, hlead⟩ := List.forall_mem_cons.1 h
    rw [List.cons_append, List.cons_append, ← ih hlead, Text.foldCrLf.eq_def]
    cases lead ++ rest with
    | nil => rfl
    | cons d more => simp only [hc, false_and, if_false]

theorem foldCrLf_return (hc : c.val = 0x0D) (hrest : ∀ d ∈ rest.head?, d.val ≠ 0x0A) :
    Text.foldCrLf (c :: rest) = c :: Text.foldCrLf rest := by
  rw [Text.foldCrLf.eq_def]
  cases rest with
  | nil => rfl
  | cons d more =>
    have hd : d.val ≠ 0x0A := hrest d rfl
    simp only [hc, hd, and_false, if_false]

theorem head?_foldCrLf (h : ∀ c ∈ rest.head?, c.val ≠ 0x0A ∧ c.val ≠ 0x0D) :
    (Text.foldCrLf rest).head? = rest.head? := by
  cases rest with
  | nil => rfl
  | cons c more =>
    have hc : ∀ d ∈ [c], d.val ≠ 0x0D := by
      rintro d hd
      rw [List.mem_singleton.1 hd]
      exact (h c rfl).2
    rw [← List.singleton_append, foldCrLf_append hc, List.singleton_append, List.singleton_append]
    rfl

theorem return_ne_of_isHex (hdigits : ∀ d ∈ digits, d.isHex = true) : ∀ d ∈ digits, d.val ≠ 0x0D := by
  intro d hd hreturn
  have hhex := hdigits d hd
  rw [eq_ofNat hreturn] at hhex
  exact absurd hhex (by decide)

theorem EscapeSequence.fold (h : EscapeSequence rest spelling value)
    (hrest : ∀ c ∈ rest.head?, c.val ≠ 0x0A ∧ c.val ≠ 0x0D) :
    ∃ spelling', Text.foldCrLf (spelling ++ rest) = spelling' ++ Text.foldCrLf rest ∧
      EscapeSequence (Text.foldCrLf rest) spelling' value := by
  have hhead := head?_foldCrLf hrest
  have hsingle {c : CodePoint} (hc : c.val ≠ 0x0D) : ∀ d ∈ [c], d.val ≠ 0x0D := by
    simpa using hc
  cases h with
  | @single c unit h =>
    refine ⟨[c], foldCrLf_append (hsingle fun hc => ?_) rest, .single h⟩
    rw [hc] at h
    simp [singleEscapes] at h
  | @itself c hsingles hdigit hnumber hline =>
    refine ⟨[c], foldCrLf_append (hsingle fun hc => ?_) rest, .itself hsingles hdigit hnumber hline⟩
    simp [isLineEnd, hc] at hline
  | @null c hc hdigit =>
    refine ⟨[c], foldCrLf_append (hsingle (by omega)) rest, .null hc ?_⟩
    rwa [hhead]
  | hex hlength hdigits =>
    exact ⟨_, foldCrLf_append (List.forall_mem_cons.2 ⟨by decide, return_ne_of_isHex hdigits⟩) rest,
      .hex hlength hdigits⟩
  | unit hlength hdigits =>
    exact ⟨_, foldCrLf_append (List.forall_mem_cons.2 ⟨by decide, return_ne_of_isHex hdigits⟩) rest,
      .unit hlength hdigits⟩
  | point hempty hdigits hc =>
    refine ⟨_, foldCrLf_append ?_ rest, .point hempty hdigits hc⟩
    refine List.forall_mem_cons.2 ⟨by decide, List.forall_mem_cons.2 ⟨by decide, ?_⟩⟩
    exact List.forall_mem_append.2 ⟨return_ne_of_isHex hdigits, hsingle (by decide)⟩
  | @line c h hfeed =>
    refine ⟨[c], ?_, .line h (by rwa [hhead])⟩
    by_cases hc : c.val = 0x0D
    · exact foldCrLf_return hc (hfeed hc)
    · exact foldCrLf_append (hsingle hc) rest
  | lines =>
    -- The two code points of a line end are one line feed from here on.
    refine ⟨[CodePoint.ofNat 0x0A], ?_, .line (by decide) fun h => absurd h (by decide)⟩
    have hfold : Text.foldCrLf ([CodePoint.ofNat 0x0D, CodePoint.ofNat 0x0A] ++ rest) =
        Text.foldCrLf ([CodePoint.ofNat 0x0A] ++ rest) := by
      rw [Text.foldCrLf.eq_def]
      rfl
    rw [hfold]
    exact foldCrLf_append (hsingle (by decide)) rest

theorem StringBody.fold (h : StringBody quote raw units) :
    StringBody quote (Text.foldCrLf raw) units := by
  induction h with
  | nil => exact .nil
  | @char c rest units hquote hslash hline _ ih =>
    have hc : ∀ d ∈ [c], d.val ≠ 0x0D := by simpa using hline.2
    rw [← List.singleton_append, foldCrLf_append hc]
    exact .char hquote hslash hline ih
  | @escape spelling rest value units hescape hbody ih =>
    obtain ⟨spelling', hfold, hescape'⟩ := hescape.fold hbody.head
    have hslash : ∀ d ∈ [CodePoint.ofNat 0x5C], d.val ≠ 0x0D := by decide
    rw [← List.singleton_append, foldCrLf_append hslash, hfold]
    exact (StringBody.escape hescape' ih : StringBody quote (CodePoint.ofNat 0x5C :: _) _)

/-- **Strings have the value that the language gives them.** Whatever may stand between the quotes of a
string, what is read from it has the code units of its value. -/
theorem decode_of_stringBody (h : StringBody quote raw units) :
    ∃ v, decode raw = .ok v ∧ Utf16.units v = units := by
  obtain ⟨v, hv, hunits⟩ := h.fold.unescape
  refine ⟨Utf16.joinPairs v, ?_, (Utf16.units_joinPairs v).trans hunits⟩
  rw [decode, hv]
  rfl

/-- Half a pair by its number, the other half by a code point, a line end and a null: nothing is joined
that the language keeps apart, and the code units are the same. -/
theorem decode_of_stringBody_halves :
    let raw : Text := "\\uD83D\\u\x7bDE00\x7d\\\r\n\\x41\\0\\u\x7b10FFFF\x7d\\uDC00"
    let units := [0xD83D, 0xDE00, 0x41, 0, 0xDBFF, 0xDFFF, 0xDC00]
    StringBody (CodePoint.ofNat 0x22) raw units ∧
      ∃ v, decode raw = .ok v ∧ Utf16.units v = units := by
  have hbody : StringBody (CodePoint.ofNat 0x22)
      ("\\uD83D\\u\x7bDE00\x7d\\\r\n\\x41\\0\\u\x7b10FFFF\x7d\\uDC00" : Text)
      [0xD83D, 0xDE00, 0x41, 0, 0xDBFF, 0xDFFF, 0xDC00] := by
    refine .escape (@EscapeSequence.unit _ "D83D" rfl (by decide)) ?_
    refine .escape (@EscapeSequence.point _ "DE00" (CodePoint.ofNat 0xDE00) (by decide) (by decide)
      rfl) ?_
    refine .escape .lines ?_
    refine .escape (@EscapeSequence.hex _ "41" rfl (by decide)) ?_
    refine .escape (.null rfl (by decide)) ?_
    refine .escape (@EscapeSequence.point _ "10FFFF" (CodePoint.ofNat 0x10FFFF) (by decide) (by decide)
      rfl) ?_
    exact .escape (@EscapeSequence.unit _ "DC00" rfl (by decide)) .nil
  exact ⟨hbody, decode_of_stringBody hbody⟩

end

end Escape

end Phrasebook
