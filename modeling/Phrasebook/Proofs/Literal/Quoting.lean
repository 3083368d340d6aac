import Mathlib.Data.List.Chain
import Mathlib.Tactic.Common
import Phrasebook.Keys.Extract
import Phrasebook.Proofs.Log
import Phrasebook.Proofs.Text.Digits
import Phrasebook.Proofs.Text.Scalar

/-! The literal written for a value is one double-quoted string of a script, and it is read as that
value again. The reader of strings here is the one of the language: it knows which escapes there are,
and a quote ends the string unless a backslash stands before it. -/

namespace Phrasebook

namespace Utf16

/-- A text in which no high surrogate stands directly before a low one. -/
def Unpaired (t : Text) : Prop := t.IsChain fun c d => ¬ (c.isHigh = true ∧ d.isLow = true)

theorem Unpaired.tail {c : CodePoint} {t : Text} (h : Unpaired (c :: t)) : Unpaired t :=
  List.IsChain.tail h

theorem join?_of_unpaired {t u : Text} (ht : Unpaired t) (h : join? t = some u) : u = t := by
  induction t generalizing u with
  | nil => exact (Option.some.inj h).symm
  | cons c rest ih =>
    rw [join?.eq_def] at h
    dsimp only at h
    split at h
    next hhigh =>
      -- A high surrogate is joined with a low one behind it, and there is none.
      cases rest with
      | nil => cases h
      | cons d rest' =>
        dsimp only at h
        have hlow : d.isLow ≠ true := fun hd => (List.isChain_cons_cons.1 ht).1 ⟨hhigh, hd⟩
        rw [if_neg hlow] at h
        cases h
    next =>
      split at h
      · cases h
      · obtain ⟨u', hu', rfl⟩ := Option.map_eq_some_iff.1 h
        rw [ih ht.tail hu']

theorem joinPairs_of_unpaired {t : Text} (h : Unpaired t) : joinPairs t = t := by
  cases hj : join? t with
  | none => rw [joinPairs, hj, Option.getD_none]
  | some u =>
    rw [joinPairs, hj, Option.getD_some]
    exact join?_of_unpaired h hj

theorem isHigh_pair {c d : CodePoint} (hc : c.isHigh = true) (hd : d.isLow = true) :
    (pair c d).isHigh = false := by
  simp only [CodePoint.isHigh, CodePoint.isLow, Bool.and_eq_true, decide_eq_true_eq] at hc hd
  have hlt : 0x10000 + (c.val - 0xD800) * 0x400 + (d.val - 0xDC00) < 0x110000 := by omega
  have hval : (pair c d).val = 0x10000 + (c.val - 0xD800) * 0x400 + (d.val - 0xDC00) := by
    rw [pair, CodePoint.ofNat, dif_pos hlt]
  simp only [CodePoint.isHigh, hval, Bool.and_eq_false_iff, decide_eq_false_iff_not]
  omega

theorem isHigh_of_join? {t u : Text} (h : join? t = some u) : ∀ c ∈ u, c.isHigh = false := by
  induction t using join?.induct generalizing u with
  | case1 => simp_all [join?]
  | case2 c hc d rest hd ih =>
    rw [join?.eq_def] at h
    simp only [hc, hd, if_true] at h
    obtain ⟨u', hu', rfl⟩ := Option.map_eq_some_iff.1 h
    exact List.forall_mem_cons.2 ⟨isHigh_pair hc hd, ih hu'⟩
  | case3 c hc d rest hd => simp [join?, hc, hd] at h
  | case4 c hc => simp [join?, hc] at h
  | case5 c rest hc hl =>
    rw [join?.eq_def] at h
    simp [hc, hl] at h
  | case6 c rest hc hl ih =>
    rw [join?.eq_def] at h
    simp only [hc, hl, if_false, Bool.false_eq_true] at h
    obtain ⟨u', hu', rfl⟩ := Option.map_eq_some_iff.1 h
    exact List.forall_mem_cons.2 ⟨by simpa using hc, ih hu'⟩

theorem unpaired_of_isHigh {t : Text} (h : ∀ c ∈ t, c.isHigh = false) : Unpaired t := by
  induction t with
  | nil => exact .nil
  | cons c rest ih =>
    obtain ⟨hc, hrest⟩ := List.forall_mem_cons.1 h
    refine List.isChain_cons.2 ⟨fun d _ hcd => ?_, ih hrest⟩
    rw [hc] at hcd
    exact Bool.false_ne_true hcd.1

theorem joinPairs_joinPairs (t : Text) : joinPairs (joinPairs t) = joinPairs t := by
  cases hj : join? t with
  | none => simp only [joinPairs, hj, Option.getD_none]
  | some u =>
    have hu : joinPairs t = u := by rw [joinPairs, hj, Option.getD_some]
    rw [hu]
    exact joinPairs_of_unpaired (unpaired_of_isHigh (isHigh_of_join? hj))

end Utf16

namespace Escape

/-- How many code points an escape of a string takes after the backslash, `c` the first of them:
`u` wants four hexadecimal digits or a number in braces, `x` two, a digit is only a null that no
digit follows, a line end is taken whole, and any other code point stands alone. -/
def spellingSize? (c : CodePoint) (rest : Text) : Option Nat :=
  if c.val = 0x75 then
    match bracedHex? rest, exactHex? 4 rest with
    | some digits, _ => if Text.hexNumber digits < 0x110000 then some (digits.length + 3) else none
    | none, some _ => some 5
    | none, none => none
  else if c.val = 0x78 then (exactHex? 2 rest).map fun _ => 3
  else if c.isDigit then
    if c.val = 0x30 ∧ rest.head?.all (fun d => !d.isDigit) then some 1 else none
  else if c.val = 0x0D ∧ rest.head?.any (fun d => d.val == 0x0A) then some 2
  else some 1

/-- A text cut where a double-quoted string ends that began before it, `skip` code points of an
escape being still to come: what stands before the closing quote, and what stands behind it. There
is none when a line ends inside the string, an escape is none of the language, or no quote closes
it. -/
def closeFrom : Nat → Text → Option (Text × Text)
  | _, [] => none
  | skip + 1, c :: rest => (closeFrom skip rest).map fun (body, after) => (c :: body, after)
  | 0, c :: rest =>
    if c.val = 0x22 then some ([], rest)
    else if c.val = 0x0A ∨ c.val = 0x0D then none
    else if c.val = 0x5C then
      match rest with
      | [] => none
      | d :: after =>
        match spellingSize? d after with
        | none => none
        | some size => (closeFrom size rest).map fun (body, after) => (c :: body, after)
    else (closeFrom 0 rest).map fun (body, after) => (c :: body, after)

/-- The double-quoted string token at the front of a text: its body, and what stands behind it. -/
def token? : Text → Option (Text × Text)
  | [] => none
  | c :: rest => if c.val = 0x22 then closeFrom 0 rest else none

/-- A text that is one double-quoted string token: it holds no line end, it can be written as UTF-8,
and whatever follows it, the token that starts with it ends with its last code point. -/
structure StringToken (t : Text) : Prop where
  lines : ∀ c ∈ t, c.val ≠ 0x0A ∧ c.val ≠ 0x0D
  encodable : (Utf8.encode? t).isSome = true
  closes : ∀ after, token? (t ++ after) = some (Text.inner 1 t, after)

/-- How a literal may write a code point: as itself, by a letter or a mark behind a backslash, or by
its number. -/
inductive Spelled (c : CodePoint) : Text → Prop
  | plain (hquote : c.val ≠ 0x22) (hslash : c.val ≠ 0x5C) (hcontrol : 0x20 ≤ c.val)
      (hsurrogate : c.isSurrogate = false) : Spelled c [c]
  | short (d : CodePoint) (hd : 0x20 ≤ d.val ∧ d.val < 0x80) (hdigit : d.isDigit = false)
      (hu : d.val ≠ 0x75) (hx : d.val ≠ 0x78)
      (hreads : ∀ rest, reading d rest = .ok ⟨[c], 1⟩) : Spelled c [CodePoint.ofNat 0x5C, d]
  | number (h : c.val < 0x10000) :
      Spelled c (CodePoint.ofNat 0x5C :: CodePoint.ofNat 0x75 :: Text.hex 4 c.val)

theorem eq_ofNat {c : CodePoint} {n : Nat} (h : c.val = n) : c = CodePoint.ofNat n := by
  subst h
  rw [CodePoint.ofNat, dif_pos c.isLt]

theorem spelled_number {c : CodePoint} (h : c.val < 0x10000) :
    Spelled c ("\\u" ++ Text.hex 4 c.val) := by
  have hlead : Text.ofString "\\u" = [CodePoint.ofNat 0x5C, CodePoint.ofNat 0x75] := by decide +kernel
  rw [hlead, List.cons_append, List.cons_append, List.nil_append]
  exact .number h

theorem spelled_encodeChar (c : CodePoint) : Spelled c (encodeChar c) := by
  by_cases hsurrogate : c.isSurrogate = true
  · have hlt : c.val < 0x10000 := by
      simp only [CodePoint.isSurrogate, Bool.and_eq_true, decide_eq_true_eq] at hsurrogate
      omega
    rw [encodeChar, if_pos hsurrogate]
    exact spelled_number hlt
  rw [encodeChar, if_neg hsurrogate, Json.escapeChar]
  -- The seven characters that have a letter of their own, or stand behind a backslash themselves.
  split_ifs with hquote hslash hfeed hreturn htab hform hback hcontrol
  · rw [eq_ofNat hquote]
    exact .short (CodePoint.ofNat 0x22) (by decide) (by decide) (by decide) (by decide) fun _ => rfl
  · rw [eq_ofNat hslash]
    exact .short (CodePoint.ofNat 0x5C) (by decide) (by decide) (by decide) (by decide) fun _ => rfl
  · rw [eq_ofNat hfeed]
    exact .short (CodePoint.ofNat 0x6E) (by decide) (by decide) (by decide) (by decide) fun _ => rfl
  · rw [eq_ofNat hreturn]
    exact .short (CodePoint.ofNat 0x72) (by decide) (by decide) (by decide) (by decide) fun _ => rfl
  · rw [eq_ofNat htab]
    exact .short (CodePoint.ofNat 0x74) (by decide) (by decide) (by decide) (by decide) fun _ => rfl
  · rw [eq_ofNat hform]
    exact .short (CodePoint.ofNat 0x66) (by decide) (by decide) (by decide) (by decide) fun _ => rfl
  · rw [eq_ofNat hback]
    exact .short (CodePoint.ofNat 0x62) (by decide) (by decide) (by decide) (by decide) fun _ => rfl
  · exact spelled_number (by omega)
  · exact .plain hquote hslash (by omega) (by simpa using hsurrogate)

theorem hex_front {n : Nat} (h : n < 0x10000) (rest : Text) :
    bracedHex? (Text.hex 4 n ++ rest) = none ∧
      exactHex? 4 (Text.hex 4 n ++ rest) = some (Text.hex 4 n) := by
  have hlength : (Text.hex 4 n).length = 4 := Text.length_hex (by decide) (by simpa using h)
  have hdigits : ∀ c ∈ Text.hex 4 n, c.isHex = true := fun c hc => Text.isHex_of_mem_hex hc
  constructor
  · cases hhex : Text.hex 4 n with
    | nil => simp [hhex] at hlength
    | cons d ds =>
      have hd : d.isHex = true := hdigits d (by simp [hhex])
      have hne : (d.val == 0x7B) = false := by
        refine beq_false_of_ne fun hbrace => ?_
        rw [eq_ofNat hbrace] at hd
        exact absurd hd (by decide)
      simp only [List.cons_append, bracedHex?, hne, Bool.false_and, Bool.false_eq_true, if_false]
  · rw [exactHex?, List.take_left' hlength]
    exact if_pos ⟨hlength, List.all_eq_true.2 hdigits⟩

theorem reading_number {c : CodePoint} (h : c.val < 0x10000) (rest : Text) :
    reading (CodePoint.ofNat 0x75) (Text.hex 4 c.val ++ rest) = .ok ⟨[c], 5⟩ := by
  obtain ⟨hbrace, hfour⟩ := hex_front h rest
  have hpoint : point (Text.hexNumber (Text.hex 4 c.val)) = .ok [c] := by
    rw [Text.hexNumber_hex, point, dif_pos c.isLt]
  have hu : (CodePoint.ofNat 0x75).val = 0x75 := rfl
  simp only [reading, hu, if_true, hbrace, hfour, hpoint]
  rfl

theorem spellingSize?_number {c : CodePoint} (h : c.val < 0x10000) (rest : Text) :
    spellingSize? (CodePoint.ofNat 0x75) (Text.hex 4 c.val ++ rest) = some 5 := by
  obtain ⟨hbrace, hfour⟩ := hex_front h rest
  have hu : (CodePoint.ofNat 0x75).val = 0x75 := rfl
  simp only [spellingSize?, hu, if_true, hbrace, hfour]

theorem unescapeFrom_append (lead rest : Text) :
    unescapeFrom lead.length (lead ++ rest) = unescapeFrom 0 rest := by
  induction lead with
  | nil => rfl
  | cons c lead ih => rw [List.length_cons, List.cons_append, unescapeFrom, ih]

theorem closeFrom_append (lead rest : Text) :
    closeFrom lead.length (lead ++ rest) =
      (closeFrom 0 rest).map fun (body, after) => (lead ++ body, after) := by
  induction lead with
  | nil => cases h : closeFrom 0 rest <;> simp [h]
  | cons c lead ih =>
    rw [List.length_cons, List.cons_append, closeFrom, ih, Option.map_map]
    rfl

theorem unescapeFrom_escape {d : CodePoint} {after : Text} {r : Reading}
    (h : reading d after = .ok r) :
    unescapeFrom 0 (CodePoint.ofNat 0x5C :: d :: after) =
      (unescapeFrom r.size (d :: after)).map (r.value ++ ·) := by
  have hslash : (CodePoint.ofNat 0x5C).val = 0x5C := rfl
  rw [unescapeFrom.eq_def]
  simp only [hslash, if_true, h]
  cases hmore : unescapeFrom r.size (d :: after) with
  | error f => simp only [bind, Except.bind, Except.map, hmore]
  | ok more => simp only [bind, Except.bind, Except.map, pure, Except.pure, hmore]

theorem closeFrom_escape {d : CodePoint} {after : Text} {size : Nat}
    (h : spellingSize? d after = some size) :
    closeFrom 0 (CodePoint.ofNat 0x5C :: d :: after) =
      (closeFrom size (d :: after)).map fun (body, after) =>
        (CodePoint.ofNat 0x5C :: body, after) := by
  have hquote : ¬ (CodePoint.ofNat 0x5C).val = 0x22 := by decide
  have hline : ¬ ((CodePoint.ofNat 0x5C).val = 0x0A ∨ (CodePoint.ofNat 0x5C).val = 0x0D) := by
    decide
  have hslash : (CodePoint.ofNat 0x5C).val = 0x5C := rfl
  rw [closeFrom.eq_def]
  simp only [if_neg hquote, if_neg hline, if_pos hslash, h]

theorem unescapeFrom_spelled {c : CodePoint} {t : Text} (h : Spelled c t) (rest : Text) :
    unescapeFrom 0 (t ++ rest) = (unescapeFrom 0 rest).map (c :: ·) := by
  cases h with
  | plain _ hslash _ _ =>
    cases rest with
    | nil => rfl
    | cons d rest =>
      rw [List.singleton_append, unescapeFrom.eq_def]
      simp only [hslash, if_false]
  | short d _ _ _ _ hreads =>
    have hskip := unescapeFrom_append [d] rest
    rw [List.singleton_append, List.length_singleton] at hskip
    rw [List.cons_append, List.singleton_append, unescapeFrom_escape (hreads rest), hskip]
    rfl
  | number h =>
    have hlength : (Text.hex 4 c.val).length = 4 := Text.length_hex (by decide) (by simpa using h)
    have hskip := unescapeFrom_append (CodePoint.ofNat 0x75 :: Text.hex 4 c.val) rest
    rw [List.length_cons, hlength, List.cons_append] at hskip
    rw [List.cons_append, List.cons_append, unescapeFrom_escape (reading_number h rest), hskip]
    rfl

theorem closeFrom_spelled {c : CodePoint} {t : Text} (h : Spelled c t) (rest : Text) :
    closeFrom 0 (t ++ rest) =
      (closeFrom 0 rest).map fun (body, after) => (t ++ body, after) := by
  cases h with
  | plain hquote hslash hcontrol _ =>
    have hline : ¬ (c.val = 0x0A ∨ c.val = 0x0D) := by omega
    rw [List.singleton_append, closeFrom.eq_def]
    simp only [if_neg hquote, if_neg hline, if_neg hslash]
    rfl
  | short d hd hdigit hu hx _ =>
    have hreturn : d.val ≠ 0x0D := by omega
    have hsize : spellingSize? d rest = some 1 := by
      simp only [spellingSize?, hu, hx, hdigit, hreturn, false_and, Bool.false_eq_true, if_false]
    have hskip := closeFrom_append [d] rest
    rw [List.singleton_append, List.length_singleton] at hskip
    rw [List.cons_append, List.singleton_append, closeFrom_escape hsize, hskip, Option.map_map]
    rfl
  | number h =>
    have hlength : (Text.hex 4 c.val).length = 4 := Text.length_hex (by decide) (by simpa using h)
    have hskip := closeFrom_append (CodePoint.ofNat 0x75 :: Text.hex 4 c.val) rest
    rw [List.length_cons, hlength, List.cons_append] at hskip
    rw [List.cons_append, List.cons_append, closeFrom_escape (spellingSize?_number h rest), hskip,
      Option.map_map]
    rfl

theorem visible_of_spelled {c : CodePoint} {t : Text} (h : Spelled c t) :
    ∀ d ∈ t, 0x20 ≤ d.val ∧ d.isSurrogate = false := by
  have hslash : 0x20 ≤ (CodePoint.ofNat 0x5C).val ∧ (CodePoint.ofNat 0x5C).isSurrogate = false := by
    decide
  have hlow : ∀ d : CodePoint, 0x20 ≤ d.val → d.val < 0x80 →
      0x20 ≤ d.val ∧ d.isSurrogate = false := by
    intro d hge hlt
    refine ⟨hge, ?_⟩
    simp only [CodePoint.isSurrogate, Bool.and_eq_false_iff, decide_eq_false_iff_not]
    omega
  cases h with
  | plain _ _ hcontrol hsurrogate =>
    intro d hd
    rw [List.mem_singleton.1 hd]
    exact ⟨hcontrol, hsurrogate⟩
  | short e he _ _ _ _ =>
    refine List.forall_mem_cons.2 ⟨hslash, fun d hd => ?_⟩
    rw [List.mem_singleton.1 hd]
    exact hlow e he.1 he.2
  | number _ =>
    refine List.forall_mem_cons.2 ⟨hslash, List.forall_mem_cons.2 ⟨by decide, fun d hd => ?_⟩⟩
    have hhex := Text.isHex_of_mem_hex hd
    have hrange : 0x30 ≤ d.val ∧ d.val ≤ 0x66 := by
      simp only [CodePoint.isHex, CodePoint.hexValue?] at hhex
      split_ifs at hhex <;> simp_all <;> omega
    exact hlow d (by omega) (by omega)

theorem unescapeFrom_flatMap (v : Text) : unescapeFrom 0 (v.flatMap encodeChar) = .ok v := by
  induction v with
  | nil => rfl
  | cons c rest ih =>
    rw [List.flatMap_cons, unescapeFrom_spelled (spelled_encodeChar c), ih]
    rfl

theorem closeFrom_flatMap (v after : Text) :
    closeFrom 0 (v.flatMap encodeChar ++ CodePoint.ofNat 0x22 :: after) =
      some (v.flatMap encodeChar, after) := by
  induction v with
  | nil => rfl
  | cons c rest ih =>
    rw [List.flatMap_cons, List.append_assoc, closeFrom_spelled (spelled_encodeChar c), ih]
    rfl

theorem visible_flatMap (v : Text) :
    ∀ d ∈ v.flatMap encodeChar, 0x20 ≤ d.val ∧ d.isSurrogate = false := by
  intro d hd
  obtain ⟨c, _, hmem⟩ := List.mem_flatMap.1 hd
  exact visible_of_spelled (spelled_encodeChar c) d hmem

theorem foldCrLf_of_visible {t : Text} (h : ∀ c ∈ t, 0x20 ≤ c.val) : Text.foldCrLf t = t := by
  induction t with
  | nil => rfl
  | cons c rest ih =>
    obtain ⟨hc, hrest⟩ := List.forall_mem_cons.1 h
    rw [Text.foldCrLf.eq_def]
    cases rest with
    | nil => rfl
    | cons d rest =>
      have hreturn : ¬ (c.val = 0x0D ∧ d.val = 0x0A) := by omega
      simp only [hreturn, if_false, ih hrest]

theorem encode_eq (v : Text) :
    encode v = CodePoint.ofNat 0x22 :: (v.flatMap encodeChar ++ [CodePoint.ofNat 0x22]) := rfl

theorem inner_encode (v : Text) : Text.inner 1 (encode v) = v.flatMap encodeChar := by
  rw [encode_eq, Text.inner, List.drop_one, List.tail_cons]
  refine List.take_left' ?_
  simp only [List.length_cons, List.length_append, List.length_nil]
  omega

theorem stringToken_encode (v : Text) : StringToken (encode v) where
  lines := by
    have hquote : (CodePoint.ofNat 0x22).val ≠ 0x0A ∧ (CodePoint.ofNat 0x22).val ≠ 0x0D := by decide
    rw [encode_eq]
    refine List.forall_mem_cons.2 ⟨hquote, List.forall_mem_append.2 ⟨fun c hc => ?_, ?_⟩⟩
    · have hvisible := (visible_flatMap v c hc).1
      omega
    · intro c hc
      rw [List.mem_singleton.1 hc]
      exact hquote
  encodable := by
    have hquote : (CodePoint.ofNat 0x22).isSurrogate = false := by decide
    rw [encode_eq]
    refine Text.isSome_encode? (List.forall_mem_cons.2 ⟨hquote, List.forall_mem_append.2 ⟨?_, ?_⟩⟩)
    · exact fun c hc => (visible_flatMap v c hc).2
    · intro c hc
      rw [List.mem_singleton.1 hc]
      exact hquote
  closes := by
    intro after
    have hquote : (CodePoint.ofNat 0x22).val = 0x22 := rfl
    rw [inner_encode, encode_eq, List.cons_append, List.append_assoc, List.singleton_append, token?,
      if_pos hquote, closeFrom_flatMap]

theorem decode_inner_encode (v : Text) :
    decode (Text.inner 1 (encode v)) = .ok (Utf16.joinPairs v) := by
  have hvisible : ∀ c ∈ v.flatMap encodeChar, 0x20 ≤ c.val := fun c hc => (visible_flatMap v c hc).1
  rw [inner_encode, decode, foldCrLf_of_visible hvisible, unescapeFrom_flatMap]
  rfl

theorem joinPairs_of_decode {raw v : Text} (h : decode raw = .ok v) : Utf16.joinPairs v = v := by
  rw [decode] at h
  cases hu : unescapeFrom 0 (Text.foldCrLf raw) with
  | error f =>
    rw [hu] at h
    cases h
  | ok u =>
    rw [hu] at h
    have hv : Utf16.joinPairs u = v := Except.ok.inj h
    rw [← hv]
    exact Utf16.joinPairs_joinPairs u

end Escape

end Phrasebook
