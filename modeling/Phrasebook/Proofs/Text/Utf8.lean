import Mathlib.Tactic.Common
import Phrasebook.Fault

/-! The two directions of UTF-8 undo each other: decoding what encoding wrote gives the text back,
and octets that decode are the octets of the text they decode to. -/

namespace Phrasebook.Utf8

theorem val_ofNat {n : Nat} (h : n < 0x110000) : (CodePoint.ofNat n).val = n := by
  simp [CodePoint.ofNat, h]

theorem ofNat_val (c : CodePoint) : CodePoint.ofNat c.val = c := by
  simp [CodePoint.ofNat, c.isLt]

theorem toUInt8_eq {n : Nat} {b : UInt8} (h : n = b.toNat) : n.toUInt8 = b := by
  subst h
  exact UInt8.ofNat_toNat

theorem toNat_toUInt8 {n : Nat} (h : n < 256) : n.toUInt8.toNat = n := by
  simp only [Nat.toUInt8, UInt8.toNat_ofNat']
  omega

section Sequences

variable {b c d e : UInt8}

theorem encodePoint_one (hb : b.toNat < 0x80) : encodePoint (.ofNat b.toNat) = some [b] := by
  have hv := val_ofNat (n := b.toNat) (by omega)
  unfold encodePoint
  rw [hv, if_pos hb, toUInt8_eq rfl]

theorem encodePoint_two (hb : 0xC2 ≤ b.toNat) (hb' : b.toNat ≤ 0xDF) (hc : 0x80 ≤ c.toNat)
    (hc' : c.toNat ≤ 0xBF) :
    encodePoint (.ofNat ((b.toNat - 0xC0) * 0x40 + (c.toNat - 0x80))) = some [b, c] := by
  set n := (b.toNat - 0xC0) * 0x40 + (c.toNat - 0x80) with hn
  have hv := val_ofNat (n := n) (by omega)
  unfold encodePoint
  rw [hv, if_neg (by omega), if_pos (by omega), toUInt8_eq (b := b) (by omega),
    toUInt8_eq (b := c) (by omega)]

theorem encodePoint_three (hb : 0xE0 ≤ b.toNat) (hb' : b.toNat ≤ 0xEF) (hc : 0x80 ≤ c.toNat)
    (hc' : c.toNat ≤ 0xBF) (hd : 0x80 ≤ d.toNat) (hd' : d.toNat ≤ 0xBF)
    (hlong : b.toNat = 0xE0 → 0xA0 ≤ c.toNat) (hhalf : b.toNat = 0xED → c.toNat ≤ 0x9F) :
    encodePoint (.ofNat (((b.toNat - 0xE0) * 0x40 + (c.toNat - 0x80)) * 0x40 + (d.toNat - 0x80)))
      = some [b, c, d] := by
  set n := ((b.toNat - 0xE0) * 0x40 + (c.toNat - 0x80)) * 0x40 + (d.toNat - 0x80) with hn
  have hv := val_ofNat (n := n) (by omega)
  have hs : ¬ (CodePoint.ofNat n).isSurrogate = true := by
    simp only [CodePoint.isSurrogate, hv, Bool.and_eq_true, decide_eq_true_eq]
    omega
  unfold encodePoint
  rw [hv, if_neg (by omega), if_neg (by omega), if_neg hs, if_pos (by omega),
    toUInt8_eq (b := b) (by omega), toUInt8_eq (b := c) (by omega), toUInt8_eq (b := d) (by omega)]

theorem encodePoint_four (hb : 0xF0 ≤ b.toNat) (hb' : b.toNat ≤ 0xF4) (hc : 0x80 ≤ c.toNat)
    (hc' : c.toNat ≤ 0xBF) (hd : 0x80 ≤ d.toNat) (hd' : d.toNat ≤ 0xBF) (he : 0x80 ≤ e.toNat)
    (he' : e.toNat ≤ 0xBF) (hlong : b.toNat = 0xF0 → 0x90 ≤ c.toNat)
    (hlast : b.toNat = 0xF4 → c.toNat ≤ 0x8F) :
    encodePoint (.ofNat ((((b.toNat - 0xF0) * 0x40 + (c.toNat - 0x80)) * 0x40 + (d.toNat - 0x80))
      * 0x40 + (e.toNat - 0x80))) = some [b, c, d, e] := by
  set n := (((b.toNat - 0xF0) * 0x40 + (c.toNat - 0x80)) * 0x40 + (d.toNat - 0x80)) * 0x40 +
    (e.toNat - 0x80) with hn
  have hv := val_ofNat (n := n) (by omega)
  have hs : ¬ (CodePoint.ofNat n).isSurrogate = true := by
    simp only [CodePoint.isSurrogate, hv, Bool.and_eq_true, decide_eq_true_eq]
    omega
  unfold encodePoint
  rw [hv, if_neg (by omega), if_neg (by omega), if_neg hs, if_neg (by omega),
    toUInt8_eq (b := b) (by omega), toUInt8_eq (b := c) (by omega), toUInt8_eq (b := d) (by omega),
    toUInt8_eq (b := e) (by omega)]

end Sequences

section Decoding

variable {pos start seen due value : Nat} {b first low high : UInt8} {rest : Bytes} {t : Text}

theorem decodeFrom_last
    (h : decodeFrom pos (some ⟨first, start, seen, 1, low, high, value⟩) rest = .ok t) :
    ∃ c more t', rest = c :: more ∧ low.toNat ≤ c.toNat ∧ c.toNat ≤ high.toNat ∧
      t = .ofNat (value * 0x40 + (c.toNat - 0x80)) :: t' ∧
      decodeFrom (pos + 1) none more = .ok t' := by
  cases rest with
  | nil => simp [decodeFrom] at h
  | cons c more =>
    rw [decodeFrom] at h
    split at h
    next hc =>
      dsimp only at h
      rw [if_pos (Nat.le_refl 1)] at h
      cases hr : decodeFrom (pos + 1) none more with
      | error f => simp [hr, Except.map] at h
      | ok t' =>
        refine ⟨c, more, t', rfl, UInt8.le_iff_toNat_le.1 hc.1, UInt8.le_iff_toNat_le.1 hc.2, ?_, hr⟩
        simpa [hr, Except.map] using h.symm
    next => simp at h

theorem decodeFrom_inside
    (h : decodeFrom pos (some ⟨first, start, seen, due + 2, low, high, value⟩) rest = .ok t) :
    ∃ c more, rest = c :: more ∧ low.toNat ≤ c.toNat ∧ c.toNat ≤ high.toNat ∧
      decodeFrom (pos + 1) (some ⟨first, start, seen + 1, due + 1, 0x80, 0xBF,
        value * 0x40 + (c.toNat - 0x80)⟩) more = .ok t := by
  cases rest with
  | nil => simp [decodeFrom] at h
  | cons c more =>
    rw [decodeFrom] at h
    split at h
    next hc =>
      dsimp only at h
      rw [if_neg (by omega)] at h
      exact ⟨c, more, rfl, UInt8.le_iff_toNat_le.1 hc.1, UInt8.le_iff_toNat_le.1 hc.2, h⟩
    next => simp at h

theorem toNat_bound {x y z : UInt8} {n : Nat} (h : (if b = x then y else z).toNat = n) :
    (b.toNat = x.toNat ∧ n = y.toNat) ∨ (b.toNat ≠ x.toNat ∧ n = z.toNat) := by
  split at h
  next hb => exact .inl ⟨by rw [hb], h.symm⟩
  next hb => exact .inr ⟨fun hn => hb (UInt8.toNat_inj.1 hn), h.symm⟩

theorem decodeFrom_none_cons (h : decodeFrom pos none (b :: rest) = .ok t) :
    ∃ c t' first more pos', t = c :: t' ∧ b :: rest = first ++ more ∧ encodePoint c = some first ∧
      more.length ≤ rest.length ∧ decodeFrom pos' none more = .ok t' := by
  rw [decodeFrom] at h
  -- The first octet tells the length of the sequence and the bounds of the second octet.
  split at h
  next hb =>
    cases hr : decodeFrom (pos + 1) none rest with
    | error f => simp [hr, Except.map] at h
    | ok t' =>
      exact ⟨.ofNat b.toNat, t', [b], rest, pos + 1, by simpa [hr, Except.map] using h.symm, rfl,
        encodePoint_one (UInt8.lt_iff_toNat_lt.1 hb), Nat.le_refl _, hr⟩
  next hb =>
    unfold Pending.open? at h
    by_cases h2 : 0xC2 ≤ b ∧ b ≤ 0xDF
    · rw [if_pos h2] at h
      simp only [UInt8.le_iff_toNat_le] at h2
      obtain ⟨c, more, t', rfl, hc, hc', rfl, ht'⟩ := decodeFrom_last h
      exact ⟨_, t', [b, c], more, _, rfl, rfl, encodePoint_two h2.1 h2.2 hc hc', by simp, ht'⟩
    rw [if_neg h2] at h
    by_cases h3 : 0xE0 ≤ b ∧ b ≤ 0xEF
    · rw [if_pos h3] at h
      simp only [UInt8.le_iff_toNat_le] at h3
      obtain ⟨c, more, rfl, hc, hc', h⟩ := decodeFrom_inside h
      obtain ⟨d, more, t', rfl, hd, hd', rfl, ht'⟩ := decodeFrom_last h
      have hlow := toNat_bound (b := b) (x := 0xE0) (y := 0xA0) (z := 0x80) rfl
      have hhigh := toNat_bound (b := b) (x := 0xED) (y := 0x9F) (z := 0xBF) rfl
      simp only [UInt8.reduceToNat] at hlow hhigh h3 hd hd'
      refine ⟨_, t', [b, c, d], more, _, rfl, rfl,
        encodePoint_three h3.1 h3.2 ?_ ?_ hd hd' ?_ ?_, by simp; omega, ht'⟩ <;> omega
    rw [if_neg h3] at h
    by_cases h4 : 0xF0 ≤ b ∧ b ≤ 0xF4
    · rw [if_pos h4] at h
      simp only [UInt8.le_iff_toNat_le] at h4
      obtain ⟨c, more, rfl, hc, hc', h⟩ := decodeFrom_inside h
      obtain ⟨d, more, rfl, hd, hd', h⟩ := decodeFrom_inside h
      obtain ⟨e, more, t', rfl, he, he', rfl, ht'⟩ := decodeFrom_last h
      have hlow := toNat_bound (b := b) (x := 0xF0) (y := 0x90) (z := 0x80) rfl
      have hhigh := toNat_bound (b := b) (x := 0xF4) (y := 0x8F) (z := 0xBF) rfl
      simp only [UInt8.reduceToNat] at hlow hhigh h4 hd hd' he he'
      refine ⟨_, t', [b, c, d, e], more, _, rfl, rfl,
        encodePoint_four h4.1 h4.2 ?_ ?_ hd hd' he he' ?_ ?_, by simp; omega, ht'⟩ <;> omega
    rw [if_neg h4] at h
    simp at h

end Decoding

theorem encode?_of_decodeFrom {pos : Nat} {bytes : Bytes} {t : Text}
    (h : decodeFrom pos none bytes = .ok t) : encode? t = some bytes := by
  -- A code point takes one octet or more, so the induction is on their number.
  induction hn : bytes.length using Nat.strongRecOn generalizing pos bytes t with
  | _ n ih =>
    cases bytes with
    | nil =>
      obtain rfl : [] = t := by simpa [decodeFrom] using h
      rfl
    | cons b rest =>
      obtain ⟨c, t', first, more, pos', rfl, hb, hc, hl, ht'⟩ := decodeFrom_none_cons h
      have hm : encode? t' = some more := by
        refine ih more.length ?_ ht' rfl
        rw [← hn, List.length_cons]
        omega
      rw [encode?, hc, hm, hb]

theorem encode?_of_decode {bytes : Bytes} {t : Text} (h : decode bytes = .ok t) :
    encode? t = some bytes := encode?_of_decodeFrom h

section Reading

variable {pos start seen due value n m : Nat} {first low high : UInt8} (rest : Bytes)

theorem decodeFrom_step_last (hm : m < 256) (hlow : low.toNat ≤ m) (hhigh : m ≤ high.toNat) :
    decodeFrom pos (some ⟨first, start, seen, 1, low, high, value⟩) (m.toUInt8 :: rest) =
      (decodeFrom (pos + 1) none rest).map (.ofNat (value * 0x40 + (m - 0x80)) :: ·) := by
  rw [decodeFrom, if_pos, if_pos (Nat.le_refl 1), toNat_toUInt8 hm]
  simp only [UInt8.le_iff_toNat_le, toNat_toUInt8 hm]
  exact ⟨hlow, hhigh⟩

theorem decodeFrom_step_inside (hm : m < 256) (hlow : low.toNat ≤ m) (hhigh : m ≤ high.toNat) :
    decodeFrom pos (some ⟨first, start, seen, due + 2, low, high, value⟩) (m.toUInt8 :: rest) =
      decodeFrom (pos + 1) (some ⟨first, start, seen + 1, due + 1, 0x80, 0xBF,
        value * 0x40 + (m - 0x80)⟩) rest := by
  rw [decodeFrom, if_pos]
  · dsimp only
    rw [if_neg (by omega), toNat_toUInt8 hm]
    rfl
  · simp only [UInt8.le_iff_toNat_le, toNat_toUInt8 hm]
    exact ⟨hlow, hhigh⟩

theorem decodeFrom_step_open {p : Pending} (hn : 0x80 ≤ n) (hn' : n < 256)
    (hp : Pending.open? n.toUInt8 pos = some p) :
    decodeFrom pos none (n.toUInt8 :: rest) = decodeFrom (pos + 1) (some p) rest := by
  rw [decodeFrom, if_neg, hp]
  rw [UInt8.lt_iff_toNat_lt, toNat_toUInt8 hn']
  exact Nat.not_lt.2 hn

theorem toUInt8_eq_iff {x : UInt8} (hn : n < 256) : n.toUInt8 = x ↔ n = x.toNat := by
  rw [← UInt8.toNat_inj, toNat_toUInt8 hn]

theorem open?_two (h2 : 2 ≤ n) (hn : n < 0x20) : Pending.open? (0xC0 + n).toUInt8 pos =
    some ⟨(0xC0 + n).toUInt8, pos, 1, 1, 0x80, 0xBF, n⟩ := by
  have hC : 0xC0 + n < 256 := by omega
  simp only [Pending.open?, UInt8.le_iff_toNat_le, toNat_toUInt8 hC, UInt8.reduceToNat]
  rw [if_pos (by omega), Nat.add_sub_cancel_left]

theorem open?_three (hn : n < 0x10) : Pending.open? (0xE0 + n).toUInt8 pos =
    some ⟨(0xE0 + n).toUInt8, pos, 1, 2, if n = 0 then 0xA0 else 0x80,
      if n = 0x0D then 0x9F else 0xBF, n⟩ := by
  have hE : 0xE0 + n < 256 := by omega
  simp only [Pending.open?, UInt8.le_iff_toNat_le, toNat_toUInt8 hE, toUInt8_eq_iff hE,
    UInt8.reduceToNat]
  rw [if_neg (by omega), if_pos (by omega), Nat.add_sub_cancel_left]
  simp only [Nat.add_eq_left, show 0xE0 + n = 0xED ↔ n = 0x0D by omega]

theorem open?_four (hn : n < 5) : Pending.open? (0xF0 + n).toUInt8 pos =
    some ⟨(0xF0 + n).toUInt8, pos, 1, 3, if n = 0 then 0x90 else 0x80,
      if n = 4 then 0x8F else 0xBF, n⟩ := by
  have hF : 0xF0 + n < 256 := by omega
  simp only [Pending.open?, UInt8.le_iff_toNat_le, toNat_toUInt8 hF, toUInt8_eq_iff hF,
    UInt8.reduceToNat]
  rw [if_neg (by omega), if_neg (by omega), if_pos (by omega), Nat.add_sub_cancel_left]
  simp only [Nat.add_eq_left, show 0xF0 + n = 0xF4 ↔ n = 4 by omega]

end Reading

theorem decodeFrom_encodePoint {c : CodePoint} {bytes : Bytes} (h : encodePoint c = some bytes)
    (pos : Nat) (rest : Bytes) : ∃ pos', decodeFrom pos none (bytes ++ rest) =
      (decodeFrom pos' none rest).map (c :: ·) := by
  have hlt := c.isLt
  have hc : ∀ n, n = c.val → CodePoint.ofNat n = c := fun n hn => hn ▸ ofNat_val c
  unfold encodePoint at h
  dsimp only at h
  split at h
  next h1 =>
    cases h
    refine ⟨pos + 1, ?_⟩
    rw [List.singleton_append, decodeFrom, if_pos, hc _ (toNat_toUInt8 (by omega))]
    rw [UInt8.lt_iff_toNat_lt, toNat_toUInt8 (by omega)]
    exact h1
  next h1 =>
  split at h
  next h2 =>
    cases h
    refine ⟨pos + 1 + 1, ?_⟩
    rw [List.cons_append, List.singleton_append,
      decodeFrom_step_open _ (by omega) (by omega) (open?_two (by omega) (by omega)),
      decodeFrom_step_last, hc _ (by omega)]
    all_goals try simp only [UInt8.reduceToNat]
    all_goals omega
  next h2 =>
  split at h
  next => simp at h
  next hs =>
  simp only [CodePoint.isSurrogate, Bool.and_eq_true, decide_eq_true_eq] at hs
  split at h
  next h3 =>
    cases h
    refine ⟨pos + 1 + 1 + 1, ?_⟩
    rw [List.cons_append, List.cons_append, List.singleton_append,
      decodeFrom_step_open _ (by omega) (by omega) (open?_three (by omega)),
      decodeFrom_step_inside, decodeFrom_step_last, hc _ (by omega)]
    all_goals try split
    all_goals try simp only [UInt8.reduceToNat]
    all_goals omega
  next h3 =>
    cases h
    refine ⟨pos + 1 + 1 + 1 + 1, ?_⟩
    rw [List.cons_append, List.cons_append, List.cons_append, List.singleton_append,
      decodeFrom_step_open _ (by omega) (by omega) (open?_four (by omega)),
      decodeFrom_step_inside, decodeFrom_step_inside, decodeFrom_step_last, hc _ (by omega)]
    all_goals try split
    all_goals try simp only [UInt8.reduceToNat]
    all_goals omega

theorem decodeFrom_of_encode? {t : Text} {bytes : Bytes} (h : encode? t = some bytes) (pos : Nat) :
    decodeFrom pos none bytes = .ok t := by
  induction t generalizing bytes pos with
  | nil =>
    obtain rfl : [] = bytes := by simpa [encode?] using h
    rfl
  | cons c t ih =>
    rw [encode?] at h
    split at h
    next first more hc ht =>
      obtain rfl : first ++ more = bytes := by simpa using h
      obtain ⟨pos', hd⟩ := decodeFrom_encodePoint hc pos more
      rw [hd, ih ht pos']
      rfl
    next => simp at h

theorem decode_of_encode? {t : Text} {bytes : Bytes} (h : encode? t = some bytes) :
    decode bytes = .ok t := decodeFrom_of_encode? h 0

theorem decodeFault_eq_ok {bytes : Bytes} {t : Text} :
    decodeFault bytes = .ok t ↔ encode? t = some bytes := by
  constructor
  · intro h
    unfold decodeFault at h
    cases hd : decode bytes with
    | error f => simp [hd, Except.mapError] at h
    | ok t' =>
      obtain rfl : t' = t := by simpa [hd, Except.mapError] using h
      exact encode?_of_decode hd
  · intro h
    rw [decodeFault, decode_of_encode? h]
    rfl

theorem encode_eq_ok {bytes : Bytes} {t : Text} : encode t = .ok bytes ↔ encode? t = some bytes := by
  unfold encode
  cases encode? t <;> simp

theorem encode?_append {s t : Text} {a b : Bytes} (hs : encode? s = some a)
    (ht : encode? t = some b) : encode? (s ++ t) = some (a ++ b) := by
  induction s generalizing a with
  | nil =>
    obtain rfl : [] = a := by simpa [encode?] using hs
    exact ht
  | cons c s ih =>
    rw [encode?] at hs
    split at hs
    next first more hc hm =>
      obtain rfl : first ++ more = a := by simpa using hs
      rw [List.cons_append, encode?, hc, ih hm, List.append_assoc]
    next => simp at hs

end Phrasebook.Utf8
