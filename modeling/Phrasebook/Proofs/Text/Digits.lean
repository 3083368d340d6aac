import Mathlib.Data.List.Induction
import Mathlib.Data.Nat.Digits.Defs
import Phrasebook.Text.Basic

/-! Digits read back: the digits written for a number, hexadecimal or decimal, are digits, they spell
the number again, and there are as many as asked for when the number is small enough. -/

namespace Phrasebook.Text

theorem hexValue?_digitChar {n : Nat} (h : n < 16) :
    (CodePoint.ofChar n.digitChar).hexValue? = some n := by
  have hall : ∀ k < 16, (CodePoint.ofChar (Nat.digitChar k)).hexValue? = some k := by decide
  exact hall n h

def hexDigits (n : Nat) : Text := (Nat.toDigits 16 n).map CodePoint.ofChar

theorem hexDigits_of_lt {n : Nat} (h : n < 16) : hexDigits n = [CodePoint.ofChar n.digitChar] := by
  rw [hexDigits, Nat.toDigits_of_lt_base h]
  rfl

theorem hexDigits_of_le {n : Nat} (h : 16 ≤ n) :
    hexDigits n = hexDigits (n / 16) ++ [CodePoint.ofChar (n % 16).digitChar] := by
  rw [hexDigits, Nat.toDigits_of_base_le (by decide) h, List.map_append]
  rfl

theorem hex_eq (width n : Nat) :
    hex width n = List.replicate (width - (hexDigits n).length) (CodePoint.ofChar '0') ++
      hexDigits n := by
  simp only [hex, ofString, String.toList_ofList, hexDigits]

theorem ofDigits_append (base : Nat) (xs ys : List Nat) :
    ofDigits base (xs ++ ys) = ys.foldl (fun n d => n * base + d) (ofDigits base xs) :=
  List.foldl_append

theorem ofDigits_replicate_zero (base k : Nat) (xs : List Nat) :
    ofDigits base (List.replicate k 0 ++ xs) = ofDigits base xs := by
  have hzero : ofDigits base (List.replicate k 0) = 0 := by
    induction k with
    | zero => rfl
    | succ k ih =>
      rw [List.replicate_succ']
      rw [ofDigits_append, ih]
      simp
  rw [ofDigits_append, hzero]
  rfl

theorem hexDigits_spec (n : Nat) :
    hexNumber (hexDigits n) = n ∧ ∀ c ∈ hexDigits n, c.isHex = true := by
  induction n using Nat.strong_induction_on with
  | _ n ih =>
    rcases Nat.lt_or_ge n 16 with h | h
    · have hvalue := hexValue?_digitChar h
      rw [hexDigits_of_lt h]
      refine ⟨by simp [hexNumber, ofDigits, hvalue], fun c hc => ?_⟩
      rw [List.mem_singleton.1 hc, CodePoint.isHex, hvalue]
      rfl
    · have hvalue := hexValue?_digitChar (Nat.mod_lt n (by decide : 16 > 0))
      obtain ⟨hnumber, hdigits⟩ := ih (n / 16) (Nat.div_lt_self (by omega) (by decide))
      rw [hexDigits_of_le h]
      constructor
      · have hsplit : n / 16 * 16 + n % 16 = n := Nat.div_add_mod' n 16
        rw [hexNumber, List.map_append, ofDigits_append]
        rw [hexNumber] at hnumber
        simp [hnumber, hvalue, hsplit]
      · intro c hc
        rcases List.mem_append.1 hc with hc | hc
        · exact hdigits c hc
        · rw [List.mem_singleton.1 hc, CodePoint.isHex, hvalue]
          rfl

theorem isHex_of_mem_hex {width n : Nat} {c : CodePoint} (h : c ∈ hex width n) : c.isHex = true := by
  rw [hex_eq] at h
  rcases List.mem_append.1 h with h | h
  · rw [List.eq_of_mem_replicate h]
    decide
  · exact (hexDigits_spec n).2 c h

theorem hexNumber_hex (width n : Nat) : hexNumber (hex width n) = n := by
  have hzero : ((CodePoint.ofChar '0').hexValue?).getD 0 = 0 := by decide
  rw [hex_eq, hexNumber, List.map_append, List.map_replicate, hzero, ofDigits_replicate_zero]
  exact (hexDigits_spec n).1

theorem length_hex {width n : Nat} (hwidth : 0 < width) (h : n < 16 ^ width) :
    (hex width n).length = width := by
  have hle : (hexDigits n).length ≤ width := by
    rw [hexDigits, List.length_map]
    exact Nat.toDigits_length 16 n width hwidth h
  rw [hex_eq, List.length_append, List.length_replicate]
  omega

theorem isDigit_digitChar {n : Nat} (h : n < 10) :
    (CodePoint.ofChar n.digitChar).isDigit = true ∧ (CodePoint.ofChar n.digitChar).val = 0x30 + n := by
  have hall : ∀ k < 10, (CodePoint.ofChar (Nat.digitChar k)).isDigit = true ∧
      (CodePoint.ofChar (Nat.digitChar k)).val = 0x30 + k := by decide
  exact hall n h

theorem ofNat_of_lt {n : Nat} (h : n < 10) : ofNat n = [CodePoint.ofChar n.digitChar] := by
  rw [ofNat, Nat.toDigits_of_lt_base h]
  simp [ofString]

theorem ofNat_of_le {n : Nat} (h : 10 ≤ n) :
    ofNat n = ofNat (n / 10) ++ [CodePoint.ofChar (n % 10).digitChar] := by
  rw [ofNat, Nat.toDigits_of_base_le (by decide) h]
  simp [ofNat, ofString]

theorem ofNat_spec (n : Nat) : digitNumber 10 (ofNat n) = n ∧ (∀ c ∈ ofNat n, c.isDigit = true) ∧
    ∃ c rest, ofNat n = c :: rest ∧ (c.val = 0x30 → n = 0) := by
  induction n using Nat.strong_induction_on with
  | _ n ih =>
    rcases Nat.lt_or_ge n 10 with h | h
    · obtain ⟨hdigit, hvalue⟩ := isDigit_digitChar h
      rw [ofNat_of_lt h]
      refine ⟨by simp [digitNumber, ofDigits, hvalue], fun c hc => ?_, _, _, rfl, ?_⟩
      · rwa [List.mem_singleton.1 hc]
      · intro hzero
        omega
    · obtain ⟨hdigit, hvalue⟩ := isDigit_digitChar (Nat.mod_lt n (by decide : 10 > 0))
      obtain ⟨hnumber, hdigits, c, rest, hhead, hfirst⟩ :=
        ih (n / 10) (Nat.div_lt_self (by omega) (by decide))
      rw [ofNat_of_le h]
      refine ⟨?_, ?_, c, rest ++ [CodePoint.ofChar (n % 10).digitChar], by rw [hhead]; rfl, ?_⟩
      · rw [digitNumber, List.map_append, ofDigits_append]
        rw [digitNumber] at hnumber
        have hsplit : n / 10 * 10 + n % 10 = n := Nat.div_add_mod' n 10
        simp [hnumber, hvalue, hsplit]
      · intro d hd
        rcases List.mem_append.1 hd with hd | hd
        · exact hdigits d hd
        · rwa [List.mem_singleton.1 hd]
      · intro hzero
        have := hfirst hzero
        omega

theorem length_ofNat {width n : Nat} (hwidth : 0 < width) (h : n < 10 ^ width) :
    (ofNat n).length ≤ width := by
  rw [ofNat, ofString, String.toList_ofList, List.length_map]
  exact Nat.toDigits_length 10 n width hwidth h

theorem digitNumber_lt {t : Text} (h : ∀ c ∈ t, c.isDigit = true) :
    digitNumber 10 t < 10 ^ t.length := by
  induction t using List.reverseRecOn with
  | nil => exact Nat.one_pos
  | append_singleton t c ih =>
    obtain ⟨ht, hc⟩ := List.forall_mem_append.1 h
    have hdigit := hc c (List.mem_singleton_self c)
    have hlt := ih ht
    simp only [CodePoint.isDigit, Bool.and_eq_true, decide_eq_true_eq] at hdigit
    rw [digitNumber, List.map_append, ofDigits_append, List.length_append, List.length_singleton,
      Nat.pow_succ]
    show digitNumber 10 t * 10 + (c.val - 0x30) < _
    omega

end Phrasebook.Text
