import Phrasebook.Proofs.Log
import Phrasebook.Proofs.Text.Utf8

/-! Where a text in UTF-8 can be cut. At an offset that no character lies across, the octets before
and after it are texts of their own, and so is what lies between two such offsets. The octets of a
character are one that tells their number and then octets of another kind, so what ends with a whole text
ends with no part of a character but its last. -/

namespace Phrasebook.Utf8

def IsText (bytes : Bytes) : Prop := ∃ t, encode? t = some bytes

def isCut (source : Bytes) (k : Nat) : Bool := (decode (source.take k)).toOption.isSome

def Cuts (source : Bytes) (a b : Nat) : Prop :=
  isCut source a = true ∧ isCut source b = true ∧ a ≤ b

variable {source : Bytes} {a b : Nat}

theorem isCut_iff : isCut source a = true ↔ IsText (source.take a) := by
  unfold isCut IsText
  constructor
  · intro h
    obtain ⟨t, ht⟩ := Option.isSome_iff_exists.1 h
    cases hd : decode (source.take a) with
    | error f =>
      rw [hd] at ht
      cases ht
    | ok s => exact ⟨s, encode?_of_decode hd⟩
  · rintro ⟨t, ht⟩
    rw [decode_of_encode? ht]
    rfl

theorem IsText.append {x y : Bytes} (hx : IsText x) (hy : IsText y) : IsText (x ++ y) := by
  obtain ⟨s, hs⟩ := hx
  obtain ⟨t, ht⟩ := hy
  exact ⟨s ++ t, encode?_append hs ht⟩

theorem decodeFrom_append {t : Text} {front : Bytes} (h : encode? t = some front) (pos : Nat)
    (rest : Bytes) :
    ∃ pos', decodeFrom pos none (front ++ rest) = (decodeFrom pos' none rest).map (t ++ ·) := by
  induction t generalizing front pos with
  | nil =>
    obtain rfl : [] = front := by simpa [encode?] using h
    refine ⟨pos, ?_⟩
    rw [List.nil_append]
    cases decodeFrom pos none rest <;> rfl
  | cons c t ih =>
    rw [encode?] at h
    split at h
    next first more hc ht =>
      obtain rfl : first ++ more = front := by simpa using h
      obtain ⟨mid, hmid⟩ := decodeFrom_encodePoint hc pos (more ++ rest)
      obtain ⟨pos', hpos'⟩ := ih ht mid
      refine ⟨pos', ?_⟩
      rw [List.append_assoc, hmid, hpos']
      cases decodeFrom pos' none rest <;> simp [Except.map]
    next => simp at h

theorem IsText.of_append {x y : Bytes} (hx : IsText x) (hxy : IsText (x ++ y)) : IsText y := by
  obtain ⟨s, hs⟩ := hx
  obtain ⟨u, hu⟩ := hxy
  obtain ⟨pos, hpos⟩ := decodeFrom_append hs 0 y
  have hdecode : decodeFrom 0 none (x ++ y) = .ok u := decode_of_encode? hu
  rw [hpos, except_map_eq_ok] at hdecode
  obtain ⟨t, ht, -⟩ := hdecode
  exact ⟨t, encode?_of_decodeFrom ht⟩

theorem slice_append {c : Nat} (hac : a ≤ c) (hcb : c ≤ b) :
    source.slice (some a) (some c) ++ source.slice (some c) (some b) =
      source.slice (some a) (some b) := by
  have hdrop : source.drop c = (source.drop a).drop (c - a) := by
    rw [List.drop_drop, Nat.add_sub_cancel' hac]
  have hlength : b - a = (c - a) + (b - c) := by omega
  simp only [Bytes.slice, Option.getD_some, List.drop_take]
  rw [hdrop, hlength, List.take_add]

theorem Cuts.isText (h : Cuts source a b) : IsText (source.slice (some a) (some b)) := by
  refine IsText.of_append (isCut_iff.1 h.1) ?_
  have hwhole : source.slice (some 0) (some a) ++ source.slice (some a) (some b) =
      source.slice (some 0) (some b) := slice_append (Nat.zero_le a) h.2.2
  simp only [Bytes.slice, Option.getD_some, List.drop_zero] at hwhole ⊢
  rw [hwhole]
  exact isCut_iff.1 h.2.1

theorem isCut_zero : isCut source 0 = true := isCut_iff.2 ⟨[], rfl⟩

end Phrasebook.Utf8

namespace Phrasebook.Utf8

variable {c d : CodePoint} {b b' : UInt8} {rest rest' u x y z bytes : Bytes} {t : Text}

def IsTail (b : UInt8) : Prop := 0x80 ≤ b.toNat ∧ b.toNat < 0xC0

def width (b : UInt8) : Nat :=
  if b.toNat < 0x80 then 1 else if b.toNat < 0xE0 then 2 else if b.toNat < 0xF0 then 3 else 4

theorem exists_lead (h : encodePoint c = some bytes) :
    ∃ b rest, bytes = b :: rest ∧ ¬ IsTail b ∧ (∀ r ∈ rest, IsTail r) ∧ bytes.length = width b := by
  have hc := c.isLt
  have htail (n : Nat) : IsTail (0x80 + n % 0x40).toUInt8 := by
    rw [IsTail, toNat_toUInt8 (by omega)]
    omega
  unfold encodePoint at h
  dsimp only at h
  split at h
  next hn =>
    cases h
    refine ⟨_, [], rfl, ?_, by simp, ?_⟩
    · rw [IsTail, toNat_toUInt8 (by omega)]
      omega
    · rw [width, toNat_toUInt8 (by omega), if_pos hn]
      rfl
  next hn =>
    split at h
    next hn' =>
      cases h
      refine ⟨_, _, rfl, ?_, List.forall_mem_singleton.2 (htail _), ?_⟩
      · rw [IsTail, toNat_toUInt8 (by omega)]
        omega
      · rw [width, toNat_toUInt8 (by omega), if_neg (by omega), if_pos (by omega)]
        rfl
    next hn' =>
      split at h
      next => cases h
      next =>
        split at h
        next hn'' =>
          cases h
          refine ⟨_, _, rfl, ?_, List.forall_mem_cons.2 ⟨htail _, List.forall_mem_singleton.2 (htail _)⟩, ?_⟩
          · rw [IsTail, toNat_toUInt8 (by omega)]
            omega
          · rw [width, toNat_toUInt8 (by omega), if_neg (by omega), if_neg (by omega), if_pos (by omega)]
            rfl
        next hn'' =>
          cases h
          refine ⟨_, _, rfl, ?_, List.forall_mem_cons.2 ⟨htail _,
            List.forall_mem_cons.2 ⟨htail _, List.forall_mem_singleton.2 (htail _)⟩⟩, ?_⟩
          · rw [IsTail, toNat_toUInt8 (by omega)]
            omega
          · rw [width, toNat_toUInt8 (by omega), if_neg (by omega), if_neg (by omega), if_neg (by omega)]
            rfl

theorem eq_of_lead_suffix (hb : ¬ IsTail b) (hrest : ∀ r ∈ rest, IsTail r) (hb' : ¬ IsTail b')
    (hrest' : ∀ r ∈ rest', IsTail r) (h : b :: rest <:+ x) (h' : b' :: rest' <:+ x) :
    b :: rest = b' :: rest' := by
  have hends {p q : UInt8} {ps qs : Bytes} (hp : ¬ IsTail p) (hqs : ∀ r ∈ qs, IsTail r)
      (h : p :: ps <:+ q :: qs) : p :: ps = q :: qs := by
    obtain h | h := List.suffix_cons_iff.1 h
    · exact h
    · exact (hp (hqs p (h.subset List.mem_cons_self))).elim
  obtain h | h := List.suffix_or_suffix_of_suffix h h'
  · exact hends hb hrest' h
  · exact (hends hb' hrest h).symm

theorem encodePoint_inj (h : encodePoint c = some bytes) (h' : encodePoint d = some bytes) : c = d := by
  have hone {e : CodePoint} (h : encodePoint e = some bytes) : encode? [e] = some bytes := by
    rw [encode?, h]
    simp [encode?]
  have hdecode := (decode_of_encode? (hone h)).symm.trans (decode_of_encode? (hone h'))
  exact (List.cons.inj (Except.ok.inj hdecode)).1

theorem exists_last_of_encode? (h : encode? t = some bytes) (hlast : t.getLast? = some d) :
    ∃ first more, bytes = first ++ more ∧ encodePoint d = some more := by
  induction t generalizing bytes with
  | nil => cases hlast
  | cons e t ih =>
    rw [encode?] at h
    split at h
    next first more he ht =>
      cases h
      cases t with
      | nil =>
        cases hlast
        cases ht
        exact ⟨[], first, by simp, he⟩
      | cons e' t =>
        obtain ⟨front, back, rfl, hback⟩ := ih ht (by simpa using hlast)
        exact ⟨first ++ front, back, (List.append_assoc _ _ _).symm, hback⟩
    next => cases h

theorem eq_last_of_suffix (hc : encodePoint c = some bytes) (hu : u <+: bytes) (hne : u ≠ [])
    (ht : encode? t = some y) (hlast : t.getLast? = some d) (h : u <:+ x ++ y) : d = c ∧ u = bytes := by
  obtain ⟨first, more, rfl, hd⟩ := exists_last_of_encode? ht hlast
  obtain ⟨b, rest, rfl, hb, hrest, hwidth⟩ := exists_lead hc
  obtain ⟨b', rest', rfl, hb', hrest', hwidth'⟩ := exists_lead hd
  obtain ⟨b'', part, rfl⟩ := List.exists_cons_of_ne_nil hne
  obtain ⟨rfl, hpart⟩ := List.cons_prefix_cons.1 hu
  have hend : b' :: rest' <:+ x ++ (first ++ b' :: rest') :=
    (List.suffix_append first _).trans (List.suffix_append x _)
  have heq := eq_of_lead_suffix hb (fun r hr => hrest r (hpart.subset hr)) hb' hrest' h hend
  obtain ⟨rfl, rfl⟩ := List.cons.inj heq
  -- The first octet tells how many there are, so the part is the whole.
  have hwhole := hu.eq_of_length (hwidth'.trans hwidth.symm)
  rw [hwhole] at hd
  exact ⟨encodePoint_inj hd hc, hwhole⟩

theorem exists_split_of_lead {t : Text} {x : Bytes} (hb : ¬ IsTail b)
    (h : encode? t = some (x ++ b :: rest)) :
    ∃ front behind, t = front ++ behind ∧ encode? front = some x ∧ encode? behind = some (b :: rest) := by
  induction t generalizing x with
  | nil =>
    rw [encode?] at h
    simp at h
  | cons c t ih =>
    cases x with
    | nil => exact ⟨[], c :: t, rfl, rfl, h⟩
    | cons b₁ x =>
      rw [encode?] at h
      split at h
      next first more hc hmore =>
        obtain ⟨b₂, tail, rfl, -, htail, -⟩ := exists_lead hc
        obtain ⟨rfl, hrest⟩ := List.cons.inj (Option.some.inj h)
        obtain ⟨mid, rfl, hmid⟩ | ⟨mid, hmid, hrest⟩ := List.append_eq_append_iff.1 hrest
        · subst hmid
          obtain ⟨front, behind, rfl, hfront, hbehind⟩ := ih hmore
          refine ⟨c :: front, behind, rfl, ?_, hbehind⟩
          rw [encode?, hc, hfront]
          rfl
        · cases mid with
          | nil =>
            refine ⟨[c], t, rfl, ?_, hmore.trans (congrArg some hrest.symm)⟩
            rw [encode?, hc, encode?, hmid, List.append_nil]
            simp
          | cons b₃ mid =>
            obtain ⟨rfl, -⟩ := List.cons.inj hrest
            exact (hb (htail _ (hmid ▸ by simp))).elim
      next => cases h

theorem exists_split_of_encode? {s t : Text} (ht : encode? t = some y) (hne : t ≠ [])
    (h : encode? s = some (x ++ (y ++ z))) :
    ∃ front behind, s = front ++ (t ++ behind) ∧ encode? front = some x := by
  obtain ⟨c, t, rfl⟩ := List.exists_cons_of_ne_nil hne
  have hy : ∃ b rest, y = b :: rest ∧ ¬ IsTail b := by
    rw [encode?] at ht
    split at ht
    next first more hc _ =>
      obtain ⟨b, rest, rfl, hb, -⟩ := exists_lead hc
      exact ⟨b, rest ++ more, (Option.some.inj ht).symm, hb⟩
    next => cases ht
  obtain ⟨b, rest, rfl, hb⟩ := hy
  obtain ⟨front, behind, rfl, hfront, hbehind⟩ := exists_split_of_lead hb h
  obtain ⟨r, hr⟩ := IsText.of_append ⟨_, ht⟩ ⟨_, hbehind⟩
  have hsame := (decode_of_encode? hbehind).symm.trans (decode_of_encode? (encode?_append ht hr))
  exact ⟨front, r, by rw [Except.ok.inj hsame], hfront⟩

end Phrasebook.Utf8
