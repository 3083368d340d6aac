import Phrasebook.Proofs.Text.Utf8

/-! Texts without surrogates: those that have a form in UTF-8. -/

namespace Phrasebook

namespace Text

/-- A text without surrogates. -/
def IsScalar (t : Text) : Prop := ∀ c ∈ t, c.isSurrogate = false

theorem IsScalar.append {t t' : Text} (h : t.IsScalar) (h' : t'.IsScalar) : (t ++ t').IsScalar :=
  List.forall_mem_append.2 ⟨h, h'⟩

theorem IsScalar.subset {t t' : Text} (h : t.IsScalar) (hsub : t' ⊆ t) : t'.IsScalar :=
  fun c hc => h c (hsub hc)

theorem isScalar_ofString (s : String) : (ofString s).IsScalar := by
  intro c hc
  obtain ⟨char, -, rfl⟩ := List.mem_map.1 hc
  have hvalid := char.valid
  simp only [UInt32.isValidChar, Nat.isValidChar] at hvalid
  show (decide (0xD800 ≤ char.val.toNat) && decide (char.val.toNat ≤ 0xDFFF)) = false
  rw [Bool.and_eq_false_iff, decide_eq_false_iff_not, decide_eq_false_iff_not]
  omega

theorem join_singleton (sep t : Text) : join sep [t] = t := by
  simp [join, List.intercalate]

theorem join_cons_cons (sep first t : Text) (more : List Text) :
    join sep (first :: t :: more) = first ++ (sep ++ join sep (t :: more)) := rfl

theorem join_of_append {P : Text → Prop} {sep : Text} {pieces : List Text} (hnil : P [])
    (happend : ∀ {t t' : Text}, P t → P t' → P (t ++ t')) (hsep : P sep) (h : ∀ t ∈ pieces, P t) :
    P (join sep pieces) := by
  induction pieces with
  | nil => exact hnil
  | cons a rest ih =>
    obtain ⟨ha, hrest⟩ := List.forall_mem_cons.1 h
    cases rest with
    | nil => rwa [join_singleton]
    | cons b rest =>
      rw [join_cons_cons]
      exact happend ha (happend hsep (ih hrest))

theorem mem_join {sep : Text} {pieces : List Text} {piece : Text} {c : CodePoint}
    (hpiece : piece ∈ pieces) (hc : c ∈ piece) : c ∈ join sep pieces := by
  induction pieces with
  | nil => cases hpiece
  | cons a rest ih =>
    cases rest with
    | nil =>
      obtain rfl := List.mem_singleton.1 hpiece
      rwa [join_singleton]
    | cons b rest =>
      rw [join_cons_cons]
      rcases List.mem_cons.1 hpiece with rfl | hpiece
      · exact List.mem_append_left _ hc
      · exact List.mem_append_right _ (List.mem_append_right _ (ih hpiece))

theorem isScalar_join {sep : Text} (hsep : sep.IsScalar) {pieces : List Text}
    (h : ∀ t ∈ pieces, t.IsScalar) : (join sep pieces).IsScalar :=
  join_of_append (fun _ hc => absurd hc List.not_mem_nil) IsScalar.append hsep h

theorem isScalar_of_encode? {t : Text} {bytes : Bytes} (h : Utf8.encode? t = some bytes) : t.IsScalar := by
  induction t generalizing bytes with
  | nil => exact fun c hc => absurd hc List.not_mem_nil
  | cons c rest ih =>
    rw [Utf8.encode?] at h
    split at h
    next first more hc hrest =>
      refine List.forall_mem_cons.2 ⟨?_, ih hrest⟩
      cases hsurrogate : c.isSurrogate with
      | false => rfl
      | true =>
        simp only [CodePoint.isSurrogate, Bool.and_eq_true, decide_eq_true_eq] at hsurrogate
        rw [Utf8.encodePoint] at hc
        rw [if_neg (by omega), if_neg (by omega), if_pos] at hc
        · cases hc
        · simpa [CodePoint.isSurrogate] using hsurrogate
    next => cases h

theorem encode_of_not_isScalar {t : Text} (h : ¬ t.IsScalar) : Utf8.encode t = .error .unencodable := by
  unfold Utf8.encode
  cases hbytes : Utf8.encode? t with
  | none => rfl
  | some bytes => exact (h (isScalar_of_encode? hbytes)).elim

theorem isScalar_decodeD (bytes : Bytes) : (Utf8.decodeD bytes).IsScalar := by
  unfold Utf8.decodeD
  split
  next t h => exact isScalar_of_encode? (Utf8.encode?_of_decode h)
  next => exact fun c hc => absurd hc List.not_mem_nil

theorem isSome_encodePoint {c : CodePoint} (h : c.isSurrogate = false) :
    (Utf8.encodePoint c).isSome = true := by
  simp only [Utf8.encodePoint, h, Bool.false_eq_true, if_false]
  split
  · rfl
  split
  · rfl
  split <;> rfl

theorem isSome_encode? {t : Text} (h : t.IsScalar) : (Utf8.encode? t).isSome = true := by
  induction t with
  | nil => rfl
  | cons c rest ih =>
    obtain ⟨hc, hrest⟩ := List.forall_mem_cons.1 h
    obtain ⟨bytes, hbytes⟩ := Option.isSome_iff_exists.1 (isSome_encodePoint hc)
    obtain ⟨more, hmore⟩ := Option.isSome_iff_exists.1 (ih hrest)
    simp only [Utf8.encode?, hbytes, hmore, Option.isSome_some]

end Text

end Phrasebook
