import Phrasebook.Proofs.Json.RoundTrip
import Phrasebook.Proofs.Literal.Escapes
import Phrasebook.Settings.File

/-! The characters of a written value: those of the texts in it, and marks between them. So a value has
a form in UTF-8 exactly if the texts in it have one, and is read back from that. -/

namespace Phrasebook

/-- A character that writing puts between the texts of a value: an ASCII one, and no carriage return. -/
def CodePoint.IsMark (c : CodePoint) : Prop := c.val < 0x80 ∧ c.val ≠ 0x0D

instance (c : CodePoint) : Decidable c.IsMark := inferInstanceAs (Decidable (_ ∧ _))

theorem CodePoint.isMark_of_isDigit {c : CodePoint} (h : c.isDigit = true) : c.IsMark := by
  simp only [CodePoint.isDigit, Bool.and_eq_true, decide_eq_true_eq] at h
  exact ⟨by omega, by omega⟩

theorem CodePoint.isMark_of_isHex {c : CodePoint} (h : c.isHex = true) : c.IsMark := by
  have hvalue : ¬ (0x66 < c.val ∨ c.val < 0x30) := by
    intro hc
    rw [CodePoint.isHex, CodePoint.hexValue?] at h
    simp only [Bool.and_eq_true, decide_eq_true_eq] at h
    rw [if_neg (by omega), if_neg (by omega), if_neg (by omega)] at h
    cases h
  exact ⟨by omega, by omega⟩

namespace Text

def IsMarks (t : Text) : Prop := ∀ c ∈ t, c.IsMark

instance (t : Text) : Decidable t.IsMarks := inferInstanceAs (Decidable (∀ c ∈ t, c.IsMark))

variable {t t' : Text}

theorem IsMarks.append (h : t.IsMarks) (h' : t'.IsMarks) : (t ++ t').IsMarks :=
  List.forall_mem_append.2 ⟨h, h'⟩

theorem isMarks_nil : IsMarks [] := fun _ hc => absurd hc List.not_mem_nil

theorem isMarks_ofNat (n : Nat) : (ofNat n).IsMarks :=
  fun c hc => CodePoint.isMark_of_isDigit ((ofNat_spec n).2.1 c hc)

theorem isMarks_ofInt (n : Int) : (ofInt n).IsMarks := by
  unfold ofInt
  split
  · exact List.forall_mem_cons.2 ⟨by decide, isMarks_ofNat _⟩
  · exact isMarks_ofNat _

end Text

namespace Decimal

open Text

def AreDigits (ds : List Nat) : Prop := ∀ d ∈ ds, d < 10

theorem areDigits_digitsOf (n : Nat) : AreDigits (digitsOf n) := by
  unfold digitsOf
  split
  next => exact fun d hd => absurd hd List.not_mem_nil
  next =>
    intro d hd
    obtain ⟨c, hc, rfl⟩ := List.mem_map.1 hd
    have hdigit : (CodePoint.ofChar c).isDigit = true := by
      refine (ofNat_spec n).2.1 _ ?_
      rw [ofNat, ofString, String.toList_ofList]
      exact List.mem_map_of_mem hc
    simp only [CodePoint.isDigit, Bool.and_eq_true, decide_eq_true_eq] at hdigit
    have hval : (CodePoint.ofChar c).val = c.toNat := rfl
    omega

theorem isMarks_digitText {ds : List Nat} (h : AreDigits ds) : (digitText ds).IsMarks := by
  intro c hc
  obtain ⟨d, hd, rfl⟩ := List.mem_map.1 hc
  have hlt := h d hd
  have hval : (CodePoint.ofNat (48 + d)).val = 48 + d := Utf8.val_ofNat (by omega)
  exact ⟨by omega, by omega⟩

theorem isMarks_zeros (n : Nat) : (zeros n).IsMarks := by
  intro c hc
  rw [List.eq_of_mem_replicate hc]
  decide

theorem isMarks_sign (negative : Bool) : (sign negative).IsMarks := by
  cases negative <;> decide

theorem AreDigits.subset {ds ds' : List Nat} (h : AreDigits ds) (hsub : ds' ⊆ ds) : AreDigits ds' :=
  fun d hd => h d (hsub hd)

theorem isMarks_write {d : Digits} (h : AreDigits d.digits) : d.write.IsMarks := by
  have hpoint : IsMarks "." := by decide
  have htake (n : Nat) : (digitText (d.digits.take n)).IsMarks :=
    isMarks_digitText (h.subset (List.take_subset n d.digits))
  have hdrop (n : Nat) : (digitText (d.digits.drop n)).IsMarks :=
    isMarks_digitText (h.subset (List.drop_subset n d.digits))
  unfold Digits.write
  dsimp only
  split
  · split
    · exact .append (.append (by decide) (isMarks_zeros _)) (isMarks_digitText h)
    · split
      · exact .append (.append (isMarks_digitText h) (isMarks_zeros _)) (by decide)
      · exact .append (.append (htake _) hpoint) (hdrop _)
  · refine .append (.append (.append (.append (.append (htake 1) ?_) (by decide)) ?_) (isMarks_zeros _))
      (isMarks_ofNat _)
    · split
      · exact isMarks_nil
      · exact .append hpoint (hdrop 1)
    · split <;> decide

theorem AreDigits.dropTrailingZeros {ds : List Nat} (h : AreDigits ds) :
    AreDigits (dropTrailingZeros ds) := by
  refine h.subset fun d hd => ?_
  exact List.mem_reverse.1 ((List.dropWhile_sublist _).subset (List.mem_reverse.1 hd))

theorem isMarks_shortest (b : Binary) : (shortest b).write.IsMarks :=
  isMarks_write (areDigits_digitsOf _).dropTrailingZeros

end Decimal

namespace Json

open Text

theorem isMarks_writeFloat (x : Float) : (writeFloat x).IsMarks := by
  unfold writeFloat Decimal.writeShortest
  split
  · decide
  · exact .append (Decimal.isMarks_sign _) (by decide)
  · split
    · exact .append (Decimal.isMarks_sign _) (by decide)
    · exact .append (Decimal.isMarks_sign _) (Decimal.isMarks_shortest _)

theorem isMarks_lineBreak (level : Nat) : (lineBreak level).IsMarks := by
  refine .append (by decide) fun c hc => ?_
  rw [List.eq_of_mem_replicate hc]
  decide

mutual

def textsIn : Json → List Text
  | str t => [t]
  | arr items => textsInItems items
  | obj members => textsInMembers members
  | _ => []

def textsInItems : List Json → List Text
  | [] => []
  | v :: rest => textsIn v ++ textsInItems rest

def textsInMembers : List (Text × Json) → List Text
  | [] => []
  | (k, v) :: rest => k :: textsIn v ++ textsInMembers rest

end

/-- A value whose texts all have a form in UTF-8. -/
def IsEncodable (v : Json) : Prop := ∀ t ∈ textsIn v, t.IsScalar

def Shows (texts : List Text) (c : CodePoint) : Prop :=
  c.IsMark ∨ c.val ≠ 0x0D ∧ ∃ t ∈ texts, c ∈ t

section Characters

variable {texts texts' pieces : List Text} {t : Text} {c : CodePoint} {level : Nat}

theorem Shows.mono (h : Shows texts c) (hsub : texts ⊆ texts') : Shows texts' c :=
  h.imp_right fun ⟨hreturn, t, ht, hc⟩ => ⟨hreturn, t, hsub ht, hc⟩

theorem shows_escapeChar {d : CodePoint} (hd : d ∈ escapeChar c) : d.IsMark ∨ d.val ≠ 0x0D ∧ d = c := by
  have hmark (t : Text) (ht : t.IsMarks) (hd : d ∈ t) : d.IsMark ∨ d.val ≠ 0x0D ∧ d = c := .inl (ht d hd)
  unfold escapeChar at hd
  split at hd
  · exact hmark _ (by decide) hd
  split at hd
  · exact hmark _ (by decide) hd
  split at hd
  · exact hmark _ (by decide) hd
  split at hd
  · exact hmark _ (by decide) hd
  split at hd
  · exact hmark _ (by decide) hd
  split at hd
  · exact hmark _ (by decide) hd
  split at hd
  · exact hmark _ (by decide) hd
  split at hd
  · rcases List.mem_append.1 hd with hd | hd
    · exact hmark _ (by decide) hd
    · exact .inl (CodePoint.isMark_of_isHex (isHex_of_mem_hex hd))
  next hreturn _ _ _ hcontrol =>
    obtain rfl := List.mem_singleton.1 hd
    exact .inr ⟨by omega, rfl⟩

theorem shows_writeString (hc : c ∈ writeString t) : Shows [t] c := by
  rcases List.mem_append.1 hc with hc | hc
  · rcases List.mem_append.1 hc with hc | hc
    · exact .inl ((by decide : IsMarks "\"") c hc)
    · obtain ⟨d, hd, hc⟩ := List.mem_flatMap.1 hc
      rcases shows_escapeChar hc with h | ⟨h, rfl⟩
      · exact .inl h
      · exact .inr ⟨h, t, List.mem_singleton_self t, hd⟩
  · exact .inl ((by decide : IsMarks "\"") c hc)

theorem shows_bracketed {opening closing : Text} (hopening : opening.IsMarks) (hclosing : closing.IsMarks)
    (h : ∀ piece ∈ pieces, ∀ c ∈ piece, Shows texts c) :
    ∀ c ∈ bracketed level opening closing pieces, Shows texts c := by
  have hmarks {t : Text} (ht : t.IsMarks) : ∀ c ∈ t, Shows texts c := fun c hc => .inl (ht c hc)
  have happend {t t' : Text} (ht : ∀ c ∈ t, Shows texts c) (ht' : ∀ c ∈ t', Shows texts c) :
      ∀ c ∈ t ++ t', Shows texts c := List.forall_mem_append.2 ⟨ht, ht'⟩
  unfold bracketed
  split
  · exact hmarks (hopening.append hclosing)
  · refine happend (happend (happend (hmarks (hopening.append (isMarks_lineBreak _))) ?_)
      (hmarks (isMarks_lineBreak _))) (hmarks hclosing)
    exact join_of_append (hmarks isMarks_nil) happend
      (hmarks (.append (by decide) (isMarks_lineBreak _))) h

mutual

theorem shows_indented : ∀ (v : Json) (level : Nat), ∀ c ∈ indented level v, Shows (textsIn v) c
  | null, _, c, hc => .inl ((by decide : IsMarks "null") c hc)
  | bool true, _, c, hc => .inl ((by decide : IsMarks "true") c hc)
  | bool false, _, c, hc => .inl ((by decide : IsMarks "false") c hc)
  | int n, _, c, hc => .inl (isMarks_ofInt n c hc)
  | float x, _, c, hc => .inl (isMarks_writeFloat x c hc)
  | str _, _, _, hc => shows_writeString hc
  | arr items, level, c, hc =>
    shows_bracketed (by decide) (by decide) (shows_indentedItems items (level + 1)) c hc
  | obj members, level, c, hc =>
    shows_bracketed (by decide) (by decide) (shows_indentedMembers members (level + 1)) c hc

theorem shows_indentedItems : ∀ (items : List Json) (level : Nat),
    ∀ piece ∈ indentedItems level items, ∀ c ∈ piece, Shows (textsInItems items) c
  | [], _ => by simp [indentedItems]
  | v :: items, level => by
    rw [indentedItems, textsInItems]
    refine List.forall_mem_cons.2 ⟨fun c hc => ?_, fun piece hpiece c hc => ?_⟩
    · exact (shows_indented v level c hc).mono (List.subset_append_left _ _)
    · exact (shows_indentedItems items level piece hpiece c hc).mono (List.subset_append_right _ _)

theorem shows_indentedMembers : ∀ (members : List (Text × Json)) (level : Nat),
    ∀ piece ∈ indentedMembers level members, ∀ c ∈ piece, Shows (textsInMembers members) c
  | [], _ => by simp [indentedMembers]
  | (k, v) :: members, level => by
    rw [indentedMembers, textsInMembers]
    refine List.forall_mem_cons.2 ⟨fun c hc => ?_, fun piece hpiece c hc => ?_⟩
    · rcases List.mem_append.1 hc with hc | hc
      · rcases List.mem_append.1 hc with hc | hc
        · exact (shows_writeString hc).mono (by simp)
        · exact .inl ((by decide : IsMarks ": ") c hc)
      · exact (shows_indented v level c hc).mono (List.subset_append_of_subset_left _ (by simp))
    · exact (shows_indentedMembers members level piece hpiece c hc).mono (List.subset_append_right _ _)

end

/-! ### The texts stand in what is written -/

theorem mem_bracketed {opening closing piece : Text} (hpiece : piece ∈ pieces) (hc : c ∈ piece) :
    c ∈ bracketed level opening closing pieces := by
  have hjoin : c ∈ Text.join ("," ++ lineBreak (level + 1)) pieces := mem_join hpiece hc
  have hne : pieces.isEmpty = false := by
    cases pieces with
    | nil => cases hpiece
    | cons _ _ => rfl
  rw [bracketed, hne]
  simp only [Bool.false_eq_true, if_false, List.mem_append]
  exact .inl (.inl (.inr hjoin))

theorem mem_writeString (hc : c ∈ t) (hsurrogate : c.isSurrogate = true) : c ∈ writeString t := by
  have hkept : escapeChar c = [c] := by
    simp only [CodePoint.isSurrogate, Bool.and_eq_true, decide_eq_true_eq] at hsurrogate
    unfold escapeChar
    rw [if_neg (by omega), if_neg (by omega), if_neg (by omega), if_neg (by omega), if_neg (by omega),
      if_neg (by omega), if_neg (by omega), if_neg (by omega)]
  have hmem : c ∈ t.flatMap escapeChar :=
    List.mem_flatMap.2 ⟨c, hc, by rw [hkept]; exact List.mem_singleton_self c⟩
  exact List.mem_append_left _ (List.mem_append_right _ hmem)

mutual

theorem mem_indented : ∀ (v : Json) (level : Nat), ∀ t ∈ textsIn v, ∀ c ∈ t, c.isSurrogate = true →
    c ∈ indented level v
  | null, _, _, ht, _, _, _ => absurd ht List.not_mem_nil
  | bool _, _, _, ht, _, _, _ => absurd ht List.not_mem_nil
  | int _, _, _, ht, _, _, _ => absurd ht List.not_mem_nil
  | float _, _, _, ht, _, _, _ => absurd ht List.not_mem_nil
  | str _, _, _, ht, _, hc, hsurrogate => by
    rw [List.mem_singleton.1 ht] at hc
    exact mem_writeString hc hsurrogate
  | arr items, level, t, ht, c, hc, hsurrogate => by
    obtain ⟨piece, hpiece, hmem⟩ := mem_indentedItems items (level + 1) t ht c hc hsurrogate
    exact mem_bracketed hpiece hmem
  | obj members, level, t, ht, c, hc, hsurrogate => by
    obtain ⟨piece, hpiece, hmem⟩ := mem_indentedMembers members (level + 1) t ht c hc hsurrogate
    exact mem_bracketed hpiece hmem

theorem mem_indentedItems : ∀ (items : List Json) (level : Nat), ∀ t ∈ textsInItems items, ∀ c ∈ t,
    c.isSurrogate = true → ∃ piece ∈ indentedItems level items, c ∈ piece
  | [], _, _, ht, _, _, _ => absurd ht List.not_mem_nil
  | v :: items, level, t, ht, c, hc, hsurrogate => by
    rcases List.mem_append.1 ht with ht | ht
    · exact ⟨_, List.mem_cons_self, mem_indented v level t ht c hc hsurrogate⟩
    · obtain ⟨piece, hpiece, hmem⟩ := mem_indentedItems items level t ht c hc hsurrogate
      exact ⟨piece, List.mem_cons_of_mem _ hpiece, hmem⟩

theorem mem_indentedMembers : ∀ (members : List (Text × Json)) (level : Nat),
    ∀ t ∈ textsInMembers members, ∀ c ∈ t, c.isSurrogate = true →
      ∃ piece ∈ indentedMembers level members, c ∈ piece
  | [], _, _, ht, _, _, _ => absurd ht List.not_mem_nil
  | (k, v) :: members, level, t, ht, c, hc, hsurrogate => by
    rcases List.mem_append.1 ht with ht | ht
    · refine ⟨_, List.mem_cons_self, ?_⟩
      rcases List.mem_cons.1 ht with rfl | ht
      · exact List.mem_append_left _ (List.mem_append_left _ (mem_writeString hc hsurrogate))
      · exact List.mem_append_right _ (mem_indented v level t ht c hc hsurrogate)
    · obtain ⟨piece, hpiece, hmem⟩ := mem_indentedMembers members level t ht c hc hsurrogate
      exact ⟨piece, List.mem_cons_of_mem _ hpiece, hmem⟩

end

theorem isScalar_indented (v : Json) (level : Nat) :
    (indented level v).IsScalar ↔ v.IsEncodable := by
  constructor
  · intro h t ht c hc
    refine Bool.eq_false_iff.2 fun hsurrogate => ?_
    rw [h c (mem_indented v level t ht c hc hsurrogate)] at hsurrogate
    cases hsurrogate
  · intro h c hc
    rcases shows_indented v level c hc with hmark | ⟨-, t, ht, hct⟩
    · simp only [CodePoint.isSurrogate, Bool.and_eq_false_iff, decide_eq_false_iff_not]
      have := hmark.1
      omega
    · exact h t ht c hct

theorem encode_of_isEncodable {v : Json} (h : v.IsEncodable) (level : Nat) :
    ∃ bytes, Utf8.encode (indented level v) = .ok bytes := by
  obtain ⟨bytes, hbytes⟩ := Option.isSome_iff_exists.1
    (isSome_encode? ((isScalar_indented v level).2 h))
  exact ⟨bytes, Utf8.encode_eq_ok.2 hbytes⟩

theorem encode_of_not_isEncodable {v : Json} (h : ¬ v.IsEncodable) (level : Nat) :
    Utf8.encode (indented level v) = .error .unencodable :=
  encode_of_not_isScalar (mt (isScalar_indented v level).1 h)

theorem isEncodable_obj {members : List (Text × Json)} :
    (obj members).IsEncodable ↔ ∀ m ∈ members, m.1.IsScalar ∧ m.2.IsEncodable := by
  show (∀ t ∈ textsInMembers members, t.IsScalar) ↔ _
  induction members with
  | nil => simp [textsInMembers]
  | cons m members ih =>
    rw [textsInMembers, List.forall_mem_append, List.forall_mem_cons, List.forall_mem_cons, ih]
    rfl

theorem isEncodable_str : (str t).IsEncodable ↔ t.IsScalar := List.forall_mem_singleton

theorem foldLineEnds_indented (v : Json) (level : Nat) :
    Text.foldLineEnds (indented level v) = indented level v := by
  have hreturn : ∀ c ∈ indented level v, c.val ≠ 0x0D := fun c hc => by
    rcases shows_indented v level c hc with hmark | ⟨hreturn, -⟩
    · exact hmark.2
    · exact hreturn
  have hfold := Escape.foldCrLf_append hreturn []
  rw [List.append_nil, Text.foldCrLf, List.append_nil] at hfold
  rw [Text.foldLineEnds, hfold]
  exact (List.map_congr_left fun c hc => if_neg (hreturn c hc)).trans (List.map_id _)

theorem readDocument_of_encode {v : Json} {bytes : Bytes} (hv : Legible v)
    (h : Utf8.encode (indented 0 v) = .ok bytes) : readDocument bytes = .ok v := by
  obtain ⟨c, more, hhead, -⟩ := opensValue_of_indented hv 0
  have hsome : (indented 0 v).isEmpty = false := by rw [hhead]; rfl
  unfold readDocument
  rw [Utf8.decode_of_encode? (Utf8.encode_eq_ok.1 h)]
  simp only [hsome, foldLineEnds_indented, read_indented hv, Bool.false_eq_true, if_false]
  rfl

theorem isSound_of_readDocument {bytes : Bytes} {v : Json} (h : readDocument bytes = .ok v) :
    IsSound v := by
  unfold readDocument at h
  split at h
  next => cases h
  next =>
  split at h
  next =>
    cases h
    exact isSound_obj List.nodup_nil fun m hm => absurd hm List.not_mem_nil
  next =>
    cases hread : read (Text.foldLineEnds _) with
    | error fault =>
      rw [hread] at h
      cases h
    | ok w =>
      rw [hread] at h
      cases h
      exact isSound_of_read hread

end Characters

end Json

end Phrasebook
