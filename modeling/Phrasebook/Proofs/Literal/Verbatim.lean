import Phrasebook.Proofs.Tree.Sturdy

/-! Texts put between double quotes as they are. Such a literal is a string with the text for its value
just when the text holds no quote, no backslash, no line end and no surrogate. -/

namespace Phrasebook.Escape

def Verbatim (t : Text) : Prop :=
  ∀ c ∈ t, c.val ≠ 0x22 ∧ c.val ≠ 0x5C ∧ c.val ≠ 0x0A ∧ c.val ≠ 0x0D ∧ c.isSurrogate = false

instance (t : Text) : Decidable (Verbatim t) := inferInstanceAs (Decidable (∀ c ∈ t, _))

/-- A text between double quotes. -/
def quote (t : Text) : Text := "\"" ++ t ++ "\""

variable {t after : Text}

theorem quote_eq (t : Text) : quote t = CodePoint.ofNat 0x22 :: (t ++ [CodePoint.ofNat 0x22]) := rfl

theorem inner_quote (t : Text) : Text.inner 1 (quote t) = t := by
  rw [quote_eq, Text.inner, List.drop_one, List.tail_cons]
  refine List.take_left' ?_
  simp only [List.length_cons, List.length_append, List.length_nil]
  omega

theorem closeFrom_verbatim (h : Verbatim t) (after : Text) :
    closeFrom 0 (t ++ CodePoint.ofNat 0x22 :: after) = some (t, after) := by
  induction t with
  | nil => rfl
  | cons c rest ih =>
    obtain ⟨⟨hquote, hslash, hfeed, hreturn, -⟩, hrest⟩ := List.forall_mem_cons.1 h
    have hline : ¬ (c.val = 0x0A ∨ c.val = 0x0D) := by omega
    rw [List.cons_append, closeFrom.eq_def]
    simp only [if_neg hquote, if_neg hline, if_neg hslash, ih hrest]
    rfl

theorem unescapeFrom_verbatim (h : Verbatim t) : unescapeFrom 0 t = .ok t := by
  induction t with
  | nil => rfl
  | cons c rest ih =>
    obtain ⟨⟨-, hslash, -⟩, hrest⟩ := List.forall_mem_cons.1 h
    rw [unescapeFrom.eq_def]
    cases rest with
    | nil => rfl
    | cons d rest =>
      simp only [if_neg hslash, ih hrest]
      rfl

theorem foldCrLf_of_no_return (h : ∀ c ∈ t, c.val ≠ 0x0D) : Text.foldCrLf t = t := by
  induction t with
  | nil => rfl
  | cons c rest ih =>
    obtain ⟨hreturn, hrest⟩ := List.forall_mem_cons.1 h
    rw [Text.foldCrLf.eq_def]
    cases rest with
    | nil => rfl
    | cons d rest =>
      simp only [hreturn, false_and, if_false, ih hrest]

theorem unpaired_verbatim (h : Verbatim t) : Utf16.Unpaired t := by
  refine Utf16.unpaired_of_isHigh fun c hc => ?_
  have hsurrogate := (h c hc).2.2.2.2
  simp only [CodePoint.isSurrogate, CodePoint.isHigh, Bool.and_eq_false_iff,
    decide_eq_false_iff_not] at hsurrogate ⊢
  omega

theorem decode_verbatim (h : Verbatim t) : decode t = .ok t := by
  rw [decode, foldCrLf_of_no_return fun c hc => (h c hc).2.2.2.1, unescapeFrom_verbatim h]
  exact congrArg Except.ok (Utf16.joinPairs_of_unpaired (unpaired_verbatim h))

theorem stringToken_quote (h : Verbatim t) : StringToken (quote t) where
  lines := by
    have hquote : (CodePoint.ofNat 0x22).val ≠ 0x0A ∧ (CodePoint.ofNat 0x22).val ≠ 0x0D := by decide
    rw [quote_eq]
    refine List.forall_mem_cons.2 ⟨hquote, List.forall_mem_append.2 ⟨fun c hc => ?_, ?_⟩⟩
    · exact ⟨(h c hc).2.2.1, (h c hc).2.2.2.1⟩
    · exact List.forall_mem_singleton.2 hquote
  encodable := by
    have hquote : (CodePoint.ofNat 0x22).isSurrogate = false := by decide
    rw [quote_eq]
    exact Text.isSome_encode? (List.forall_mem_cons.2 ⟨hquote, List.forall_mem_append.2
      ⟨fun c hc => (h c hc).2.2.2.2, List.forall_mem_singleton.2 hquote⟩⟩)
  closes := by
    intro after
    have hquote : (CodePoint.ofNat 0x22).val = 0x22 := rfl
    rw [inner_quote, quote_eq, List.cons_append, List.append_assoc, List.singleton_append, token?,
      if_pos hquote, closeFrom_verbatim h]

theorem length_reading {c : CodePoint} {rest : Text} {r : Reading} (h : reading c rest = .ok r) :
    r.value.length ≤ 1 ∧ 1 ≤ r.size := by
  have hpoint {n size : Nat} (hsize : 1 ≤ size) (h : (point n).map (Reading.mk · size) = .ok r) :
      r.value.length ≤ 1 ∧ 1 ≤ r.size := by
    obtain ⟨value, hvalue, rfl⟩ := except_map_eq_ok.1 h
    unfold point at hvalue
    split at hvalue
    next =>
      cases hvalue
      exact ⟨Nat.le_refl 1, hsize⟩
    next => split at hvalue <;> cases hvalue
  have hitself (h : (Except.ok ⟨[c], 1⟩ : Except Fault Reading) = .ok r) :
      r.value.length ≤ 1 ∧ 1 ≤ r.size := by
    cases h
    exact ⟨Nat.le_refl 1, Nat.le_refl 1⟩
  unfold reading at h
  dsimp only at h
  split at h
  · split at h
    · exact hpoint (by omega) h
    · exact hpoint (by omega) h
    · exact hitself h
  split at h
  · split at h
    · exact hpoint (by omega) h
    · exact hitself h
  split at h
  · exact hpoint (by simp) h
  split at h
  · cases h
    exact ⟨Nat.zero_le 1, by decide⟩
  split at h
  · cases h
    exact ⟨Nat.zero_le 1, Nat.le_refl 1⟩
  split at h
  · cases h
    exact ⟨Nat.le_refl 1, Nat.le_refl 1⟩
  · exact hitself h

theorem length_unescapeFrom {skip : Nat} {v : Text} (h : unescapeFrom skip t = .ok v) :
    v.length ≤ t.length - skip := by
  induction t generalizing skip v with
  | nil =>
    rw [unescapeFrom.eq_def] at h
    cases h
    exact Nat.zero_le _
  | cons c rest ih =>
    rw [unescapeFrom.eq_def] at h
    cases skip with
    | succ skip =>
      have hrest := ih h
      rw [List.length_cons]
      omega
    | zero =>
      dsimp only at h
      split at h
      next =>
        cases h
        exact Nat.le_refl 1
      next d after =>
        split at h
        next =>
          obtain ⟨r, hr, h⟩ := except_bind_eq_ok.1 h
          obtain ⟨more, hmore, h⟩ := except_bind_eq_ok.1 h
          cases h
          have hmore := ih hmore
          have hreading := length_reading hr
          rw [List.length_append, List.length_cons]
          rw [List.length_cons] at hmore ⊢
          omega
        next =>
          obtain ⟨more, hmore, rfl⟩ := except_map_eq_ok.1 h
          have hmore := ih hmore
          rw [List.length_cons, List.length_cons]
          omega

theorem length_joinPairs (t : Text) : (Utf16.joinPairs t).length ≤ t.length := by
  have hjoin {t u : Text} (h : Utf16.join? t = some u) : u.length ≤ t.length := by
    induction t using Utf16.join?.induct generalizing u with
    | case1 => simp_all [Utf16.join?]
    | case2 c hc d rest hd ih =>
      rw [Utf16.join?.eq_def] at h
      simp only [hc, hd, if_true] at h
      obtain ⟨u', hu', rfl⟩ := Option.map_eq_some_iff.1 h
      have hlength := ih hu'
      simp only [List.length_cons]
      omega
    | case3 c hc d rest hd => simp [Utf16.join?, hc, hd] at h
    | case4 c hc => simp [Utf16.join?, hc] at h
    | case5 c rest hc hl =>
      rw [Utf16.join?.eq_def] at h
      simp [hc, hl] at h
    | case6 c rest hc hl ih =>
      rw [Utf16.join?.eq_def] at h
      simp only [hc, hl, if_false, Bool.false_eq_true] at h
      obtain ⟨u', hu', rfl⟩ := Option.map_eq_some_iff.1 h
      have hlength := ih hu'
      simp only [List.length_cons]
      omega
  rw [Utf16.joinPairs]
  cases h : Utf16.join? t with
  | none => exact Nat.le_refl _
  | some u => exact hjoin h

theorem plain_of_closeFrom {v : Text} (hclose : closeFrom 0 (t ++ [CodePoint.ofNat 0x22]) = some (t, []))
    (hvalue : unescapeFrom 0 t = .ok v) (hlength : v.length = t.length) :
    ∀ c ∈ t, c.val ≠ 0x22 ∧ c.val ≠ 0x5C := by
  induction t generalizing v with
  | nil => exact fun c hc => absurd hc List.not_mem_nil
  | cons c rest ih =>
    rw [List.cons_append, closeFrom.eq_def] at hclose
    dsimp only at hclose
    split at hclose
    next => cases hclose
    next hquote =>
    split at hclose
    next => cases hclose
    next =>
    split at hclose
    next hslash =>
      exfalso
      cases rest with
      | nil =>
        have hnone : closeFrom 1 [CodePoint.ofNat 0x22] = none := rfl
        have hsize : spellingSize? (CodePoint.ofNat 0x22) [] = some 1 := rfl
        simp only [List.nil_append, hsize, hnone] at hclose
        cases hclose
      | cons d after =>
        rw [unescapeFrom.eq_def] at hvalue
        simp only [hslash, if_true] at hvalue
        obtain ⟨r, hr, hvalue⟩ := except_bind_eq_ok.1 hvalue
        obtain ⟨more, hmore, hvalue⟩ := except_bind_eq_ok.1 hvalue
        cases hvalue
        have hreading := length_reading hr
        have hrest := length_unescapeFrom hmore
        simp only [List.length_append, List.length_cons] at hlength hrest
        omega
    next hslash =>
      obtain ⟨⟨body, after⟩, hclose, hpair⟩ := Option.map_eq_some_iff.1 hclose
      obtain ⟨rfl, rfl⟩ : body = rest ∧ after = [] := by simpa using hpair
      refine List.forall_mem_cons.2 ⟨⟨hquote, hslash⟩, ?_⟩
      cases body with
      | nil => exact fun c hc => absurd hc List.not_mem_nil
      | cons d body =>
        rw [unescapeFrom.eq_def] at hvalue
        simp only [hslash, if_false] at hvalue
        obtain ⟨more, hmore, rfl⟩ := except_map_eq_ok.1 hvalue
        exact ih hclose hmore (Nat.succ.inj hlength)

theorem reads_quote_iff : (StringToken (quote t) ∧ decode (Text.inner 1 (quote t)) = .ok t) ↔ Verbatim t := by
  constructor
  · rintro ⟨htoken, hvalue⟩
    have hmem {c : CodePoint} (hc : c ∈ t) : c ∈ quote t := by
      rw [quote_eq]
      exact List.mem_cons_of_mem _ (List.mem_append_left _ hc)
    obtain ⟨bytes, hbytes⟩ := Option.isSome_iff_exists.1 htoken.encodable
    have hscalar := Text.isScalar_of_encode? hbytes
    have hclose := htoken.closes []
    have hmark : (CodePoint.ofNat 0x22).val = 0x22 := rfl
    rw [List.append_nil, inner_quote, quote_eq, token?, if_pos hmark] at hclose
    rw [inner_quote, decode, foldCrLf_of_no_return fun c hc => (htoken.lines c (hmem hc)).2] at hvalue
    obtain ⟨v, hv, hjoin⟩ := except_map_eq_ok.1 hvalue
    have hle := length_unescapeFrom hv
    have hshort := length_joinPairs v
    rw [hjoin] at hshort
    have hplain := plain_of_closeFrom hclose hv (by omega)
    exact fun c hc => ⟨(hplain c hc).1, (hplain c hc).2, (htoken.lines c (hmem hc)).1,
      (htoken.lines c (hmem hc)).2, hscalar c (hmem hc)⟩
  · intro h
    exact ⟨stringToken_quote h, by rw [inner_quote, decode_verbatim h]⟩

end Phrasebook.Escape
