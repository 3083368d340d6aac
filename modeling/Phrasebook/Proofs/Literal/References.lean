import Phrasebook.Literal.Value
import Phrasebook.Proofs.Lists
import Phrasebook.Proofs.Text.Utf8

/-! Character references between blanks. No name of a reference has a blank in it, so the blanks at the
ends of a text stay what they are, also behind a reference that has no semicolon. -/

namespace Phrasebook

namespace CodePoint

variable {c : CodePoint}

theorem not_isBlank_of_printable (h : 0x20 < c.val ∧ c.val < 0x7F) : c.isBlank = false := by
  rw [Bool.eq_false_iff]
  simp only [isBlank, ne_eq, Bool.or_eq_true, Bool.and_eq_true, decide_eq_true_eq, beq_iff_eq]
  omega

theorem not_printable_of_isBlank (h : c.isBlank = true) : ¬ (0x20 < c.val ∧ c.val < 0x7F) := by
  intro hval
  rw [not_isBlank_of_printable hval] at h
  cases h

theorem not_isDigit_of_isBlank (h : c.isBlank = true) : c.isDigit = false := by
  have hval := not_printable_of_isBlank h
  rw [Bool.eq_false_iff]
  simp only [isDigit, ne_eq, Bool.and_eq_true, decide_eq_true_eq]
  omega

theorem not_isHex_of_isBlank (h : c.isBlank = true) : c.isHex = false := by
  have hval := not_printable_of_isBlank h
  have hvalue : c.hexValue? = none := by
    simp only [hexValue?, Bool.and_eq_true, decide_eq_true_eq]
    rw [if_neg (by omega), if_neg (by omega), if_neg (by omega)]
  rw [isHex, hvalue]
  rfl

end CodePoint

theorem Text.mem_of_mem_cut {sep c : CodePoint} {t piece : Text} (h : piece ∈ cut sep t)
    (hc : c ∈ piece) : c ∈ t ∧ c ≠ sep := by
  induction t generalizing piece with
  | nil =>
    cases List.mem_singleton.1 h
    cases hc
  | cons d rest ih =>
    rw [cut] at h
    split at h
    next =>
      obtain rfl | h := List.mem_cons.1 h
      · cases hc
      · exact (ih h hc).imp_left (List.mem_cons_of_mem d)
    next hd =>
      cases hcut : cut sep rest with
      | nil =>
        rw [hcut] at h
        cases List.mem_singleton.1 h
        cases List.mem_singleton.1 hc
        exact ⟨List.mem_cons_self, hd⟩
      | cons first pieces =>
        rw [hcut] at h ih
        obtain rfl | h := List.mem_cons.1 h
        · obtain rfl | hc := List.mem_cons.1 hc
          · exact ⟨List.mem_cons_self, hd⟩
          · exact (ih List.mem_cons_self hc).imp_left (List.mem_cons_of_mem d)
        · exact (ih (List.mem_cons_of_mem first h) hc).imp_left (List.mem_cons_of_mem d)

theorem takeWhile_append_of_head? {α : Type} {p : α → Bool} {w : List α}
    (hw : ∀ c ∈ w.head?, p c = false) (t : List α) : (t ++ w).takeWhile p = t.takeWhile p := by
  induction t with
  | nil =>
    cases w with
    | nil => rfl
    | cons c rest =>
      rw [List.nil_append, List.takeWhile_cons, hw c rfl]
      rfl
  | cons c rest ih => rw [List.cons_append, List.takeWhile_cons, List.takeWhile_cons, ih]

namespace CharRef

variable {c : CodePoint} {name t w : Text}

/-- Whether a string is of printable ASCII characters, the blank among them. -/
def IsPlain (s : String) : Prop :=
  ∃ cs : List Char, s = String.ofList cs ∧
    cs.all (fun c => Nat.ble 0x20 c.toNat && Nat.ble c.toNat 0x7E) = true

theorem isPlain_of_spelled {lists : List (List String)} {spelled : List (List (List Char))}
    (h : List.Forall₂ (List.Forall₂ fun s cs => s = String.ofList cs) lists spelled)
    (hplain : ∀ css ∈ spelled, ∀ cs ∈ css,
      cs.all (fun c => Nat.ble 0x20 c.toNat && Nat.ble c.toNat 0x7E) = true) :
    ∀ names ∈ lists, ∀ s ∈ names, IsPlain s := by
  intro names hnames s hs
  obtain ⟨css, hcss, h⟩ := exists_mem_of_forall₂ h.flip hnames
  obtain ⟨cs, hcs, hspelled⟩ := exists_mem_of_forall₂ h.flip hs
  exact ⟨cs, hspelled, hplain css hcss cs hcs⟩

theorem isPlain_of_mem : ∀ names ∈ nameLists, ∀ s ∈ names, IsPlain s := by
  apply isPlain_of_spelled
  case h =>
    repeat' first
      | apply List.Forall₂.cons
      | rfl
      | apply List.Forall₂.nil
  -- One check of all lists: the kernel works out each character of the alphabet once.
  case hplain => decide +kernel

theorem IsPlain.printable {s : String} (h : IsPlain s) (hc : c ∈ Text.ofString s) :
    0x20 ≤ c.val ∧ c.val < 0x7F := by
  obtain ⟨cs, rfl, hcs⟩ := h
  rw [Text.ofString, String.toList_ofList] at hc
  obtain ⟨d, hd, rfl⟩ := List.mem_map.1 hc
  have hplain := List.all_eq_true.1 hcs d hd
  rw [Bool.and_eq_true, Nat.ble_eq, Nat.ble_eq] at hplain
  exact ⟨hplain.1, Nat.lt_succ_of_le hplain.2⟩

theorem mem_of_mem_entry (h : c ∈ (entry t).1) : c ∈ t := by
  unfold entry at h
  split at h
  next name points hcut =>
    exact (Text.mem_of_mem_cut (hcut ▸ List.mem_cons_self) h).1
  next => exact h

theorem not_isBlank_of_ofName? {value : Text} (h : ofName? name = some value) (hc : c ∈ name) :
    c.isBlank = false := by
  obtain ⟨e, he, -⟩ := Option.map_eq_some_iff.1 h
  obtain rfl : e.1 = name := eq_of_beq (List.find?_some (p := fun e : Text × Text => e.1 == name) he)
  obtain ⟨s, hs, hpieces⟩ := List.mem_flatMap.1 (List.mem_of_find?_eq_some he)
  obtain ⟨names, hnames, hs⟩ := List.mem_flatten.1 hs
  obtain ⟨piece, hpiece, rfl⟩ := List.mem_map.1 hpieces
  obtain ⟨hmem, hspace⟩ := Text.mem_of_mem_cut hpiece (mem_of_mem_entry hc)
  obtain ⟨hlow, hhigh⟩ := (isPlain_of_mem names hnames s hs).printable hmem
  refine CodePoint.not_isBlank_of_printable ⟨Nat.lt_of_le_of_ne hlow fun hval => hspace ?_, hhigh⟩
  rw [← Utf8.ofNat_val c, ← hval]
  rfl

section Blanks

variable (hw : ∀ c ∈ w, c.isBlank = true)

include hw

theorem length_le_of_ofName? {value : Text} {n : Nat} (hempty : w ≠ [])
    (h : ofName? ((name ++ w).take n) = some value) : n ≤ name.length := by
  refine Nat.le_of_not_lt fun hlong => ?_
  obtain ⟨c, rest, rfl⟩ := List.exists_cons_of_ne_nil hempty
  have hmem : c ∈ (name ++ c :: rest).take n := by
    rw [List.take_append, List.take_of_length_le (by omega), List.mem_append]
    obtain ⟨k, hk⟩ := Nat.exists_eq_add_of_lt hlong
    rw [hk, Nat.add_assoc, Nat.add_sub_cancel_left, List.take_succ_cons]
    exact .inr List.mem_cons_self
  have hblank := not_isBlank_of_ofName? h hmem
  rw [hw c List.mem_cons_self] at hblank
  cases hblank

theorem exists_ofBeginning (hempty : w ≠ []) (n : Nat) :
    ∃ v, ofBeginning (name ++ w) n = v ++ w := by
  induction n with
  | zero => exact ⟨"&" ++ name, (List.append_assoc _ _ _).symm⟩
  | succ n ih =>
    unfold ofBeginning
    by_cases hshort : n + 1 < 2
    · rw [if_pos hshort]
      exact ⟨"&" ++ name, (List.append_assoc _ _ _).symm⟩
    rw [if_neg hshort]
    generalize hname : ofName? ((name ++ w).take (n + 1)) = found
    cases found with
    | none => exact ih
    | some value =>
      refine ⟨value ++ name.drop (n + 1), ?_⟩
      rw [List.append_assoc, ← List.drop_append_of_le_length (length_le_of_ofName? hw hempty hname)]

theorem exists_ofNameText (name : Text) : ∃ v, ofNameText (name ++ w) = v ++ w := by
  by_cases hempty : w = []
  · subst hempty
    exact ⟨ofNameText name, by simp only [List.append_nil]⟩
  unfold ofNameText
  generalize hname : ofName? (name ++ w) = found
  cases found with
  | none => exact exists_ofBeginning hw hempty _
  | some value =>
    rw [← List.take_length (l := name ++ w)] at hname
    have hlong := length_le_of_ofName? hw hempty hname
    have hpos := List.length_pos_iff.2 hempty
    rw [List.length_append] at hlong
    omega

theorem add_closing_le {n : Nat} (hn : n ≤ t.length) :
    n + closing ((t ++ w).drop n) ≤ t.length := by
  obtain hn | rfl := Nat.lt_or_eq_of_le hn
  · have hone : closing ((t ++ w).drop n) ≤ 1 := by
      unfold closing
      split <;> try split
      all_goals omega
    omega
  · rw [List.drop_left]
    cases w with
    | nil => exact Nat.le_refl _
    | cons c rest =>
      have hval := CodePoint.not_printable_of_isBlank (hw c List.mem_cons_self)
      rw [closing, if_neg (by omega)]
      exact Nat.le_refl _

theorem size_le_of_numeric? {r : Reading} (h : numeric? (t ++ w) = .ok (some r)) :
    r.size ≤ t.length := by
  unfold numeric? at h
  dsimp only at h
  rw [takeWhile_append_of_head? fun c hc => CodePoint.not_isDigit_of_isBlank (hw c (List.mem_of_mem_head? hc))]
    at h
  split at h
  next =>
    obtain ⟨value, -, h⟩ := except_bind_eq_ok.1 h
    cases h
    exact add_closing_le hw (List.takeWhile_sublist _).length_le
  next =>
    split at h
    next x rest hcons =>
      split at h
      next hx =>
        cases h
        rw [Bool.and_eq_true, Bool.or_eq_true, beq_iff_eq, beq_iff_eq] at hx
        obtain ⟨rfl, rfl⟩ | ⟨t, rfl, rfl⟩ := List.append_eq_cons_iff.1 hcons
        · have hval := CodePoint.not_printable_of_isBlank (hw x List.mem_cons_self)
          omega
        · dsimp only
          rw [takeWhile_append_of_head? fun c hc => CodePoint.not_isHex_of_isBlank
            (hw c (List.mem_of_mem_head? hc)), Nat.add_assoc, List.length_cons, Nat.add_comm]
          exact Nat.succ_le_succ (add_closing_le hw (List.takeWhile_sublist _).length_le)
      next => cases h
    next => cases h

/-- A reference ends before the blanks behind a text, or it is a name without a semicolon, and the blanks
that it takes are at the end of what it gives. -/
theorem of_reference? {r : Reading} (h : reference? (t ++ w) = .ok (some r)) :
    r.size ≤ t.length ∨
      ∃ k v, r.size = t.length + k ∧ k ≤ w.length ∧ r.value = v ++ w.take k := by
  unfold reference? at h
  split at h
  next c rest hcons =>
    split at h
    next hc =>
      obtain ⟨r?, hr, h⟩ := except_bind_eq_ok.1 h
      obtain ⟨rfl, rfl⟩ | ⟨t, rfl, rfl⟩ := List.append_eq_cons_iff.1 hcons
      · have hval := CodePoint.not_printable_of_isBlank (hw c List.mem_cons_self)
        omega
      · cases r? with
        | none => cases h
        | some r₀ =>
          cases h
          exact .inl (Nat.succ_le_succ (size_le_of_numeric? hw hr))
    next hc =>
      dsimp only at h
      split at h
      next => cases h
      next =>
        cases h
        dsimp only
        have hname : (((t ++ w).take 32).takeWhile inName).length ≤ (t ++ w).length :=
          ((List.takeWhile_sublist _).trans (List.take_sublist _ _)).length_le
        generalize (((t ++ w).take 32).takeWhile inName).length = n at hname ⊢
        by_cases hn : n ≤ t.length
        · exact .inl (add_closing_le hw hn)
        · obtain ⟨k, rfl⟩ := Nat.exists_eq_add_of_le (Nat.le_of_not_le hn)
          rw [List.length_append] at hname
          have hrest : ∀ c ∈ w.drop k, c.isBlank = true := fun c hc => hw c (List.mem_of_mem_drop hc)
          have htake : ∀ c ∈ w.take k, c.isBlank = true := fun c hc => hw c (List.mem_of_mem_take hc)
          have hclosing : closing ((t ++ w).drop (t.length + k)) = 0 := by
            have hle := add_closing_le (t := []) hrest (Nat.le_refl 0)
            rw [List.nil_append, List.drop_zero, Nat.zero_add] at hle
            rw [List.drop_length_add_append]
            exact Nat.le_zero.1 hle
          obtain ⟨v, hv⟩ := exists_ofNameText htake t
          refine .inr ⟨k, v, ?_, by omega, ?_⟩
          · exact congrArg (t.length + k + ·) hclosing
          · rw [← hv, hclosing, Nat.add_zero, List.take_length_add_append]
  next => cases h

theorem decodeFrom_of_isBlank (t : Text) :
    decodeFrom 0 (w ++ t) = (decodeFrom 0 t).map (w ++ ·) := by
  induction w with
  | nil =>
    rw [List.nil_append]
    cases decodeFrom 0 t <;> rfl
  | cons c rest ih =>
    obtain ⟨hc, hrest⟩ := List.forall_mem_cons.1 hw
    have hval := CodePoint.not_printable_of_isBlank hc
    rw [List.cons_append, decodeFrom, if_neg (by omega), ih hrest]
    cases decodeFrom 0 t <;> rfl

theorem decodeFrom_length (t : Text) (k : Nat) :
    decodeFrom (t.length + k) (t ++ w) = .ok (w.drop k) := by
  induction t with
  | nil =>
    rw [List.length_nil, Nat.zero_add, List.nil_append]
    induction w generalizing k with
    | nil => cases k <;> rfl
    | cons c rest ih =>
      cases k with
      | zero =>
        have hblank := decodeFrom_of_isBlank hw []
        rw [List.append_nil] at hblank
        rw [hblank]
        exact congrArg Except.ok (List.append_nil _)
      | succ k => exact ih (fun c hc => hw c (List.mem_cons_of_mem _ hc)) k
  | cons c rest ih =>
    rw [List.length_cons, Nat.succ_add, List.cons_append, decodeFrom]
    exact ih

theorem exists_decodeFrom_append {skip : Nat} {x : Text} (hskip : skip ≤ t.length)
    (h : decodeFrom skip (t ++ w) = .ok x) : ∃ u, x = u ++ w := by
  induction t generalizing skip x with
  | nil =>
    obtain rfl := Nat.le_zero.1 hskip
    have hall := h.symm.trans (decodeFrom_length hw [] 0)
    cases hall
    exact ⟨[], rfl⟩
  | cons c rest ih =>
    cases skip with
    | succ skip => exact ih (Nat.le_of_succ_le_succ hskip) h
    | zero =>
      rw [List.cons_append, decodeFrom] at h
      split at h
      next =>
        obtain ⟨r?, hr, h⟩ := except_bind_eq_ok.1 h
        cases r? with
        | none =>
          obtain ⟨y, hy, h⟩ := except_bind_eq_ok.1 h
          obtain ⟨u, rfl⟩ := ih (Nat.zero_le _) hy
          cases h
          exact ⟨c :: u, rfl⟩
        | some r =>
          obtain ⟨y, hy, h⟩ := except_bind_eq_ok.1 h
          cases h
          obtain hsize | ⟨k, v, hsize, -, hvalue⟩ := of_reference? hw hr
          · obtain ⟨u, rfl⟩ := ih hsize hy
            exact ⟨r.value ++ u, (List.append_assoc _ _ _).symm⟩
          · rw [hsize, decodeFrom_length hw] at hy
            cases hy
            exact ⟨v, by rw [hvalue, List.append_assoc, List.take_append_drop]⟩
      next =>
        obtain ⟨y, hy, rfl⟩ := except_map_eq_ok.1 h
        obtain ⟨u, rfl⟩ := ih (Nat.zero_le _) hy
        exact ⟨c :: u, rfl⟩

end Blanks

theorem exists_decode_append {lead trail x : Text} (hlead : ∀ c ∈ lead, c.isBlank = true)
    (htrail : ∀ c ∈ trail, c.isBlank = true) (h : decode (lead ++ t ++ trail) = .ok x) :
    ∃ u, x = lead ++ u ++ trail := by
  rw [decode, List.append_assoc, decodeFrom_of_isBlank hlead] at h
  obtain ⟨y, hy, rfl⟩ := except_map_eq_ok.1 h
  obtain ⟨u, rfl⟩ := exists_decodeFrom_append htrail (Nat.zero_le _) hy
  exact ⟨u, (List.append_assoc _ _ _).symm⟩

end CharRef
end Phrasebook
