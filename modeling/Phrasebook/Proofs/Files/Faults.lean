import Phrasebook.Proofs.Files.Discover
import Phrasebook.Proofs.Files.Write
import Phrasebook.Proofs.Text.Scalar

/-! What can go wrong with a path that can be spelled: only what the system answers with. A path that leads to
a file can be spelled, and so can the paths above and beside it. -/

namespace Phrasebook

def Fault.IsSystem (fault : Fault) : Prop := ∃ reason, fault = .system reason

theorem Fault.isSystem (reason : SystemFault) : (Fault.system reason).IsSystem := ⟨reason, rfl⟩

theorem Fault.IsSystem.contained {fault : Fault} (h : fault.IsSystem) : fault.isContained = true := by
  obtain ⟨reason, rfl⟩ := h
  rfl

def CodePoint.isNameable (c : CodePoint) : Bool := c.val != 0 && c.nameOctets?.isSome

def FilePath.IsNameable (p : FilePath) : Prop := ∀ n ∈ p.names, ∀ c ∈ n, c.isNameable = true

theorem Text.isSome_nameOctets? {t : Text} :
    t.nameOctets?.isSome = true ↔ ∀ c ∈ t, c.nameOctets?.isSome = true := by
  rw [Text.nameOctets?, Option.isSome_map]
  induction t with
  | nil => simp
  | cons c rest ih =>
    rw [List.mapM_cons, List.forall_mem_cons, ← ih]
    cases c.nameOctets? with
    | none => simp
    | some octets => cases List.mapM CodePoint.nameOctets? rest <;> simp

namespace FilePath

variable {p : FilePath} {n : Text}

theorem mem_toText {c : CodePoint} (hn : n ∈ p.names) (hc : c ∈ n) : c ∈ p.toText := by
  have hne : p.names.isEmpty = false := by simpa using List.ne_nil_of_mem hn
  rw [toText, hne, Bool.and_false, if_neg Bool.false_ne_true]
  exact List.mem_append_right _ (Text.mem_join hn hc)

theorem IsNameable.toText (h : p.IsNameable) : ∀ c ∈ p.toText, c.isNameable = true := by
  have hslash : ∀ c ∈ [slash], c.isNameable = true := by decide
  rw [FilePath.toText]
  split
  · decide
  · refine List.forall_mem_append.2 ⟨fun c hc => ?_, ?_⟩
    · exact hslash c (List.mem_singleton.2 (List.eq_of_mem_replicate hc))
    · exact Text.join_of_append (P := fun t => ∀ c ∈ t, c.isNameable = true)
        (fun c hc => absurd hc List.not_mem_nil) (fun ht ht' => List.forall_mem_append.2 ⟨ht, ht'⟩) hslash h

theorem IsNameable.subset {q : FilePath} (h : p.IsNameable) (hsub : q.names ⊆ p.names) : q.IsNameable :=
  fun n hn => h n (hsub hn)

theorem IsNameable.parent (h : p.IsNameable) : p.parent.IsNameable :=
  h.subset (List.dropLast_subset _)

theorem IsNameable.child (h : p.IsNameable) (hn : ∀ c ∈ n, c.isNameable = true) : (p.child n).IsNameable :=
  List.forall_mem_append.2 ⟨h, List.forall_mem_singleton.2 hn⟩

theorem IsNameable.name (h : p.IsNameable) : ∀ c ∈ p.name, c.isNameable = true := by
  rw [FilePath.name, List.getLastD_eq_getLast?]
  cases hlast : p.names.getLast? with
  | none => exact fun c hc => absurd hc List.not_mem_nil
  | some n => exact h n (List.mem_of_getLast? hlast)

end FilePath

namespace Store

variable {s : Store} {p : FilePath} {fault : Fault} {t : Text}

theorem isNameable_of_spelling (h : spellingOf p = .ok ()) : p.IsNameable := by
  obtain ⟨octets, hoctets, hchars, -⟩ := spellingOf_eq_ok.1 h
  intro n hn c hc
  have hmem := FilePath.mem_toText hn hc
  rw [CodePoint.isNameable, Bool.and_eq_true, bne_iff_ne]
  exact ⟨hchars c hmem, Text.isSome_nameOctets?.1 (by rw [hoctets]; rfl) c hmem⟩

theorem spellingOf_of_isNameable (h : p.IsNameable) :
    spellingOf p = .ok () ∨ spellingOf p = .error .nameTooLong := by
  have hchars := h.toText
  simp only [CodePoint.isNameable, Bool.and_eq_true, bne_iff_ne] at hchars
  have hoctets : p.toText.nameOctets?.isSome = true := Text.isSome_nameOctets?.2 fun c hc => (hchars c hc).2
  obtain ⟨octets, hoctets⟩ := Option.isSome_iff_exists.1 hoctets
  have hzero : (p.toText.any fun c => c.val == 0) = false :=
    List.any_eq_false.2 fun c hc => by simpa using (hchars c hc).1
  simp only [spellingOf, hoctets, hzero, Bool.false_eq_true, if_false]
  split
  · exact .inr rfl
  · exact .inl rfl

theorem checkSpelling_of_isNameable (h : p.IsNameable) : checkSpelling p = .ok () := by
  rw [checkSpelling]
  rcases spellingOf_of_isNameable h with hp | hp <;> rw [hp]

theorem isSystem_of_walk {follow : Bool} {links : Nat} {here names : List Text} {o : Obstacle}
    (h : s.walk follow links here names = .error o) (p : FilePath) : (o.fault p).IsSystem := by
  induction links, here, names using walk.induct s follow with
  | case1 =>
    rw [walk] at h
    cases h
  | case2 links here n rest hplace =>
    rw [walk.eq_def] at h
    simp only [if_pos hplace] at h
    cases h
    exact Fault.isSystem _
  | case3 links here rest hplace ih =>
    rw [walk.eq_def] at h
    simp only [if_neg hplace, if_true] at h
    exact ih h
  | case4 links here rest hplace hstay ih =>
    rw [walk.eq_def] at h
    simp only [if_neg hplace, if_neg hstay, if_true] at h
    exact ih h
  | case5 links here n rest hplace hstay hup hlong =>
    rw [walk.eq_def] at h
    simp only [if_neg hplace, if_neg hstay, if_neg hup, if_pos hlong] at h
    cases h
    exact Fault.isSystem _
  | case6 links here n rest hplace hstay hup hlong hitem =>
    rw [walk.eq_def] at h
    simp only [if_neg hplace, if_neg hstay, if_neg hup, if_neg hlong, hitem] at h
    cases h
    exact Fault.isSystem _
  | case7 here n rest hplace hstay hup hlong target links hitem hlast =>
    rw [walk.eq_def] at h
    simp only [if_neg hplace, if_neg hstay, if_neg hup, if_neg hlong, hitem, if_pos hlast] at h
    cases h
  | case8 here n rest hplace hstay hup hlong target hitem hlast =>
    rw [walk.eq_def] at h
    simp only [if_neg hplace, if_neg hstay, if_neg hup, if_neg hlong, hitem, if_neg hlast] at h
    cases h
    exact Fault.isSystem _
  | case9 here n rest hplace hstay hup hlong target hitem hlast left t ih =>
    rw [walk.eq_def] at h
    simp only [if_neg hplace, if_neg hstay, if_neg hup, if_neg hlong, hitem, if_neg hlast] at h
    exact ih h
  | case10 here n rest hplace hstay hup hlong item links hlink hitem ih =>
    rw [walk.eq_def] at h
    simp only [if_neg hplace, if_neg hstay, if_neg hup, if_neg hlong] at h
    cases item with
    | link target => exact (hlink target rfl).elim
    | file content =>
      rw [hitem] at h
      exact ih h
    | folder =>
      rw [hitem] at h
      exact ih h

theorem isSystem_of_locate {follow : Bool} {o : Obstacle} (hp : p.IsNameable)
    (h : s.locate follow p = .error o) (q : FilePath) : (o.fault q).IsSystem := by
  obtain h | ⟨-, -, h⟩ := except_bind_eq_error.1 h
  · rcases spellingOf_of_isNameable hp with hspelling | hspelling <;> rw [hspelling] at h <;> cases h
    exact Fault.isSystem _
  · exact isSystem_of_walk h q

theorem isSystem_of_itemAt {names : List Text} {o : Obstacle} (h : s.itemAt names = .error o) (p : FilePath) :
    (o.fault p).IsSystem := by
  unfold itemAt at h
  split at h <;> cases h
  exact Fault.isSystem _

theorem isSystem_of_find {o : Obstacle} (hp : p.IsNameable) (h : s.find p = .error o) :
    (o.fault p).IsSystem := by
  obtain h | ⟨names, -, h⟩ := except_bind_eq_error.1 h
  · exact isSystem_of_locate hp h p
  · exact isSystem_of_itemAt h p

theorem isSystem_of_holds {found : Except Obstacle Item} {kind : Item → Bool}
    (h : holds p found kind = .error fault) : fault.IsSystem := by
  unfold holds at h
  split at h
  next => cases h
  next o =>
    split at h <;> cases h
    next habsent =>
    have ho : o = .nameTooLong := by simpa [Obstacle.isAbsence] using habsent
    rw [ho]
    exact Fault.isSystem _

theorem isSystem_of_read (hp : p.IsNameable) (h : s.read p = .error fault) : fault.IsSystem := by
  unfold read at h
  split at h <;> cases h
  · exact Fault.isSystem _
  next hfind => exact isSystem_of_find hp hfind

theorem isSystem_of_makeFolder (hp : p.IsNameable) (h : s.makeFolder p = .error fault) : fault.IsSystem := by
  have hguard {α : Type} {c : Prop} [Decidable c] {reason : SystemFault} {x : Except Fault α}
      (h : (if c then throw (.system reason) >>= fun _ : Unit => x else x) = .error fault) :
      fault.IsSystem ∨ x = .error fault := by
    split at h
    · cases h
      exact .inl (Fault.isSystem _)
    · exact .inr h
  unfold makeFolder at h
  dsimp only at h
  obtain h | ⟨-, -, h⟩ := except_bind_eq_error.1 h
  · obtain ⟨o, ho, rfl⟩ := except_mapError_eq_error.1 h
    rcases spellingOf_of_isNameable hp with hspelling | hspelling <;> rw [hspelling] at ho <;> cases ho
    exact Fault.isSystem _
  obtain h | h := hguard h
  · exact h
  obtain h | ⟨above, -, h⟩ := except_bind_eq_error.1 h
  · obtain ⟨o, ho, rfl⟩ := except_mapError_eq_error.1 h
    exact isSystem_of_walk ho p
  obtain h | h := hguard h
  · exact h
  obtain h | h := hguard h
  · exact h
  obtain h | h := hguard h
  · exact h
  obtain h | h := hguard h
  · exact h
  cases h

theorem isSystem_of_settleFolder {reason : Fault} (hreason : reason.IsSystem)
    (h : s.settleFolder p reason = .error fault) : fault.IsSystem := by
  obtain ⟨reason, rfl⟩ := hreason
  obtain h | ⟨isFolder, -, h⟩ := except_bind_eq_error.1 h
  · exact isSystem_of_holds h
  · split at h <;> cases h
    exact Fault.isSystem _

theorem isSystem_of_makeFoldersFrom {root : Nat} {names : List Text}
    (hnames : ∀ n ∈ names, ∀ c ∈ n, c.isNameable = true)
    (h : (s.makeFoldersFrom root names).2 = .error fault) : fault.IsSystem := by
  induction names generalizing s fault with
  | nil => exact isSystem_of_settleFolder (Fault.isSystem _) h
  | cons n above ih =>
    have hp : (FilePath.mk root (n :: above).reverse).IsNameable := fun m hm => hnames m (List.mem_reverse.1 hm)
    have habove := (List.forall_mem_cons.1 hnames).2
    rw [makeFoldersFrom] at h
    split at h
    next => cases h
    next =>
      split at h
      next hmade =>
        cases h
        exact ih habove (by rw [hmade])
      next =>
        split at h
        next => cases h
        next hmade => exact isSystem_of_settleFolder (isSystem_of_makeFolder hp hmade) h
    next hmade => exact isSystem_of_settleFolder (isSystem_of_makeFolder hp hmade) h

theorem isSystem_of_takePlace {r : Refusals} {temporary target : List Text} {bytes : Bytes} {d : Draft}
    (h : ((takePlace r p temporary target bytes).run.run d).1 = .error fault) : fault.IsSystem := by
  rw [run_takePlace] at h
  split at h
  iterate 2
    next =>
      cases h
      exact Fault.isSystem _
  next => cases h

theorem isSystem_of_replaceFile {r : Refusals} {folder : List Text} (ht : t.IsScalar)
    (h : (s.replaceFile r p folder t).2 = .error fault) : fault.IsSystem := by
  obtain ⟨bytes, hbytes⟩ := Option.isSome_iff_exists.1 (Text.isSome_encode? ht)
  unfold replaceFile bracket fillAndReplace at h
  rw [Utf8.encode_eq_ok.2 hbytes] at h
  cases hcreate : r p .create with
  | some refusal =>
    rw [hcreate] at h
    cases h
    exact Fault.isSystem _
  | none =>
  cases hwrite : r p .write with
  | some refusal =>
    rw [hcreate, hwrite] at h
    cases h
    exact Fault.isSystem _
  | none =>
  cases hsync : r p .sync with
  | some refusal =>
    rw [hcreate, hwrite, hsync] at h
    cases h
    exact Fault.isSystem _
  | none =>
    rw [hcreate, hwrite, hsync] at h
    exact isSystem_of_takePlace h

theorem isSystem_of_atomicWrite {r : Refusals} (hp : p.IsNameable) (ht : t.IsScalar)
    (h : (s.atomicWrite r p t).2 = .error fault) : fault.IsSystem := by
  have hnames : ∀ n ∈ p.parent.names.reverse, ∀ c ∈ n, c.isNameable = true := fun n hn =>
    hp.parent n (List.mem_reverse.1 hn)
  unfold atomicWrite at h
  rw [checkSpelling_of_isNameable hp] at h
  split at h
  next s' fault hmade =>
    cases h
    have hresult : (s.makeFoldersFrom p.parent.root p.parent.names.reverse).2 = .error fault := by
      rw [← makeFolders, hmade]
    exact isSystem_of_makeFoldersFrom hnames hresult
  next s' hmade =>
    split at h
    next heq => cases heq
    next hlocate =>
      cases h
      exact isSystem_of_locate hp.parent hlocate p
    next => exact isSystem_of_replaceFile ht h

theorem exists_find_of_isFile (h : s.isFile p = .ok true) : ∃ content, s.find p = .ok (.file content) := by
  unfold isFile holds at h
  split at h
  next item hfind =>
    cases item with
    | file content => exact ⟨content, hfind⟩
    | link target => cases h
    | folder => cases h
  next => split at h <;> cases h

theorem isNameable_of_isFile (h : s.isFile p = .ok true) : p.IsNameable := by
  obtain ⟨content, hfind⟩ := exists_find_of_isFile h
  obtain ⟨names, hnames, -⟩ := except_bind_eq_ok.1 hfind
  obtain ⟨⟨⟩, hspelling, -⟩ := except_bind_eq_ok.1 hnames
  exact isNameable_of_spelling hspelling

theorem names_ne_nil_of_isFile (hroot : s.item? [] = some .folder) (h : s.isFile p = .ok true) :
    p.names ≠ [] := by
  intro hnil
  obtain ⟨content, hfind⟩ := exists_find_of_isFile h
  obtain ⟨names, hnames, hitem⟩ := except_bind_eq_ok.1 hfind
  obtain ⟨-, -, hwalk⟩ := except_bind_eq_ok.1 hnames
  rw [hnil, walk] at hwalk
  cases hwalk
  rw [itemAt, hroot] at hitem
  cases hitem

end Store

end Phrasebook
