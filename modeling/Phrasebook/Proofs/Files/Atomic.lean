import Phrasebook.Proofs.Files.Links

/-! Writing a text all at once in any file system. Either the target gets the octets of the text, or
what was there is there still; nothing else is new but folders. -/

namespace Phrasebook

namespace Store

/-- The place where a text written to a path is put. -/
def targetOf (s : Store) (p : FilePath) : Except Obstacle (List Text) :=
  (s.locate true p.parent).map (· ++ [p.name])

def AddsAt (s s' : Store) (names : List Text) : Prop :=
  s'.item? names = s.item? names ∨ s.item? names = none ∧ s'.item? names = some .folder

/-- All that was there is there, and what is new is a folder. -/
def AddsFolders (s s' : Store) : Prop := ∀ names, AddsAt s s' names

/-- The octets are at their place, and elsewhere nothing is new but folders. -/
structure HasWritten (s s' : Store) (target : List Text) (bytes : Bytes) : Prop where
  there : s'.item? target = some (.file bytes)
  others : ∀ names, names ≠ target → AddsAt s s' names

/-- All that writing a text to a path takes, apart from what the system may refuse. -/
structure Admits (s : Store) (p : FilePath) (t : Text) : Prop where
  made : (s.makeFolders p.parent).2 = .ok ()
  spelling : spellingOf p = .ok ()
  short : isLongName p.name = false
  own : isDots p.name = false
  encodable : ∃ bytes, Utf8.encode t = .ok bytes
  free : ∀ target, (s.makeFolders p.parent).1.targetOf p = .ok target →
    (s.makeFolders p.parent).1.item? target ≠ some .folder

section

variable {s s' s'' : Store} {r : Refusals} {p : FilePath} {target names : List Text} {t : Text} {bytes : Bytes}

theorem AddsFolders.refl (s : Store) : AddsFolders s s := fun _ => .inl rfl

theorem AddsAt.of_some {item : Item} (h : AddsAt s s' names) (hitem : s.item? names = some item) :
    s'.item? names = some item := by
  rcases h with h | ⟨hnone, -⟩
  · rw [h, hitem]
  · rw [hnone] at hitem
    cases hitem

theorem AddsFolders.retains (h : AddsFolders s s') : Retains s s' := fun names _ => (h names).of_some

theorem AddsAt.trans (h : AddsAt s s' names) (h' : AddsAt s' s'' names) : AddsAt s s'' names := by
  rcases h with h | ⟨hnone, hfolder⟩
  · unfold AddsAt
    rw [← h]
    exact h'
  · exact .inr ⟨hnone, h'.of_some hfolder⟩

theorem AddsFolders.trans (h : AddsFolders s s') (h' : AddsFolders s' s'') : AddsFolders s s'' :=
  fun names => (h names).trans (h' names)

theorem AddsFolders.hasWritten (h : AddsFolders s s') (h' : HasWritten s' s'' target bytes) :
    HasWritten s s'' target bytes :=
  ⟨h'.there, fun names hne => (h names).trans (h'.others names hne)⟩

theorem inFolders_of_locate (h : s.locate true p = .ok target) : InFolders s target := by
  obtain ⟨-, hwalk⟩ := locate_eq_walk.1 h
  obtain ⟨left, hgoes⟩ := exists_goes hwalk
  exact hgoes.inFolders (inFolders_nil s)

theorem AddsFolders.locate (h : AddsFolders s s') (hlocate : s.locate true p = .ok target) :
    s'.locate true p = .ok target := by
  obtain ⟨hspelling, hwalk⟩ := locate_eq_walk.1 hlocate
  obtain ⟨left, hgoes⟩ := exists_goes hwalk
  exact locate_eq_walk.2 ⟨hspelling, (hgoes.retains h.retains).walk⟩

theorem itemAt_eq_ok {item : Item} : s.itemAt target = .ok item ↔ s.item? target = some item := by
  unfold itemAt
  cases s.item? target with
  | none => exact ⟨fun h => (by cases h), fun h => (by cases h)⟩
  | some there => exact ⟨fun h => (by cases h; rfl), fun h => (by cases h; rfl)⟩

theorem find_eq_ok {item : Item} : s.find p = .ok item ↔
    ∃ place, s.locate true p = .ok place ∧ s.item? place = some item :=
  except_bind_eq_ok.trans (exists_congr fun _ => and_congr_right fun _ => itemAt_eq_ok)

theorem find_of_settleFolder {fault : Fault} (h : s.settleFolder p fault = .ok ()) :
    s.find p = .ok .folder := by
  unfold settleFolder at h
  split at h
  next reason =>
    obtain ⟨isFolder, hfolder, h⟩ := except_bind_eq_ok.1 h
    cases isFolder with
    | false => cases h
    | true =>
      unfold isFolder holds at hfolder
      split at hfolder
      next item hitem =>
        rw [hitem]
        simpa using hfolder
      next => split at hfolder <;> cases hfolder
  next => cases h

theorem makeFolder_eq_ok (h : s.makeFolder p = .ok s') :
    ∃ above, spellingOf p = .ok () ∧ p.names ≠ [] ∧
      s.walk true linkLimit [] p.names.dropLast = .ok above ∧ s.item? above = some .folder ∧
      p.name ≠ ".." ∧ isLongName p.name = false ∧ s.item? (above ++ [p.name]) = none ∧
      s' = s.put (above ++ [p.name]) .folder := by
  unfold makeFolder at h
  obtain ⟨u, hspelling, h⟩ := except_bind_eq_ok.1 h
  dsimp only at h
  split at h
  next => cases h
  next hne =>
  obtain ⟨above, hwalk, h⟩ := except_bind_eq_ok.1 h
  split at h
  next => cases h
  next hfolder =>
  split at h
  next => cases h
  next hup =>
  split at h
  next => cases h
  next hshort =>
  split at h
  next => cases h
  next hnone =>
  cases h
  exact ⟨above, except_mapError_eq_ok.1 hspelling, by simpa using hne, except_mapError_eq_ok.1 hwalk,
    by simpa using hfolder, hup, by simpa using hshort, by simpa using hnone, rfl⟩

theorem addsFolders_put (hfolders : InFolders s target) (hnone : s.item? target = none) :
    AddsFolders s (s.put target .folder) := by
  intro names
  unfold AddsAt
  rw [item?_put hfolders]
  by_cases heq : names = target
  · rw [if_pos heq, heq]
    exact .inr ⟨hnone, rfl⟩
  · rw [if_neg heq]
    exact .inl rfl

theorem makeFolder_spec (h : s.makeFolder p = .ok s') : AddsFolders s s' ∧ s'.find p = .ok .folder := by
  obtain ⟨above, hspelling, hne, hwalk, habove, hup, hshort, hnone, rfl⟩ := makeFolder_eq_ok h
  obtain ⟨left, hgoes⟩ := exists_goes hwalk
  have hfolders : InFolders s (above ++ [p.name]) := (hgoes.inFolders (inFolders_nil s)).concat habove
  have hadds := addsFolders_put hfolders hnone
  refine ⟨hadds, ?_⟩
  have hgoes' := hgoes.retains hadds.retains
  have habove' := hadds.retains _ _ habove
  have hsplit : p.names = p.names.dropLast ++ [p.name] := names_of_ne_nil hne
  have hthere : (s.put (above ++ [p.name]) .folder).item? (above ++ [p.name]) = some .folder := by
    rw [item?_put hfolders, if_pos rfl]
  rw [find_eq_ok]
  by_cases hstay : p.name = "."
  · refine ⟨above, locate_eq_walk.2 ⟨hspelling, ?_⟩, habove'⟩
    rw [hsplit, hgoes'.walk_append (.inr rfl), hstay, walk_stay (hstay ▸ habove'), walk]
  · refine ⟨above ++ [p.name], locate_eq_walk.2 ⟨hspelling, ?_⟩, hthere⟩
    rw [hsplit, hgoes'.walk_append (.inr rfl), walk_down habove' hstay hup hshort hthere
      (fun target h => by cases h), walk]

theorem makeFoldersFrom_spec (root : Nat) (s : Store) (names : List Text) :
    AddsFolders s (s.makeFoldersFrom root names).1 ∧ ((s.makeFoldersFrom root names).2 = .ok () →
      (s.makeFoldersFrom root names).1.find ⟨root, names.reverse⟩ = .ok .folder) := by
  induction names with
  | nil =>
    rw [makeFoldersFrom]
    refine ⟨AddsFolders.refl s, fun h => ?_⟩
    dsimp only at h ⊢
    exact find_of_settleFolder h
  | cons n above ih =>
    rw [makeFoldersFrom]
    split
    next made hmade =>
      obtain ⟨hadds, hfind⟩ := makeFolder_spec hmade
      exact ⟨hadds, fun _ => hfind⟩
    next =>
      obtain ⟨hadds, -⟩ := ih
      generalize s.makeFoldersFrom root above = upper at hadds
      obtain ⟨s₁, result⟩ := upper
      cases result with
      | error fault => exact ⟨hadds, fun h => by cases h⟩
      | ok u =>
        dsimp only
        cases hmade : s₁.makeFolder ⟨root, (n :: above).reverse⟩ with
        | ok made =>
          obtain ⟨hadds', hfind⟩ := makeFolder_spec hmade
          exact ⟨hadds.trans hadds', fun _ => hfind⟩
        | error fault => exact ⟨hadds, fun h => find_of_settleFolder h⟩
    next => exact ⟨AddsFolders.refl s, fun h => find_of_settleFolder h⟩

theorem makeFolders_spec (s : Store) (p : FilePath) :
    AddsFolders s (s.makeFolders p).1 ∧
      ((s.makeFolders p).2 = .ok () → (s.makeFolders p).1.find p = .ok .folder) := by
  have hspec := makeFoldersFrom_spec p.root s p.names.reverse
  rwa [List.reverse_reverse] at hspec

theorem atomicWrite_cases (s : Store) (r : Refusals) (p : FilePath) (t : Text) :
    (∃ fault, (s.makeFolders p.parent).2 = .error fault ∧
      s.atomicWrite r p t = ((s.makeFolders p.parent).1, .error fault)) ∨
    ∃ target, (s.makeFolders p.parent).2 = .ok () ∧ (s.makeFolders p.parent).1.targetOf p = .ok target ∧
      InFolders (s.makeFolders p.parent).1 target ∧
      s.atomicWrite r p t = match replacement r p t ((s.makeFolders p.parent).1.item? target) with
        | .ok bytes => ((s.makeFolders p.parent).1.put target (.file bytes), .ok ())
        | .error fault => ((s.makeFolders p.parent).1, .error fault) := by
  obtain ⟨-, hfind⟩ := makeFolders_spec s p.parent
  unfold atomicWrite targetOf
  generalize s.makeFolders p.parent = made at hfind
  obtain ⟨s₁, result⟩ := made
  cases result with
  | error fault => exact .inl ⟨fault, rfl, rfl⟩
  | ok u =>
  obtain ⟨folder, hlocate, hfolder⟩ := find_eq_ok.1 (hfind rfl)
  have hfolders := inFolders_of_locate hlocate
  refine .inr ⟨folder ++ [p.name], rfl, ?_, hfolders.concat hfolder, ?_⟩
  · dsimp only
    rw [hlocate]
    rfl
  · dsimp only
    rw [hlocate]
    cases hcheck : checkSpelling p with
    | ok u => exact replaceFile_eq hfolders hfolder r hcheck t
    | error fault =>
      unfold replacement
      rw [hcheck]
      rfl

theorem atomicWrite_error {fault : Fault} (h : s.atomicWrite r p t = (s', .error fault)) :
    AddsFolders s s' := by
  obtain ⟨hadds, -⟩ := makeFolders_spec s p.parent
  rcases atomicWrite_cases s r p t with ⟨fault', -, hwrite⟩ | ⟨target, -, -, -, hwrite⟩
  · rw [h] at hwrite
    cases hwrite
    exact hadds
  · rw [h] at hwrite
    split at hwrite
    next => cases hwrite
    next =>
      cases hwrite
      exact hadds

theorem atomicWrite_ok (h : s.atomicWrite r p t = (s', .ok ())) :
    ∃ target bytes, (s.makeFolders p.parent).1.targetOf p = .ok target ∧
      Utf8.encode t = .ok bytes ∧ HasWritten s s' target bytes := by
  obtain ⟨hadds, -⟩ := makeFolders_spec s p.parent
  rcases atomicWrite_cases s r p t with ⟨fault', -, hwrite⟩ | ⟨target, -, htarget, hfolders, hwrite⟩
  · rw [h] at hwrite
    cases hwrite
  · rw [h] at hwrite
    split at hwrite
    next bytes hbytes =>
      cases hwrite
      obtain ⟨-, -, hencode, -⟩ := replacement_eq_ok.1 hbytes
      refine ⟨target, bytes, htarget, hencode, hadds.hasWritten ⟨?_, fun names hne => ?_⟩⟩
      · rw [item?_put hfolders, if_pos rfl]
      · unfold AddsAt
        rw [item?_put hfolders, if_neg hne]
        exact .inl rfl
    next => cases hwrite

theorem atomicWrite_returns_iff : (s.atomicWrite r p t).2 = .ok () ↔
    (∀ step, r p step = none) ∧ Admits s p t := by
  constructor
  · intro h
    rcases atomicWrite_cases s r p t with ⟨fault', -, hwrite⟩ | ⟨target, hmade, htarget, -, hwrite⟩
    · rw [hwrite] at h
      cases h
    · rw [hwrite] at h
      split at h
      next bytes hbytes =>
        obtain ⟨hspelling, hshort, hencode, hfree, hown, hnone⟩ := replacement_eq_ok.1 hbytes
        refine ⟨hnone, hmade, hspelling, hshort, hown, ⟨bytes, hencode⟩, fun target' htarget' => ?_⟩
        cases htarget.symm.trans htarget'
        exact hfree
      next => cases h
  · rintro ⟨hnone, hmade, hspelling, hshort, hown, ⟨bytes, hencode⟩, hfree⟩
    rcases atomicWrite_cases s r p t with ⟨fault', hfault, -⟩ | ⟨target, -, htarget, -, hwrite⟩
    · cases hmade.symm.trans hfault
    · have hbytes := replacement_eq_ok.2 ⟨hspelling, hshort, hencode, hfree target htarget, hown, hnone⟩
      rw [hwrite, hbytes]

theorem exists_folder_of_locate {place : List Text} {content : Bytes} (h : s.locate true p = .ok place)
    (hfile : s.item? place = some (.file content)) (hlink : s.isLink p = .ok false) (hne : p.names ≠ []) :
    ∃ folder, s.locate true p.parent = .ok folder ∧ place = folder ++ [p.name] := by
  obtain ⟨hspelling, hwalk⟩ := locate_eq_walk.1 h
  obtain ⟨left, hgoes⟩ := exists_goes hwalk
  have hsplit := names_of_ne_nil hne
  rw [hsplit] at hgoes
  obtain ⟨links, folder, hparent, hlast⟩ := hgoes.of_append
  refine ⟨folder, locate_eq_walk.2 ⟨spellingOf_parent hsplit hspelling, hparent.walk⟩, ?_⟩
  generalize hname : p.name = n at hlast
  cases hlast with
  | stay hfolder h =>
    cases h
    cases hfolder.symm.trans hfile
  | up hfolder h =>
    cases h
    have hup : s.item? folder.dropLast = some .folder := by
      by_cases hnil : folder = []
      · rw [hnil] at hfolder ⊢
        exact hfolder
      · refine hparent.inFolders (inFolders_nil s) _ (List.dropLast_prefix folder) fun heq => ?_
        have := congrArg List.length heq
        rw [List.length_dropLast] at this
        have := List.length_pos_iff.2 hnil
        omega
    cases hup.symm.trans hfile
  | down _ _ _ _ _ _ h =>
    cases h
    rfl
  | enter hfolder hstay hup hshort hitem _ =>
    -- A link that is not followed is what stands at the path.
    have hlocate : s.locate false p = .ok (folder ++ [n]) := by
      refine locate_eq_walk.2 ⟨hspelling, ?_⟩
      rw [hsplit, hparent.walk_append (.inl (by simp)), hname, walk_name hfolder hstay hup hshort, hitem]
      rfl
    unfold isLink peek at hlink
    rw [hlocate] at hlink
    replace hlink : holds p (s.itemAt (folder ++ [n])) _ = .ok false := hlink
    rw [itemAt_eq_ok.2 hitem] at hlink
    cases hlink

end

end Store

end Phrasebook
