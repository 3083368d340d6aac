import Phrasebook.Proofs.Files.Atomic
import Phrasebook.Proofs.Run.Course

/-! A file that is rewritten is never lost: whatever step of writing it or its backup fails, and whatever
links there are, its octets are where they were or in the backup. -/

namespace Phrasebook

open Store Session

namespace Batch

variable {parser : Parser} {settings : Settings} {base p : FilePath} {s : Store} {r : Refusals}
  {place : List Text} {content : Bytes} {former new : Text}

/-- The octets of the file at a place are there, or in the backup beside it. -/
def IsKept (s : Store) (p : FilePath) (place : List Text) (content : Bytes) : Prop :=
  s.item? place = some (.file content) ∨
    ∃ former q, Utf8.decodeFault content = .ok former ∧ backupPath p former = .ok q ∧
      s.item? (backupPlace place q) = some (.file content)

theorem names_ne_nil_of_backupPath {q : FilePath} (hq : backupPath p former = .ok q) : p.names ≠ [] := by
  intro hnil
  unfold backupPath at hq
  obtain ⟨bytes, -, hq⟩ := except_bind_eq_ok.1 hq
  rw [hnil] at hq
  cases hq

theorem backup_of_atomicWrite {q : FilePath} {s₁ : Store} {folder : List Text}
    (hfolder : s.locate true p.parent = .ok folder) (hq : backupPath p former = .ok q)
    (hformer : Utf8.decodeFault content = .ok former) (hwrite : s.atomicWrite r q former = (s₁, .ok ())) :
    s₁.item? (folder ++ [q.name]) = some (.file content) := by
  obtain ⟨hparent, -, -⟩ := backupPath_spec hq
  obtain ⟨target, bytes, htarget, hencode, hwritten⟩ := atomicWrite_ok hwrite
  have hcontent : bytes = content := by
    rw [Utf8.encode, Utf8.decodeFault_eq_ok.1 hformer] at hencode
    exact (Except.ok.inj hencode).symm
  have hplace : target = folder ++ [q.name] := by
    obtain ⟨hadds, -⟩ := makeFolders_spec s q.parent
    rw [targetOf, hadds.locate (hparent ▸ hfolder)] at htarget
    exact (Except.ok.inj htarget).symm
  rw [← hplace, ← hcontent]
  exact hwritten.there

theorem backup_after_atomicWrite {q : FilePath} {folder : List Text} (r : Refusals) (new : Text)
    (hq : backupPath p former = .ok q) (hthere : s.item? (folder ++ [q.name]) = some (.file content)) :
    (s.atomicWrite r p new).1.item? (folder ++ [q.name]) = some (.file content) := by
  obtain ⟨-, -, suffix, hname, hlength⟩ := backupPath_spec hq
  cases hwrite : s.atomicWrite r p new with
  | mk s' result =>
  cases result with
  | error fault => exact (atomicWrite_error hwrite _).of_some hthere
  | ok u =>
    obtain ⟨target, bytes, htarget, -, hwritten⟩ := atomicWrite_ok hwrite
    refine (hwritten.others _ fun heq => ?_).of_some hthere
    obtain ⟨folder', -, rfl⟩ := except_map_eq_ok.1 htarget
    have hsame := congrArg List.length (List.singleton_inj.1 (List.append_inj' heq rfl).2)
    rw [hname, List.length_append, hlength] at hsame
    omega

theorem isKept_of_rewrite (r : Refusals) (new : Text) (hbackup : settings.backup = true)
    (h : s.locate true p = .ok place) (hfile : s.item? place = some (.file content))
    (hlink : s.isLink p = .ok false) (hformer : Utf8.decodeFault content = .ok former) :
    IsKept (rewrite settings r s p former new).1 p place content := by
  unfold rewrite
  rw [if_pos hbackup]
  cases hq : backupPath p former with
  | error fault => exact .inl hfile
  | ok q =>
  obtain ⟨folder, hfolder, rfl⟩ := exists_folder_of_locate h hfile hlink (names_ne_nil_of_backupPath hq)
  dsimp only
  cases hfirst : s.atomicWrite r q former with
  | mk s₁ result =>
  cases result with
  | error fault => exact .inl ((atomicWrite_error hfirst _).of_some hfile)
  | ok u =>
    have hthere := backup_of_atomicWrite hfolder hq hformer hfirst
    refine .inr ⟨former, q, hformer, hq, ?_⟩
    rw [backupPlace, List.dropLast_concat]
    exact backup_after_atomicWrite r new hq hthere

theorem isKept_fileEffect (hbackup : settings.backup = true) (h : s.locate true p = .ok place)
    (hfile : s.item? place = some (.file content)) :
    IsKept (fileEffect parser settings base r s p).2 p place content := by
  unfold fileEffect
  split
  next => exact .inl hfile
  next => exact .inl hfile
  next former new hfound =>
  split
  next => exact .inl hfile
  next =>
  obtain ⟨hlink, content', hread, hformer, -⟩ := read_of_examine hfound
  have hcontent : content' = content := by
    rw [Store.read, find_eq_ok.2 ⟨place, h, hfile⟩] at hread
    exact (Except.ok.inj hread).symm
  subst hcontent
  have hkept := isKept_of_rewrite r new hbackup h hfile hlink hformer
  split
  next hrewrite =>
    rw [hrewrite] at hkept
    exact hkept
  next hrewrite =>
    rw [hrewrite] at hkept
    exact hkept

/-- Texts are written all at once, and no file is lost. A write that fails leaves all that was there, one
that returns leaves the octets of the text at its target and all else as it was, and neither leaves anything
new but folders. So a file of which a backup is to be kept is there or in its backup when its processing
ends, be it by a fault. -/
theorem processFile_keeps :
    (∀ (s : Store) (r : Refusals) (p : FilePath) (t : Text),
      (∀ s' fault, s.atomicWrite r p t = (s', .error fault) → AddsFolders s s') ∧
      (∀ s', s.atomicWrite r p t = (s', .ok ()) → ∃ target bytes,
        (s.makeFolders p.parent).1.targetOf p = .ok target ∧ Utf8.encode t = .ok bytes ∧
          HasWritten s s' target bytes) ∧
      ((s.atomicWrite r p t).2 = .ok () ↔ (∀ step, r p step = none) ∧ Admits s p t)) ∧
    ∀ (parser : Parser) (settings : Settings) (base p : FilePath) (w : World) (place : List Text)
      (content : Bytes), settings.backup = true → w.store.locate true p = .ok place →
      w.store.item? place = some (.file content) →
      IsKept (exec (processFile parser settings base p) w).2.store p place content := by
  refine ⟨fun s r p t => ⟨fun s' fault => atomicWrite_error, fun s' => atomicWrite_ok,
    atomicWrite_returns_iff⟩, fun parser settings base p w place content hbackup h hfile => ?_⟩
  obtain ⟨-, hstore, -⟩ := does_processFile parser settings base p w.store w.refusals w rfl rfl
  rw [hstore]
  exact isKept_fileEffect hbackup h hfile

end Batch

namespace Sample

def project : Store := ⟨[(projectFile.names, .file ((Utf8.encode? projectCode).getD []))]⟩

/-- The settings that rewrite the component and keep its former text. -/
def keeping : Settings := { sourcePattern := .str "a.tsx", backup := true }

theorem project_linkless : project.IsLinkless := oneFile_linkless _

theorem project_hasFile : HasFile project projectFile projectFile.names
    ((Utf8.encode? projectCode).getD []) := oneFile_hasFile _

/-- A disk on which the file of the project cannot be replaced. -/
def denying : Refusals := fun p step => if p = projectFile ∧ step = .replace then some .readOnly else none

theorem project_admits {t : Text} (h : ∃ bytes, Utf8.encode t = .ok bytes) :
    Admits project projectFile t := by
  obtain ⟨folder, -, hparent, hplace⟩ := project_hasFile.exists_folder project_linkless
  have hmade := makeFolders_of_folder project_linkless hparent.spelling hparent.leads hparent.folder hparent.dots
  have hlocate : project.locate true projectFile.parent = .ok folder :=
    (locate_eq_ok project_linkless).2 ⟨hparent.spelling, hparent.leads⟩
  refine ⟨by rw [hmade], project_hasFile.spelling, by decide, by decide, h, fun target htarget => ?_⟩
  rw [hmade] at htarget ⊢
  rw [targetOf, hlocate] at htarget
  cases htarget
  show project.item? (folder ++ [projectFile.name]) ≠ some .folder
  rw [← hplace, project_hasFile.file]
  simp

end Sample

/-- With the file that cannot be replaced, and on a disk that refuses nothing. -/
theorem Batch.processFile_keeps_denied :
    (∃ s' fault, Sample.project.atomicWrite Sample.denying Sample.projectFile "b" = (s', .error fault) ∧
      AddsFolders Sample.project s') ∧
    (∃ s' target bytes, Sample.project.atomicWrite (fun _ _ => none) Sample.projectFile "b" = (s', .ok ()) ∧
      Utf8.encode "b" = .ok bytes ∧ HasWritten Sample.project s' target bytes) ∧
    Batch.IsKept (exec (Batch.processFile (fun _ _ => some Sample.projectAnswer) Sample.keeping
        Sample.projectFolder Sample.projectFile)
      { store := Sample.project, refusals := Sample.denying }).2.store Sample.projectFile
      Sample.projectFile.names ((Utf8.encode? Sample.projectCode).getD []) := by
  refine ⟨?denied, ?written, ?kept⟩
  case denied =>
    obtain ⟨herror, -, hreturns⟩ :=
      Batch.processFile_keeps.1 Sample.project Sample.denying Sample.projectFile "b"
    cases hwrite : Sample.project.atomicWrite Sample.denying Sample.projectFile "b" with
    | mk s' result =>
    cases result with
    | error fault => exact ⟨s', fault, rfl, herror s' fault hwrite⟩
    | ok u =>
      rw [hwrite] at hreturns
      obtain ⟨hnone, -⟩ := hreturns.1 rfl
      cases hnone .replace
  case written =>
    obtain ⟨-, hok, hreturns⟩ :=
      Batch.processFile_keeps.1 Sample.project (fun _ _ => none) Sample.projectFile "b"
    cases hwrite : Sample.project.atomicWrite (fun _ _ => none) Sample.projectFile "b" with
    | mk s' result =>
    rw [hwrite] at hreturns
    have hresult := hreturns.2 ⟨fun _ => rfl, Sample.project_admits ⟨[0x62], rfl⟩⟩
    dsimp only at hresult
    subst hresult
    obtain ⟨target, bytes, -, hencode, hwritten⟩ := hok s' hwrite
    exact ⟨s', target, bytes, rfl, hencode, hwritten⟩
  case kept =>
    exact Batch.processFile_keeps.2 _ Sample.keeping Sample.projectFolder Sample.projectFile
      { store := Sample.project, refusals := Sample.denying } Sample.projectFile.names _ rfl
      (Sample.project_hasFile.locate Sample.project_linkless true) Sample.project_hasFile.file

end Phrasebook
