import Phrasebook.Proofs.Run.Effect

/-! A run over many files, from what each file comes to on its own. No file of the run has a part in what
another one comes to, as long as no two of them are one and none is a backup. -/

namespace Phrasebook

open Session Store

namespace Batch

variable {parser : Parser} {settings : Settings} {base p q p' q' : FilePath} {s s₀ s' s₀' : Store}
  {r : Refusals} {place place' names : List Text} {content content' : Bytes} {files done : List FilePath}
  {outcome : FilePath → Except Fault FileResult}

/-- A file system without links in which the files of a run are told apart, from each other and from where
their former texts are kept. -/
structure IsPlain (settings : Settings) (s : Store) (files : List FilePath) : Prop where
  linkless : s.IsLinkless
  dots : Discover.HasNoDots s
  aliases : ∀ p ∈ files, ∀ p' ∈ files, s.locate true p = s.locate true p' → p = p'
  backups : ∀ p ∈ files, ∀ content q, s.read p = .ok content → IsBackup settings p content q →
    ∀ p' ∈ files, s.locate true p' ≠ s.locate true q

def Owns (settings : Settings) (s₀ s : Store) (p : FilePath) (names : List Text) : Prop :=
  ∃ place content, HasFile s₀ p place content ∧
    (names = place ∨ ∃ q, IsBackup settings p content q ∧ names = backupPlace place q ∧ HasFile s q names content)

theorem Touches.owns {done : Except Fault FileResult} (h : HasFile s₀ p place content)
    (htouches : Touches settings s p place content done names) : Owns settings s₀ s p names := by
  rcases htouches with ⟨-, hplace⟩ | ⟨-, hbackup⟩
  · exact ⟨place, content, h, .inl hplace⟩
  · exact ⟨place, content, h, .inr hbackup⟩

theorem locate_backup (hs₀ : s₀.IsLinkless) (hs : s.IsLinkless) (h : HasFile s₀ p place content)
    (hq : IsBackup settings p content q) (hthere : HasFile s q (backupPlace place q) content)
    (hfile : HasFile s₀ p' (backupPlace place q) content') : s₀.locate true q = .ok (backupPlace place q) := by
  obtain ⟨-, former, -, hpath⟩ := hq
  obtain ⟨folder, -, hbeside, -, hparent, -, hsplit, hstay, hup⟩ := HasFile.backup hs₀ h hpath
  obtain ⟨-, -, -, -, -, hshort⟩ := hthere.leads.of_file hs hthere.file
  refine (locate_eq_ok hs₀).2 ⟨hthere.spelling, ?_⟩
  rw [hbeside] at hfile ⊢
  rw [hsplit]
  refine hparent.leads.append (.down hparent.folder hstay hup hshort ?_ .here)
  rw [hfile.file]
  rfl

theorem place_of_backupPlace (hs : s.IsLinkless) (h : HasFile s p place content)
    (h' : HasFile s p' place' content') (hq : IsBackup settings p content q)
    (hq' : IsBackup settings p' content' q') (heq : backupPlace place q = backupPlace place' q') :
    place = place' := by
  obtain ⟨-, former, -, hpath⟩ := hq
  obtain ⟨-, former', -, hpath'⟩ := hq'
  obtain ⟨folder, hplace, hbeside, -⟩ := HasFile.backup hs h hpath
  obtain ⟨folder', hplace', hbeside', -⟩ := HasFile.backup hs h' hpath'
  rw [hbeside, hbeside'] at heq
  obtain ⟨hfolder, hname⟩ := List.append_inj' heq rfl
  obtain ⟨-, -, suffix, hsuffix, hlength⟩ := backupPath_spec hpath
  obtain ⟨-, -, suffix', hsuffix', hlength'⟩ := backupPath_spec hpath'
  have hname' : p.name ++ suffix = p'.name ++ suffix' := by
    rw [← hsuffix, ← hsuffix']
    exact List.singleton_inj.1 hname
  rw [hplace, hplace', hfolder, (List.append_inj' hname' (hlength.trans hlength'.symm)).1]

theorem Owns.eq (hplain : IsPlain settings s₀ files) (hp : p ∈ files) (hp' : p' ∈ files)
    (hs : s.IsLinkless) (hs' : s'.IsLinkless) (h : Owns settings s₀ s p names)
    (h' : Owns settings s₀ s' p' names) : p = p' := by
  have hs₀ := hplain.linkless
  obtain ⟨place, content, hfile, hnames⟩ := h
  obtain ⟨place', content', hfile', hnames'⟩ := h'
  have hsame (heq : place = place') : p = p' := by
    subst heq
    exact hplain.aliases p hp p' hp' ((hfile.locate hs₀ true).trans (hfile'.locate hs₀ true).symm)
  rcases hnames with rfl | ⟨q, hq, rfl, hthere⟩ <;> rcases hnames' with rfl | ⟨q', hq', hplace, hthere'⟩
  · exact hsame rfl
  · subst hplace
    have hbackup := locate_backup hs₀ hs' hfile' hq' hthere' hfile
    exact (hplain.backups p' hp' content' q' (hfile'.read hs₀) hq' p hp
      ((hfile.locate hs₀ true).trans hbackup.symm)).elim
  · have hbackup := locate_backup hs₀ hs hfile hq hthere hfile'
    exact (hplain.backups p hp content q (hfile.read hs₀) hq p' hp'
      ((hfile'.locate hs₀ true).trans hbackup.symm)).elim
  · exact hsame (place_of_backupPlace hs₀ hfile hfile' hq hq' hplace)

/-- What some files of a run have done to the file system that they began with. -/
structure Reached (parser : Parser) (settings : Settings) (s₀ s : Store)
    (outcome : FilePath → Except Fault FileResult) (done : List FilePath) : Prop where
  linkless : s.IsLinkless
  keeps : Keeps s₀ s
  written : ∀ p ∈ done, ∃ place content, HasFile s₀ p place content ∧
    Written parser settings s p place content (outcome p)
  others : ∀ names, s.item? names ≠ s₀.item? names → ∃ p ∈ done, ∃ place content,
    HasFile s₀ p place content ∧ Touches settings s p place content (outcome p) names

theorem Reached.start (hs : s.IsLinkless) : Reached parser settings s s outcome [] where
  linkless := hs
  keeps := Keeps.refl s
  written _ hp := absurd hp List.not_mem_nil
  others _ hne := (hne rfl).elim

theorem Reached.hasFile (hplain : IsPlain settings s₀ files)
    (hreached : Reached parser settings s₀ s outcome done) (hdone : ∀ p ∈ done, p ∈ files)
    (hp : p ∈ files) (hnew : p ∉ done) (h : HasFile s₀ p place content) : HasFile s p place content := by
  refine h.keeps hreached.keeps ?_
  rw [← h.file]
  refine Classical.not_not.1 fun hne => ?_
  obtain ⟨p', hp', place', content', h', htouches⟩ := hreached.others place hne
  have heq := Owns.eq hplain hp (hdone p' hp') hreached.linkless hreached.linkless
    ⟨place, content, h, .inl rfl⟩ (htouches.owns h')
  exact hnew (heq ▸ hp')

theorem Written.frame {done : Except Fault FileResult} (h : HasFile s₀ p place content)
    (hwritten : Written parser settings s p place content done) (hkeeps : Keeps s s')
    (hframe : ∀ names, Owns settings s₀ s p names → s'.item? names = s.item? names) :
    Written parser settings s' p place content done where
  file hchanged hreal := by
    obtain ⟨bytes, hbytes, hfile⟩ := hwritten.file hchanged hreal
    have hsame := hframe place ⟨place, content, h, .inl rfl⟩
    exact ⟨bytes, hbytes, hfile.keeps hkeeps (hsame.trans hfile.file)⟩
  backup hchanged hreal hbackup := by
    obtain ⟨q, hq, hthere⟩ := hwritten.backup hchanged hreal hbackup
    have hsame := hframe _ ⟨place, content, h, .inr ⟨q, hq, rfl, hthere⟩⟩
    exact ⟨q, hq, hthere.keeps hkeeps (hsame.trans hthere.file)⟩

theorem Touches.frame {done : Except Fault FileResult} (hkeeps : Keeps s s')
    (hsame : s'.item? names = s.item? names) (h : Touches settings s p place content done names) :
    Touches settings s' p place content done names := by
  rcases h with hfile | ⟨hdone, q, hq, hnames, hthere⟩
  · exact .inl hfile
  · exact .inr ⟨hdone, q, hq, hnames, hthere.keeps hkeeps (hsame.trans hthere.file)⟩

theorem Reached.step (hplain : IsPlain settings s₀ files)
    (hreached : Reached parser settings s₀ s outcome done) (hdone : ∀ p ∈ done, p ∈ files)
    (hp : p ∈ files) (hnew : p ∉ done) (h : HasFile s₀ p place content)
    (hsettled : Settled parser settings s s' p place content (outcome p)) :
    Reached parser settings s₀ s' outcome (done ++ [p]) := by
  -- Nothing changes at the places of the files before.
  have hframe {p' : FilePath} (hp' : p' ∈ done) {names : List Text}
      (howns : Owns settings s₀ s p' names) : s'.item? names = s.item? names := by
    refine Classical.not_not.1 fun hne => ?_
    have howns' := (hsettled.others names hne).owns h
    have heq := Owns.eq hplain (hdone p' hp') hp hreached.linkless hsettled.linkless howns howns'
    exact hnew (heq ▸ hp')
  refine ⟨hsettled.linkless, hreached.keeps.trans hsettled.keeps, fun p' hp' => ?_, fun names hne => ?_⟩
  · rcases List.mem_append.1 hp' with hp' | hp'
    · obtain ⟨place', content', h', hwritten⟩ := hreached.written p' hp'
      exact ⟨place', content', h', hwritten.frame h' hsettled.keeps fun names => hframe hp'⟩
    · rw [List.mem_singleton.1 hp']
      exact ⟨place, content, h, hsettled.written⟩
  · by_cases hsame : s'.item? names = s.item? names
    · obtain ⟨p', hp', place', content', h', htouches⟩ := hreached.others names (hsame ▸ hne)
      exact ⟨p', List.mem_append_left [p] hp', place', content', h', htouches.frame hsettled.keeps hsame⟩
    · exact ⟨p, List.mem_append_right done (List.mem_singleton_self p), place, content, h,
        hsettled.others names hsame⟩

def tally (base : FilePath) (outcome : FilePath → Except Fault FileResult) (files : List FilePath)
    (result : Result) : Result :=
  files.foldl (fun result p => result.with (p.relativeTo base) (outcome p)) result

theorem tally_congr {outcome' : FilePath → Except Fault FileResult}
    (h : ∀ p ∈ files, outcome p = outcome' p) (result : Result) :
    tally base outcome files result = tally base outcome' files result := by
  induction files generalizing result with
  | nil => rfl
  | cons p files ih =>
    obtain ⟨hp, hrest⟩ := List.forall_mem_cons.1 h
    rw [tally, tally, List.foldl_cons, List.foldl_cons, hp]
    exact ih hrest _

def hasFailed : Except Fault FileResult → Bool
  | .ok _ => false
  | .error _ => true

theorem tally_part {α : Type} (part : Result → List α) (more : FilePath → Option α)
    (hmore : ∀ result p, part (result.with (p.relativeTo base) (outcome p)) =
      part result ++ (more p).toList) (files : List FilePath) (result : Result) :
    part (tally base outcome files result) = part result ++ files.filterMap more := by
  induction files generalizing result with
  | nil => simp [tally]
  | cons p files ih =>
    refine (ih (result.with (p.relativeTo base) (outcome p))).trans ?_
    rw [hmore, List.append_assoc, List.filterMap_cons]
    cases more p <;> rfl

theorem map_filter_eq_filterMap {α β : Type} (c : α → Bool) (f : α → β) (l : List α) :
    (l.filter c).map f = l.filterMap fun p => if c p then some (f p) else none := by
  rw [← List.filterMap_eq_map, List.filterMap_filter]
  rfl

section

variable (base outcome) (files : List FilePath) (result : Result)

theorem timings_tally : (tally base outcome files result).timings.map (·.1) =
    result.timings.map (·.1) ++ files.map (·.relativeTo base) := by
  rw [← List.filterMap_eq_map (f := (FilePath.relativeTo · base))]
  refine tally_part (fun result => result.timings.map (·.1)) _ (fun result p => ?_) files result
  cases outcome p <;> simp [Result.with]

theorem processed_tally : (tally base outcome files result).processed =
    result.processed ++ (files.filter fun p => hasChanged (outcome p)).map (·.relativeTo base) := by
  rw [map_filter_eq_filterMap]
  refine tally_part Result.processed _ (fun result p => ?_) files result
  rcases outcome p with fault | ⟨_ | _, diff⟩ <;> simp [Result.with, hasChanged]

theorem failed_tally : (tally base outcome files result).failed =
    result.failed ++ (files.filter fun p => hasFailed (outcome p)).map (·.relativeTo base) := by
  rw [map_filter_eq_filterMap]
  refine tally_part Result.failed _ (fun result p => ?_) files result
  cases outcome p <;> simp [Result.with, hasFailed]

end

theorem allEffect_induction (Inv : List FilePath → Store → Prop)
    (hstep : ∀ done p rest s, files = done ++ p :: rest → Inv done s →
      (fileEffect parser settings base r s p).1 = outcome p ∧
      ((∀ fault, outcome p = .error fault → fault.isContained = true) →
        Inv (done ++ [p]) (fileEffect parser settings base r s p).2))
    {rest : List FilePath} (hfiles : files = done ++ rest) (hinv : Inv done s) {result final : Result}
    (h : allEffect parser settings base r rest result s = (.ok final, s')) :
    final = tally base outcome rest result ∧
      (∀ p ∈ rest, ∀ fault, outcome p = .error fault → fault.isContained = true) ∧ Inv files s' := by
  induction rest generalizing done result s with
  | nil =>
    cases h
    rw [List.append_nil] at hfiles
    exact ⟨rfl, fun p hp => absurd hp List.not_mem_nil, hfiles ▸ hinv⟩
  | cons p rest ih =>
    obtain ⟨houtcome, hnext⟩ := hstep done p rest s hfiles hinv
    have hfiles' : files = done ++ [p] ++ rest := by rw [hfiles, List.append_assoc]; rfl
    rw [allEffect] at h
    generalize fileEffect parser settings base r s p = effect at h houtcome hnext
    obtain ⟨out, s₁⟩ := effect
    dsimp only at houtcome hnext
    subst houtcome
    cases hout : outcome p with
    | error fault =>
      rw [hout] at h
      dsimp only at h
      split at h
      next hcontained =>
        have hpass : ∀ stop, outcome p = .error stop → stop.isContained = true := fun stop hstop => by
          cases hout.symm.trans hstop
          exact hcontained
        obtain ⟨hfinal, hrest, hinv'⟩ := ih hfiles' (hnext hpass) h
        refine ⟨hfinal.trans ?_, List.forall_mem_cons.2 ⟨hpass, hrest⟩, hinv'⟩
        rw [← hout]
        rfl
      next => cases h
    | ok found =>
      rw [hout] at h
      have hpass : ∀ stop, outcome p = .error stop → stop.isContained = true := fun stop hstop => by
        cases hout.symm.trans hstop
      obtain ⟨hfinal, hrest, hinv'⟩ := ih hfiles' (hnext hpass) h
      refine ⟨hfinal.trans ?_, List.forall_mem_cons.2 ⟨hpass, hrest⟩, hinv'⟩
      rw [← hout]
      rfl

theorem store_of_dryRun (parser : Parser) (base : FilePath) (r : Refusals) (s : Store)
    (hdry : settings.dryRun = true) (p : FilePath) :
    (fileEffect parser settings base r s p).2 = s := by
  unfold fileEffect
  split
  · rfl
  · rfl
  · rw [if_pos hdry]

theorem allEffect_of_dryRun (parser : Parser) (settings : Settings) (base : FilePath)
    (hdry : settings.dryRun = true)
    (hcontained : ∀ p ∈ files, ∀ fault, (fileEffect parser settings base r s p).1 = .error fault →
      fault.isContained = true) (result : Result) :
    allEffect parser settings base r files result s =
      (.ok (tally base (fun p => (fileEffect parser settings base r s p).1) files result), s) := by
  induction files generalizing result with
  | nil => rfl
  | cons p files ih =>
    obtain ⟨hp, hrest⟩ := List.forall_mem_cons.1 hcontained
    have hstore := store_of_dryRun parser base r s hdry p
    have hnext := ih hrest (result.with (p.relativeTo base) (fileEffect parser settings base r s p).1)
    rw [tally, List.foldl_cons]
    rw [tally] at hnext
    rw [allEffect]
    generalize fileEffect parser settings base r s p = effect at hp hstore hnext
    obtain ⟨out, s₁⟩ := effect
    dsimp only at hstore
    subst hstore
    cases out with
    | error fault =>
      dsimp only
      rw [if_pos (hp fault rfl)]
      exact hnext
    | ok found => exact hnext

theorem bindComponents_dryRun (tree : Tree) (settings : Settings) (b : Bindings)
    (components : List Pass.Component) : bindComponents tree { settings with dryRun := true } b components =
      bindComponents tree settings b components := by
  induction components generalizing b with
  | nil => rfl
  | cons c rest ih =>
    unfold bindComponents
    simp only [ih]

theorem transformCode_dryRun (code : Text) (path : Option Text) :
    transformCode parser { settings with dryRun := true } code path =
      transformCode parser settings code path := by
  have htransform (tree : Tree) : transform { settings with dryRun := true } tree = transform settings tree := by
    unfold transform
    simp only [bindComponents_dryRun]
  unfold transformCode
  simp only [htransform]

theorem fileEffect_dryRun (hreal : settings.dryRun = false) (hs : s.IsLinkless)
    (h : HasFile s p place content)
    (hcontained : ∀ fault, (fileEffect parser settings base r s p).1 = .error fault →
      fault.isContained = true)
    (hwritten : ¬ IsUnwritten (fileEffect parser settings base r s p).1) :
    (fileEffect parser { settings with dryRun := true } base r s p).1 =
      (fileEffect parser settings base r s p).1 := by
  have hexamine : examine parser { settings with dryRun := true } s p = examine parser settings s p := by
    unfold examine
    simp only [transformCode_dryRun]
    rfl
  unfold fileEffect at hcontained hwritten ⊢
  rw [hexamine]
  cases hfound : examine parser settings s p with
  | error fault => rfl
  | ok found =>
  cases found with
  | none => rfl
  | some texts =>
  obtain ⟨former, new⟩ := texts
  rw [hfound] at hcontained hwritten
  simp only [hreal, Bool.false_eq_true, if_false] at hcontained hwritten ⊢
  obtain ⟨hformer, -⟩ := examine_eq_some hs h hfound
  obtain ⟨hresult, -⟩ := rewrite_spec settings r new hs h hformer
  generalize rewrite settings r s p former new = written at hresult hcontained hwritten
  obtain ⟨s', result⟩ := written
  cases result with
  | ok u => rfl
  | error fault =>
    rcases fault_of_verdict hresult.symm with ⟨reason, rfl⟩ | hstop
    · exact (hwritten ⟨p.toText, reason.message, rfl⟩).elim
    · have hpass := hcontained _ rfl
      rw [writeFault_of_not_contained hstop, hstop] at hpass
      cases hpass

theorem filesOf_spec (hdots : Discover.HasNoDots s) (h : filesOf settings base s = .ok files) :
    files.Nodup ∧ ∀ p ∈ files, s.isFile p = .ok true ∧ (".": Text) ∉ p.names := by
  unfold filesOf at h
  split at h
  next => exact Discover.files_spec hdots h
  next => cases h

theorem reached_of_allEffect (hplain : IsPlain settings s files)
    (hfiles : filesOf settings base s = .ok files) {result : Result}
    (h : allEffect parser settings base r files {} s = (.ok result, s'))
    (houtcome : ∀ p, outcome p = (fileEffect parser settings base r s p).1) :
    result = tally base outcome files {} ∧
      (∀ p ∈ files, ∀ fault, outcome p = .error fault → fault.isContained = true) ∧
      Reached parser settings s s' outcome files := by
  obtain ⟨hnodup, hall⟩ := filesOf_spec hplain.dots hfiles
  refine allEffect_induction (fun done s' => Reached parser settings s s' outcome done)
    (fun done p rest s₁ hsplit hreached => ?_) (List.nil_append files).symm
    (Reached.start hplain.linkless) h
  have hp : p ∈ files := hsplit ▸ List.mem_append_right done List.mem_cons_self
  have hdone : ∀ p ∈ done, p ∈ files := fun p hp => hsplit ▸ List.mem_append_left _ hp
  have hnew : p ∉ done := by
    rw [hsplit] at hnodup
    exact fun hmem => (List.nodup_append.1 hnodup).2.2 p hmem p List.mem_cons_self rfl
  obtain ⟨place, content, h₀⟩ := exists_hasFile hplain.linkless (hall p hp).1 (hall p hp).2
  have hnow := hreached.hasFile hplain hdone hp hnew h₀
  have hsame : (fileEffect parser settings base r s₁ p).1 = outcome p := by
    rw [houtcome]
    exact fileEffect_congr hplain.linkless hreached.linkless hreached.keeps h₀ hnow
  refine ⟨hsame, fun hcontained => hreached.step hplain hdone hp hnew h₀ ?_⟩
  rw [← hsame] at hcontained ⊢
  exact settled_fileEffect hreached.linkless hnow hcontained

/-- What a run has come to and done, for the files that it changed and those that failed. -/
structure Course (parser : Parser) (settings : Settings) (base : FilePath) (w w' : World)
    (files changed failed : List FilePath) (result : Result) : Prop where
  ofChanged : changed.Sublist files
  ofFailed : failed.Sublist files
  disjoint : changed.Disjoint failed
  timings : result.timings.map (·.1) = files.map (·.relativeTo base)
  processedShown : result.processed = changed.map (·.relativeTo base)
  failedShown : result.failed = failed.map (·.relativeTo base)
  dry : settings.dryRun = true → w'.store = w.store
  written : settings.dryRun = false → ∀ p ∈ changed, ∃ content bytes, w.store.read p = .ok content ∧
    IsRewriting parser settings p content bytes ∧ w'.store.read p = .ok bytes ∧
    (settings.backup = true → ∃ q, IsBackup settings p content q ∧ w'.store.read q = .ok content)
  /-- Nothing else is changed, but for the backup of a file that failed while it was being written. -/
  others : settings.dryRun = false → ∀ names, w'.store.item? names ≠ w.store.item? names →
    (∃ p ∈ changed, w.store.locate true p = .ok names) ∨
    ∃ p, (p ∈ changed ∨ p ∈ failed ∧ IsUnwritten (exec (processFile parser settings base p) w).1) ∧
      ∃ content q, w.store.read p = .ok content ∧ IsBackup settings p content q ∧
        w'.store.locate true q = .ok names ∧ w'.store.read q = .ok content
  /-- If every file could be written, a dry run would have told all of this. -/
  rehearsed : settings.dryRun = false →
    (∀ p ∈ failed, ¬ IsUnwritten (exec (processFile parser settings base p) w).1) →
    ∃ result' w'', exec (run parser { settings with dryRun := true } base) w = (.ok result', w'') ∧
      result'.processed = result.processed ∧ result'.failed = result.failed ∧
      result'.diffs = result.diffs

/-- A run that returns, in a file system where its files are told apart. -/
theorem run_effect {w w' : World} {result : Result}
    (hfiles : filesOf settings base w.store = .ok files) (hplain : IsPlain settings w.store files)
    (hrun : exec (run parser settings base) w = (.ok result, w')) :
    ∃ changed failed, Course parser settings base w w' files changed failed result := by
  obtain ⟨files', hfound, hall⟩ := exists_of_run hrun
  cases hfiles.symm.trans hfound
  obtain ⟨outcome, houtcome⟩ : ∃ outcome : FilePath → Except Fault FileResult,
      ∀ p, outcome p = (fileEffect parser settings base w.refusals w.store p).1 := ⟨_, fun _ => rfl⟩
  obtain ⟨hresult, hcontained, hreached⟩ := reached_of_allEffect hplain hfiles hall houtcome
  obtain ⟨-, hfile⟩ := filesOf_spec hplain.dots hfiles
  have hs := hplain.linkless
  have hprocess (p : FilePath) : (exec (processFile parser settings base p) w).1 = outcome p := by
    rw [houtcome]
    exact (does_processFile parser settings base p w.store w.refusals w rfl rfl).1
  have hchanged {p : FilePath} : p ∈ files.filter (fun p => hasChanged (outcome p)) ↔
      p ∈ files ∧ hasChanged (outcome p) = true := List.mem_filter
  have hfailed {p : FilePath} : p ∈ files.filter (fun p => hasFailed (outcome p)) ↔
      p ∈ files ∧ hasFailed (outcome p) = true := List.mem_filter
  refine ⟨files.filter fun p => hasChanged (outcome p), files.filter fun p => hasFailed (outcome p),
    List.filter_sublist, List.filter_sublist, ?disjoint, ?timings, ?processed, ?failed, ?dry, ?written,
    ?others, ?rehearsed⟩
  case disjoint =>
    intro p hp hp'
    have hone := (hchanged.1 hp).2
    have htwo := (hfailed.1 hp').2
    cases h : outcome p with
    | error fault =>
      rw [h] at hone
      cases hone
    | ok done =>
      rw [h] at htwo
      cases htwo
  case timings =>
    rw [hresult, timings_tally]
    rfl
  case processed =>
    rw [hresult, processed_tally]
    rfl
  case failed =>
    rw [hresult, failed_tally]
    rfl
  case dry =>
    intro hdry
    rw [allEffect_of_dryRun parser settings base hdry fun p hp fault h => hcontained p hp fault ((houtcome p).trans h)] at hall
    exact (congrArg Prod.snd hall).symm
  case written =>
    intro hreal p hp
    obtain ⟨hp, hdone⟩ := hchanged.1 hp
    obtain ⟨place, content, h, hwritten⟩ := hreached.written p hp
    obtain ⟨bytes, hbytes, hnow⟩ := hwritten.file hdone hreal
    refine ⟨content, bytes, h.read hs, hbytes, hnow.read hreached.linkless, fun hbackup => ?_⟩
    obtain ⟨q, hq, hthere⟩ := hwritten.backup hdone hreal hbackup
    exact ⟨q, hq, hthere.read hreached.linkless⟩
  case others =>
    intro _ names hne
    obtain ⟨p, hp, place, content, h, ⟨hdone, rfl⟩ | ⟨hdone, q, hq, -, hthere⟩⟩ := hreached.others names hne
    · exact .inl ⟨p, hchanged.2 ⟨hp, hdone⟩, h.locate hs true⟩
    · refine .inr ⟨p, hdone.imp (fun hdone => hchanged.2 ⟨hp, hdone⟩) fun hdone => ⟨?_, hprocess p ▸ hdone⟩,
        content, q, h.read hs, hq, hthere.locate hreached.linkless true, hthere.read hreached.linkless⟩
      obtain ⟨path, reason, hfault⟩ := hdone
      exact hfailed.2 ⟨hp, by rw [hfault]; rfl⟩
  case rehearsed =>
    intro hreal hwritable
    have hsame : ∀ p ∈ files, (fileEffect parser { settings with dryRun := true } base w.refusals w.store p).1 =
        outcome p := by
      intro p hp
      obtain ⟨place, content, h⟩ := exists_hasFile hs (hfile p hp).1 (hfile p hp).2
      have hpass := hcontained p hp
      have hwritten : ¬ IsUnwritten (outcome p) := by
        rintro ⟨path, reason, hfault⟩
        refine hwritable p (hfailed.2 ⟨hp, by rw [hfault]; rfl⟩) ?_
        rw [hprocess]
        exact ⟨path, reason, hfault⟩
      rw [houtcome] at hpass hwritten ⊢
      exact fileEffect_dryRun hreal hs h hpass hwritten
    have hdry := allEffect_of_dryRun parser { settings with dryRun := true } base rfl
      (fun p hp fault hfault => hcontained p hp fault ((hsame p hp).symm.trans hfault)) {}
    have hfiles' : filesOf { settings with dryRun := true } base w.store = .ok files := hfiles
    obtain ⟨hresult', -⟩ := does_run parser { settings with dryRun := true } base w.store w.refusals
      hfiles' w rfl rfl
    rw [hdry, tally_congr hsame, ← hresult] at hresult'
    exact ⟨result, _, Prod.ext hresult' rfl, rfl, rfl, rfl⟩

theorem locate_backup_ne (hs : s.IsLinkless) (hq : IsBackup settings p content q)
    (h : HasFile s p' place' content') (hlength : p'.name.length ≤ p.name.length) :
    s.locate true p' ≠ s.locate true q := by
  intro heq
  obtain ⟨-, former, -, hpath⟩ := hq
  obtain ⟨-, -, suffix, hname, hsuffix⟩ := backupPath_spec hpath
  obtain ⟨folder, -, -, hplace⟩ := h.exists_folder hs
  rw [h.locate hs] at heq
  obtain ⟨folder', -, -, -, hplace', -⟩ := ((locate_eq_ok hs).1 heq.symm).2.of_file hs h.file
  rw [hplace] at hplace'
  have hsame := congrArg List.length (List.singleton_inj.1 (List.append_inj' hplace' rfl).2)
  change p'.name.length = q.name.length at hsame
  rw [hname, List.length_append, hsuffix] at hsame
  omega

end Batch

namespace Sample

/-- What a parser answers for the one component of a project. -/
def projectAnswer : Answer :=
  let leaf (kind : String) (start stop : Nat) : Answer :=
    .node kind ⟨false, false, false, false⟩ start stop none []
  let inner (kind : String) (start stop : Nat) (field : Option String) (children : List Answer) : Answer :=
    .node kind ⟨true, false, false, false⟩ start stop field children
  inner "program" 0 27 none [inner "function_declaration" 0 27 none [
    leaf "function" 0 8, inner "identifier" 9 10 (some "name") [],
    inner "formal_parameters" 10 12 (some "parameters") [leaf "(" 10 11, leaf ")" 11 12],
    inner "statement_block" 12 27 (some "body") [leaf "\x7b" 12 13,
      inner "return_statement" 13 26 none [leaf "return" 13 19,
        inner "string" 20 25 none [leaf "\"" 20 21, inner "string_fragment" 21 24 none [], leaf "\"" 24 25],
        leaf ";" 25 26],
      leaf "\x7d" 26 27]]]

def projectCode : Text := "function A()\x7breturn \"가\";\x7d"

def projectFile : FilePath := ⟨1, ["p", "a.tsx"]⟩

def projectFolder : FilePath := ⟨1, ["p"]⟩

def oneFile (content : Bytes) : Store := ⟨[(projectFile.names, .file content)]⟩

theorem oneFile_linkless (content : Bytes) : (oneFile content).IsLinkless where
  root := rfl
  links := by simp [oneFile]

theorem oneFile_hasFile (content : Bytes) :
    HasFile (oneFile content) projectFile projectFile.names content where
  spelling := by decide
  leads := by
    refine .down rfl (by decide) (by decide) (by decide) rfl ?_
    exact .down rfl (by decide) (by decide) (by decide) rfl .here
  file := rfl
  dots := by decide

theorem oneFile_files (content : Bytes) :
    Discover.files (oneFile content) projectFolder "a.tsx" [] = .ok [projectFile] := by
  have hfile := oneFile_hasFile content
  have hlinkless := oneFile_linkless content
  have hfound : Discover.filesOf (oneFile content) projectFolder "a.tsx" = .ok [projectFile] :=
    Discover.filesOf_of_isPlain (by decide) (by decide) (hfile.stands hlinkless)
      (hfile.isFile hlinkless)
  have hexpand : Braces.expand "a.tsx" = [("a.tsx" : Text)] := by decide +kernel
  unfold Discover.files
  rw [hexpand, List.mapM_cons, hfound]
  have hsort : [projectFile].mergeSort FilePath.le = [projectFile] := List.mergeSort_singleton _
  show ([projectFile].mergeSort FilePath.le).filterM (fun p => do
    return !(← Discover.isIgnored (oneFile content) projectFolder p [])) = _
  rw [hsort]
  rfl

def projectRewritten : Text :=
  "import \x7b useTranslation \x7d from \"i18nexus\";\n" ++
    "function A()\x7b const \x7b t \x7d = useTranslation();return t(\"가\");\x7d"

/-- A file of the project. -/
def fileNamed (n : Text) : FilePath := projectFolder.child n

def twoFiles (first second : Bytes) : Store := ⟨[((fileNamed "a.tsx").names, .file first),
  ((fileNamed "b.tsx").names, .file second)]⟩

theorem twoFiles_linkless (first second : Bytes) : (twoFiles first second).IsLinkless where
  root := rfl
  links := by simp [twoFiles]

section TwoFiles

variable {first second : Bytes}

theorem twoFiles_hasFile {n : Text} {content : Bytes} (hn : n ∈ [("a.tsx" : Text), "b.tsx"])
    (h : (twoFiles first second).item? (fileNamed n).names = some (.file content)) :
    HasFile (twoFiles first second) (fileNamed n) (fileNamed n).names content := by
  have hall : ∀ n ∈ [("a.tsx" : Text), "b.tsx"], spellingOf (fileNamed n) = .ok () ∧ n ≠ "." ∧ n ≠ ".." ∧
      isLongName n = false ∧ (".": Text) ∉ (fileNamed n).names := by decide
  obtain ⟨hspelling, hstay, hup, hshort, hdots⟩ := hall n hn
  refine ⟨hspelling, ?_, h, hdots⟩
  refine .down rfl (by decide) (by decide) (by decide) rfl ?_
  refine .down rfl hstay hup hshort ?_ .here
  show ((twoFiles first second).item? (fileNamed n).names).isSome = true
  rw [h]
  rfl

theorem twoFiles_first : HasFile (twoFiles first second) (fileNamed "a.tsx") (fileNamed "a.tsx").names
    first := twoFiles_hasFile (by decide) rfl

theorem twoFiles_second : HasFile (twoFiles first second) (fileNamed "b.tsx") (fileNamed "b.tsx").names
    second := twoFiles_hasFile (by decide) rfl

theorem twoFiles_files : Discover.files (twoFiles first second) projectFolder "\x7ba,b\x7d.tsx" [] =
    .ok [fileNamed "a.tsx", fileNamed "b.tsx"] := by
  have hfound {n : Text} {content : Bytes} (hn : n ∈ [("a.tsx" : Text), "b.tsx"])
      (h : HasFile (twoFiles first second) (fileNamed n) (fileNamed n).names content) :
      Discover.filesOf (twoFiles first second) projectFolder n = .ok [fileNamed n] := by
    have hall : ∀ n ∈ [("a.tsx" : Text), "b.tsx"], FilePath.parse n = ⟨0, [n]⟩ ∧
        ∀ m ∈ (projectFolder.child n).names, Discover.isPlain m = true := by decide
    exact Discover.filesOf_of_isPlain (hall n hn).1 (hall n hn).2 (h.stands (twoFiles_linkless _ _))
      (h.isFile (twoFiles_linkless _ _))
  have hexpand : Braces.expand "\x7ba,b\x7d.tsx" = [("a.tsx" : Text), "b.tsx"] := by decide +kernel
  have hsort : [fileNamed "a.tsx", fileNamed "b.tsx"].mergeSort FilePath.le =
      [fileNamed "a.tsx", fileNamed "b.tsx"] := List.mergeSort_of_pairwise (by decide)
  unfold Discover.files
  rw [hexpand, List.mapM_cons, List.mapM_cons, hfound (by decide) twoFiles_first,
    hfound (by decide) twoFiles_second]
  show ([fileNamed "a.tsx", fileNamed "b.tsx"].eraseDups.mergeSort FilePath.le).filterM (fun p => do
    return !(← Discover.isIgnored (twoFiles first second) projectFolder p [])) = _
  rw [show [fileNamed "a.tsx", fileNamed "b.tsx"].eraseDups = [fileNamed "a.tsx", fileNamed "b.tsx"] by
    decide, hsort]
  rfl

end TwoFiles

def mixed : Store := twoFiles [0xFF] ((Utf8.encode? projectCode).getD [])

theorem mixed_linkless : mixed.IsLinkless := twoFiles_linkless _ _

/-- The settings that rewrite both files and keep their former texts. -/
def keepingBoth : Settings := { sourcePattern := .str "\x7ba,b\x7d.tsx", backup := true }

theorem mixed_files : Batch.filesOf keepingBoth projectFolder mixed =
    .ok [fileNamed "a.tsx", fileNamed "b.tsx"] := twoFiles_files

theorem decodeFault_project : Utf8.decodeFault ((Utf8.encode? projectCode).getD []) = .ok projectCode :=
  Utf8.decodeFault_eq_ok.2 (by decide)

theorem examine_mixed : ∃ reason, Batch.examine (fun _ _ => some projectAnswer) keepingBoth mixed
    (fileNamed "a.tsx") = .error (.undecodable reason) := by
  unfold Batch.examine
  rw [show mixed.isLink (fileNamed "a.tsx") = _ from twoFiles_first.isLink mixed_linkless]
  show ∃ reason, (mixed.read (fileNamed "a.tsx") >>= _ : Except Fault _) = .error (.undecodable reason)
  rw [show mixed.read (fileNamed "a.tsx") = _ from twoFiles_first.read mixed_linkless]
  exact ⟨_, rfl⟩

theorem examine_rewritten : Batch.examine (fun _ _ => some projectAnswer) keepingBoth mixed
    (fileNamed "b.tsx") = .ok (some (projectCode, projectRewritten)) := by
  refine except_eq_ok_of_toOption ?_
  unfold Batch.examine
  rw [show mixed.isLink (fileNamed "b.tsx") = _ from twoFiles_second.isLink mixed_linkless]
  show (mixed.read (fileNamed "b.tsx") >>= _ : Except Fault _).toOption = _
  rw [show mixed.read (fileNamed "b.tsx") = _ from twoFiles_second.read mixed_linkless]
  decide +kernel

theorem mixed_hasFile {p : FilePath} (hp : p ∈ [fileNamed "a.tsx", fileNamed "b.tsx"]) :
    ∃ content ∈ [[0xFF], (Utf8.encode? projectCode).getD []], HasFile mixed p p.names content := by
  rw [List.mem_pair] at hp
  rcases hp with rfl | rfl
  · exact ⟨_, List.mem_cons_self, twoFiles_first⟩
  · exact ⟨_, List.mem_cons_of_mem _ List.mem_cons_self, twoFiles_second⟩

theorem mixed_plain : Batch.IsPlain keepingBoth mixed [fileNamed "a.tsx", fileNamed "b.tsx"] where
  linkless := mixed_linkless
  dots := by simp [Discover.HasNoDots, mixed, twoFiles]; decide
  aliases := by
    have hnames : ∀ p ∈ [fileNamed "a.tsx", fileNamed "b.tsx"],
        ∀ p' ∈ [fileNamed "a.tsx", fileNamed "b.tsx"], p.names = p'.names → p = p' := by decide
    intro p hp p' hp' heq
    obtain ⟨_, -, hfile⟩ := mixed_hasFile hp
    obtain ⟨_, -, hfile'⟩ := mixed_hasFile hp'
    rw [hfile.locate mixed_linkless, hfile'.locate mixed_linkless] at heq
    exact hnames p hp p' hp' (Except.ok.inj heq)
  backups := by
    have hlengths : ∀ p ∈ [fileNamed "a.tsx", fileNamed "b.tsx"], p.name.length = 5 := by decide
    intro p hp content q _ hq p' hp'
    obtain ⟨_, -, hfile⟩ := mixed_hasFile hp'
    exact Batch.locate_backup_ne mixed_linkless hq hfile (by rw [hlengths p hp, hlengths p' hp'])

theorem exists_run_mixed : ∃ result w', exec (Batch.run (fun _ _ => some projectAnswer) keepingBoth
    projectFolder) { store := mixed } = (.ok result, w') ∧
    result.processed = [Text.ofString "b.tsx"] ∧ result.failed = [Text.ofString "a.tsx"] := by
  have hdecode : Utf8.decodeFault ((Utf8.encode? projectCode).getD []) = .ok projectCode :=
    Utf8.decodeFault_eq_ok.2 (by decide)
  have hverdict : Batch.verdict keepingBoth (fun _ _ => none) (fileNamed "b.tsx")
      ((Utf8.encode? projectCode).getD []) projectCode projectRewritten
      (fun q => mixed.item? (backupPlace (fileNamed "b.tsx").names q)) = .ok () :=
    except_eq_ok_of_toOption (by decide +kernel)
  obtain ⟨hresult, -⟩ := Batch.rewrite_spec keepingBoth (fun _ _ => none) projectRewritten
    mixed_linkless (twoFiles_second : HasFile mixed _ _ _) hdecode
  rw [hverdict] at hresult
  obtain ⟨hrun, -⟩ := Batch.does_run (fun _ _ => some projectAnswer) keepingBoth projectFolder mixed
    (fun _ _ => none) mixed_files { store := mixed } rfl rfl
  obtain ⟨reason, hmixed⟩ := examine_mixed
  rw [Batch.allEffect, Batch.fileEffect, hmixed] at hrun
  dsimp only at hrun
  rw [if_pos (show (Fault.undecodable reason).isContained = true from rfl), Batch.allEffect,
    Batch.fileEffect, examine_rewritten] at hrun
  dsimp only [keepingBoth] at hrun hresult
  generalize Batch.rewrite _ _ mixed (fileNamed "b.tsx") projectCode projectRewritten = written
    at hrun hresult
  obtain ⟨s', done⟩ := written
  dsimp only at hresult
  subst hresult
  exact ⟨_, _, Prod.ext hrun rfl, rfl, rfl⟩

end Sample

/-- The run over two files passes over the one that is no text, and writes the other anew and keeps its
former text. -/
theorem Batch.run_effect_backup : ∃ result w' changed failed,
    exec (Batch.run (fun _ _ => some Sample.projectAnswer) Sample.keepingBoth Sample.projectFolder)
      { store := Sample.mixed } = (.ok result, w') ∧
    result.processed = [Text.ofString "b.tsx"] ∧ result.failed = [Text.ofString "a.tsx"] ∧
    Batch.Course (fun _ _ => some Sample.projectAnswer) Sample.keepingBoth Sample.projectFolder
      { store := Sample.mixed } w' [Sample.fileNamed "a.tsx", Sample.fileNamed "b.tsx"] changed failed
      result := by
  obtain ⟨result, w', hrun, hprocessed, hfailed⟩ := Sample.exists_run_mixed
  obtain ⟨changed, failed, hcourse⟩ :=
    Batch.run_effect Sample.mixed_files Sample.mixed_plain hrun
  exact ⟨result, w', changed, failed, hrun, hprocessed, hfailed, hcourse⟩

end Phrasebook
