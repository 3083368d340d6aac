import Phrasebook.Proofs.Files.Faults
import Phrasebook.Proofs.Run.Course
import Phrasebook.Proofs.Wrap.Totality

/-! What a run over many files contains. A file that fails is passed over, and the files after it are handled
all the same, unless the failure is that of a literal which cannot be read: that one ends the run. -/

namespace Phrasebook

open Session Store

/-- Settings that can be put into code, with a limit that sizes can be compared with. -/
structure Settings.IsUsable (settings : Settings) : Prop where
  vocabulary : settings.vocabulary.IsScalar
  limit : settings.maxFileSize.isSet = true → settings.maxFileSize.number?.isSome = true

theorem CodePoint.isNameable_of_isHex {c : CodePoint} (h : c.isHex = true) : c.isNameable = true := by
  have hascii : c.val ≠ 0 ∧ c.val < 0x80 := by
    unfold isHex hexValue? at h
    simp only [Bool.and_eq_true, decide_eq_true_eq] at h
    split at h
    · omega
    split at h
    · omega
    split at h
    · omega
    · cases h
  have hoctets : c.nameOctets? = some 1 := by
    rw [nameOctets?, if_neg (by simp only [Bool.and_eq_true, decide_eq_true_eq]; omega), Utf8.encodePoint,
      if_pos hascii.2]
    rfl
  rw [isNameable, hoctets, Bool.and_eq_true, bne_iff_ne]
  exact ⟨hascii.1, rfl⟩

theorem FilePath.IsNameable.backup {p q : FilePath} {former : Text} (hp : p.IsNameable)
    (h : backupPath p former = .ok q) : q.IsNameable := by
  obtain ⟨bytes, -, h⟩ := except_bind_eq_ok.1 h
  split at h <;> cases h
  have hdigest : ∀ c ∈ Digest.sha1 bytes, c.isNameable = true := by
    intro c hc
    obtain ⟨word, -, hc⟩ := List.mem_flatMap.1 hc
    exact CodePoint.isNameable_of_isHex (Text.isHex_of_mem_hex hc)
  refine hp.parent.child (List.forall_mem_append.2 ⟨List.forall_mem_append.2 ⟨List.forall_mem_append.2
    ⟨hp.name, by decide⟩, fun c hc => hdigest c (List.mem_of_mem_take hc)⟩, by decide⟩)

namespace Batch

variable {parser : Parser} {settings : Settings} {base p : FilePath} {s s' : Store} {r : Refusals}
  {fault : Fault} {former new : Text} {files : List FilePath}

theorem isSystem_of_exceededLimit? (husable : settings.IsUsable) (hp : p.IsNameable)
    (h : exceededLimit? settings s p = .error fault) : fault.IsSystem := by
  unfold exceededLimit? at h
  cases hset : settings.maxFileSize.isSet with
  | false =>
    rw [hset] at h
    cases h
  | true =>
    obtain ⟨limit, hlimit⟩ := Option.isSome_iff_exists.1 (husable.limit hset)
    rw [hset, hlimit] at h
    obtain h | ⟨size, -, h⟩ := except_bind_eq_error.1 h
    · unfold sizeOf at h
      split at h <;> cases h
      next hfind => exact isSystem_of_find hp hfind
    · cases h

theorem yields_examine (hparser : parser.Answers) (husable : settings.IsUsable) (hp : p.IsNameable) :
    Yields (PassFault settings.script)
      (fun found => ∀ texts, found = some texts → texts.1.IsScalar ∧ texts.2.IsScalar)
      (examine parser settings s p) := by
  have hsystem {α : Type} {x : Except Fault α} (h : ∀ fault, x = .error fault → fault.IsSystem) :
      Yields (PassFault settings.script) (fun a => x = .ok a) x :=
    yields_of_error fun fault hx => .inl (h fault hx).contained
  unfold examine
  refine (hsystem fun fault h => isSystem_of_holds h).bind fun isLink _ _ => ?_
  split
  · rintro texts ⟨⟩
  refine (hsystem fun fault h => isSystem_of_exceededLimit? husable hp h).bind fun limit _ _ => ?_
  split
  · rintro texts ⟨⟩
  refine (hsystem fun fault h => isSystem_of_read hp h).bind fun bytes _ _ => ?_
  refine ((yields_decodeFault bytes).imp (fun fault h => .inl h) fun code _ h => h).bind fun code _ hcode => ?_
  refine (yields_transformCode hparser husable.vocabulary hcode _).bind fun out _ hout => ?_
  show ∀ texts, (if !out.modified || out.code == code then none else some (code, out.code)) = some texts → _
  intro texts htexts
  split at htexts <;> cases htexts
  exact ⟨hcode, hout⟩

theorem isSystem_of_rewrite (hp : p.IsNameable) (hne : p.names ≠ []) (hformer : former.IsScalar)
    (hnew : new.IsScalar) (h : (rewrite settings r s p former new).2 = .error fault) : fault.IsSystem := by
  unfold rewrite at h
  split at h
  next =>
    split at h
    next hbackup =>
      obtain ⟨bytes, hbytes⟩ := Option.isSome_iff_exists.1 (Text.isSome_encode? hformer)
      have hnames : p.names.isEmpty = false := by simpa using hne
      unfold backupPath at hbackup
      rw [Utf8.encode_eq_ok.2 hbytes, hnames] at hbackup
      cases hbackup
    next q hq =>
      have hwrite {fault : Fault} (h : (s.atomicWrite r q former).2 = .error fault) : fault.IsSystem :=
        isSystem_of_atomicWrite (hp.backup hq) hformer h
      split at h
      next hdone =>
        cases h
        exact hwrite (by rw [hdone])
      next => exact isSystem_of_atomicWrite hp hnew h
  next => exact isSystem_of_atomicWrite hp hnew h

theorem cases_fileEffect (hparser : parser.Answers) (husable : settings.IsUsable) (hp : p.IsNameable)
    (hne : p.names ≠ []) (h : fileEffect parser settings base r s p = (.error fault, s')) :
    fault.isContained = true ∨
      (Unreadable settings.script fault ∧ examine parser settings s p = .error fault ∧ s' = s) := by
  have hexamine : Yields (PassFault settings.script) _ (examine parser settings s p) :=
    yields_examine hparser husable hp
  unfold fileEffect at h
  cases hfound : examine parser settings s p with
  | error reason =>
    rw [hfound] at h hexamine
    cases h
    rcases hexamine with hcontained | hunreadable
    · exact .inl hcontained
    · exact .inr ⟨hunreadable, rfl, rfl⟩
  | ok found =>
  rw [hfound] at h hexamine
  cases found with
  | none => cases h
  | some texts =>
  obtain ⟨former, new⟩ := texts
  obtain ⟨hformer, hnew⟩ := hexamine _ rfl
  dsimp only at h
  split at h
  next => cases h
  next =>
  split at h
  next => cases h
  next reason hwritten =>
    cases h
    have hfailed : (rewrite settings r s p former new).2 = .error reason := by rw [hwritten]
    obtain ⟨answer, rfl⟩ := isSystem_of_rewrite hp hne hformer hnew hfailed
    exact .inl rfl

theorem timings_with (result : Result) (shown : Text) (done : Except Fault FileResult) :
    (result.with shown done).timings.map (·.1) = result.timings.map (·.1) ++ [shown] := by
  cases done <;> simp [Result.with]

/-- How a run over some files can end, when those in `seen` were handled before: with all of them handled, or
at one with a literal that cannot be read. -/
inductive Ends (parser : Parser) (settings : Settings) (base : FilePath) (seen : List Text)
    (files : List FilePath) : Except Fault Result → Store → Prop
  | handled {result : Result} {s : Store}
      (h : result.timings.map (·.1) = seen ++ files.map (·.relativeTo base)) :
      Ends parser settings base seen files (.ok result) s
  | stopped {before after : List FilePath} {p : FilePath} {fault : Fault} {s : Store}
      (hsplit : files = before ++ p :: after) (hexamine : examine parser settings s p = .error fault)
      (hunreadable : Unreadable settings.script fault) :
      Ends parser settings base seen files (.error fault) s

theorem Ends.cons {seen : List Text} {end? : Except Fault Result}
    (h : Ends parser settings base (seen ++ [p.relativeTo base]) files end? s) :
    Ends parser settings base seen (p :: files) end? s := by
  cases h with
  | handled h => exact .handled (by rw [h, List.append_assoc, List.singleton_append, List.map_cons])
  | stopped hsplit hexamine hunreadable =>
    exact .stopped (by rw [hsplit, List.cons_append]) hexamine hunreadable

theorem ends_allEffect (hparser : parser.Answers) (husable : settings.IsUsable)
    (hfiles : ∀ p ∈ files, p.IsNameable ∧ p.names ≠ []) (result : Result) (s : Store) :
    Ends parser settings base (result.timings.map (·.1)) files
      (allEffect parser settings base r files result s).1
      (allEffect parser settings base r files result s).2 := by
  induction files generalizing result s with
  | nil => exact .handled (by simp)
  | cons p rest ih =>
    obtain ⟨⟨hp, hne⟩, hrest⟩ := List.forall_mem_cons.1 hfiles
    -- A file that is handled is told by what comes of it, and the run goes on behind it.
    have hnext (done : Except Fault FileResult) (s₁ : Store) :=
      timings_with result (p.relativeTo base) done ▸ ih hrest (result.with (p.relativeTo base) done) s₁
    rw [allEffect]
    cases heffect : fileEffect parser settings base r s p with
    | mk done s₁ =>
      cases done with
      | ok done => exact (hnext (.ok done) s₁).cons
      | error fault =>
        dsimp only
        split
        next => exact (hnext (.error fault) s₁).cons
        next hstops =>
          obtain hcontained | ⟨hunreadable, hexamine, rfl⟩ :=
            cases_fileEffect hparser husable hp hne heffect
          · exact (hstops hcontained).elim
          · exact .stopped (List.nil_append (p :: rest)).symm hexamine hunreadable

theorem nameable_of_filesOf (hroot : s.item? [] = some .folder) (h : filesOf settings base s = .ok files) :
    ∀ p ∈ files, p.IsNameable ∧ p.names ≠ [] := by
  unfold filesOf at h
  split at h
  next =>
    intro p hp
    have hfile := (Discover.exists_of_mem_files h hp).1
    exact ⟨isNameable_of_isFile hfile, names_ne_nil_of_isFile hroot hfile⟩
  next => cases h

/-- Whatever the files of a run hold, a file fails only with a fault that is contained or at a literal that
cannot be read, and the run handles all files or stops at one with such a literal. -/
theorem run_contained {w : World} (hparser : parser.Answers) (husable : settings.IsUsable)
    (hroot : w.store.item? [] = some .folder) (hfiles : filesOf settings base w.store = .ok files) :
    (∀ p ∈ files, ∀ w₁ fault, (exec (processFile parser settings base p) w₁).1 = .error fault →
      fault.isContained = true ∨ Unreadable settings.script fault) ∧
    Ends parser settings base [] files (exec (run parser settings base) w).1
      (exec (run parser settings base) w).2.store := by
  have hnameable := nameable_of_filesOf hroot hfiles
  constructor
  · intro p hp w₁ fault h
    obtain ⟨hp, hne⟩ := hnameable p hp
    obtain ⟨hresult, -⟩ := does_processFile parser settings base p w₁.store w₁.refusals w₁ rfl rfl
    rw [h] at hresult
    have heffect : fileEffect parser settings base w₁.refusals w₁.store p =
        (.error fault, (fileEffect parser settings base w₁.refusals w₁.store p).2) := Prod.ext hresult.symm rfl
    exact (cases_fileEffect hparser husable hp hne heffect).imp id And.left
  · obtain ⟨hresult, hstore, -⟩ := does_run parser settings base w.store w.refusals hfiles w rfl rfl
    rw [hresult, hstore]
    exact ends_allEffect hparser husable hnameable {} w.store

end Batch

namespace Sample

theorem projectAnswer_answers : Parser.Answers fun _ _ => some projectAnswer :=
  fun _ _ => ⟨projectAnswer, rfl, fun _ _ => rfl⟩

theorem vocabulary_isScalar : Vocabulary.IsScalar {} :=
  ⟨Text.isScalar_ofString _, Text.isScalar_ofString _, Text.isScalar_ofString _, Text.isScalar_ofString _,
    Text.isScalar_ofString _⟩

end Sample

/-- The run over two files handles both of them, also the one that is no text. -/
theorem Batch.run_contained_project : ∃ result w',
    exec (Batch.run (fun _ _ => some Sample.projectAnswer) Sample.keepingBoth Sample.projectFolder)
      { store := Sample.mixed } = (.ok result, w') ∧
    result.processed = [Text.ofString "b.tsx"] ∧ result.failed = [Text.ofString "a.tsx"] ∧
    result.timings.map (·.1) = [Sample.fileNamed "a.tsx", Sample.fileNamed "b.tsx"].map
      (·.relativeTo Sample.projectFolder) ∧
    ∀ p ∈ [Sample.fileNamed "a.tsx", Sample.fileNamed "b.tsx"], ∀ w₁ fault,
      (exec (Batch.processFile (fun _ _ => some Sample.projectAnswer) Sample.keepingBoth
        Sample.projectFolder p) w₁).1 = .error fault →
      fault.isContained = true ∨ Unreadable Sample.keepingBoth.script fault := by
  obtain ⟨hfile, hends⟩ := Batch.run_contained (w := { store := Sample.mixed })
    Sample.projectAnswer_answers ⟨Sample.vocabulary_isScalar, fun h => by cases h⟩ Sample.mixed_linkless.root
    Sample.mixed_files
  obtain ⟨result, w', hrun, hprocessed, hfailed⟩ := Sample.exists_run_mixed
  rw [hrun] at hends
  cases hends with
  | handled htimings => exact ⟨result, w', hrun, hprocessed, hfailed, htimings, hfile⟩

namespace Sample

def beyondCode : Text := "function A()\x7breturn \"\\u\x7b110000\x7d가\";\x7d"

def beyondAnswer : Answer :=
  let leaf (kind : String) (start stop : Nat) : Answer :=
    .node kind ⟨false, false, false, false⟩ start stop none []
  let inner (kind : String) (start stop : Nat) (field : Option String) (children : List Answer) : Answer :=
    .node kind ⟨true, false, false, false⟩ start stop field children
  inner "program" 0 37 none [inner "function_declaration" 0 37 none [
    leaf "function" 0 8, inner "identifier" 9 10 (some "name") [],
    inner "formal_parameters" 10 12 (some "parameters") [leaf "(" 10 11, leaf ")" 11 12],
    inner "statement_block" 12 37 (some "body") [leaf "\x7b" 12 13,
      inner "return_statement" 13 36 none [leaf "return" 13 19,
        inner "string" 20 35 none [leaf "\"" 20 21, inner "escape_sequence" 21 31 none [],
          inner "string_fragment" 31 34 none [], leaf "\"" 34 35],
        leaf ";" 35 36],
      leaf "\x7d" 36 37]]]

def pairParser : Parser := fun _ code => some (if code = beyondCode then beyondAnswer else projectAnswer)

theorem pairParser_answers : pairParser.Answers := by
  intro grammar code
  refine ⟨_, rfl, fun _ source => ?_⟩
  split <;> rfl

/-- A project of two components, the first of which cannot be read. -/
def pair : Store := twoFiles ((Utf8.encode? beyondCode).getD []) ((Utf8.encode? projectCode).getD [])

def pairing : Settings := { sourcePattern := .str "\x7ba,b\x7d.tsx" }

theorem pair_linkless : pair.IsLinkless := twoFiles_linkless _ _

theorem pair_first : HasFile pair (fileNamed "a.tsx") (fileNamed "a.tsx").names
    ((Utf8.encode? beyondCode).getD []) := twoFiles_first

theorem pair_files : Batch.filesOf pairing projectFolder pair = .ok [fileNamed "a.tsx", fileNamed "b.tsx"] :=
  twoFiles_files

def isBeyond {α : Type} : Except Fault α → Bool
  | .error .codePointRange => true
  | _ => false

theorem eq_of_isBeyond {α : Type} {x : Except Fault α} (h : isBeyond x = true) :
    x = .error .codePointRange := by
  unfold isBeyond at h
  split at h
  · rfl
  · cases h

theorem examine_pair : Batch.examine pairParser pairing pair (fileNamed "a.tsx") = .error .codePointRange := by
  refine eq_of_isBeyond ?_
  unfold Batch.examine
  rw [pair_first.isLink pair_linkless]
  show isBeyond (pair.read (fileNamed "a.tsx") >>= _ : Except Fault _) = true
  rw [pair_first.read pair_linkless]
  decide +kernel

end Sample

/-- A string that names a code point beyond the last one ends the run, and the file after it is not handled. -/
theorem Batch.run_not_contained_beyond :
    Sample.pairParser.Answers ∧ Sample.pairing.IsUsable ∧ Sample.pair.item? [] = some .folder ∧
    Batch.filesOf Sample.pairing Sample.projectFolder Sample.pair =
      .ok [Sample.fileNamed "a.tsx", Sample.fileNamed "b.tsx"] ∧
    (exec (Batch.run Sample.pairParser Sample.pairing Sample.projectFolder) { store := Sample.pair }).1 =
      .error .codePointRange ∧
    (exec (Batch.run Sample.pairParser Sample.pairing Sample.projectFolder)
      { store := Sample.pair }).2.store = Sample.pair := by
  obtain ⟨hresult, hstore, -⟩ := Batch.does_run Sample.pairParser Sample.pairing Sample.projectFolder
    Sample.pair (fun _ _ => none) Sample.pair_files { store := Sample.pair } rfl rfl
  rw [Batch.allEffect, Batch.fileEffect, Sample.examine_pair] at hresult hstore
  exact ⟨Sample.pairParser_answers, ⟨Sample.vocabulary_isScalar, fun h => by cases h⟩,
    Sample.pair_linkless.root, Sample.pair_files, hresult, hstore⟩

end Phrasebook
