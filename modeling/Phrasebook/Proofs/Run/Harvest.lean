import Phrasebook.Proofs.Keys.Extraction
import Phrasebook.Proofs.Run.Containment
import Phrasebook.Run.Harvest

/-! The keys of a project: those of each file that can be read and parsed, one file after the other,
where of a key that comes twice the first record counts. -/

namespace Phrasebook

open Session Store

/-- A parser that gives some answer to every source. -/
def Parser.IsTotal (parser : Parser) : Prop := ∀ grammar code, (parser grammar code).isSome = true

namespace Harvest

open Keys

variable {parser : Parser} {plan : Plan} {base p : FilePath} {s : Store} {r : Refusals}
  {files : List FilePath} {fault : Fault}

/-- The tree of a file. -/
def treeOf (parser : Parser) (plan : Plan) (s : Store) (p : FilePath) : Except Fault Tree :=
  s.read p >>= fun bytes => Utf8.decodeFault bytes >>= fun code =>
    (parseLogged parser plan.backend code (some p.toText)).result

/-- The keys that a file adds. A file that cannot be read or parsed adds none. -/
def keysIn (parser : Parser) (plan : Plan) (s : Store) (p : FilePath) : Except Fault (List Key) :=
  match treeOf parser plan s p with
  | .ok tree => extract tree (some p.toText) plan.recording
  | .error _ => .ok []

/-- Whether two records are about one key. -/
def sameKey (k l : Key) : Bool := k.key == l.key

def addKey (found : List Key) (k : Key) : List Key :=
  if found.any fun f => f.key == k.key then found else found ++ [k]

theorem foldl_addKey (keys found : List Key) :
    keys.foldl addKey found = List.eraseDupsBy.loop sameKey keys found.reverse := by
  induction keys generalizing found with
  | nil => simp [List.eraseDupsBy.loop]
  | cons k keys ih =>
    have hany : (found.any fun f => f.key == k.key) = found.reverse.any (sameKey k) := by
      rw [List.any_reverse]
      exact congrArg (fun p => found.any p) (funext fun f => BEq.comm)
    rw [List.foldl_cons, ih, addKey, hany, List.eraseDupsBy.loop]
    cases found.reverse.any (sameKey k) <;> simp

theorem does_parseFile (parser : Parser) (plan : Plan) (p : FilePath) (s : Store) (r : Refusals) :
    Does (parseFile parser plan p) s r (treeOf parser plan s p) s :=
  (does_readFile p).follow fun bytes _ => (does_lift (Utf8.decodeFault bytes)).follow fun _ _ =>
    does_ofLogged _

theorem does_addKeys (keys found : List Key) (s : Store) (r : Refusals) :
    Does (addKeys found keys) s r (.ok (keys.foldl addKey found)) s := by
  induction keys generalizing found with
  | nil => exact does_pure found
  | cons k keys ih =>
    rw [addKeys, List.foldl_cons, addKey]
    split
    · exact (does_say _ _).bind (ih found)
    · exact ih _

theorem does_harvestFile (hcontained : ∀ fault, treeOf parser plan s p = .error fault →
    fault.isContained = true) (found : List Key) :
    Does (harvestFile parser plan found p) s r
      (keysIn parser plan s p >>= fun keys => .ok (keys.foldl addKey found)) s := by
  unfold harvestFile keysIn
  refine (does_parseFile parser plan p s r).attempt.bind ?_
  cases htree : treeOf parser plan s p with
  | error fault =>
    dsimp only
    rw [if_pos (hcontained fault htree)]
    exact (does_say _ _).bind (does_pure found)
  | ok tree => exact (does_lift _).follow fun keys _ => does_addKeys keys found s r

theorem does_harvestAll (trace : Bool) (hcontained : ∀ p ∈ files, ∀ fault,
    treeOf parser plan s p = .error fault → fault.isContained = true) (found : List Key) :
    Does (harvestAll parser plan trace files found) s r
      (files.mapM (keysIn parser plan s) >>= fun lists => .ok (lists.flatten.foldl addKey found))
      s := by
  induction files generalizing found with
  | nil => exact does_pure found
  | cons p rest ih =>
    obtain ⟨hp, hrest⟩ := List.forall_mem_cons.1 hcontained
    have hsteps : ((p :: rest).mapM (keysIn parser plan s) >>= fun lists =>
          Except.ok (lists.flatten.foldl addKey found)) =
        (keysIn parser plan s p >>= fun keys => Except.ok (keys.foldl addKey found)) >>= fun found =>
          rest.mapM (keysIn parser plan s) >>= fun lists =>
            Except.ok (lists.flatten.foldl addKey found) := by
      rw [List.mapM_cons]
      cases keysIn parser plan s p with
      | error fault => rfl
      | ok keys =>
        cases rest.mapM (keysIn parser plan s) with
        | error fault => rfl
        | ok lists =>
          show Except.ok ((keys :: lists).flatten.foldl addKey found) =
            Except.ok (lists.flatten.foldl addKey (keys.foldl addKey found))
          rw [List.flatten_cons, List.foldl_append]
    have hfiles : Does (harvestFile parser plan found p >>= harvestAll parser plan trace rest) s r
        _ s := (does_harvestFile hp found).follow fun found' _ => ih hrest found'
    rw [harvestAll, hsteps]
    cases trace with
    | false => exact hfiles
    | true => exact (does_say _ _).bind hfiles

/-- The files that a plan is about. -/
def filesOf (plan : Plan) (base : FilePath) (s : Store) : Except Fault (List FilePath) :=
  plan.ignoreGlobs.items >>= fun ignore =>
    match plan.sourcePattern with
    | .str pattern => Discover.files s base pattern ignore
    | _ => .error .wrongType

theorem does_discover (plan : Plan) (base : FilePath) (s : Store) (r : Refusals) :
    Does (discover plan base) s r (filesOf plan base s) s := by
  refine (does_lift plan.ignoreGlobs.items).follow fun ignore _ => ?_
  unfold Session.discover
  cases plan.sourcePattern with
  | str pattern =>
    refine (does_pure pattern).bind (does_get fun w hs _ => ?_)
    rw [hs]
    exact does_lift _
  | _ => exact (does_throw .wrongType).bind_error

theorem isNameable_of_filesOf (h : filesOf plan base s = .ok files) :
    ∀ p ∈ files, p.IsNameable := by
  obtain ⟨ignore, -, h⟩ := except_bind_eq_ok.1 h
  split at h
  · exact fun p hp => isNameable_of_isFile (Discover.exists_of_mem_files h hp).1
  · cases h

theorem yields_treeOf (hparser : parser.IsTotal) (hp : p.IsNameable) :
    Yields (fun fault => fault.isContained = true) (fun _ => True) (treeOf parser plan s p) := by
  have hread : Yields (fun fault => fault.isContained = true) (fun bytes => s.read p = .ok bytes)
      (s.read p) := yields_of_error fun fault h => (isSystem_of_read hp h).contained
  refine hread.bind fun bytes _ _ => (yields_decodeFault bytes).bind fun code _ hcode => ?_
  have hparse : Yields (fun fault => fault.isContained = true) (fun _ => True)
      (parse parser plan.backend code (some p.toText)) := by
    obtain ⟨octets, hoctets⟩ := Option.isSome_iff_exists.1 (Text.isSome_encode? hcode)
    obtain ⟨answer, hanswer⟩ :=
      Option.isSome_iff_exists.1 (hparser (plan.backend.grammar (some p.toText)) code)
    unfold parse
    rw [Utf8.encode_eq_ok.2 hoctets, hanswer]
    show Yields _ _ (if answer.flags.hasError then _ else _)
    split
    · exact rfl
    · exact trivial
  exact Yields.result_bind (x := Logged.of _) hparse fun tree _ h => h

theorem contained_of_treeOf (hparser : parser.IsTotal) (hfiles : ∀ p ∈ files, p.IsNameable) :
    ∀ p ∈ files, ∀ fault, treeOf parser plan s p = .error fault → fault.isContained = true := by
  intro p hp fault h
  have htree : Yields _ _ (treeOf parser plan s p) := yields_treeOf hparser (hfiles p hp)
  rwa [h] at htree

theorem does_keysOnly (hparser : parser.IsTotal) (hfiles : filesOf plan base s = .ok files)
    (r : Refusals) :
    Does (keysOnly parser plan base) s r
      (files.mapM (keysIn parser plan s) >>= fun lists =>
        .ok (lists.flatten.eraseDupsBy sameKey)) s := by
  have hnameable := isNameable_of_filesOf hfiles
  have hdiscover := does_discover plan base s r
  rw [hfiles] at hdiscover
  have hall : Does (harvestAll parser plan false files []) s r _ s :=
    does_harvestAll false (contained_of_treeOf hparser hnameable) []
  simp only [foldl_addKey] at hall
  exact hdiscover.bind hall

/-- What the keys of a project come to: those of the files that can be read and parsed, without what
comes again, unless a key or its default text cannot be read; of each tree there is one record for
each lookup. No file is changed. -/
theorem keysOnly_collects {w : World} (hparser : parser.IsTotal)
    (hfiles : filesOf plan base w.store = .ok files) :
    (exec (keysOnly parser plan base) w).1 =
      (files.mapM (keysIn parser plan w.store) >>= fun lists =>
        .ok (lists.flatten.eraseDupsBy sameKey)) ∧
    (exec (keysOnly parser plan base) w).2.store = w.store ∧
    (∀ p ∈ files, ∀ fault, treeOf parser plan w.store p = .error fault →
      fault.isContained = true) ∧
    ∀ (tree : Tree) (path : Option Text) (r : Recording), tree.Parsed → ∃ places,
      AreLookups tree r places ∧ Extracted tree path r places (extract tree path r) := by
  obtain ⟨hkeys, hstore, -⟩ := does_keysOnly hparser hfiles w.refusals w rfl rfl
  exact ⟨hkeys, hstore, contained_of_treeOf hparser (isNameable_of_filesOf hfiles),
    fun tree path r h => extracted_of_parsed h path r⟩

end Harvest

namespace Sample

def twiceCode : Text := "t(\"a\");t(\"a\");"

def twiceAnswer : Answer :=
  let leaf (kind : String) (start stop : Nat) : Answer :=
    .node kind ⟨false, false, false, false⟩ start stop none []
  let inner (kind : String) (start stop : Nat) (field : Option String) (children : List Answer) : Answer :=
    .node kind ⟨true, false, false, false⟩ start stop field children
  let call (o : Nat) : Answer := inner "expression_statement" o (o + 7) none [
    inner "call_expression" o (o + 6) none [inner "identifier" o (o + 1) (some "function") [],
      inner "arguments" (o + 1) (o + 6) (some "arguments") [leaf "(" (o + 1) (o + 2),
        inner "string" (o + 2) (o + 5) none [leaf "\"" (o + 2) (o + 3),
          inner "string_fragment" (o + 3) (o + 4) none [], leaf "\"" (o + 4) (o + 5)],
        leaf ")" (o + 5) (o + 6)]],
    leaf ";" (o + 6) (o + 7)]
  inner "program" 0 14 none [call 0, call 7]

/-- A plan for the keys of the project of one file. -/
def collecting : Harvest.Plan where
  sourcePattern := .str "a.tsx"
  outputFile := .str "extracted-translations.json"
  outputDir := .str "./locales"
  recording := {}
  sort := true
  dryRun := false
  asTable := false
  languages := [.str "en", .str "ko"]
  defaultLanguage := .str "ko"
  force := false
  backend := .tsx
  ignoreGlobs := .arr []

deriving instance DecidableEq for Keys.Key

def twice : Store := oneFile ((Utf8.encode? twiceCode).getD [])

theorem keysIn_twice : Harvest.keysIn (fun _ _ => some twiceAnswer) collecting twice projectFile =
    .ok [{ key := "a" }, { key := "a" }] := by
  refine except_eq_ok_of_toOption ?_
  unfold Harvest.keysIn Harvest.treeOf
  rw [twice, (oneFile_hasFile _).read (oneFile_linkless _)]
  decide +kernel

end Sample

/-- A key that a project looks up twice is recorded once. -/
theorem Harvest.keysOnly_collects_once :
    (exec (Harvest.keysOnly (fun _ _ => some Sample.twiceAnswer) Sample.collecting Sample.projectFolder)
      { store := Sample.twice }).1 = .ok [{ key := "a" }] := by
  have hfiles : Harvest.filesOf Sample.collecting Sample.projectFolder Sample.twice =
      .ok [Sample.projectFile] := Sample.oneFile_files _
  obtain ⟨hkeys, -⟩ := @Harvest.keysOnly_collects (fun _ _ => some Sample.twiceAnswer)
    Sample.collecting Sample.projectFolder _ { store := Sample.twice } (fun _ _ => rfl) hfiles
  rw [hkeys, List.mapM_cons, Sample.keysIn_twice]
  rfl

namespace Sample

/-- A lookup beside whose key stands an object with a property named beyond the last code point. -/
def propertyCode : Text := "t(\"a\", \x7b \"\\u\x7b110000\x7d\": \"b\" \x7d);"

def propertyAnswer : Answer :=
  let leaf (kind : String) (start stop : Nat) : Answer :=
    .node kind ⟨false, false, false, false⟩ start stop none []
  let inner (kind : String) (start stop : Nat) (field : Option String) (children : List Answer) : Answer :=
    .node kind ⟨true, false, false, false⟩ start stop field children
  let string (start stop : Nat) (field : Option String) (part : String) : Answer :=
    inner "string" start stop field [leaf "\"" start (start + 1),
      inner part (start + 1) (stop - 1) none [], leaf "\"" (stop - 1) stop]
  inner "program" 0 30 none [inner "expression_statement" 0 30 none [
    inner "call_expression" 0 29 none [inner "identifier" 0 1 (some "function") [],
      inner "arguments" 1 29 (some "arguments") [leaf "(" 1 2, string 2 5 none "string_fragment",
        leaf "," 5 6,
        inner "object" 7 28 none [leaf "\x7b" 7 8,
          inner "pair" 9 26 none [string 9 21 (some "key") "escape_sequence", leaf ":" 21 22,
            string 23 26 (some "value") "string_fragment"],
          leaf "\x7d" 27 28],
        leaf ")" 28 29]],
    leaf ";" 29 30]]

def propertySource : Bytes := (Utf8.encode? propertyCode).getD []

def propertyTree : Tree := ⟨propertySource, propertyAnswer.toNode propertySource⟩

def property : Store := oneFile propertySource

theorem property_parsed : propertyTree.Parsed := by decide +kernel

theorem keysIn_property : Harvest.keysIn (fun _ _ => some propertyAnswer) collecting property
    projectFile = .error .codePointRange := by
  refine eq_of_isBeyond ?_
  unfold Harvest.keysIn Harvest.treeOf
  rw [property, (oneFile_hasFile _).read (oneFile_linkless _)]
  decide +kernel

end Sample

/-- A property named beyond the last code point ends a run, though the file is parsed and the key
beside it can be read. -/
theorem Harvest.keysOnly_not_collects_beyond :
    Sample.propertyTree.Parsed ∧
    ((Sample.propertyTree.root.foci []).any
      (Keys.isLookup Sample.propertyTree.source Sample.collecting.recording)) = true ∧
    Keys.extract Sample.propertyTree none Sample.collecting.recording = .error .codePointRange ∧
    (exec (Harvest.keysOnly (fun _ _ => some Sample.propertyAnswer) Sample.collecting
      Sample.projectFolder) { store := Sample.property }).1 = .error .codePointRange := by
  have hfiles : Harvest.filesOf Sample.collecting Sample.projectFolder Sample.property =
      .ok [Sample.projectFile] := Sample.oneFile_files _
  refine ⟨Sample.property_parsed, by decide +kernel, Sample.eq_of_isBeyond (by decide +kernel), ?_⟩
  have hdoes : Does (Harvest.keysOnly (fun _ _ => some Sample.propertyAnswer) Sample.collecting
      Sample.projectFolder) Sample.property (fun _ _ => none) _ _ :=
    Harvest.does_keysOnly (fun _ _ => rfl) hfiles _
  obtain ⟨hkeys, -⟩ := hdoes { store := Sample.property } rfl rfl
  rw [hkeys, List.mapM_cons, Sample.keysIn_property]
  rfl

end Phrasebook
