import Phrasebook.Proofs.Keys.Merging
import Phrasebook.Proofs.Run.Harvest
import Phrasebook.Proofs.Run.Slots

/-! Locale files written by a run. Each language gets a file of its own in one folder, one after the
other; a content that has no form in UTF-8 ends the run between two of them. -/

namespace Phrasebook

open Session Store

namespace Harvest

open Keys Json

variable {plan : Plan} {dir p : FilePath} {s s' : Store} {r : Refusals} {place : List Text}
  {data : Data} {members : List (Text × Json)} {l : Json} {bytes : Bytes}

/-- The file of a language. -/
def fileOf (dir : FilePath) (l : Json) : FilePath := dir.join (FilePath.parse (textOf l ++ ".json"))

theorem isNamed_fileOf (dir : FilePath) (l : Json) :
    IsNamed (fileOf dir l) ∧ ∃ stem : Text, (fileOf dir l).name = stem ++ ".json" := by
  obtain ⟨pieces, last, -, hcut⟩ := Text.cut_append FilePath.slash (by decide : _ ∉ (".json" : Text))
    (textOf l)
  have hlength : (last ++ (".json" : Text)).length = last.length + 5 := List.length_append
  have hne {n : Text} (hn : n.length < 5) : last ++ ".json" ≠ n := fun heq => by
    rw [heq] at hlength
    omega
  obtain ⟨front, hparse⟩ : ∃ front,
      (FilePath.parse (textOf l ++ ".json")).names = front ++ [last ++ ".json"] := by
    refine ⟨pieces.filter fun n => n != [] && n != ".", ?_⟩
    have hkeep : (last ++ (".json" : Text) != [] && last ++ (".json" : Text) != ".") = true := by
      simp only [bne_iff_ne, Bool.and_eq_true]
      exact ⟨hne (by decide), hne (by decide)⟩
    show (Text.cut _ _).filter _ = _
    rw [hcut, List.filter_append, List.filter_singleton, hkeep]
    rfl
  obtain ⟨front', hnames⟩ : ∃ front', (fileOf dir l).names = front' ++ [last ++ ".json"] := by
    unfold fileOf FilePath.join
    split
    · exact ⟨front, hparse⟩
    · exact ⟨dir.names ++ front, by rw [hparse, List.append_assoc]⟩
  obtain ⟨hnamed, hname⟩ := isNamed_of_names hnames (hne (by decide)) (hne (by decide))
  exact ⟨hnamed, last, hname⟩

def membersOf (bytes : Bytes) : Except Fault (List (Text × Json)) :=
  match readDocument bytes with
  | .error (.tooManyDigits count) => .error (.tooManyDigits count)
  | .ok (.obj members) => .ok members
  | _ => .ok []

def membersAt (s : Store) (place : List Text) : Except Fault (List (Text × Json)) :=
  match s.item? place with
  | some (.file bytes) => membersOf bytes
  | _ => .ok []

theorem does_existingMembers (hs : s.IsLinkless) (h : FileSlot s p place) (hp : IsNamed p) (r : Refusals) :
    Does (existingMembers p) s r (membersAt s place) s := by
  unfold existingMembers membersAt
  refine does_get fun w hw _ => ?_
  dsimp only
  rw [hw]
  rcases h.cases_item hs with hnone | ⟨bytes, hfile⟩
  · rw [hnone, h.isThere_of_none hs hp hnone]
    exact (does_lift (.ok false)).bind (does_pure [])
  · rw [hfile, h.isThere_of_file hs hp hfile]
    refine (does_lift (.ok true)).bind ?_
    simp only [Bool.not_true, Bool.false_eq_true, if_false, (h.hasFile hp hfile).read hs, membersOf]
    cases hdocument : readDocument bytes with
    | error fault =>
      cases fault with
      | tooManyDigits count => exact does_throw _
      | undecodable fault => exact (does_say _ _).bind (does_pure [])
      | malformed fault => exact (does_say _ _).bind (does_pure [])
    | ok v =>
      cases v with
      | obj members => exact does_pure members
      | _ => exact (does_say _ _).bind (does_pure [])

def contentOf (plan : Plan) (data : Data) (members : List (Text × Json)) (l : Json) :
    List (Text × Json) := merge data members l plan.defaultLanguage plan.force

theorem does_write (hs : s.IsLinkless) (h : FileSlot s p place) (hown : isDots p.name = false)
    (hdisk : ∀ step, r p step = none) (t : Text) :
    Does (writeFile p t) s r ((Utf8.encode t).map fun _ => ())
      (match Utf8.encode t with
        | .ok bytes => s.put place (.file bytes)
        | .error _ => s) := by
  have hwrite := does_writeFile (s := s) (r := r) p t
  rw [h.write hs hown hdisk] at hwrite
  cases hbytes : Utf8.encode t with
  | error fault =>
    rw [hbytes] at hwrite
    exact hwrite
  | ok bytes =>
    rw [hbytes] at hwrite
    exact hwrite

theorem does_emitLanguage (data : Data) (hreal : plan.dryRun = false) (hs : s.IsLinkless) (h : FileSlot s (fileOf dir l) place)
    (hmembers : membersAt s place = .ok members) (hdisk : ∀ step, r (fileOf dir l) step = none) :
    Does (emitLanguage plan dir data l) s r
      ((Utf8.encode (Json.indented 0 (.obj (contentOf plan data members l)))).map fun _ => fileOf dir l)
      (match Utf8.encode (Json.indented 0 (.obj (contentOf plan data members l))) with
        | .ok bytes => s.put place (.file bytes)
        | .error _ => s) := by
  have hfound := does_existingMembers hs h (isNamed_fileOf dir l).1 r
  rw [hmembers] at hfound
  have hcontent : merge data members l plan.defaultLanguage plan.force = contentOf plan data members l := rfl
  unfold emitLanguage
  refine hfound.bind ?_
  dsimp only
  rw [hcontent]
  generalize contentOf plan data members l = merged
  have hown : isDots (fileOf dir l).name = false := by
    obtain ⟨hnamed, stem, hname⟩ := isNamed_fileOf dir l
    exact hnamed.own (by rw [hname]; exact List.append_ne_nil_of_right_ne_nil _ (by decide))
  have hwrite := does_write hs h hown hdisk (Json.indented 0 (.obj merged))
  have hemit : Does (do
      emit plan (fileOf dir l) (Json.indented 0 (.obj merged))
      return fileOf dir l) s r
      ((Utf8.encode (Json.indented 0 (.obj merged))).map fun _ => fileOf dir l)
      (match Utf8.encode (Json.indented 0 (.obj merged)) with
        | .ok bytes => s.put place (.file bytes)
        | .error _ => s) := by
    unfold emit
    simp only [hreal, Bool.false_eq_true, if_false]
    cases hbytes : Utf8.encode (Json.indented 0 (.obj merged)) with
    | error fault =>
      rw [hbytes] at hwrite
      exact (Does.bind_error hwrite).bind_error
    | ok bytes =>
      rw [hbytes] at hwrite
      exact (hwrite.bind (does_print _)).bind (does_pure _)
  cases plan.force with
  | true => exact (does_print _).bind hemit
  | false =>
    simp only [Bool.false_eq_true, if_false, Bool.not_false, if_true]
    split
    · exact (does_print _).bind hemit
    · exact (does_print _).bind hemit

/-- What the file at a place comes to hold when some languages in turn put in what is theirs. -/
def heldBy (plan : Plan) (data : Data) (place : Json → List Text) (languages : List Json)
    (members : List (Text × Json)) (names : List Text) : List (Text × Json) :=
  (languages.filter fun l => place l == names).foldl (contentOf plan data) members

/-- A folder of locale files that can be read and written: every language has a place for its file, and
so has the module that brings them together; `previous` is what the files hold. -/
structure Layout (plan : Plan) (dir : FilePath) (s : Store) (place : Json → List Text)
    (index : List Text) (previous : Json → List (Text × Json)) : Prop where
  linkless : s.IsLinkless
  slots : ∀ l ∈ plan.languages, FileSlot s (fileOf dir l) (place l)
  index : FileSlot s (dir.child "index.ts") index
  readable : ∀ l ∈ plan.languages, membersAt s (place l) = .ok (previous l)
  spelled : ∀ l ∈ plan.languages, ∀ x ∈ Json.doubles (.obj (previous l)), Json.IsSpelled x

/-- What has become of the files when some languages are done: each of these has a file that can be read
back, and nothing else is changed, other places apart that are named. -/
structure Updated (plan : Plan) (dir : FilePath) (data : Data) (place : Json → List Text)
    (previous : Json → List (Text × Json)) (languages : List Json) (others : List (List Text))
    (s s' : Store) : Prop where
  linkless : s'.IsLinkless
  keeps : Keeps s s'
  files : ∀ l ∈ languages, ∃ bytes, HasFile s' (fileOf dir l) (place l) bytes ∧
    readDocument bytes = .ok (.obj (heldBy plan data place languages (previous l) (place l)))
  rest : ∀ names, names ∉ others → (∀ l ∈ languages, names ≠ place l) → s'.item? names = s.item? names

/-- Whether what each of some languages in turn puts in its file has a form in UTF-8. -/
def AllEncodable (plan : Plan) (data : Data) (place : Json → List Text)
    (previous : Json → List (Text × Json)) (languages : List Json) : Prop :=
  ∀ before l after, languages = before ++ l :: after →
    (Json.obj (heldBy plan data place (before ++ [l]) (previous l) (place l))).IsEncodable

section Languages

variable {place : Json → List Text} {index : List Text} {previous : Json → List (Text × Json)}
  {done languages : List Json} {others : List (List Text)} {l l' : Json} {names : List Text}

theorem heldBy_concat_self (members : List (Text × Json)) :
    heldBy plan data place (done ++ [l]) members (place l) =
      contentOf plan data (heldBy plan data place done members (place l)) l := by
  simp [heldBy]

theorem heldBy_concat_of_ne (members : List (Text × Json)) (h : place l ≠ names) :
    heldBy plan data place (done ++ [l]) members names = heldBy plan data place done members names := by
  simp [heldBy, h]

theorem heldBy_of_not_mem (members : List (Text × Json)) (h : ∀ l ∈ languages, names ≠ place l) :
    heldBy plan data place languages members names = members := by
  have hnone : (languages.filter fun l => place l == names) = [] := by
    rw [List.filter_eq_nil_iff]
    exact fun l hl heq => h l hl (eq_of_beq heq).symm
  rw [heldBy, hnone]
  rfl

theorem legible_heldBy (hdata : AreTexts data) {members : List (Text × Json)}
    (h : Legible (.obj members)) (languages : List Json) (names : List Text) :
    Legible (.obj (heldBy plan data place languages members names)) := by
  unfold heldBy
  induction languages.filter (fun l => place l == names) generalizing members with
  | nil => exact h
  | cons l rest ih => exact ih (legible_merge hdata h)

theorem heldBy_eq_merge (hdata : AreTexts data) (hl : l ∈ languages)
    (halike : ∀ l' ∈ languages, place l' = place l →
      l'.same plan.defaultLanguage = l.same plan.defaultLanguage) (members : List (Text × Json)) :
    heldBy plan data place languages members (place l) =
      merge data members l plan.defaultLanguage plan.force := by
  have hmerge (l' : Json) (hl' : l' ∈ languages.filter fun l' => place l' == place l)
      (members : List (Text × Json)) :
      contentOf plan data members l' = merge data members l plan.defaultLanguage plan.force := by
    obtain ⟨hmem, hplace⟩ := List.mem_filter.1 hl'
    unfold contentOf merge
    rw [halike l' hmem (eq_of_beq hplace)]
  have hsome : l ∈ languages.filter fun l' => place l' == place l :=
    List.mem_filter.2 ⟨hl, beq_self_eq_true _⟩
  unfold heldBy
  generalize languages.filter (fun l' => place l' == place l) = same at hmerge hsome
  -- The first of them puts in all there is to put in.
  have hstays : ∀ same : List Json, (∀ l' ∈ same, ∀ members, contentOf plan data members l' =
        merge data members l plan.defaultLanguage plan.force) →
      same.foldl (contentOf plan data) (merge data members l plan.defaultLanguage plan.force) =
        merge data members l plan.defaultLanguage plan.force := by
    intro same hsame
    induction same with
    | nil => rfl
    | cons l' same ih =>
      obtain ⟨hl', hrest⟩ := List.forall_mem_cons.1 hsame
      rw [List.foldl_cons, hl', merge_merge hdata rfl, ih hrest]
  cases same with
  | nil => cases hsome
  | cons first same =>
    obtain ⟨hfirst, hrest⟩ := List.forall_mem_cons.1 hmerge
    rw [List.foldl_cons, hfirst, hstays same hrest]

theorem allEncodable_of_isScalar {keys : List Key} (hkeys : ∀ k ∈ keys, k.key.IsScalar ∧ k.text.IsScalar)
    (hprevious : ∀ l ∈ languages, (Json.obj (previous l)).IsEncodable) :
    AllEncodable plan (texts keys) place previous languages := by
  rintro before l after rfl
  have hl := hprevious l (List.mem_append_right _ List.mem_cons_self)
  unfold heldBy
  generalize previous l = members at hl
  induction (before ++ [l]).filter (fun l' => place l' == place l) generalizing members with
  | nil => exact hl
  | cons l' rest ih =>
    exact ih _ (isEncodable_merge (areTexts_texts keys) (isEncodable_texts hkeys) hl)

theorem Layout.previous_congr (h : Layout plan dir s place index previous) (hl : l ∈ plan.languages)
    (hl' : l' ∈ plan.languages) (hplace : place l = place l') : previous l = previous l' := by
  have hsame := h.readable l hl
  rw [hplace, h.readable l' hl'] at hsame
  exact (Except.ok.inj hsame).symm

theorem Layout.legible (h : Layout plan dir s place index previous) (hl : l ∈ plan.languages) :
    Legible (.obj (previous l)) := by
  have hnone : Legible (.obj []) := ⟨List.nodup_nil, trivial⟩
  have hmembers := h.readable l hl
  have hspelled := h.spelled l hl
  unfold membersAt at hmembers
  split at hmembers
  next bytes hfile =>
    unfold membersOf at hmembers
    split at hmembers
    next => cases hmembers
    next members hdocument =>
      cases hmembers
      exact isSound_of_readDocument hdocument hspelled
    next =>
      rw [← Except.ok.inj hmembers]
      exact hnone
  next =>
    rw [← Except.ok.inj hmembers]
    exact hnone

theorem membersOf_of_readDocument {members : List (Text × Json)} (h : readDocument bytes = .ok (.obj members)) :
    membersOf bytes = .ok members := by
  rw [membersOf, h]

theorem Updated.membersAt (hlayout : Layout plan dir s place index previous)
    (h : Updated plan dir data place previous done [] s s') (hdone : done ⊆ plan.languages)
    (hl : l ∈ plan.languages) :
    membersAt s' (place l) = .ok (heldBy plan data place done (previous l) (place l)) := by
  by_cases hplace : ∀ l' ∈ done, place l ≠ place l'
  · rw [Harvest.membersAt, h.rest _ List.not_mem_nil hplace, heldBy_of_not_mem _ hplace]
    exact hlayout.readable l hl
  · obtain ⟨l', hl', hsame⟩ : ∃ l' ∈ done, place l = place l' := by simpa using hplace
    obtain ⟨bytes, hfile, hdocument⟩ := h.files l' hl'
    rw [hsame, hlayout.previous_congr hl (hdone hl') hsame, Harvest.membersAt, hfile.file]
    exact membersOf_of_readDocument hdocument

theorem Updated.start (hs : s.IsLinkless) : Updated plan dir data place previous [] [] s s where
  linkless := hs
  keeps := Keeps.refl s
  files l hl := by cases hl
  rest names _ _ := rfl

theorem Updated.step (hreal : plan.dryRun = false) (hdisk : ∀ p step, r p step = none)
    (hlayout : Layout plan dir s place index previous) (hdata : AreTexts data)
    (h : Updated plan dir data place previous done [] s s') (hdone : done ⊆ plan.languages)
    (hl : l ∈ plan.languages) :
    (∃ s'', Does (emitLanguage plan dir data l) s' r (.ok (fileOf dir l)) s'' ∧
      (Json.obj (heldBy plan data place (done ++ [l]) (previous l) (place l))).IsEncodable ∧
      Updated plan dir data place previous (done ++ [l]) [] s s'') ∨
    Does (emitLanguage plan dir data l) s' r (.error .unencodable) s' ∧
      ¬ (Json.obj (heldBy plan data place (done ++ [l]) (previous l) (place l))).IsEncodable := by
  have hslot := (hlayout.slots l hl).keeps h.keeps
  have hdoes := does_emitLanguage data hreal h.linkless hslot
    (h.membersAt hlayout hdone hl) (fun step => hdisk (fileOf dir l) step)
  rw [← heldBy_concat_self] at hdoes
  by_cases hencodable :
      (Json.obj (heldBy plan data place (done ++ [l]) (previous l) (place l))).IsEncodable
  · obtain ⟨bytes, hbytes⟩ := Json.encode_of_isEncodable hencodable 0
    rw [hbytes] at hdoes
    have hgets := hslot.gets h.linkless bytes
    have hdocument := readDocument_of_encode (legible_heldBy hdata (hlayout.legible hl) _ _) hbytes
    refine .inl ⟨s'.put (place l) (.file bytes), hdoes, hencodable, hgets.linkless,
      h.keeps.trans hgets.keeps, fun l' hl' => ?_, fun names hnames hothers => ?_⟩
    · by_cases hplace : place l = place l'
      · have hmem : l' ∈ plan.languages := (List.mem_append.1 hl').elim (fun h => hdone h)
          fun h => List.mem_singleton.1 h ▸ hl
        have hslot' := ((hlayout.slots l' hmem).keeps h.keeps).keeps hgets.keeps
        refine ⟨bytes, hslot'.hasFile (isNamed_fileOf dir l').1 (hplace ▸ hgets.there), ?_⟩
        rw [← hplace, ← hlayout.previous_congr hl hmem hplace]
        exact hdocument
      · have hmem : l' ∈ done := (List.mem_append.1 hl').resolve_right fun h =>
          hplace (List.mem_singleton.1 h ▸ rfl)
        obtain ⟨bytes', hfile, hdocument'⟩ := h.files l' hmem
        refine ⟨bytes', hfile.keeps hgets.keeps ?_, ?_⟩
        · rw [hgets.others _ (Ne.symm hplace)]
          exact hfile.file
        · rw [heldBy_concat_of_ne _ hplace]
          exact hdocument'
    · obtain ⟨hdone', hlast⟩ := List.forall_mem_append.1 hothers
      rw [hgets.others _ (hlast l (List.mem_singleton_self l))]
      exact h.rest names hnames hdone'
  · rw [Json.encode_of_not_isEncodable hencodable 0] at hdoes
    exact .inr ⟨hdoes, hencodable⟩

theorem Updated.run (hreal : plan.dryRun = false) (hdisk : ∀ p step, r p step = none)
    (hlayout : Layout plan dir s place index previous) (hdata : AreTexts data)
    (h : Updated plan dir data place previous done [] s s')
    (hencodable : AllEncodable plan data place previous done) (hsub : done ++ languages ⊆ plan.languages) :
    (∃ s'', Does (emitLanguages plan dir data languages) s' r (.ok (languages.map (fileOf dir))) s'' ∧
      AllEncodable plan data place previous (done ++ languages) ∧
      Updated plan dir data place previous (done ++ languages) [] s s'') ∨
    ∃ before l after s'', languages = before ++ l :: after ∧
      AllEncodable plan data place previous (done ++ before) ∧
      ¬ (Json.obj (heldBy plan data place (done ++ before ++ [l]) (previous l) (place l))).IsEncodable ∧
      Does (emitLanguages plan dir data languages) s' r (.error .unencodable) s'' ∧
      Updated plan dir data place previous (done ++ before) [] s s'' := by
  induction languages generalizing done s' with
  | nil =>
    rw [List.append_nil]
    exact .inl ⟨s', does_pure [], hencodable, h⟩
  | cons l rest ih =>
    have hl : l ∈ plan.languages := hsub (List.mem_append_right _ List.mem_cons_self)
    have hdone : done ⊆ plan.languages := fun l' hl' => hsub (List.mem_append_left _ hl')
    rcases h.step hreal hdisk hlayout hdata hdone hl with ⟨s₁, hdoes, hgood, h₁⟩ | ⟨hdoes, hbad⟩
    · have hall : AllEncodable plan data place previous (done ++ [l]) := by
        intro before l' after heq
        rcases List.eq_nil_or_concat after with rfl | ⟨after, last, rfl⟩
        · obtain ⟨rfl, hlast⟩ := List.append_inj' heq rfl
          obtain rfl : l = l' := List.singleton_inj.1 hlast
          exact hgood
        · rw [List.concat_eq_append, ← List.cons_append, ← List.append_assoc] at heq
          exact hencodable before l' after (List.append_inj' heq rfl).1
      have hsub' : done ++ [l] ++ rest ⊆ plan.languages := by rwa [List.append_assoc]
      have happend (more : List Json) : done ++ [l] ++ more = done ++ l :: more := List.append_assoc ..
      rcases ih h₁ hall hsub' with ⟨s₂, hrest, hall', h₂⟩ | ⟨before, l', after, s₂, rfl, hall', hbad, hrest, h₂⟩
      · rw [happend] at hall' h₂
        exact .inl ⟨s₂, hdoes.bind (hrest.bind (does_pure _)), hall', h₂⟩
      · rw [happend] at hall' h₂ hbad
        exact .inr ⟨l :: before, l', after, s₂, rfl, hall', hbad,
          hdoes.bind (Does.bind_error hrest), h₂⟩
    · refine .inr ⟨[], l, rest, s', rfl, ?_, ?_, hdoes.bind_error, ?_⟩
      · rwa [List.append_nil]
      · rwa [List.append_nil]
      · rwa [List.append_nil]

theorem isNamed_index (dir : FilePath) :
    IsNamed (dir.child "index.ts") ∧ (dir.child "index.ts").name = "index.ts" :=
  isNamed_of_names rfl (by decide) (by decide)

theorem Layout.place_ne_index (h : Layout plan dir s place index previous) (hl : l ∈ plan.languages) :
    index ≠ place l := by
  obtain ⟨-, stem, hstem⟩ := isNamed_fileOf dir l
  obtain ⟨folder, -, hplace⟩ := (h.slots l hl).parent
  obtain ⟨folder', -, hindex⟩ := h.index.parent
  rw [hplace, hindex, hstem, (isNamed_index dir).2]
  intro heq
  have hlast := congrArg List.getLast? (List.singleton_inj.1 (List.append_inj' heq rfl).2)
  rw [List.getLast?_append_of_ne_nil _ (by decide)] at hlast
  revert hlast
  decide

theorem Layout.makeFolders (h : Layout plan dir s place index previous) (r : Refusals) :
    Does (makeFolders dir) s r (.ok ()) s := by
  obtain ⟨folder, hfolder, -⟩ := h.index.parent
  have hdir : (dir.child "index.ts").parent = dir := by
    simp [FilePath.parent, FilePath.child]
  rw [hdir] at hfolder
  have hdoes := does_makeFolders (s := s) (r := r) dir
  rwa [makeFolders_of_folder h.linkless hfolder.spelling hfolder.leads hfolder.folder hfolder.dots] at hdoes

theorem does_emitIndex (hreal : plan.dryRun = false) (hs : s.IsLinkless)
    (h : FileSlot s (dir.child "index.ts") index) (hdisk : ∀ p step, r p step = none) :
    Does (emitIndex plan dir) s r
      ((Utf8.encode (indexModule (plan.languages.map textOf))).map fun _ => dir.child "index.ts")
      (match Utf8.encode (indexModule (plan.languages.map textOf)) with
        | .ok bytes => s.put index (.file bytes)
        | .error _ => s) := by
  have hown : isDots (dir.child "index.ts").name = false := by
    obtain ⟨hnamed, hname⟩ := isNamed_index dir
    exact hnamed.own (by rw [hname]; decide)
  have hwrite := does_write hs h hown (fun step => hdisk _ step) (indexModule (plan.languages.map textOf))
  unfold emitIndex
  simp only [hreal, Bool.false_eq_true, if_false]
  cases hbytes : Utf8.encode (indexModule (plan.languages.map textOf)) with
  | error fault =>
    rw [hbytes] at hwrite
    exact hwrite.bind_error
  | ok bytes =>
    rw [hbytes] at hwrite
    exact hwrite.bind ((does_print _).bind (does_pure _))

theorem does_emitAll {a : Except Fault (List FilePath)} (hjson : plan.asTable = false)
    (hreal : plan.dryRun = false) (h : Layout plan dir s place index previous) {keys : List Key}
    (hrun : Does (do
      let paths ← emitLanguages plan dir (texts keys) plan.languages
      let index ← emitIndex plan dir
      return paths ++ [index]) s r a s') : Does (emitAll plan dir keys) s r a s' := by
  unfold emitAll
  simp only [hreal, hjson, Bool.not_false, if_true, Bool.false_eq_true, if_false]
  exact (h.makeFolders r).bind hrun

end Languages

variable {place : Json → List Text} {index : List Text} {previous : Json → List (Text × Json)}

theorem Updated.addIndex {s₁ : Store} {data : Data} (hlayout : Layout plan dir s place index previous)
    (h : Updated plan dir data place previous plan.languages [] s s₁) (bytes : Bytes) :
    Updated plan dir data place previous plan.languages [index] s (s₁.put index (.file bytes)) := by
  have hgets := (hlayout.index.keeps h.keeps).gets h.linkless bytes
  refine ⟨hgets.linkless, h.keeps.trans hgets.keeps, fun l hl => ?_, fun names hnames hothers => ?_⟩
  · obtain ⟨content, hfile, hdocument⟩ := h.files l hl
    refine ⟨content, hfile.keeps hgets.keeps ?_, hdocument⟩
    rw [hgets.others _ (hlayout.place_ne_index hl).symm]
    exact hfile.file
  · rw [hgets.others _ (mt List.mem_singleton.2 hnames)]
    exact h.rest names List.not_mem_nil hothers

/-- Locale files written for any keys and languages, in a folder of a working disk. When what each language
puts in has a form in UTF-8, and so has the module that brings them together, the run completes, and each
file is read back as what was put together with what it held. Otherwise the run ends at the first that has
no such form: the files before it are updated, and the others are not. -/
theorem emitAll_updates (hjson : plan.asTable = false) (hreal : plan.dryRun = false)
    (hdisk : ∀ p step, r p step = none) (hlayout : Layout plan dir s place index previous)
    (keys : List Key) :
    (AllEncodable plan (texts keys) place previous plan.languages →
      (indexModule (plan.languages.map textOf)).IsScalar →
      ∃ s' bytes, Does (emitAll plan dir keys) s r
          (.ok (plan.languages.map (fileOf dir) ++ [dir.child "index.ts"])) s' ∧
        Updated plan dir (texts keys) place previous plan.languages [index] s s' ∧
        HasFile s' (dir.child "index.ts") index bytes ∧
        Utf8.decodeFault bytes = .ok (indexModule (plan.languages.map textOf))) ∧
    (AllEncodable plan (texts keys) place previous plan.languages →
      ¬ (indexModule (plan.languages.map textOf)).IsScalar →
      ∃ s', Does (emitAll plan dir keys) s r (.error .unencodable) s' ∧
        Updated plan dir (texts keys) place previous plan.languages [] s s') ∧
    (¬ AllEncodable plan (texts keys) place previous plan.languages →
      ∃ before l after s', plan.languages = before ++ l :: after ∧
        AllEncodable plan (texts keys) place previous before ∧
        ¬ (Json.obj (heldBy plan (texts keys) place (before ++ [l]) (previous l) (place l))).IsEncodable ∧
        Does (emitAll plan dir keys) s r (.error .unencodable) s' ∧
        Updated plan dir (texts keys) place previous before [] s s') ∧
    ∀ l ∈ plan.languages, (∀ l' ∈ plan.languages, place l' = place l →
        l'.same plan.defaultLanguage = l.same plan.defaultLanguage) →
      heldBy plan (texts keys) place plan.languages (previous l) (place l) =
        merge (texts keys) (previous l) l plan.defaultLanguage plan.force := by
  have hdata := areTexts_texts keys
  have hnone : AllEncodable plan (texts keys) place previous [] := fun before l after heq => by
    simp at heq
  have hrun := (Updated.start hlayout.linkless).run hreal hdisk hlayout hdata hnone
    (fun l hl => hl : [] ++ plan.languages ⊆ plan.languages)
  simp only [List.nil_append] at hrun
  -- When all can be written, the run gets through all languages and comes to the module.
  have hthrough (hall : AllEncodable plan (texts keys) place previous plan.languages) :
      ∃ s₁, Does (emitLanguages plan dir (texts keys) plan.languages) s r
          (.ok (plan.languages.map (fileOf dir))) s₁ ∧
        Updated plan dir (texts keys) place previous plan.languages [] s s₁ := by
    rcases hrun with ⟨s₁, hdoes, -, h₁⟩ | ⟨before, l, after, s₁, heq, -, hbad, -⟩
    · exact ⟨s₁, hdoes, h₁⟩
    · exact (hbad (hall before l after heq)).elim
  refine ⟨fun hall hindex => ?_, fun hall hindex => ?_, fun hsome => ?_,
    fun l hl halike => heldBy_eq_merge hdata hl halike _⟩
  · obtain ⟨s₁, hdoes, h₁⟩ := hthrough hall
    obtain ⟨bytes, hbytes⟩ := Option.isSome_iff_exists.1 (Text.isSome_encode? hindex)
    have hslot := hlayout.index.keeps h₁.keeps
    have hgets := hslot.gets h₁.linkless bytes
    have hwritten := does_emitIndex hreal h₁.linkless hslot hdisk
    rw [Utf8.encode_eq_ok.2 hbytes] at hwritten
    refine ⟨s₁.put index (.file bytes), bytes, ?_, ?_, ?_, Utf8.decodeFault_eq_ok.2 hbytes⟩
    · exact does_emitAll hjson hreal hlayout (hdoes.bind (hwritten.bind (does_pure _)))
    · exact h₁.addIndex hlayout bytes
    · exact (hslot.keeps hgets.keeps).hasFile (isNamed_index dir).1 hgets.there
  · obtain ⟨s₁, hdoes, h₁⟩ := hthrough hall
    have hwritten := does_emitIndex hreal h₁.linkless (hlayout.index.keeps h₁.keeps) hdisk
    rw [Text.encode_of_not_isScalar hindex] at hwritten
    exact ⟨s₁, does_emitAll hjson hreal hlayout (hdoes.bind (Does.bind_error hwritten)), h₁⟩
  · rcases hrun with ⟨s₁, -, hall, -⟩ | ⟨before, l, after, s₁, heq, hall, hbad, hdoes, h₁⟩
    · exact (hsome hall).elim
    · exact ⟨before, l, after, s₁, heq, hall, hbad,
        does_emitAll hjson hreal hlayout (Does.bind_error hdoes), h₁⟩

end Harvest

namespace Sample

open Harvest Keys

def localesFolder : FilePath := ⟨1, ["p", "locales"]⟩

def localePlace (l : Json) : List Text := localesFolder.names ++ [textOf l ++ (".json" : Text)]

def indexPlace : List Text := localesFolder.names ++ [("index.ts" : Text)]

def enMembers : List (Text × Json) := [("b", .str "B")]

def enSource : Bytes := (Utf8.encode? (Json.indented 0 (.obj enMembers))).getD []

/-- A folder of locale files in which that of one language is there. -/
def locales : Store := ⟨[(localePlace (.str "en"), .file enSource)]⟩

def localeMembers (l : Json) : List (Text × Json) := if textOf l = "en" then enMembers else []

theorem locales_linkless : locales.IsLinkless where
  root := rfl
  links := by simp [locales]

theorem localesFolder_isFolder : IsFolder locales localesFolder localesFolder.names where
  spelling := by decide
  leads := by
    refine .down rfl (by decide) (by decide) (by decide) rfl ?_
    exact .down rfl (by decide) (by decide) (by decide) rfl .here
  folder := rfl
  dots := by decide

theorem locales_layout : Layout collecting localesFolder locales localePlace indexPlace localeMembers := by
  have hen : Utf8.encode (Json.indented 0 (.obj enMembers)) = .ok enSource := by
    exact Utf8.encode_eq_ok.2 (by decide)
  have hlegible : Json.Legible (.obj enMembers) := ⟨by decide, trivial, trivial⟩
  have hlanguages {P : Json → Prop} (h : P (.str "en")) (h' : P (.str "ko")) :
      ∀ l ∈ collecting.languages, P l :=
    List.forall_mem_cons.2 ⟨h, List.forall_mem_singleton.2 h'⟩
  refine ⟨locales_linkless, hlanguages ?_ ?_, ?_, hlanguages ?_ ?_, hlanguages ?_ ?_⟩
  · exact ⟨⟨_, localesFolder_isFolder, rfl⟩, by decide, by decide, by decide⟩
  · exact ⟨⟨_, localesFolder_isFolder, rfl⟩, by decide, by decide, by decide⟩
  · exact ⟨⟨_, localesFolder_isFolder, rfl⟩, by decide, by decide, by decide⟩
  · have hfile : locales.item? (localePlace (.str "en")) = some (.file enSource) := rfl
    rw [membersAt, hfile]
    exact membersOf_of_readDocument (Json.readDocument_of_encode hlegible hen)
  · rfl
  · exact fun x hx => absurd hx List.not_mem_nil
  · exact fun x hx => absurd hx List.not_mem_nil

theorem locales_encodable : ∀ l ∈ collecting.languages, (Json.obj (localeMembers l)).IsEncodable := by
  unfold Json.IsEncodable Text.IsScalar
  refine List.forall_mem_cons.2 ⟨?_, List.forall_mem_singleton.2 ?_⟩
  · decide
  · decide

end Sample

/-- A key with a text comes to both languages, in one of them behind what its file holds already. -/
theorem Harvest.emitAll_updates_pair : ∃ s' bytes bytes', Does (Harvest.emitAll Sample.collecting
      Sample.localesFolder [{ key := "a", defaultValue := some "가" }]) Sample.locales (fun _ _ => none)
      (.ok [Harvest.fileOf Sample.localesFolder (.str "en"), Harvest.fileOf Sample.localesFolder (.str "ko"),
        Sample.localesFolder.child "index.ts"]) s' ∧
    s'.item? (Sample.localePlace (.str "en")) = some (.file bytes) ∧
    readDocument bytes = .ok (.obj [("b", .str "B"), ("a", .str [])]) ∧
    s'.item? (Sample.localePlace (.str "ko")) = some (.file bytes') ∧
    readDocument bytes' = .ok (.obj [("a", .str "가")]) := by
  obtain ⟨hdone, -⟩ := @Harvest.emitAll_updates Sample.collecting Sample.localesFolder Sample.locales
    (fun _ _ => none) Sample.localePlace Sample.indexPlace Sample.localeMembers rfl rfl
    (fun _ _ => rfl) Sample.locales_layout [{ key := "a", defaultValue := some "가" }]
  have hkeys : ∀ k ∈ [({ key := "a", defaultValue := some "가" } : Keys.Key)],
      k.key.IsScalar ∧ k.text.IsScalar := by
    unfold Text.IsScalar
    decide
  have hindex : (Keys.indexModule (Sample.collecting.languages.map textOf)).IsScalar := by
    unfold Text.IsScalar
    decide +kernel
  obtain ⟨s', index, hdoes, hupdated, -⟩ := hdone
    (Harvest.allEncodable_of_isScalar hkeys Sample.locales_encodable) hindex
  obtain ⟨bytes, hfile, hread⟩ := hupdated.files (.str "en") List.mem_cons_self
  obtain ⟨bytes', hfile', hread'⟩ := hupdated.files (.str "ko") (List.mem_cons_of_mem _ List.mem_cons_self)
  exact ⟨s', bytes, bytes', hdoes, hfile.file, hread, hfile'.file, hread'⟩

namespace Sample

/-- A key whose text is half a pair of surrogates. -/
def halfKeys : List Keys.Key := [{ key := "a", defaultValue := some [CodePoint.ofNat 0xD800] }]

theorem locales_started : Harvest.Updated collecting localesFolder (Keys.texts halfKeys) localePlace
    localeMembers [] [] locales locales := .start locales_linkless

end Sample

/-- A text with half a pair of surrogates is put in for one language only. The run ends there: the file of
the other language is updated, and the one of this language is not. -/
theorem Harvest.emitAll_not_updates_half : ∃ s' bytes, Does (Harvest.emitAll Sample.collecting
      Sample.localesFolder Sample.halfKeys) Sample.locales (fun _ _ => none) (.error .unencodable) s' ∧
    s'.item? (Sample.localePlace (.str "en")) = some (.file bytes) ∧
    readDocument bytes = .ok (.obj [("b", .str "B"), ("a", .str [])]) ∧
    s'.item? (Sample.localePlace (.str "ko")) = none := by
  have hdata := Keys.areTexts_texts Sample.halfKeys
  have hen : (.str "en" : Json) ∈ Sample.collecting.languages := List.mem_cons_self
  have hko : (.str "ko" : Json) ∈ Sample.collecting.languages := List.mem_cons_of_mem _ List.mem_cons_self
  rcases Sample.locales_started.step rfl (fun _ _ => rfl) Sample.locales_layout hdata
    (List.nil_subset _) hen with ⟨s₁, hfirst, -, h₁⟩ | ⟨-, hbad⟩
  · rcases h₁.step rfl (fun _ _ => rfl) Sample.locales_layout hdata
      (List.cons_subset.2 ⟨hen, List.nil_subset _⟩) hko with ⟨-, -, hgood, -⟩ | ⟨hsecond, -⟩
    · unfold Json.IsEncodable Text.IsScalar at hgood
      exact absurd hgood (by decide)
    · obtain ⟨bytes, hfile, hread⟩ := h₁.files _ List.mem_cons_self
      have hko := h₁.rest (Sample.localePlace (.str "ko")) List.not_mem_nil (by simp; decide)
      refine ⟨s₁, bytes, Harvest.does_emitAll rfl rfl Sample.locales_layout ?_, hfile.file, hread, hko⟩
      exact (hfirst.bind hsecond.bind_error.bind_error).bind_error
  · unfold Json.IsEncodable Text.IsScalar at hbad
    exact absurd (by decide) hbad

end Phrasebook
