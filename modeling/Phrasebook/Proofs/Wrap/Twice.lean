import Phrasebook.Proofs.Wrap.Rewalk

/-! A pass over the text of a pass, as far as a parser reads in it what the first one left. It changes
nothing exactly when every phrase that the first one left, and that nothing but a marker can exclude,
has a marker in the new text. A template whose call keeps another template fails this: the kept one
was taken for the template of a tag. So does a literal whose marker is two rows away once a statement
stands between them. -/

namespace Phrasebook

open Node

namespace Pass

section Unique

variable {env : Env}

theorem Enters.not_string {frames : List Frame} {name : Text} {n : Node}
    (h : Enters env (some name) frames n) (hfn : Scope.isFunction n = false) : n.kind ≠ "string" := by
  rcases h.2 with ⟨hfn', -⟩ | ⟨-, hliteral⟩
  · exact nomatch hfn'.symm.trans hfn
  · exact (hliteral name rfl).1

theorem Enters.not_template {frames : List Frame} {name key : Text} {n : Node}
    (h : Enters env (some name) frames n) (hfn : Scope.isFunction n = false)
    (hkind : n.kind = "template_string") :
    (templateKey? env name ⟨n, frames⟩).result ≠ .ok (some key) := by
  rcases h.2 with ⟨hfn', -⟩ | ⟨-, hliteral⟩
  · exact nomatch hfn'.symm.trans hfn
  · intro hkey
    exact nomatch hkey.symm.trans ((hliteral name rfl).2 hkind)

theorem Enters.not_component {owner : Option Text} {frames : List Frame} {name : Text} {n : Node}
    (h : Enters env owner frames n) (hfn : Scope.isFunction n = true) :
    Scope.componentName? env.source ⟨n, frames⟩ ≠ some name := by
  rcases h.2 with ⟨-, hnone⟩ | ⟨hfn', -⟩
  · rw [hnone]
    exact nofun
  · exact nomatch hfn.symm.trans hfn'

theorem string_ne_template {n : Node} (h : n.kind = "string") : n.kind ≠ "template_string" := by
  rw [h]
  decide

mutual

theorem Visit.unique {owner : Option Text} {frames : List Frame} {f : Focus} {made made' : Made Node}
    {ws ws' : List Wrapped} :
    Visit env owner frames f made ws → Visit env owner frames f made' ws' → made = made' ∧ ws = ws'
  | .skipped _ hskip, h => by
    cases h with
    | skipped _ _ => exact ⟨rfl, rfl⟩
    | component _ hskip' _ _ _ => exact nomatch hskip.symm.trans hskip'
    | entered _ henter _ => exact nomatch hskip.symm.trans henter.1
    | string _ hskip' _ _ _ => exact nomatch hskip.symm.trans hskip'
    | otherString _ hskip' _ _ _ => exact nomatch hskip.symm.trans hskip'
    | template _ hskip' _ _ _ _ => exact nomatch hskip.symm.trans hskip'
  | .component _ hskip hfn hname hbelow, h => by
    cases h with
    | skipped _ hskip' => exact nomatch hskip.symm.trans hskip'
    | component _ _ _ hname' hbelow' =>
      obtain rfl := Option.some.inj (hname.symm.trans hname')
      obtain ⟨rfl, rfl⟩ := hbelow.unique hbelow'
      exact ⟨rfl, rfl⟩
    | entered _ henter _ => exact (henter.not_component hfn hname).elim
    | string _ _ hfn' _ _ => exact nomatch hfn.symm.trans hfn'
    | otherString _ _ hfn' _ _ => exact nomatch hfn.symm.trans hfn'
    | template _ _ hfn' _ _ _ => exact nomatch hfn.symm.trans hfn'
  | .entered _ henter hbelow, h => by
    cases h with
    | skipped _ hskip => exact nomatch hskip.symm.trans henter.1
    | component _ _ hfn hname _ => exact (henter.not_component hfn hname).elim
    | entered _ _ hbelow' =>
      obtain ⟨rfl, rfl⟩ := hbelow.unique hbelow'
      exact ⟨rfl, rfl⟩
    | string _ _ hfn hkind _ => exact (henter.not_string hfn hkind).elim
    | otherString _ _ hfn hkind _ => exact (henter.not_string hfn hkind).elim
    | template _ _ hfn hkind hkey _ => exact (henter.not_template hfn hkind hkey).elim
  | .string _ hskip hfn hkind hwrap, h => by
    cases h with
    | skipped _ hskip' => exact nomatch hskip.symm.trans hskip'
    | component _ _ hfn' _ _ => exact nomatch hfn.symm.trans hfn'
    | entered _ henter _ => exact (henter.not_string hfn hkind).elim
    | string _ _ _ _ hwrap' =>
      cases hwrap.symm.trans hwrap'
      exact ⟨rfl, rfl⟩
    | otherString _ _ _ _ hwrap' => exact nomatch hwrap.symm.trans hwrap'
    | template _ _ _ hkind' _ _ => exact (string_ne_template hkind hkind').elim
  | .otherString _ hskip hfn hkind hwrap, h => by
    cases h with
    | skipped _ hskip' => exact nomatch hskip.symm.trans hskip'
    | component _ _ hfn' _ _ => exact nomatch hfn.symm.trans hfn'
    | entered _ henter _ => exact (henter.not_string hfn hkind).elim
    | string _ _ _ _ hwrap' => exact nomatch hwrap.symm.trans hwrap'
    | otherString _ _ _ _ _ => exact ⟨rfl, rfl⟩
    | template _ _ _ hkind' _ _ => exact (string_ne_template hkind hkind').elim
  | .template _ hskip hfn hkind hkey hbelow, h => by
    cases h with
    | skipped _ hskip' => exact nomatch hskip.symm.trans hskip'
    | component _ _ hfn' _ _ => exact nomatch hfn.symm.trans hfn'
    | entered _ henter _ => exact (henter.not_template hfn hkind hkey).elim
    | string _ _ _ hkind' _ => exact (string_ne_template hkind' hkind).elim
    | otherString _ _ _ hkind' _ => exact (string_ne_template hkind' hkind).elim
    | template _ _ _ _ hkey' hbelow' =>
      cases hkey.symm.trans hkey'
      obtain ⟨rfl, rfl⟩ := hbelow.unique hbelow'
      exact ⟨rfl, rfl⟩

theorem Visits.unique {owner : Option Text} {parent : Info} {frames : List Frame}
    {before : List Node} {k : Nat} {places : List Focus} {made made' : Made (List Node)}
    {ws ws' : List Wrapped} : Visits env owner parent frames before k places made ws →
      Visits env owner parent frames before k places made' ws' → made = made' ∧ ws = ws'
  | .nil, h => by
    cases h
    exact ⟨rfl, rfl⟩
  | .run _ _ hjsx hmore hwrap hrest, h => by
    cases h with
    | run _ _ _ hmore' hwrap' hrest' =>
      obtain rfl := hmore.trans hmore'.symm
      cases hwrap.symm.trans hwrap'
      obtain ⟨rfl, rfl⟩ := hrest.unique hrest'
      exact ⟨rfl, rfl⟩
    | otherRun _ hmore' hwrap' _ =>
      obtain rfl := hmore.trans hmore'.symm
      exact nomatch hwrap.symm.trans hwrap'
    | node hjsx' _ _ => exact nomatch hjsx.symm.trans (hjsx' rfl)
  | .otherRun hjsx hmore hwrap hrest, h => by
    cases h with
    | run _ _ _ hmore' hwrap' _ =>
      obtain rfl := hmore.trans hmore'.symm
      exact nomatch hwrap.symm.trans hwrap'
    | otherRun _ hmore' _ hrest' =>
      obtain rfl := hmore.trans hmore'.symm
      obtain ⟨rfl, rfl⟩ := hrest.unique hrest'
      exact ⟨rfl, rfl⟩
    | node hjsx' _ _ => exact nomatch hjsx.symm.trans (hjsx' rfl)
  | .node hjsx hfirst hrest, h => by
    cases h with
    | run _ _ hjsx' _ _ _ => exact nomatch hjsx'.symm.trans (hjsx rfl)
    | otherRun hjsx' _ _ _ => exact nomatch hjsx'.symm.trans (hjsx rfl)
    | node _ hfirst' hrest' =>
      obtain ⟨rfl, rfl⟩ := hfirst.unique hfirst'
      obtain ⟨rfl, rfl⟩ := hrest.unique hrest'
      exact ⟨rfl, rfl⟩

end

end Unique

end Pass

/-- What a parser reads in the text of a pass: what the walk left in the tree, with the statements that
the pass adds, and each literal of the source at some spot. -/
structure Rereading (parser : Parser) (settings : Settings) (path : Option Text) (tree : Tree)
    (code : Text) where
  answer : Answer
  spot : Option Mark → Focus
  parses : parser (settings.backend.grammar path) code = some answer
  clean : answer.flags.hasError = false
  field : (answer.toTree code).root.field = tree.root.field
  reads : ∀ made, (Pass.walk (settings.env tree) tree.root).result = .ok made →
    Pass.Reads (settings.env tree) (settings.env (answer.toTree code)) spot (Focus.ofRoot made.part)
      (Focus.ofRoot (answer.toTree code).root)

def Rereading.tree {parser : Parser} {settings : Settings} {path : Option Text} {tree : Tree}
    {code : Text} (r : Rereading parser settings path tree code) : Tree := r.answer.toTree code

section Twice

variable {parser : Parser} {settings : Settings} {code name : Text} {path : Option Text} {tree : Tree}
  {first : Transformed}

theorem again_env (tree tree' : Tree) (hname : settings.vocabulary.function = .text name)
    (hclear : ∀ t, settings.script.search t ≠ .crossed) :
    Pass.Again (settings.env tree) (settings.env tree') where
  function := rfl
  script := rfl
  named := by
    show settings.vocabulary.function = .text settings.vocabulary.function.spelling
    rw [hname]
    rfl
  clear := hclear

/-- **When a second pass changes nothing.** Let the text of a pass be parsed to what the pass left. The
next pass gives it back exactly when a marker excludes each phrase that was left though only a marker
can exclude it: a template that is itself an expression of a wrapped template, or a literal that a
marker excluded before. -/
theorem transformCode_fixed_iff (hparser : parser.IsSound)
    (hname : settings.vocabulary.function = .text name)
    (hclear : ∀ t, settings.script.search t ≠ .crossed)
    (hparse : parse parser settings.backend code path = .ok tree) (htidy : tree.root.areTidy = true)
    (hfirst : (transformCode parser settings code path).result = .ok first)
    (r : Rereading parser settings path tree first.code) :
    (∃ ws pieces, Splices settings tree first ws pieces) ∧
      ∀ ws pieces, Splices settings tree first ws pieces →
        ((∃ second, (transformCode parser settings first.code path).result = .ok second ∧
          second.modified = false ∧ second.code = first.code) ↔
          ∀ g, Pass.Reaches (settings.env tree) (Focus.ofRoot tree.root) g →
            Pass.Left (settings.env tree) [] (ws.map (·.focus)) g →
            Pass.Marked (settings.env r.tree) r.spot g) := by
  obtain ⟨answer, hanswer, hclean, -, htree⟩ := parse_eq_ok.1 hparse
  have hparsed : tree.Parsed := htree ▸ hparser _ _ _ hanswer hclean
  obtain ⟨tree', hparse', htransform⟩ := transformCode_eq_ok.1 hfirst
  cases hparse.symm.trans hparse'
  obtain ⟨made, b, root, hpass⟩ := passes_of_transform htransform
  obtain ⟨us, hvisit⟩ := Pass.visit_of_walk hparsed.root hpass.walk
  refine ⟨⟨us, hpass.exists_splices hparsed hvisit⟩, fun ws pieces hsplices => ?_⟩
  obtain ⟨made', hvisit'⟩ := hsplices.visit
  obtain ⟨rfl, rfl⟩ := hvisit.unique hvisit'
  have hroot : r.tree.Parsed := hparser _ _ _ r.parses r.clean
  have hsettled := Pass.isSettled_iff_marked (again_env tree r.tree hname hclear) hparsed.root htidy
    hroot.root r.field hvisit (r.reads _ hpass.walk)
  rw [transformCode_isSettled_iff hparser hfirst, ← hsettled]
  constructor
  · rintro ⟨answer', hanswer', -, h⟩
    cases r.parses.symm.trans hanswer'
    exact h
  · exact fun h => ⟨r.answer, r.parses, r.clean, h⟩

end Twice

namespace Pass

/-- Starts of literals in a source, with where they are read. -/
abbrev Spots := List (Option Mark × Focus)

section Checking

variable (env env' : Env)

def resembles (e m : Focus) : Bool :=
  m.node.kind == e.node.kind && m.node.named == e.node.named &&
  (!(e.node.kind == "string" || tokenKinds.contains e.node.kind) ||
    m.node.textD env'.source == e.node.textD env.source) &&
  (e.node.kind != "template_string" ||
    match Literal.quasis env'.source m.node, Literal.quasis env.source e.node with
    | .ok texts', .ok texts => texts' == texts
    | _, _ => false)

mutual

/-- A reading of a tree without JSX to which nothing is added, if there is one. -/
def reading? : Nat → Focus → Focus → Option Spots
  | 0, _, _ => none
  | k + 1, e, m =>
    if e.node.info.built then
      match e.node.items, m.children with
      | .text opening :: .text literal :: _, [callee, arguments] =>
        match arguments.children with
        | first :: key :: more =>
          if e.node.kind == "call_expression" && m.node.kind == "call_expression" &&
              callee.node.kind == "identifier" && callee.node.field == some "function" &&
              opening == callee.node.textD env'.source ++ "(" && arguments.node.kind == "arguments" &&
              first.node.isBare && key.node.kind == "string" && key.node.textD env'.source == literal then
            match enclosed? k e.children more with
            | some (spots, []) => some spots
            | _ => none
          else none
        | _ => none
      | _, _ => none
    else if !Literal.isJsxText e.node && resembles env env' e m then
      (readings? k e.children m.children).map fun spots =>
        if literalKinds.contains e.node.kind then (e.node.info.start, m) :: spots else spots
    else none

def readings? : Nat → List Focus → List Focus → Option Spots
  | k + 1, e :: es, m :: ms =>
    if m.node.field == e.node.field then
      (reading? k e m).bind fun spots => (readings? k es ms).map (spots ++ ·)
    else none
  | _, [], [] => some []
  | _, _, _ => none

/-- The first places that are read in some nodes, and the places after them. -/
def enclosed? : Nat → List Focus → List Focus → Option (Spots × List Focus)
  | 0, _, _ => none
  | _ + 1, es, [] => some ([], es)
  | k + 1, es, m :: ms =>
    if m.node.isSilent then enclosed? k es ms
    else if enclosingKinds.contains m.node.kind then
      (enclosed? k es m.children).bind fun (spots, es) =>
        (enclosed? k es ms).map fun (more, es) => (spots ++ more, es)
    else
      match es with
      | [] => none
      | e :: es =>
        if m.parentKind?.any enclosingKinds.contains && !e.node.isNamed && !m.node.isNamed then
          (reading? k e m).bind fun spots =>
            (enclosed? k es ms).map fun (more, es) => (spots ++ more, es)
        else none

end

end Checking

section Checked

variable {env env' : Env} {spot : Option Mark → Focus}

def Spots.Agree (spots : Spots) (spot : Option Mark → Focus) : Prop := ∀ p ∈ spots, spot p.1 = p.2

theorem resembles_of_check {e m : Focus} (h : resembles env env' e m = true)
    (hspot : literalKinds.contains e.node.kind = true → spot e.node.info.start = m) :
    Resembles env env' spot e m := by
  simp only [resembles, Bool.and_eq_true, Bool.or_eq_true, Bool.not_eq_true', beq_iff_eq, bne_iff_ne,
    Bool.or_eq_false_iff] at h
  obtain ⟨⟨⟨hkind, hnamed⟩, htext⟩, hquasis⟩ := h
  refine ⟨hkind, hnamed, fun h => ?_, fun htemplate => ?_, hspot⟩
  · refine htext.resolve_left fun hnot => ?_
    rcases h with h | h
    · simp [h] at hnot
    · rw [h] at hnot
      exact nomatch hnot.2
  · replace hquasis := hquasis.resolve_left fun hnot => hnot htemplate
    split at hquasis
    next htexts' htexts => rw [htexts', htexts, beq_iff_eq.1 hquasis]
    next => cases hquasis

mutual

theorem reads_of_reading? {spots : Spots} : ∀ {k : Nat} {e m : Focus},
    reading? env env' k e m = some spots → spots.Agree spot → Reads env env' spot e m
  | 0, _, _, h, _ => by
    rw [reading?] at h
    cases h
  | k + 1, e, m, h, hspot => by
    rw [reading?] at h
    split at h
    next hbuilt =>
      split at h
      next callee arguments hitems hchildren =>
        split at h
        next first key more hlist =>
          split at h
          next hall =>
            simp only [Bool.and_eq_true, beq_iff_eq] at hall
            obtain ⟨⟨⟨⟨⟨⟨⟨⟨he, hm⟩, hcallee⟩, hfield⟩, hopening⟩, harguments⟩, hfirst⟩, hkey⟩, hliteral⟩ :=
              hall
            split at h
            next spots' hinside =>
              cases h
              obtain ⟨taken, hsplit, hinside⟩ := encloses_of_enclosed? hinside hspot
              rw [List.append_nil] at hsplit
              exact .call hbuilt he (hopening ▸ hitems) hm hchildren hcallee hfield rfl harguments hlist
                hfirst hkey hliteral (hsplit ▸ hinside)
            next => cases h
          next => cases h
        next => cases h
      next => cases h
    next hbuilt =>
      split at h
      next hall =>
        rw [Bool.and_eq_true, Bool.not_eq_true'] at hall
        obtain ⟨below, hitems, rfl⟩ := Option.map_eq_some_iff.1 h
        have hagree : Spots.Agree below spot ∧
            (literalKinds.contains e.node.kind = true → spot e.node.info.start = m) := by
          split at hspot
          next => exact ⟨fun p hp => hspot p (List.mem_cons_of_mem _ hp), fun _ =>
            hspot _ List.mem_cons_self⟩
          next hnot => exact ⟨hspot, fun hliteral => (hnot hliteral).elim⟩
        exact .same (by simpa using hbuilt) hall.1 (resembles_of_check hall.2 hagree.2)
          (readsItems_of_readings? hitems hagree.1)
      next => cases h

theorem readsItems_of_readings? {spots : Spots} : ∀ {k : Nat} {es ms : List Focus},
    readings? env env' k es ms = some spots → spots.Agree spot → ReadsItems env env' spot es ms
  | 0, [], [], _, _ => .nil
  | _ + 1, [], [], _, _ => .nil
  | k + 1, e :: es, m :: ms, h, hspot => by
    rw [readings?] at h
    split at h
    next hfield =>
      obtain ⟨own, hfirst, h⟩ := Option.bind_eq_some_iff.1 h
      obtain ⟨others, hrest, rfl⟩ := Option.map_eq_some_iff.1 h
      obtain ⟨hown, hothers⟩ := List.forall_mem_append.1 hspot
      exact .node (beq_iff_eq.1 hfield) (reads_of_reading? hfirst hown)
        (readsItems_of_readings? hrest hothers)
    next => cases h

theorem encloses_of_enclosed? {spots : Spots} {rest : List Focus} : ∀ {k : Nat} {es ms : List Focus},
    enclosed? env env' k es ms = some (spots, rest) → spots.Agree spot →
      ∃ taken, es = taken ++ rest ∧ Encloses env env' spot taken ms
  | 0, _, _, h, _ => by
    rw [enclosed?] at h
    cases h
  | k + 1, es, [], h, _ => by
    rw [enclosed?] at h
    cases h
    exact ⟨[], rfl, .nil⟩
  | k + 1, es, m :: ms, h, hspot => by
    rw [enclosed?.eq_def] at h
    dsimp only at h
    split at h
    next hsilent =>
      obtain ⟨taken, hsplit, hinside⟩ := encloses_of_enclosed? h hspot
      exact ⟨taken, hsplit, .added hsilent hinside⟩
    next =>
      split at h
      next hkind =>
        obtain ⟨⟨own, left⟩, hfirst, h⟩ := Option.bind_eq_some_iff.1 h
        obtain ⟨⟨others, left'⟩, hrest, h⟩ := Option.map_eq_some_iff.1 h
        cases h
        obtain ⟨hown, hothers⟩ := List.forall_mem_append.1 hspot
        obtain ⟨taken, rfl, hinside⟩ := encloses_of_enclosed? hfirst hown
        obtain ⟨taken', rfl, hbeside⟩ := encloses_of_enclosed? hrest hothers
        exact ⟨taken ++ taken', (List.append_assoc _ _ _).symm, .within hkind hinside hbeside⟩
      next =>
        split at h
        next => cases h
        next e es =>
          split at h
          next hall =>
            simp only [Bool.and_eq_true, Bool.not_eq_true'] at hall
            obtain ⟨own, hfirst, h⟩ := Option.bind_eq_some_iff.1 h
            obtain ⟨⟨others, left⟩, hrest, h⟩ := Option.map_eq_some_iff.1 h
            cases h
            obtain ⟨hown, hothers⟩ := List.forall_mem_append.1 hspot
            obtain ⟨taken, rfl, hbeside⟩ := encloses_of_enclosed? hrest hothers
            exact ⟨e :: taken, rfl, .value hall.1.1 hall.1.2 hall.2 (reads_of_reading? hfirst hown) hbeside⟩
          next => cases h

end

end Checked

def Spots.find (spots : Spots) (root : Focus) (start : Option Mark) : Focus :=
  ((List.find? (fun p => p.1 == start) spots).map (·.2)).getD root

theorem Spots.agree_find {spots : Spots} (root : Focus) (h : (spots.map (·.1)).Nodup) :
    spots.Agree (spots.find root) := by
  induction spots with
  | nil => exact fun p hp => nomatch hp
  | cons p spots ih =>
    rw [List.map_cons, List.nodup_cons] at h
    refine List.forall_mem_cons.2 ⟨by simp [Spots.find], fun q hq => ?_⟩
    have hne : p.1 ≠ q.1 := fun heq => h.1 (heq ▸ List.mem_map_of_mem hq)
    rw [Spots.find, List.find?_cons_of_neg (by simpa using hne)]
    exact ih h.2 q hq

/-- The spots of a reading of what the walk leaves, if the fuel suffices. -/
def spots? (env env' : Env) (fuel : Nat) (root root' : Node) : Option Spots :=
  (walk env root).result.toOption.bind fun made =>
    reading? env env' fuel (Focus.ofRoot made.part) (Focus.ofRoot root')

end Pass

/-- A reading that can be computed. -/
def Rereading.ofSpots {parser : Parser} {settings : Settings} {path : Option Text} {tree : Tree}
    {code : Text} (answer : Answer) (fuel : Nat)
    (parses : parser (settings.backend.grammar path) code = some answer)
    (clean : answer.flags.hasError = false)
    (field : (answer.toTree code).root.field = tree.root.field)
    (h : (Pass.spots? (settings.env tree) (settings.env (answer.toTree code)) fuel tree.root
      (answer.toTree code).root).any (fun spots => (spots.map (·.1)).Nodup) = true) :
    Rereading parser settings path tree code where
  answer := answer
  spot := ((Pass.spots? (settings.env tree) (settings.env (answer.toTree code)) fuel tree.root
    (answer.toTree code).root).getD []).find (Focus.ofRoot (answer.toTree code).root)
  parses := parses
  clean := clean
  field := field
  reads := by
    intro made hmade
    cases hspots : Pass.spots? (settings.env tree) (settings.env (answer.toTree code)) fuel tree.root
      (answer.toTree code).root with
    | none =>
      rw [hspots] at h
      cases h
    | some spots =>
      rw [hspots, Option.any_some, decide_eq_true_eq] at h
      rw [Pass.spots?, hmade] at hspots
      exact Pass.reads_of_reading? hspots (Pass.Spots.agree_find _ h)

namespace Sample

/-- A pattern without groups has none that begins after its end. -/
theorem search_ne_crossed (t : Text) : settings.script.search t ≠ .crossed := by
  have hmatch (start : Nat) : settings.script.matchAt? t.toArray start ≠ some .crossed := by
    have htree : settings.script.tree = .one { members := [.range 0xAC00 0xD7A3] } := rfl
    rw [Pattern.matchAt?, htree, PatternTree.run]
    split
    · exact nofun
    · exact nofun
  intro h
  dsimp only [Pattern.search] at h
  cases hfound : List.findSome? (settings.script.matchAt? t.toArray) (settings.script.starts t.toArray) with
  | none =>
    rw [hfound] at h
    cases h
  | some found =>
    rw [hfound, Option.getD_some] at h
    obtain ⟨start, -, hstart⟩ := List.exists_of_findSome?_eq_some hfound
    exact hmatch start (hstart.trans (congrArg some h))

def plain : Tree := plainAnswer.toTree plainCode

theorem parse_plain : parse parser settings.backend plainCode none = .ok plain :=
  parse_eq_ok.2 ⟨plainAnswer, parser_of_mem _ (by simp [answers]), rfl, rfl, rfl⟩

theorem parser_wrapped (grammar : Grammar) : parser grammar wrappedCode = some wrappedAnswer :=
  parser_of_mem grammar (by simp [answers])

theorem parser_kept (grammar : Grammar) : parser grammar keptCode = some keptAnswer :=
  parser_of_mem grammar (by simp [answers])

def plainReading : Rereading parser settings none plain wrappedCode :=
  .ofSpots wrappedAnswer 40 (parser_wrapped _) rfl (by decide +kernel) (by decide +kernel)

def nestedReading : Rereading parser settings none nested keptCode :=
  .ofSpots keptAnswer 40 (parser_kept _) rfl (by decide +kernel) (by decide +kernel)

theorem pass_plain : pass plainCode = some (wrappedCode, true) := by decide +kernel

theorem pass_wrapped : pass wrappedCode = some (wrappedCode, false) := by decide +kernel

end Sample

theorem transformCode_fixed_iff_plain :
    (∃ first ws pieces,
      (transformCode Sample.parser Sample.settings Sample.plainCode none).result = .ok first ∧
      Splices Sample.settings Sample.plain first ws pieces ∧
      ∀ g, Pass.Reaches (Sample.settings.env Sample.plain) (Focus.ofRoot Sample.plain.root) g →
        Pass.Left (Sample.settings.env Sample.plain) [] (ws.map (·.focus)) g →
        Pass.Marked (Sample.settings.env Sample.plainReading.tree) Sample.plainReading.spot g) ∧
    ∃ first ws pieces,
      (transformCode Sample.parser Sample.settings Sample.nestedCode none).result = .ok first ∧
      Splices Sample.settings Sample.nested first ws pieces ∧
      ∃ g, Pass.Reaches (Sample.settings.env Sample.nested) (Focus.ofRoot Sample.nested.root) g ∧
        Pass.Left (Sample.settings.env Sample.nested) [] (ws.map (·.focus)) g ∧
        ¬ Pass.Marked (Sample.settings.env Sample.nestedReading.tree) Sample.nestedReading.spot g := by
  constructor
  · obtain ⟨⟨_, modified, reports, client, server, changes⟩, hfirst, rfl, -⟩ :=
      Sample.exists_of_pass Sample.pass_plain
    obtain ⟨second, hsecond, hcode, hmodified⟩ := Sample.exists_of_pass Sample.pass_wrapped
    obtain ⟨⟨ws, pieces, hsplices⟩, hall⟩ := transformCode_fixed_iff Sample.parser_isSound rfl
      Sample.search_ne_crossed Sample.parse_plain (by decide) hfirst Sample.plainReading
    exact ⟨_, ws, pieces, hfirst, hsplices,
      (hall ws pieces hsplices).1 ⟨second, hsecond, hmodified, hcode⟩⟩
  · obtain ⟨⟨_, modified, reports, client, server, changes⟩, hfirst, rfl, -⟩ :=
      Sample.exists_of_pass Sample.pass_nested
    obtain ⟨second, hsecond, -, hmodified⟩ := Sample.exists_of_pass Sample.pass_kept
    obtain ⟨⟨ws, pieces, hsplices⟩, hall⟩ := transformCode_fixed_iff Sample.parser_isSound rfl
      Sample.search_ne_crossed Sample.parse_nested Sample.nested_tidy hfirst Sample.nestedReading
    refine ⟨_, ws, pieces, hfirst, hsplices, ?_⟩
    by_contra! hmarked
    obtain ⟨third, hthird, hsame, -⟩ := (hall ws pieces hsplices).2 hmarked
    cases hsecond.symm.trans hthird
    rw [hmodified] at hsame
    cases hsame

end Phrasebook
