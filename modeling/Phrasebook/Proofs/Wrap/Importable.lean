import Phrasebook.Proofs.Wrap.Imports
import Phrasebook.Proofs.Wrap.Scoping

/-! Imports of what the injected statements call. The walk and the bindings leave the imports of a module
alone, and the head that is put on it in the end has those that are missing. -/

namespace Phrasebook

open Node

namespace Pass

variable {env : Env}

theorem Visit.eq_of_import {owner : Option Text} {frames : List Frame} {f : Focus} {made : Made Node}
    {ws : List Wrapped} (h : Visit env owner frames f made ws)
    (hkind : made.part.kind = "import_statement") : made.part = f.node := by
  have hstays := h.stays.kind
  rw [hkind] at hstays
  have hf : f.node.kind = "import_statement" := hstays.elim Eq.symm fun h => absurd h (by decide)
  have hskip : skippedKinds.contains f.node.kind = true := by
    rw [hf]
    decide
  cases h with
  | skipped => rfl
  | otherString => rfl
  | component _ hskip' => rw [hskip'] at hskip; cases hskip
  | entered _ henter => rw [henter.1] at hskip; cases hskip
  | string _ hskip' => rw [hskip'] at hskip; cases hskip
  | template _ hskip' => rw [hskip'] at hskip; cases hskip

theorem Visits.mem_of_import {owner : Option Text} {parent : Info} {frames : List Frame}
    {before : List Node} {k : Nat} {places : List Focus} {made : Made (List Node)}
    {ws : List Wrapped} : Visits env owner parent frames before k places made ws → owner = none →
      ∀ s ∈ made.part, s.kind = "import_statement" → s ∈ places.map (·.node)
  | .nil, _ => by simp [Made.same]
  | .run _ _ _ _ _ _, h => by cases h
  | .otherRun _ _ _ _, h => by cases h
  | .node _ hfirst hrest, h => by
    refine List.forall_mem_cons.2 ⟨fun hkind => ?_, fun s hs hkind => ?_⟩
    · rw [hfirst.eq_of_import hkind]
      exact List.mem_cons_self
    · exact List.mem_cons_of_mem _ (hrest.mem_of_import h s hs hkind)

mutual

theorem Visit.changed_of_modified {owner : Option Text} {frames : List Frame} {f : Focus}
    {made : Made Node} {ws : List Wrapped} : Visit env owner frames f made ws →
      (made.touched = true → made.changed = true) ∧
        ∀ c ∈ made.components, c.modified = true → made.changed = true
  | .skipped _ _ => by simp [Made.same]
  | .otherString _ _ _ _ _ => by simp [Made.same]
  | .string _ _ _ _ _ => by simp
  | .template _ _ _ _ _ _ => by simp [ofTemplate]
  | .component _ _ _ _ hbelow => by
    obtain ⟨htouched, hcomponents⟩ := hbelow.changed_of_modified
    exact ⟨by simp [ofComponent], List.forall_mem_cons.2 ⟨htouched, hcomponents⟩⟩
  | .entered _ _ hbelow => hbelow.changed_of_modified

theorem Visits.changed_of_modified {owner : Option Text} {parent : Info} {frames : List Frame}
    {before : List Node} {k : Nat} {places : List Focus} {made : Made (List Node)}
    {ws : List Wrapped} : Visits env owner parent frames before k places made ws →
      (made.touched = true → made.changed = true) ∧
        ∀ c ∈ made.components, c.modified = true → made.changed = true
  | .nil => by simp [Made.same]
  | .run _ _ _ _ _ _ => by simp
  | .otherRun _ _ _ hrest => hrest.changed_of_modified
  | .node _ hfirst hrest => by
    obtain ⟨htouched, hcomponents⟩ := hfirst.changed_of_modified
    obtain ⟨htouched', hcomponents'⟩ := hrest.changed_of_modified
    refine ⟨fun h => ?_, List.forall_mem_append.2 ⟨fun c hc hmodified => ?_, fun c hc hmodified => ?_⟩⟩
    · exact Bool.or_eq_true_iff.2 ((Bool.or_eq_true_iff.1 h).imp htouched htouched')
    · obtain ⟨d, hd, rfl⟩ := List.mem_map.1 hc
      exact Bool.or_eq_true_iff.2 (.inl (hcomponents d hd hmodified))
    · exact Bool.or_eq_true_iff.2 (.inr (hcomponents' c hc hmodified))

end

theorem Visit.imports {root : Node} {made : Made Node} {ws : List Wrapped} (hroot : root.Parsed)
    (hkind : root.kind = "program") (h : Visit env none [] (Focus.ofRoot root) made ws) :
    made.part.info.built = false ∧ made.part.kind = "program" ∧
      ∀ s ∈ made.part.children, s.kind = "import_statement" → s ∈ root.children := by
  cases h with
  | skipped =>
    refine ⟨?_, hkind, fun s hs _ => hs⟩
    have hlaid := hroot.laid
    cases root with
    | text t => rfl
    | branch i items => exact (isLaid_branch.1 hlaid).1
  | component _ _ hfn _ _ =>
    have hprogram : Scope.isFunction root = false := by
      rw [Scope.isFunction, hkind]
      cases root.named <;> rfl
    rw [show (Focus.ofRoot root).node = root from rfl, hprogram] at hfn
    cases hfn
  | entered _ _ hbelow =>
    refine ⟨?_, hkind, fun s hs hskind => ?_⟩
    · have hlaid := hroot.laid
      cases root with
      | text t => rfl
      | branch i items => exact (isLaid_branch.1 hlaid).1
    · have hmem := hbelow.mem_of_import rfl s (List.mem_filter.1 hs).1 hskind
      rw [Focus.map_node_children hroot.laid] at hmem
      rw [children_of_isLaid hroot.laid]
      exact hmem

end Pass

namespace Binding

variable {source : Bytes} {v : Vocabulary} {mode : Option Side} {injected : List Path}
  {root root' : Node} {target : Target} {outcome : Outcome}

theorem kind_ne_import_of_route {k : Nat} {path : Path} {n c : Node}
    (h : Scope.Route (k :: path) n) (hc : n.children[k]? = some c) : c.kind ≠ "import_statement" := by
  obtain ⟨-, d, hd, hroute⟩ := h
  obtain rfl : d = c := Option.some.inj (hd.symm.trans hc)
  intro hkind
  cases path with
  | nil =>
    have hfn := (Bool.and_eq_true_iff.1 hroute.1).2
    rw [hkind] at hfn
    exact absurd hfn (by decide)
  | cons j path => exact hroute.1.statement hkind

theorem imports_of_editAt {f : Info → List Node → Option (List Node)} {k : Nat} {path : Path}
    (h : root.editAt f (k :: path) = some root')
    (hk : ∀ c, root.children[k]? = some c → c.kind ≠ "import_statement") :
    (∀ c, root'.children[k]? = some c → c.kind ≠ "import_statement") ∧
      ∀ s ∈ root'.children, s.kind = "import_statement" → s ∈ root.children := by
  obtain ⟨-, c, c', hc, hedit, hchildren⟩ := within_of_editAt h
  have hkind : c'.kind ≠ "import_statement" := by
    rw [(edits_of_editAt hedit).kind]
    exact hk c hc
  refine ⟨fun d hd => ?_, fun s hs hskind => ?_⟩
  · rw [hchildren, getElem?_set_of_getElem? hc] at hd
    obtain rfl := Option.some.inj hd
    exact hkind
  · rw [hchildren] at hs
    rcases List.mem_or_eq_of_mem_set hs with hs | rfl
    · exact hs
    · exact (hkind hskind).elim

theorem MadeAsync.exists_edit {path : Path} {k k₁ : Nat} {root₁ : Node}
    (h : MadeAsync root path k root₁ k₁) :
    root₁ = root ∨ ∃ f, root.editAt f path = some root₁ := by
  cases h with
  | already => exact .inl rfl
  | now h => exact .inr ⟨_, h⟩

theorem BodyFilled.exists_path {path : Path} {k : Nat} {body : Node} {statement : Text}
    (h : BodyFilled root path k body statement root') :
    ∃ f more, root.editAt f (path ++ more) = some root' := by
  cases h with
  | first _ _ _ h => exact ⟨_, [k], h⟩
  | expanded _ _ h =>
    rw [wrapAt, splitPath, List.getLast?_concat, List.dropLast_concat] at h
    dsimp only [Option.map_some] at h
    split at h
    next root'' hroot =>
      cases h
      exact ⟨_, [], by rw [List.append_nil]; exact hroot⟩
    next => cases h

theorem Injects.imports (hkind : root.kind = "program") (hroute : Scope.Route target.path root)
    (h : Injects source v mode injected root target root' outcome) :
    (root' = root ∨ Edits root root') ∧
      ∀ s ∈ root'.children, s.kind = "import_statement" → s ∈ root.children := by
  cases h with
  | bound => exact ⟨.inl rfl, fun s hs _ => hs⟩
  | absent => exact ⟨.inl rfl, fun s hs _ => hs⟩
  | unplaced => exact ⟨.inl rfl, fun s hs _ => hs⟩
  | @filled fn body root₁ _ k k₁ _ _ _ _ hasync hfilled =>
    cases hpath : target.path with
    | nil =>
      rw [hpath] at hroute
      have hfn := (Bool.and_eq_true_iff.1 hroute.1).2
      rw [hkind] at hfn
      exact absurd hfn (by decide)
    | cons j path =>
      rw [hpath] at hroute hasync hfilled
      have hj := fun c => kind_ne_import_of_route (c := c) hroute
      have hfirst : (∀ c, root₁.children[j]? = some c → c.kind ≠ "import_statement") ∧
          ∀ s ∈ root₁.children, s.kind = "import_statement" → s ∈ root.children := by
        rcases hasync.exists_edit with rfl | ⟨f, hedit⟩
        · exact ⟨hj, fun s hs _ => hs⟩
        · exact imports_of_editAt hedit hj
      have hedits : root₁ = root ∨ Edits root root₁ :=
        hasync.exists_edit.imp id fun ⟨f, hedit⟩ => edits_of_editAt hedit
      obtain ⟨f, more, hedit⟩ := hfilled.exists_path
      have hsecond := imports_of_editAt hedit hfirst.1
      refine ⟨.inr ?_, fun s hs hskind => hfirst.2 s (hsecond.2 s hs hskind) hskind⟩
      rcases hedits with rfl | hedits
      · exact edits_of_editAt hedit
      · exact hedits.trans (edits_of_editAt hedit)

end Binding

theorem Binds.preserves {source : Bytes} {v : Vocabulary} {mode : Option Side} {walked : Node}
    {b b' : Bindings} {components : List Pass.Component} {reports : List Report} {P : Node → Prop}
    (h : Binds source v mode b components b' reports) (htracks : Tracks source walked b)
    (hroutes : ∀ c ∈ components, Scope.Route c.path walked) (horder : Pass.InPreorder components)
    (hahead : ∀ p ∈ b.injected, ∀ c ∈ components, ¬ c.path <+: p)
    (hstep : ∀ (injected : List Path) (root root' : Node) (outcome : Binding.Outcome)
      (target : Binding.Target), P root → Scope.Route target.path root →
      Binding.Injects source v mode injected root target root' outcome → P root')
    (hb : P b.root) : P b'.root := by
  induction h with
  | nil => exact hb
  | untouched _ _ ih =>
    exact ih htracks (List.forall_mem_cons.1 hroutes).2 (List.pairwise_cons.1 horder).2
      (fun p hp d hd => hahead p hp d (List.mem_cons_of_mem _ hd)) hb
  | @modified b b' c rest reports root outcome hc hinject _ ih =>
    obtain ⟨hroute, hroutes⟩ := List.forall_mem_cons.1 hroutes
    obtain ⟨hfirst, horder⟩ := List.pairwise_cons.1 horder
    have hahead' : ∀ p ∈ b.injected, ∀ d ∈ rest, ¬ d.path <+: p :=
      fun p hp d hd => hahead p hp d (List.mem_cons_of_mem _ hd)
    have hc' : ∀ p ∈ b.injected, ¬ c.path <+: p := fun p hp => hahead p hp c List.mem_cons_self
    rcases fate_of_injects htracks hroute hc' hinject with
      ⟨rfl, hside, -⟩ | ⟨side, fn, rfl, hclear, hleaves, -, -⟩
    · have hinjected : b.injectedWith c.path outcome = b.injected := by
        rw [Bindings.injectedWith, hside]
        rfl
      rw [hinjected] at ih
      exact ih htracks hroutes horder hahead' hb
    · have hinjected : b.injectedWith c.path (.injected side) = b.injected ++ [c.path] := rfl
      rw [hinjected] at ih
      refine ih (htracks.bind hleaves) hroutes horder ?_
        (hstep _ _ _ _ _ hb (htracks.routes c.path hclear hroute) hinject)
      exact List.forall_mem_append.2 ⟨hahead', List.forall_mem_singleton.2 hfirst⟩

namespace Header
/-- A module as the grammar has it: a program, in which the braces of imports open with one. -/
structure IsModule (root : Node) : Prop where
  kind : root.kind = "program"
  braces : ∀ s ∈ root.children, s.kind = "import_statement" → ∀ c ∈ s.children, ∀ d ∈ c.children,
    d.kind = "named_imports" → d.children.head?.map (·.kind) = some "\x7b"

theorem built_of_parsed {n : Node} (h : n.Parsed) : n.info.built = false := by
  have hlaid := h.laid
  cases n with
  | text t => rfl
  | branch i items => exact (isLaid_branch.1 hlaid).1

theorem isProgram_of_parsed {root : Node} (hroot : root.Parsed) (hmodule : IsModule root) :
    IsProgram root where
  isChild := isChild_of_isLaid hroot.laid
  built := built_of_parsed hroot
  plain := by
    intro s hs hskind
    have hmem {n c : Node} (hn : n.Parsed) (hc : c ∈ n.children) : c.Parsed :=
      hn.of_mem_items (List.mem_filter.1 hc).1
    have hparsed := hmem hroot hs
    refine ⟨built_of_parsed hparsed, fun c hc _ => built_of_parsed (hmem hparsed hc),
      fun c hc _ d hd hdkind => ⟨built_of_parsed (hmem (hmem hparsed hc) hd), ?_⟩⟩
    obtain ⟨brace, hbrace, hkind⟩ := Option.map_eq_some_iff.1
      (hmodule.braces s hs hskind c hc d hd hdkind)
    obtain ⟨rest, hrest⟩ := List.head?_eq_some_iff.1 hbrace
    exact ⟨brace, rest, hrest, hkind⟩

theorem isProgram_of_passes {settings : Settings} {tree : Tree} {out : Transformed}
    {made : Pass.Made Node} {b : Bindings} {root : Node} (htree : tree.Parsed)
    (hmodule : IsModule tree.root) (hpass : Passes settings tree out made b root) :
    IsProgram b.root ∧
      ∀ s ∈ b.root.children, s.kind = "import_statement" → s ∈ tree.root.children := by
  obtain ⟨ws, hvisit⟩ := Pass.visit_of_walk htree.root hpass.walk
  obtain ⟨hfull, hroutes, horder, -, -⟩ := hvisit.placed
  obtain ⟨hbuilt, hprogram, himports⟩ := hvisit.imports htree.root hmodule.kind
  have hkept : b.root.isChild = true ∧ b.root.info.built = false ∧ b.root.kind = "program" ∧
      ∀ s ∈ b.root.children, s.kind = "import_statement" → s ∈ tree.root.children := by
    refine hpass.binds.preserves (P := fun root => root.isChild = true ∧ root.info.built = false ∧
      root.kind = "program" ∧ ∀ s ∈ root.children, s.kind = "import_statement" →
        s ∈ tree.root.children) (Tracks.start tree.source made.part) hroutes horder (by simp) ?_
      ⟨hfull.isChild, hbuilt, hprogram, himports⟩
    rintro injected root root' outcome target ⟨hchild, hbuilt, hprogram, himports⟩ hroute hinject
    obtain ⟨hedits, hsame⟩ := hinject.imports hprogram hroute
    have hmem : ∀ s ∈ root'.children, s.kind = "import_statement" → s ∈ tree.root.children :=
      fun s hs hskind => himports s (hsame s hs hskind) hskind
    rcases hedits with rfl | hedits
    · exact ⟨hchild, hbuilt, hprogram, hmem⟩
    · exact ⟨hedits.isChild.trans hchild, hedits.built.trans hbuilt, hedits.kind.trans hprogram, hmem⟩
  obtain ⟨hchild, hbuilt, -, himports⟩ := hkept
  exact ⟨⟨hchild, hbuilt, fun s hs hskind =>
    (isProgram_of_parsed htree.root hmodule).plain s (himports s hs hskind) hskind⟩, himports⟩

end Header

theorem Binds.modified_of_injected {source : Bytes} {v : Vocabulary} {mode : Option Side}
    {b b' : Bindings} {components : List Pass.Component} {reports : List Report}
    (h : Binds source v mode b components b' reports) :
    ∀ r ∈ reports, ∀ side, r.outcome = .injected side → r.component.modified = true := by
  induction h with
  | nil => simp
  | untouched _ _ ih => exact List.forall_mem_cons.2 ⟨fun side h => (by cases h), ih⟩
  | modified hc _ _ ih => exact List.forall_mem_cons.2 ⟨fun _ _ => hc, ih⟩

open Header in
/-- **Injected calls are importable.** For every statement that a pass put in, the module it leaves
imports the name that the statement calls, by an import of values: under that name, or under the
local name of a specifier that was there before. When nothing has to be added, such an import was
there. -/
theorem transform_imports {settings : Settings} {tree : Tree} {out : Transformed}
    (htree : tree.Parsed) (hmodule : IsModule tree.root)
    (hcan : CanImport tree.source settings.vocabulary tree.root)
    (hboth : out.usedClient = true → out.usedServer = true →
      CanImportBoth tree.source settings.vocabulary tree.root)
    (h : (transform settings tree).result = .ok out) :
    (∃ made b root, Passes settings tree out made b root ∧
      ∀ r ∈ out.reports, ∀ side, r.outcome = .injected side →
        ∀ name module, symbol settings.vocabulary side = .text name →
          origin settings.vocabulary side = .text module →
            ∃ shown, Imports tree.source root name module shown) ∧
    ∀ side name module root, symbol settings.vocabulary side = .text name →
      origin settings.vocabulary side = .text module →
        (ensureImport tree.source (.text name) (.text module) tree.root).result = .ok (root, false) →
          root = tree.root ∧ ∃ shown, Imports tree.source root name module shown := by
  have htypes (side : Side) {name module : Text} (hname : symbol settings.vocabulary side = .text name)
      (hmodule : origin settings.vocabulary side = .text module) :
      NoTypes tree.source name module tree.root := by
    obtain ⟨name', module', hname', hmodule', -, htypes⟩ := hcan side
    obtain rfl : name' = name := by simpa [hname] using hname'.symm
    obtain rfl : module' = module := by simpa [hmodule] using hmodule'.symm
    exact htypes
  constructor
  · obtain ⟨made, b, root, hpass, -, hfinal, hclient, hserver⟩ := stages_of_transform h
    obtain ⟨ws, hvisit⟩ := Pass.visit_of_walk htree.root hpass.walk
    obtain ⟨hprogram, himports⟩ := isProgram_of_passes htree hmodule hpass
    refine ⟨made, b, root, hpass, fun r hr side hside name module hname hmodule => ?_⟩
    have hmodified := hpass.binds.modified_of_injected r hr side hside
    have hchanged := hvisit.changed_of_modified.2 _ (hpass.binds.component_mem r hr) hmodified
    have hfollows : Follows tree.source tree.root b.root :=
      fun s hs hkind => ⟨s, himports s hs hkind, .refl s⟩
    have hcan' : CanImport tree.source settings.vocabulary b.root := fun side => by
      obtain ⟨name, module, hname, hmodule, hquotable, htypes⟩ := hcan side
      exact ⟨name, module, hname, hmodule, hquotable, htypes.follows hfollows⟩
    have hboth' (h : out.usedClient = true) (h' : out.usedServer = true) :
        CanImportBoth tree.source settings.vocabulary b.root := by
      obtain ⟨hne, hbraces⟩ := hboth h h'
      exact ⟨hne, fun hsame module hmodule => (hbraces hsame module hmodule).follows hfollows⟩
    have hneeds : Needs.of ⟨out.usedClient, out.usedServer,
        needsClientDirective settings.mode settings.framework⟩ side = true := by
      cases side with
      | client =>
        rw [Needs.of, hclient]
        exact List.any_eq_true.2 ⟨r, hr, by rw [hside]; rfl⟩
      | server =>
        rw [Needs.of, hserver]
        exact List.any_eq_true.2 ⟨r, hr, by rw [hside]; rfl⟩
    exact imports_of_finalize hprogram hcan' hboth' (hfinal hchanged) hneeds hname hmodule
  · intro side name module root hname hmodule' hensure
    have hprogram := isProgram_of_parsed htree.root hmodule
    obtain ⟨-, hpresent⟩ := ensures_of_ensureImport hprogram hensure
    obtain ⟨rfl, s, hs, himport, spec, hspec, hexports⟩ := hpresent rfl
    exact ⟨rfl, imports_of_specifier (htypes side hname hmodule') hs himport hspec hexports⟩

namespace Sample

def returning (a : Nat) : Node :=
  node "function_declaration" true a (a + 27) [
    token "function" a (a + 8), inField "name" (node "identifier" true (a + 9) (a + 10) []),
    inField "parameters" (node "formal_parameters" true (a + 10) (a + 12) [
      token "(" (a + 10) (a + 11), token ")" (a + 11) (a + 12)]),
    inField "body" (node "statement_block" true (a + 12) (a + 27) [token "\x7b" (a + 12) (a + 13),
      node "return_statement" true (a + 13) (a + 26) [token "return" (a + 13) (a + 19),
        node "string" true (a + 20) (a + 25) [token "\"" (a + 20) (a + 21),
          node "string_fragment" true (a + 21) (a + 24) [], token "\"" (a + 24) (a + 25)],
        token ";" (a + 25) (a + 26)],
      token "\x7d" (a + 26) (a + 27)])]

def importing (clause : Node) (a : Nat) : Node :=
  node "import_statement" true 0 (a + 17) [token "import" 0 6, clause, token "from" (a + 1) (a + 5),
    inField "source" (node "string" true (a + 6) (a + 16) [token "\"" (a + 6) (a + 7),
      node "string_fragment" true (a + 7) (a + 15) [], token "\"" (a + 15) (a + 16)]),
    token ";" (a + 16) (a + 17)]

def defaulted : Tree where
  source := (Utf8.encode? "import i18n from \"i18nexus\"; function A()\x7breturn \"가\";\x7d").getD []
  root := node "program" true 0 56 [
    importing (node "import_clause" true 7 11 [node "identifier" true 7 11 []]) 11, returning 29]

theorem defaulted_parsed : defaulted.Parsed := by decide

theorem transformed_defaulted :
    ∃ out, (transform { sourcePattern := .null } defaulted).result = .ok out ∧ out.modified = true ∧
      out.usedServer = false ∧ out.reports.map (·.outcome) = [.injected .client] ∧
      out.code = Text.ofString ("import i18n, \x7b useTranslation \x7d from \"i18nexus\"; " ++
        "function A()\x7b const \x7b t \x7d = useTranslation();return t(\"가\");\x7d") :=
  Logged.exists_of_any (by decide +kernel)

def aliased : Tree where
  source := (Utf8.encode? ("import \x7b useTranslation as x \x7d from \"i18nexus\"; " ++
    "function A()\x7breturn \"가\";\x7d")).getD []
  root := node "program" true 0 75 [
    importing (node "import_clause" true 7 30 [node "named_imports" true 7 30 [token "\x7b" 7 8,
      node "import_specifier" true 9 28 [inField "name" (node "identifier" true 9 23 []),
        token "as" 24 26, inField "alias" (node "identifier" true 27 28 [])],
      token "\x7d" 29 30]]) 30, returning 48]

end Sample

theorem Header.canImport_default (source : Bytes) {root : Node}
    (h : ∀ s ∈ root.children, Header.specifiers s = []) : Header.CanImport source {} root := by
  have hquotable : Header.Quotable "i18nexus" := by
    unfold Header.Quotable
    decide
  have htypes (name : Text) : Header.NoTypes source name "i18nexus" root := by
    intro s hs _ spec hspec
    rw [h s hs] at hspec
    cases hspec
  intro side
  cases side with
  | client => exact ⟨_, _, rfl, rfl, hquotable, htypes _⟩
  | server => exact ⟨_, _, rfl, rfl, hquotable, htypes _⟩

/-- The hook goes into braces behind a default import. -/
theorem transform_imports_default :
    ∃ out, (transform { sourcePattern := .null } Sample.defaulted).result = .ok out ∧
      out.code = Text.ofString ("import i18n, \x7b useTranslation \x7d from \"i18nexus\"; " ++
        "function A()\x7b const \x7b t \x7d = useTranslation();return t(\"가\");\x7d") ∧
      ∃ root shown, Tree.print { Sample.defaulted with root } = .ok out.code ∧
        Header.Imports Sample.defaulted.source root "useTranslation" "i18nexus" shown := by
  obtain ⟨out, hout, -, hserver, hreports, hcode⟩ := Sample.transformed_defaulted
  obtain ⟨r, hr, hside⟩ := List.mem_map.1 (hreports ▸ List.mem_singleton_self _)
  have hmodule : Header.IsModule Sample.defaulted.root := ⟨rfl, by decide +kernel⟩
  have hnone : ∀ s ∈ Sample.defaulted.root.children, (Header.specifiers s).isEmpty = true := by
    decide +kernel
  have hcan := Header.canImport_default Sample.defaulted.source
    fun s hs => List.isEmpty_iff.1 (hnone s hs)
  obtain ⟨⟨made, b, root, hpass, himports⟩, -⟩ := transform_imports Sample.defaulted_parsed hmodule
    hcan (fun _ h => by rw [hserver] at h; cases h) hout
  obtain ⟨shown, hshown⟩ := himports r hr .client hside _ _ rfl rfl
  exact ⟨out, hout, hcode, root, shown, hpass.print, hshown⟩

/-- A module that has the hook under another name is left with a call of a name that nothing binds. -/
theorem transform_not_imports_aliased :
    ∃ out, (transform { sourcePattern := .null } Sample.aliased).result = .ok out ∧
      out.usedClient = true ∧ out.changes = [] ∧
      out.code = Text.ofString ("import \x7b useTranslation as x \x7d from \"i18nexus\"; " ++
        "function A()\x7b const \x7b t \x7d = useTranslation();return t(\"가\");\x7d") ∧
      ∀ s ∈ Sample.aliased.root.children,
        Text.ofString "useTranslation" ∉ Scope.importedNames Sample.aliased.source s := by
  obtain ⟨out, hout, hclient, hchanges, hcode⟩ : ∃ out,
      (transform { sourcePattern := .null } Sample.aliased).result = .ok out ∧
        out.usedClient = true ∧ out.changes = [] ∧
        out.code = Text.ofString ("import \x7b useTranslation as x \x7d from \"i18nexus\"; " ++
          "function A()\x7b const \x7b t \x7d = useTranslation();return t(\"가\");\x7d") :=
    Logged.exists_of_any (by decide +kernel)
  exact ⟨out, hout, hclient, hchanges, hcode, by decide +kernel⟩

end Phrasebook
