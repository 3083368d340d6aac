import Phrasebook.Proofs.Wrap.Fixpoint

/-! A pass over the text of a pass. It changes nothing exactly when the tree that this text is parsed
to is settled. That does not hold of every text: a template whose call keeps another template as it
is leaves a phrase behind, since the kept one is taken for the template of a tag. -/

namespace Phrasebook

open Node

/-- The tree that a parser's answer for a text stands for. -/
def Answer.toTree (answer : Answer) (code : Text) : Tree :=
  let source := (Utf8.encode? code).getD []
  ⟨source, answer.toNode source⟩

/-- A parser whose answers without errors are well-formed trees. -/
def Parser.IsSound (parser : Parser) : Prop :=
  ∀ grammar code answer, parser grammar code = some answer → answer.flags.hasError = false →
    (answer.toTree code).Parsed

theorem Tree.encode?_of_print {tree : Tree} {code : Text} (h : tree.print = .ok code) :
    ∃ bytes, Utf8.encode? code = some bytes := by
  unfold print at h
  split at h
  next =>
    obtain ⟨before, hbefore, h⟩ := except_bind_eq_ok.1 h
    obtain ⟨middle, hmiddle, h⟩ := except_bind_eq_ok.1 h
    obtain ⟨after, hafter, h⟩ := except_bind_eq_ok.1 h
    cases h
    obtain ⟨bytes, -, hmiddle⟩ := except_bind_eq_ok.1 hmiddle
    rw [Utf8.decodeFault_eq_ok] at hbefore hmiddle hafter
    exact ⟨_, Utf8.encode?_append (Utf8.encode?_append hbefore hmiddle) hafter⟩
  next => exact ⟨_, Utf8.decodeFault_eq_ok.1 h⟩

section Passing

variable {settings : Settings} {tree : Tree}

theorem bindComponents_of_unmodified (settings : Settings) (tree : Tree) (b : Bindings)
    {components : List Pass.Component} (h : ∀ c ∈ components, c.modified = false) :
    ∃ reports, (bindComponents tree settings b components).result = .ok (b, reports) := by
  induction components with
  | nil => exact ⟨[], rfl⟩
  | cons c rest ih =>
    obtain ⟨hc, hrest⟩ := List.forall_mem_cons.1 h
    obtain ⟨reports, hreports⟩ := ih hrest
    refine ⟨⟨c, .none⟩ :: reports, ?_⟩
    rw [bindComponents, hc]
    exact Logged.result_bind_eq_ok.2 ⟨(b, .none), rfl,
      Logged.result_bind_eq_ok.2 ⟨(b, reports), hreports, rfl⟩⟩

theorem transform_of_isSettled {code : Text} (htree : tree.Parsed)
    (hcode : Utf8.encode? code = some tree.source)
    (h : Pass.IsSettled (settings.env tree) tree.root) :
    ∃ out, (transform settings tree).result = .ok out ∧ out.modified = false ∧ out.code = code := by
  have hback : Pass.GivesBack (Pass.walk (settings.env tree) tree.root) tree.root :=
    Pass.walkNode_of_rests (f := Focus.ofRoot tree.root) htree.root rfl (fun h => by cases h) h
  obtain ⟨made, hwalk, hpart, hchanged⟩ := hback
  obtain ⟨ws, hvisit⟩ := Pass.visit_of_walk htree.root hwalk
  have hws : ws = [] := by
    rw [hvisit.changed] at hchanged
    simpa using hchanged
  obtain ⟨reports, hreports⟩ := bindComponents_of_unmodified settings tree ⟨made.part, []⟩
    (hvisit.isSame hws).components
  -- A clean root is not printed node by node: the source is decoded as a whole.
  have hprint : Tree.print { tree with root := made.part } = .ok code := by
    rw [hpart, Tree.print, Tree.isModified, dirty_of_isLaid htree.root.laid]
    exact Utf8.decodeFault_eq_ok.2 hcode
  refine ⟨⟨code, made.changed, reports, reports.any fun r => r.outcome == .injected .client,
    reports.any fun r => r.outcome == .injected .server, []⟩, ?_, hchanged, rfl⟩
  unfold transform
  refine Logged.result_bind_eq_ok.2 ⟨made, hwalk, Logged.result_bind_eq_ok.2 ⟨_, hreports, ?_⟩⟩
  refine Logged.result_ite_bind_eq_ok.2 ⟨(made.part, []), ?_, ?_⟩
  · rw [hchanged]
    rfl
  · exact Logged.result_bind_eq_ok.2 ⟨code, hprint, rfl⟩

theorem isSettled_of_transform {out : Transformed} (htree : tree.Parsed)
    (h : (transform settings tree).result = .ok out) (hout : out.modified = false) :
    Pass.IsSettled (settings.env tree) tree.root := by
  obtain ⟨made, b, root, hpass⟩ := passes_of_transform h
  obtain ⟨ws, hvisit⟩ := Pass.visit_of_walk htree.root hpass.walk
  have hws : ws = [] := by
    rw [hpass.modified, hvisit.changed] at hout
    simpa using hout
  exact hvisit.rests rfl hws rfl fun h => by cases h

end Passing

section Twice

variable {parser : Parser} {settings : Settings} {code : Text} {path : Option Text}

theorem parse_eq_ok {tree : Tree} : parse parser settings.backend code path = .ok tree ↔
    ∃ answer, parser (settings.backend.grammar path) code = some answer ∧
      answer.flags.hasError = false ∧ Utf8.encode? code = some tree.source ∧
      tree = answer.toTree code := by
  unfold parse
  constructor
  · intro h
    obtain ⟨source, hsource, h⟩ := except_bind_eq_ok.1 h
    rw [Utf8.encode_eq_ok] at hsource
    split at h
    next => cases h
    next answer hanswer =>
      split at h
      next => cases h
      next hclean =>
        cases h
        exact ⟨answer, hanswer, by simpa using hclean, hsource, by rw [Answer.toTree, hsource]; rfl⟩
  · rintro ⟨answer, hanswer, hclean, hsource, htree⟩
    refine except_bind_eq_ok.2 ⟨tree.source, Utf8.encode_eq_ok.2 hsource, ?_⟩
    rw [hanswer]
    dsimp only
    rw [hclean, htree]
    rfl

theorem transformCode_eq_ok {out : Transformed} :
    (transformCode parser settings code path).result = .ok out ↔
      ∃ tree, parse parser settings.backend code path = .ok tree ∧
        (transform settings tree).result = .ok out := by
  constructor
  · intro h
    obtain ⟨tree, hparse, h⟩ := Logged.result_bind_eq_ok.1 h
    obtain ⟨tree', htree, hparse⟩ := Logged.result_bind_eq_ok.1 hparse
    obtain ⟨-, -, hparse⟩ := Logged.result_bind_eq_ok.1 hparse
    cases hparse
    exact ⟨tree, htree, h⟩
  · rintro ⟨tree, htree, h⟩
    exact Logged.result_bind_eq_ok.2 ⟨tree, Logged.result_bind_eq_ok.2
      ⟨tree, htree, Logged.result_bind_eq_ok.2 ⟨(), rfl, rfl⟩⟩, h⟩

theorem encode?_of_transformCode {out : Transformed}
    (h : (transformCode parser settings code path).result = .ok out) :
    ∃ bytes, Utf8.encode? out.code = some bytes := by
  obtain ⟨tree, -, h⟩ := transformCode_eq_ok.1 h
  obtain ⟨made, b, root, hpass⟩ := passes_of_transform h
  exact Tree.encode?_of_print hpass.print

/-- The text of a pass is left as it is by the next one exactly when it is parsed, without errors, to a
settled tree. -/
theorem transformCode_isSettled_iff {first : Transformed} (hparser : parser.IsSound)
    (hfirst : (transformCode parser settings code path).result = .ok first) :
    (∃ second, (transformCode parser settings first.code path).result = .ok second ∧
      second.modified = false ∧ second.code = first.code) ↔
    ∃ answer, parser (settings.backend.grammar path) first.code = some answer ∧
      answer.flags.hasError = false ∧
      Pass.IsSettled (settings.env (answer.toTree first.code)) (answer.toTree first.code).root := by
  obtain ⟨bytes, hbytes⟩ := encode?_of_transformCode hfirst
  constructor
  · rintro ⟨second, hsecond, hmodified, -⟩
    obtain ⟨tree, hparse, htransform⟩ := transformCode_eq_ok.1 hsecond
    obtain ⟨answer, hanswer, hclean, -, rfl⟩ := parse_eq_ok.1 hparse
    exact ⟨answer, hanswer, hclean,
      isSettled_of_transform (hparser _ _ _ hanswer hclean) htransform hmodified⟩
  · rintro ⟨answer, hanswer, hclean, hsettled⟩
    have hsource : Utf8.encode? first.code = some (answer.toTree first.code).source := by
      rw [Answer.toTree, hbytes]
      rfl
    obtain ⟨second, hsecond, hmodified, hcode⟩ := transform_of_isSettled
      (hparser _ _ _ hanswer hclean) hsource hsettled
    exact ⟨second, transformCode_eq_ok.2 ⟨_, parse_eq_ok.2 ⟨answer, hanswer, hclean, hsource, rfl⟩,
      hsecond⟩, hmodified, hcode⟩

end Twice

namespace Sample

/-- A node of an answer on which nothing is amiss. -/
def answer (kind : String) (named : Bool) (a b : Nat) (field : Option String)
    (children : List Answer) : Answer := .node kind ⟨named, false, false, false⟩ a b field children

def leaf (kind : String) (a b : Nat) : Answer := answer kind false a b none []

def component (expression : Answer) (stop : Nat) : Answer :=
  answer "program" true 0 (stop + 3) none [answer "function_declaration" true 0 (stop + 3) none [
    leaf "function" 0 8, answer "identifier" true 9 10 (some "name") [],
    answer "formal_parameters" true 10 13 (some "parameters") [leaf "(" 10 11,
      answer "required_parameter" true 11 12 none [
        answer "identifier" true 11 12 (some "pattern") []], leaf ")" 12 13],
    answer "statement_block" true 13 (stop + 3) (some "body") [leaf "\x7b" 13 14,
      answer "return_statement" true 15 (stop + 1) none [leaf "return" 15 21, expression,
        leaf ";" stop (stop + 1)],
      leaf "\x7d" (stop + 2) (stop + 3)]]]

def quoted (a b : Nat) : Answer :=
  answer "string" true a b none [leaf "\"" a (a + 1),
    answer "string_fragment" true (a + 1) (b - 1) none [], leaf "\"" (b - 1) b]

def templateOf (expression : Answer) (a stop : Nat) (field : Option String) : Answer :=
  answer "template_string" true a (stop + 2) field [leaf "`" a (a + 1),
    answer "string_fragment" true (a + 1) (a + 5) none [],
    answer "template_substitution" true (a + 5) (stop + 1) none [leaf "$\x7b" (a + 5) (a + 7),
      expression, leaf "\x7d" stop (stop + 1)],
    leaf "`" (stop + 1) (stop + 2)]

def lookup (a b : Nat) (arguments : List Answer) : Answer :=
  answer "call_expression" true a b none [answer "identifier" true a (a + 1) (some "function") [],
    answer "arguments" true (a + 1) b (some "arguments")
      (leaf "(" (a + 1) (a + 2) :: arguments ++ [leaf ")" (b - 1) b])]

def plainCode : Text := "function A(t)\x7b return \"가\"; \x7d"

def wrappedCode : Text := "function A(t)\x7b return t(\"가\"); \x7d"

/-- A template whose only expression is a template. -/
def nestedCode : Text := "function A(t)\x7b return `가 $\x7b`나 $\x7bb\x7d`\x7d`; \x7d"

def keptCode : Text :=
  "function A(t)\x7b return t(\"가 \x7b\x7bexpr0\x7d\x7d\", \x7b expr0: `나 $\x7bb\x7d` \x7d); \x7d"

def changedCode : Text :=
  "function A(t)\x7b return t(\"가 \x7b\x7bexpr0\x7d\x7d\", " ++
    "\x7b expr0: t(\"나 \x7b\x7bb\x7d\x7d\", \x7b b: b \x7d) \x7d); \x7d"

def plainAnswer : Answer := component (quoted 22 27) 27

def wrappedAnswer : Answer := component (lookup 22 30 [quoted 24 29]) 30

def nestedAnswer : Answer := component
  (templateOf (templateOf (answer "identifier" true 36 37 none []) 29 37 none) 22 39 none) 41

def keptAnswer : Answer := component (lookup 22 63 [quoted 24 39, leaf "," 39 40,
  answer "object" true 41 62 none [leaf "\x7b" 41 42,
    answer "pair" true 43 60 none [answer "property_identifier" true 43 48 (some "key") [],
      leaf ":" 48 49,
      templateOf (answer "identifier" true 57 58 none []) 50 58 (some "value")],
    leaf "\x7d" 61 62]]) 63

def answers : List (Text × Answer) :=
  [(plainCode, plainAnswer), (wrappedCode, wrappedAnswer), (nestedCode, nestedAnswer),
    (keptCode, keptAnswer)]

def parser : Parser := fun _ code => (answers.find? fun p => p.1 == code).map (·.2)

theorem codes_nodup : (answers.map (·.1)).Nodup := by decide +kernel

theorem parser_of_mem (grammar : Grammar) {code : Text} {answer : Answer}
    (h : (code, answer) ∈ answers) : parser grammar code = some answer := by
  have hfound : (answers.find? fun p => p.1 == code).isSome = true :=
    List.find?_isSome.2 ⟨_, h, beq_self_eq_true code⟩
  obtain ⟨p, hp⟩ := Option.isSome_iff_exists.1 hfound
  have hcode : p.1 = code := by simpa using List.find?_some hp
  have hsame : p = (code, answer) :=
    List.inj_on_of_nodup_map codes_nodup (List.mem_of_find?_eq_some hp) h hcode
  rw [parser, hp, hsame, Option.map_some]

theorem parser_isSound : parser.IsSound := by
  have hanswers : ∀ p ∈ answers, (p.2.toTree p.1).Parsed := by decide +kernel
  intro grammar code answer h _
  obtain ⟨p, hp, rfl⟩ := Option.map_eq_some_iff.1 h
  have hcode : p.1 = code := by simpa using List.find?_some hp
  exact hcode ▸ hanswers p (List.mem_of_find?_eq_some hp)

def settings : Settings := { sourcePattern := .null }

def pass (code : Text) : Option (Text × Bool) :=
  (transformCode parser settings code none).result.toOption.map fun out => (out.code, out.modified)

theorem exists_of_pass {code text : Text} {modified : Bool} (h : pass code = some (text, modified)) :
    ∃ out, (transformCode parser settings code none).result = .ok out ∧ out.code = text ∧
      out.modified = modified := by
  obtain ⟨out, hout, ⟨⟩⟩ := Option.map_eq_some_iff.1 h
  cases hresult : (transformCode parser settings code none).result with
  | error e =>
    rw [hresult] at hout
    cases hout
  | ok out' =>
    rw [hresult] at hout
    cases hout
    exact ⟨out, rfl, rfl, rfl⟩

theorem pass_nested : pass nestedCode = some (keptCode, true) := by decide +kernel

theorem pass_kept : pass keptCode = some (changedCode, true) := by decide +kernel

end Sample

/-- A second pass wraps the template that the first one kept. -/
theorem transformCode_not_fixed_nested :
    ∃ first second,
      (transformCode Sample.parser Sample.settings Sample.nestedCode none).result = .ok first ∧
      (transformCode Sample.parser Sample.settings first.code none).result = .ok second ∧
      second.modified = true ∧ second.code ≠ first.code := by
  obtain ⟨first, hfirst, hcode, -⟩ := Sample.exists_of_pass Sample.pass_nested
  obtain ⟨second, hsecond, hcode', hmodified⟩ := Sample.exists_of_pass Sample.pass_kept
  refine ⟨first, second, hfirst, hcode ▸ hsecond, hmodified, ?_⟩
  rw [hcode, hcode']
  decide +kernel

end Phrasebook
