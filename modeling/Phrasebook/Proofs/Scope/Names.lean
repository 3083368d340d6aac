import Phrasebook.Proofs.Tree.Paths
import Phrasebook.Scope.Bindings

/-! The names that scopes bind, when a function somewhere below them is edited. A function that gets
text put in still declares its own name and shows no other, so every scope around it binds what it
bound before. -/

namespace Phrasebook

open Node

namespace Node

variable {before after : List Node} {c c' : Node}

theorem find?_replaced {p : Node → Bool} (before after : List Node) (h : p c' = p c) :
    (before ++ c' :: after).find? p = (before ++ c :: after).find? p ∨
      (before ++ c :: after).find? p = some c ∧ (before ++ c' :: after).find? p = some c' := by
  rw [List.find?_append, List.find?_append]
  cases before.find? p with
  | some m => exact .inl rfl
  | none =>
    rw [List.find?_cons, List.find?_cons, h]
    cases p c with
    | true => exact .inr ⟨rfl, rfl⟩
    | false => exact .inl rfl

theorem field_of_childByField? {n d : Node} {name : String} (h : n.childByField? name = some d) :
    d.field = some name := by
  simpa using List.find?_some h

theorem namedChildren_split (i : Info) (before after : List Node) (c : Node) :
    (branch i (before ++ c :: after)).namedChildren = (branch i before).namedChildren ++
      ((if c.isChild && c.named then [c] else []) ++ (branch i after).namedChildren) := by
  simp only [namedChildren, children, items, List.filter_append, List.filter_cons]
  cases hc : c.isChild <;> cases hn : c.named <;> simp [hn]

theorem flatMap_namedChildren {α : Type} {i j : Info} {g : Node → List α}
    (hchild : c'.isChild = c.isChild) (hnamed : c'.named = c.named) (hg : g c' = g c) :
    (branch j (before ++ c' :: after)).namedChildren.flatMap g =
      (branch i (before ++ c :: after)).namedChildren.flatMap g := by
  simp only [namedChildren_split, List.flatMap_append, hchild, hnamed]
  congr 2
  split <;> simp [hg]

end Node

namespace Scope

variable {source : Bytes}

theorem patternNamesIn_append (skipped : List String) (xs ys : List Node) :
    patternNamesIn source skipped (xs ++ ys) =
      patternNamesIn source skipped xs ++ patternNamesIn source skipped ys := by
  induction xs with
  | nil => rfl
  | cons n xs ih =>
    rw [List.cons_append, patternNamesIn, patternNamesIn, ih]
    split <;> split <;> simp

theorem patternNamesIn_inserted {skipped : List String} {before after : List Node} {new : Node}
    (h : patternNames source new = []) :
    patternNamesIn source skipped (before ++ new :: after) =
      patternNamesIn source skipped (before ++ after) := by
  rw [patternNamesIn_append, patternNamesIn_append, patternNamesIn, h]
  split <;> simp

theorem patternNamesIn_replaced {skipped : List String} {before after : List Node} {c c' : Node}
    (hfield : c'.field = c.field) (hchild : c'.isChild = c.isChild)
    (h : patternNames source c' = patternNames source c) :
    patternNamesIn source skipped (before ++ c' :: after) =
      patternNamesIn source skipped (before ++ c :: after) := by
  rw [patternNamesIn_append, patternNamesIn_append, patternNamesIn, patternNamesIn, hfield, hchild, h]

theorem exportedNames_eq (items : List Node) :
    exportedNames source items =
      ((items.find? (isIn "declaration")).map (declaredNames source)).getD [] := by
  induction items with
  | nil => rfl
  | cons n rest ih =>
    rw [exportedNames, List.find?_cons, ih, isIn]
    cases n.isChild && n.field == some "declaration" <;> rfl

/-- A node that shows names only through its children and is no import; a name that it declares is
one token. -/
structure IsOpen (n : Node) : Prop where
  token : tokenKinds.contains n.kind = false
  statement : n.kind ≠ "import_statement"
  name : namedKinds.contains n.kind = true →
    ∀ d, n.childByField? "name" = some d → tokenKinds.contains d.kind = true

/-- A node in which one function was edited so that it shows the names it showed. -/
inductive Agrees (source : Bytes) : Node → Node → Prop
  | function {i : Info} {items items' : List Node} (hfn : functionKinds.contains i.kind = true)
      (hfield : i.field ≠ some "parameters")
      (hpatterns : patternNamesIn source [] items' = patternNamesIn source [] items)
      (hname : items'.find? (isIn "name") = items.find? (isIn "name")) :
      Agrees source (.branch i items) (.branch { i with dirty := true } items')
  | inside {i : Info} {before after : List Node} {c c' : Node}
      (hopen : IsOpen (.branch i (before ++ c :: after))) (h : Agrees source c c') :
      Agrees source (.branch i (before ++ c :: after))
        (.branch { i with dirty := true } (before ++ c' :: after))

theorem kind_of_function {p : String → Bool} {kind : String}
    (hp : functionKinds.all p = true) (h : functionKinds.contains kind = true) : p kind = true :=
  List.all_eq_true.1 hp kind (List.contains_iff_mem.1 h)

namespace Agrees

variable {n n' : Node}

theorem info (h : Agrees source n n') : n'.info = { n.info with dirty := true } := by
  cases h <;> rfl

theorem kind (h : Agrees source n n') : n'.kind = n.kind := by rw [Node.kind, h.info]; rfl

theorem named (h : Agrees source n n') : n'.named = n.named := by rw [Node.named, h.info]; rfl

theorem field (h : Agrees source n n') : n'.field = n.field := by rw [Node.field, h.info]; rfl

theorem isChild (h : Agrees source n n') : n'.isChild = n.isChild := by cases h <;> rfl

theorem isIn (h : Agrees source n n') (name : String) : Node.isIn name n' = Node.isIn name n := by
  rw [Node.isIn, Node.isIn, h.isChild, h.field]

theorem token (h : Agrees source n n') : tokenKinds.contains n.kind = false := by
  cases h with
  | function hfn =>
    exact Bool.not_eq_true' _ ▸
      kind_of_function (p := fun k => !tokenKinds.contains k) (by decide) hfn
  | inside hopen _ => exact hopen.token

theorem patternNames (h : Agrees source n n') :
    Scope.patternNames source n' = Scope.patternNames source n := by
  -- A function is of none of the kinds that show a name of their own: what counts is its items.
  induction h with
  | function hfn _ hpatterns _ =>
    have hkind := kind_of_function (p := fun k => !(k == "identifier" ||
      k == "shorthand_property_identifier_pattern") && !(k == "type_annotation" || k == "comment") &&
      (unboundFields k).isEmpty) (by decide) hfn
    simp only [Bool.and_eq_true, Bool.not_eq_true', List.isEmpty_iff] at hkind
    simp only [Scope.patternNames, hkind, Bool.false_eq_true, if_false, hpatterns]
  | @inside i before after c c' hopen h ih =>
    have hkind : (i.kind == "identifier" ||
        i.kind == "shorthand_property_identifier_pattern") = false := by
      have := hopen.token
      simp only [tokenKinds, Node.kind, Node.info, List.contains_cons, Bool.or_eq_false_iff] at this
      simp [this]
    simp only [Scope.patternNames, hkind, Bool.false_eq_true, if_false]
    rw [patternNamesIn_replaced h.field h.isChild ih]

theorem flatMap_patternNames (h : Agrees source n n') (hn : n.field = some "parameters") :
    n'.namedChildren.flatMap (Scope.patternNames source) =
      n.namedChildren.flatMap (Scope.patternNames source) := by
  cases h with
  | function _ hfield _ _ => exact (hfield hn).elim
  | inside _ h => exact flatMap_namedChildren h.isChild h.named h.patternNames

theorem childByField? {i j : Info} {before after : List Node} (h : Agrees source n n') (name : String) :
    (branch j (before ++ n' :: after)).childByField? name =
        (branch i (before ++ n :: after)).childByField? name ∨
      (branch i (before ++ n :: after)).childByField? name = some n ∧
        (branch j (before ++ n' :: after)).childByField? name = some n' := by
  rw [childByField?_eq, childByField?_eq]
  exact find?_replaced before after (h.isIn name)

theorem declarator (h : Agrees source n n') :
    (if n'.kind == "variable_declarator" then
        ((n'.childByField? "name").map (Scope.patternNames source)).getD [] else []) =
      if n.kind == "variable_declarator" then
        ((n.childByField? "name").map (Scope.patternNames source)).getD [] else [] := by
  rw [h.kind]
  cases h with
  | function hfn _ _ hname => rw [childByField?_eq, childByField?_eq, Node.items, Node.items, hname]
  | @inside i before after c c' hopen h =>
    rcases h.childByField? (i := i) (j := { i with dirty := true }) "name" with hsame | ⟨hc, hc'⟩
    · rw [hsame]
    · rw [hc, hc', Option.map_some, Option.map_some, h.patternNames]

theorem declaredNames (h : Agrees source n n') :
    Scope.declaredNames source n' = Scope.declaredNames source n := by
  induction h with
  | @function i items items' hfn _ _ hname =>
    have hkind := kind_of_function (p := fun k => !(k == "lexical_declaration" ||
      k == "variable_declaration") && !(k == "export_statement") && !(k == "import_statement"))
      (by decide) hfn
    simp only [Bool.and_eq_true, Bool.not_eq_true'] at hkind
    simp only [Scope.declaredNames, hkind, Bool.false_eq_true, if_false, childByField?_eq, Node.items,
      hname]
  | @inside i before after c c' hopen h ih =>
    have himport : (i.kind == "import_statement") = false := beq_false_of_ne hopen.statement
    have hname : namedKinds.contains i.kind = true →
        (branch { i with dirty := true } (before ++ c' :: after)).childByField? "name" =
          (branch i (before ++ c :: after)).childByField? "name" := by
      intro hkind
      rcases h.childByField? (i := i) (j := { i with dirty := true }) "name" with hsame | ⟨hc, -⟩
      · exact hsame
      -- The name is a token, and neither a function nor what is around one is.
      · have htoken := hopen.name hkind c hc
        rw [h.token] at htoken
        cases htoken
    simp only [Scope.declaredNames, declaratorNames, himport, Bool.false_eq_true, if_false]
    split
    · exact flatMap_namedChildren h.isChild h.named h.declarator
    split
    next hkind => rw [hname hkind]
    split
    · rw [exportedNames_eq, exportedNames_eq]
      rcases find?_replaced before after (h.isIn "declaration") with hsame | ⟨hc, hc'⟩
      · rw [hsame]
      · rw [hc, hc', Option.map_some, Option.map_some, ih]
    · rfl

theorem blockBinds (h : Agrees source n n') (hn : functionKinds.contains n.kind = false)
    (name : Word) : Scope.blockBinds source name n' = Scope.blockBinds source name n := by
  cases h with
  | function hfn =>
    rw [Node.kind, Node.info, hfn] at hn
    cases hn
  | inside _ h =>
    have hany : ∀ m : Node, Scope.blockBinds source name m =
        (m.namedChildren.flatMap (Scope.declaredNames source)).any name.names := by
      intro m
      rw [Scope.blockBinds, List.any_flatMap]
    rw [hany, hany, flatMap_namedChildren h.isChild h.named h.declaredNames]

end Agrees

theorem scopeBinds_of_agrees {i : Info} {before after : List Node} {c c' : Node}
    (h : Agrees source c c') (hopen : IsOpen (.branch i (before ++ c :: after))) (name : Word) :
    scopeBinds source name (.branch { i with dirty := true } (before ++ c' :: after)) =
      scopeBinds source name (.branch i (before ++ c :: after)) := by
  have hagrees := Agrees.inside hopen h
  have hfn : isFunction (.branch { i with dirty := true } (before ++ c' :: after)) =
      isFunction (.branch i (before ++ c :: after)) := rfl
  -- The edited child may be what the parameters are read from, or the body, or neither.
  have hparameters : parameterNames source (.branch { i with dirty := true } (before ++ c' :: after)) =
      parameterNames source (.branch i (before ++ c :: after)) := by
    unfold parameterNames
    rcases h.childByField? (i := i) (j := { i with dirty := true }) "parameter" with
      hsame | ⟨hc, hc'⟩
    · rw [hsame]
      split
      · rfl
      rcases h.childByField? (i := i) (j := { i with dirty := true }) "parameters" with
        hsame | ⟨hc, hc'⟩
      · rw [hsame]
      · rw [hc, hc']
        exact h.flatMap_patternNames (field_of_childByField? hc)
    · rw [hc, hc']
      exact h.patternNames
  unfold scopeBinds
  rw [hfn, hparameters]
  split
  · congr 1
    rcases h.childByField? (i := i) (j := { i with dirty := true }) "body" with hsame | ⟨hc, hc'⟩
    · rw [hsame]
    · rw [hc, hc']
      dsimp only
      rw [h.kind]
      cases hblock : c.kind == "statement_block" with
      | false => rfl
      | true => exact h.blockBinds (by rw [eq_of_beq hblock]; decide) name
  · rw [hagrees.kind]
    cases hkind : (branch i (before ++ c :: after)).kind == "statement_block" ||
        (branch i (before ++ c :: after)).kind == "program" with
    | false => rfl
    | true =>
      refine hagrees.blockBinds ?_ name
      simp only [Bool.or_eq_true, beq_iff_eq] at hkind
      rcases hkind with hkind | hkind
      · rw [hkind]
        decide
      · rw [hkind]
        decide

end Scope
end Phrasebook
