import Phrasebook.Proofs.Wrap.Around
import Phrasebook.Proofs.Wrap.Fixpoint

/-! What the tests of a literal ask about the nodes above it, in one record. The record of a child
follows from that of its parent and from a few traits of the parent, so two trees that agree in these
traits node by node are judged alike. -/

namespace Phrasebook

open Node

structure Situation where
  inside : Bool
  imported : Bool
  typed : Bool
  argument : Bool
  /-- Whether the parent is a call of the lookup function. -/
  called : Bool
  computed : Bool
  inTag : Bool
  tagged : Bool
  /-- The name that the parent declares. -/
  declared : Option Text
deriving DecidableEq

/-- What of a node its children's situation depends on. -/
structure Traits where
  kind : String
  named : Bool
  calls : Bool
  name : Option Text
  declares : Option Text
deriving DecidableEq

namespace Node

def identifier? (source : Bytes) (n : Node) : Option Text :=
  if n.kind == "identifier" then some (n.textD source) else none

def traits (source : Bytes) (function : Word) (n : Node) : Traits where
  kind := n.kind
  named := n.named
  calls := Literal.isCallOf source function n
  name := if Scope.declaredKinds.contains n.kind then (n.childByField? "name").map (·.textD source)
    else none
  declares := if n.kind == "variable_declarator" then
      (n.childByField? "name").bind (identifier? source)
    else none

end Node

namespace Situation

def component? (s : Situation) (t : Traits) (field : Option String) : Option Text :=
  (if Scope.declaredKinds.contains t.kind then t.name
    else if Scope.bindableKinds.contains t.kind && field == some "value" then s.declared
    else none).filter Scope.isComponentName

/-- The situation of a child. -/
def below (s : Situation) (t : Traits) (field : Option String) : Situation where
  inside := t.named && Scope.functionKinds.contains t.kind && (s.component? t field).isSome || s.inside
  imported := t.kind == "import_statement" || t.kind == "import_require_clause" || s.imported
  typed := Literal.typeKinds.contains t.kind || s.typed
  argument := t.kind == "arguments" && s.called
  called := t.calls
  computed := t.kind == "computed_property_name"
  inTag := t.kind == "jsx_attribute"
  tagged := t.kind == "call_expression"
  declared := t.declares

def plain (s : Situation) : Situation where
  inside := s.inside
  imported := s.imported
  typed := s.typed
  argument := false
  called := false
  computed := false
  inTag := false
  tagged := false
  declared := none

def excludes (s : Situation) (n : Node) : Bool :=
  s.argument || s.imported || (n.field.any Literal.nameFields.contains || s.computed) ||
  (n.kind == "template_string" && s.tagged) || s.typed

end Situation

def Focus.situation (source : Bytes) (function : Word) (f : Focus) : Situation where
  inside := Scope.inComponent source f
  imported := Literal.inImport f
  typed := Literal.inType f
  argument := Literal.isCallArgument source function f
  called := f.up?.any fun p => Literal.isCallOf source function p.node
  computed := f.parentKind? == some "computed_property_name"
  inTag := Literal.inAttribute f
  tagged := f.parentKind? == some "call_expression"
  declared := f.up?.bind fun p => (p.node.traits source function).declares

section Judging

variable {source : Bytes} {function : Word} {f c : Focus}

theorem Focus.up?_of_mem_children (hc : c ∈ f.children) : c.up? = some f := by
  have h := Focus.above_of_mem_children hc
  obtain ⟨n, frames⟩ := c
  cases frames with
  | nil => cases h
  | cons frame frames => exact congrArg some (List.cons.inj h).1

theorem declares_traits (function : Word) (n : Node) : (n.traits source function).declares =
    if n.kind == "variable_declarator" then
      match n.childByField? "name" with
      | some name => if name.kind == "identifier" then some (name.textD source) else none
      | none => none
    else none := by
  rw [Node.traits]
  cases n.childByField? "name" <;> rfl

theorem Focus.componentName?_eq (function : Word) (f : Focus) : Scope.componentName? source f =
    (f.situation source function).component? (f.node.traits source function) f.node.field := by
  rw [Scope.componentName?, Situation.component?]
  congr 1
  rw [Scope.functionName?, show (f.node.traits source function).kind = f.node.kind from rfl]
  by_cases hdeclared : Scope.declaredKinds.contains f.node.kind = true
  · rw [if_pos hdeclared, if_pos hdeclared]
    exact (if_pos hdeclared).symm
  rw [if_neg hdeclared, if_neg hdeclared]
  by_cases hbound : (Scope.bindableKinds.contains f.node.kind && f.node.field == some "value") = true
  · rw [if_pos hbound, if_pos hbound, Focus.situation]
    cases f.up? with
    | none => rfl
    | some parent => exact (declares_traits function parent.node).symm
  · rw [if_neg hbound, if_neg hbound]

theorem Focus.situation_child (hc : c ∈ f.children) : c.situation source function =
    (f.situation source function).below (f.node.traits source function) f.node.field := by
  obtain ⟨past, after, hframes⟩ := Focus.frames_of_mem_children hc
  have hkinds : c.ancestorKinds = f.node.kind :: f.ancestorKinds := by
    rw [Focus.ancestorKinds, hframes]
    rfl
  have hparent : c.parentKind? = some f.node.kind := by
    rw [Focus.parentKind?, hframes]
    rfl
  have hup := Focus.up?_of_mem_children hc
  simp only [Focus.situation, Situation.below, Situation.mk.injEq]
  refine ⟨?_, ?_, ?_, ?_, ?_, ?_, ?_, ?_, ?_⟩
  · rw [Pass.inComponent_child hc, Focus.componentName?_eq function]
    rfl
  · rw [Literal.inImport, hkinds, List.any_cons]
    rfl
  · rw [Literal.inType, hkinds, List.any_cons]
    rfl
  · rw [Literal.isCallArgument, hparent, hup, Option.bind_some]
    cases f.up? <;> rfl
  · rw [hup]
    rfl
  · rw [hparent]
    rfl
  · rw [Literal.inAttribute, hparent]
    rfl
  · rw [hparent]
    rfl
  · rw [hup]
    rfl

theorem bars_eq (env : Pass.Env) (f : Focus) :
    env.bars f = (f.situation env.source env.function).excludes f.node := by
  have hname : Literal.isName f = (f.node.field.any Literal.nameFields.contains ||
      f.parentKind? == some "computed_property_name") := by
    rw [Literal.isName]
    cases f.node.field <;> rfl
  rw [Pass.Env.bars, hname]
  rfl

/-- Kinds of nodes that a test looks for right above a place. -/
def guardKinds : List String :=
  ["arguments", "computed_property_name", "jsx_attribute", "call_expression", "variable_declarator"]

/-- Kinds of nodes that no test looks for above a place. -/
def plainKinds : List String :=
  ["object", "pair", "statement_block", "return_statement", "template_string", "template_substitution"]

/-- Kinds of nodes that no test looks for further above. -/
def freeKinds : List String := plainKinds ++ ["arguments", "call_expression", "jsx_expression"]

theorem of_contains {kinds : List String} {p : String → Bool} {kind : String}
    (h : kinds.contains kind = true) (hall : kinds.all p = true) : p kind = true :=
  List.all_eq_true.1 hall kind (List.contains_iff_mem.1 h)

theorem Literal.isCallOf_of_kind {n : Node} (h : n.kind ≠ "call_expression") :
    isCallOf source function n = false := by
  rw [isCallOf, beq_false_of_ne h, Bool.false_and]

namespace Situation

theorem plain_below {n : Node} (s : Situation) (h : guardKinds.contains n.kind = false) :
    (s.below (n.traits source function) n.field).plain =
      s.below (n.traits source function) n.field := by
  simp only [guardKinds, List.contains_cons, List.contains_nil, Bool.or_false, Bool.or_eq_false_iff,
    beq_eq_false_iff_ne] at h
  obtain ⟨harguments, hcomputed, htag, hcall, hdeclarator⟩ := h
  simp [below, plain, Node.traits, Literal.isCallOf_of_kind hcall, harguments, hcomputed, htag, hcall,
    hdeclarator]

theorem plain_below_of_free {n : Node} (s : Situation) (h : freeKinds.contains n.kind = true) :
    (s.below (n.traits source function) n.field).plain = s.plain := by
  have hfree := of_contains (p := fun k => !Scope.functionKinds.contains k &&
    !Literal.typeKinds.contains k && !(k == "import_statement") && !(k == "import_require_clause")) h
    (by decide)
  simp only [Bool.and_eq_true, Bool.not_eq_true'] at hfree
  obtain ⟨⟨⟨hfunction, htype⟩, himport⟩, hrequire⟩ := hfree
  simp only [below, plain, Node.traits, hfunction, htype, himport, hrequire, Bool.and_false,
    Bool.false_and, Bool.false_or]

theorem below_of_plainKinds {n : Node} (s : Situation) (h : plainKinds.contains n.kind = true) :
    s.below (n.traits source function) n.field = s.plain := by
  have hguard := of_contains (p := fun k => !guardKinds.contains k) h (by decide)
  have hfree := of_contains (p := freeKinds.contains) h (by decide)
  rw [← plain_below s (by simpa using hguard)]
  exact plain_below_of_free s hfree

/-- Whether two fields of a node make no difference to where it stands. -/
def Suits (s : Situation) (field field' : Option String) : Prop :=
  field' = field ∨ s.declared = none ∧ field.any Literal.nameFields.contains = false ∧
    field'.any Literal.nameFields.contains = false

variable {s : Situation} {field field' : Option String}

theorem below_of_suits (h : s.Suits field field') (t : Traits) : s.below t field' = s.below t field := by
  rcases h with rfl | ⟨hdeclared, -, -⟩
  · rfl
  · have hcomponent : s.component? t field' = s.component? t field := by
      simp only [component?, hdeclared]
      split <;> simp
    rw [below, below, hcomponent]

theorem excludes_of_suits {n m : Node} (h : s.Suits n.field m.field)
    (hkind : (m.kind == "template_string") = (n.kind == "template_string")) :
    s.excludes m = s.excludes n := by
  have hname : m.field.any Literal.nameFields.contains = n.field.any Literal.nameFields.contains := by
    rcases h with h | ⟨-, hn, hm⟩
    · rw [h]
    · rw [hn, hm]
  rw [excludes, excludes, hkind, hname]

end Situation

theorem situation_kept {u p : Focus} (hkind : u.node.kind = "template_string")
    (hp : p ∈ (Pass.keptFoci source u).map (·.2)) :
    p.situation source function = (u.situation source function).plain := by
  obtain ⟨s, hs, hsubst, hp | rfl⟩ := Pass.keptFoci_cases hp
  · rw [Focus.situation_child hp, Situation.below_of_plainKinds _ (by rw [hsubst]; decide),
      Focus.situation_child hs, Situation.below_of_plainKinds _ (by rw [hkind]; decide)]
    rfl
  · rw [Focus.situation_child hs, Situation.below_of_plainKinds _ (by rw [hkind]; decide)]

theorem identifier?_of_stays {n n' : Node} (h : Stays n n') :
    n'.identifier? source = n.identifier? source := by
  by_cases hkind : n'.kind = "identifier"
  · rw [eq_of_stays_identifier h hkind]
  · have hkind' : n.kind ≠ "identifier" := fun hn =>
      hkind (by rw [h.token (by rw [hn]; decide), hn])
    rw [identifier?, identifier?, beq_false_of_ne hkind, beq_false_of_ne hkind']
    rfl

theorem namedKinds_of_declaredKinds {kind : String} (h : Scope.declaredKinds.contains kind = true) :
    namedKinds.contains kind = true := by
  simp only [Scope.declaredKinds, List.contains_cons, List.contains_nil, Bool.or_false,
    Bool.or_eq_true] at h
  simp only [namedKinds, List.contains_cons, Bool.or_eq_true]
  tauto

theorem traits_of_beside {i : Info} {xs ys : List Node} (dirty : Bool) (h : Beside xs ys)
    (hparsed : (Node.branch i xs).Parsed) :
    (Node.branch { i with dirty } ys).traits source function =
      (Node.branch i xs).traits source function := by
  have hcalls : Literal.isCallOf source function (.branch i ys) =
      Literal.isCallOf source function (.branch i xs) :=
    Bool.eq_iff_iff.2 ⟨isCallOf_parsed_of_beside h, isCallOf_of_beside h⟩
  have hrel := h.childByField? (i := i) (j := { i with dirty }) "name"
  simp only [Node.traits, Traits.mk.injEq]
  refine ⟨rfl, rfl, hcalls, ?_, ?_⟩
  · by_cases hdeclared : Scope.declaredKinds.contains i.kind = true
    · have hnamed := namedKinds_of_declaredKinds hdeclared
      rw [eq_of_rel_token hrel fun n hn => hparsed.name_token hnamed hn]
      rfl
    · exact (if_neg hdeclared).trans (if_neg hdeclared).symm
  · have hdeclares : ((Node.branch { i with dirty } ys).childByField? "name").bind (identifier? source) =
        ((Node.branch i xs).childByField? "name").bind (identifier? source) := by
      generalize (Node.branch { i with dirty } ys).childByField? "name" = found' at hrel
      generalize (Node.branch i xs).childByField? "name" = found at hrel
      cases hrel with
      | none => rfl
      | some hstays => exact identifier?_of_stays hstays
    rw [hdeclares]
    rfl

end Judging

end Phrasebook
