import Mathlib.Data.List.Basic
import Phrasebook.Proofs.Tree.Parsed
import Phrasebook.Scope.Bindings

/-! Patterns as scripts have them, and the identifiers in them. A pattern binds its names and those of
the patterns in it; the identifiers of its keys, its default values and its types are only mentioned. The
names that are read off the tree of a pattern are the bound ones, from left to right. -/

namespace Phrasebook

namespace Node

def identifierKinds : List String :=
  tokenKinds ++ ["shorthand_property_identifier", "statement_identifier"]

/-- The identifiers at and below a node, in order. -/
def identifiers (n : Node) : List Node := n.preorder.filter fun m => identifierKinds.contains m.kind

def IsBare (n : Node) : Prop := n.identifiers = []

theorem preorderItems_eq (items : List Node) :
    preorderItems items = (items.filter isChild).flatMap preorder := by
  induction items with
  | nil => rfl
  | cons n rest ih =>
    rw [preorderItems, List.filter_cons]
    split
    · rw [List.flatMap_cons, ih]
    · exact ih

theorem identifiers_branch (i : Info) (items : List Node) : (branch i items).identifiers =
    (if identifierKinds.contains i.kind then [branch i items] else []) ++
      (branch i items).children.flatMap identifiers := by
  have hbelow : (preorderItems items).filter (fun m => identifierKinds.contains m.kind) =
      (branch i items).children.flatMap identifiers := by
    rw [preorderItems_eq, List.filter_flatMap]
    rfl
  rw [identifiers, preorder, List.filter_cons, hbelow]
  show (if identifierKinds.contains i.kind then _ else _) = _
  split <;> rfl

end Node

namespace Scope

/-! ### Patterns -/

/-- Where an identifier stands that a pattern mentions without binding it. -/
inductive Place
  | key
  | value
  | type

inductive Occurrence
  | bound (token : Node)
  | mentioned (place : Place) (token : Node)

def Occurrence.token : Occurrence → Node
  | bound token | mentioned _ token => token

def Occurrence.bound? : Occurrence → Option Node
  | bound token => some token
  | mentioned _ _ => none

/-- A pattern of a declarator or a parameter. Its keys, default values and types can be any nodes. -/
inductive Pattern
  | name (token : Node)
  | receiver
  | object (parts : List Pattern)
  | array (parts : List Pattern)
  | rest (target : Pattern)
  | pair (key : Node) (value : Pattern)
  | withDefault (target : Pattern) (value : Node)
  | parameter (target : Pattern) (type value : Option Node)

def mentions (place : Place) (n : Node) : List Occurrence := n.identifiers.map (.mentioned place)

mutual

/-- The identifiers of a pattern, from left to right. -/
def Pattern.occurrences : Pattern → List Occurrence
  | .name token => [.bound token]
  | .receiver => []
  | .object parts | .array parts => occurrencesIn parts
  | .rest target => target.occurrences
  | .pair key value => mentions .key key ++ value.occurrences
  | .withDefault target value => target.occurrences ++ mentions .value value
  | .parameter target type value => target.occurrences ++
    (type.toList.flatMap (mentions .type) ++ value.toList.flatMap (mentions .value))

def occurrencesIn : List Pattern → List Occurrence
  | [] => []
  | p :: rest => p.occurrences ++ occurrencesIn rest

end

def Pattern.bound (p : Pattern) : List Node := p.occurrences.filterMap Occurrence.bound?

/-! ### Trees of patterns -/

/-- A child that counts: a pattern within the pattern, or a key, a default value or a type. -/
inductive Part
  | inner (field : Option String) (p : Pattern)
  | outer (field : String) (place : Place) (n : Node)

def Part.occurrences : Part → List Occurrence
  | inner _ p => p.occurrences
  | outer _ place n => mentions place n

namespace Pattern

def kinds : Pattern → List String
  | name _ => []
  | receiver => ["this"]
  | object _ => ["object_pattern"]
  | array _ => ["array_pattern"]
  | rest _ => ["rest_pattern"]
  | pair _ _ => ["pair_pattern"]
  | withDefault _ _ => ["assignment_pattern", "object_assignment_pattern"]
  | parameter _ _ _ => ["required_parameter", "optional_parameter"]

def parts : Pattern → List Part
  | name _ | receiver => []
  | object ps | array ps => ps.map (.inner none)
  | rest target => [.inner none target]
  | pair key value => [.outer "key" .key key, .inner "value" value]
  | withDefault target value => [.inner "left" target, .outer "right" .value value]
  | parameter target type value => .inner "pattern" target ::
    (type.toList.map (.outer "type" .type) ++ value.toList.map (.outer "value" .value))

end Pattern

def nameKinds : List String := ["identifier", "shorthand_property_identifier_pattern"]

mutual

/-- A node that is the tree of a pattern. -/
inductive Reads : Node → Pattern → Prop
  | name {n : Node} (hkind : n.kind ∈ nameKinds) (h : ReadsAll n.children []) : Reads n (.name n)
  | compound {n : Node} {p : Pattern} (hkind : n.kind ∈ p.kinds) (h : ReadsAll n.children p.parts) :
      Reads n p

/-- Children with the given parts among them, in order. All others are bare: marks, modifiers and
comments. -/
inductive ReadsAll : List Node → List Part → Prop
  | nil : ReadsAll [] []
  | bare {c : Node} {cs : List Node} {parts : List Part} (hc : c.IsBare) (h : ReadsAll cs parts) :
      ReadsAll (c :: cs) parts
  | inner {c : Node} {cs : List Node} {field : Option String} {p : Pattern} {parts : List Part}
      (hfield : c.field = field) (hc : Reads c p) (h : ReadsAll cs parts) :
      ReadsAll (c :: cs) (.inner field p :: parts)
  | outer {n : Node} {cs : List Node} {field : String} {place : Place} {parts : List Part}
      (hfield : n.field = some field) (h : ReadsAll cs parts) :
      ReadsAll (n :: cs) (.outer field place n :: parts)

end

section Forms

variable {p : Pattern} {kind : String}

theorem occurrencesIn_eq (ps : List Pattern) : occurrencesIn ps = ps.flatMap Pattern.occurrences := by
  induction ps with
  | nil => rfl
  | cons p rest ih => rw [occurrencesIn, List.flatMap_cons, ih]

theorem bound?_mentions (place : Place) (n : Node) :
    (mentions place n).filterMap Occurrence.bound? = [] := by
  rw [mentions, List.filterMap_map]
  exact List.filterMap_none _

theorem Pattern.occurrences_eq (h : kind ∈ p.kinds) :
    p.occurrences = p.parts.flatMap Part.occurrences := by
  have houter {place : Place} {field : String} (n : Option Node) :
      (n.toList.map (Part.outer field place)).flatMap Part.occurrences =
        n.toList.flatMap (mentions place) := List.flatMap_map ..
  cases p with
  | name token => cases h
  | receiver => rfl
  | object ps | array ps =>
    rw [occurrences, occurrencesIn_eq, parts, List.flatMap_map]
    rfl
  | rest target => exact (List.append_nil _).symm
  | pair key value => exact congrArg (mentions .key key ++ ·) (List.append_nil _).symm
  | withDefault target value => exact congrArg (target.occurrences ++ ·) (List.append_nil _).symm
  | parameter target type value =>
    rw [occurrences, parts, List.flatMap_cons, List.flatMap_append, houter, houter]
    rfl

theorem Pattern.kind_of_compound (h : kind ∈ p.kinds) :
    kind ∉ Node.identifierKinds ++ ["type_annotation", "comment"] := by
  have hall : p.kinds.all (fun k => !(Node.identifierKinds ++ ["type_annotation", "comment"]).contains k) =
      true := by
    cases p <;> rfl
  simpa using List.all_eq_true.1 hall kind h

def Part.Fits (skipped : List String) : Part → Prop
  | inner field _ => field.any skipped.contains = false
  | outer field _ _ => skipped.contains field = true

theorem Pattern.fits_parts (h : kind ∈ p.kinds) : ∀ part ∈ p.parts, part.Fits (unboundFields kind) := by
  have houter {field : String} {place : Place} (n : Option Node)
      (hfield : (unboundFields kind).contains field = true) :
      ∀ part ∈ n.toList.map (Part.outer field place), part.Fits (unboundFields kind) := by
    intro part hpart
    obtain ⟨n, -, rfl⟩ := List.mem_map.1 hpart
    exact hfield
  cases p with
  | name token => cases h
  | receiver => exact List.forall_mem_nil _
  -- These forms have no field that is passed over; the others have just those of their outer parts.
  | object ps | array ps =>
    intro part hpart
    obtain ⟨q, -, rfl⟩ := List.mem_map.1 hpart
    rfl
  | rest target => exact List.forall_mem_singleton.2 rfl
  | pair key value =>
    obtain rfl := List.mem_singleton.1 h
    exact List.forall_mem_cons.2 ⟨rfl, List.forall_mem_singleton.2 rfl⟩
  | withDefault target value =>
    rcases List.mem_pair.1 h with rfl | rfl <;>
      exact List.forall_mem_cons.2 ⟨rfl, List.forall_mem_singleton.2 rfl⟩
  | parameter target type value =>
    rcases List.mem_pair.1 h with rfl | rfl <;>
      exact List.forall_mem_cons.2 ⟨rfl, List.forall_mem_append.2 ⟨houter type rfl, houter value rfl⟩⟩

end Forms

/-! ### The names that are read off a tree -/

section Names

variable {source : Bytes} {skipped : List String}

/-- The names that a child shows, when some fields are passed over. -/
def shown (source : Bytes) (skipped : List String) (c : Node) : List Text :=
  if c.field.any skipped.contains then [] else patternNames source c

theorem shown_nil : shown source [] = patternNames source := by
  funext c
  cases hfield : c.field <;> simp [shown, hfield]

theorem patternNamesIn_eq (items : List Node) : patternNamesIn source skipped items =
    (items.filter Node.isChild).flatMap (shown source skipped) := by
  induction items with
  | nil => rfl
  | cons n rest ih =>
    rw [patternNamesIn, ih, List.filter_cons]
    cases n.isChild with
    | false => rfl
    | true =>
      rw [if_pos rfl, List.flatMap_cons, shown]
      cases n.field with
      | none => rfl
      | some field => by_cases hfield : field ∈ skipped <;> simp [hfield]

mutual

theorem patternNames_sublist : ∀ n : Node,
    (patternNames source n).Sublist (n.identifiers.map (·.textD source))
  | .text _ => List.nil_sublist _
  | .branch i items => by
    rw [patternNames, Node.identifiers_branch, List.map_append]
    split
    next hkind =>
      have hname : Node.identifierKinds.contains i.kind = true := by
        rcases Bool.or_eq_true_iff.1 hkind with h | h <;> rw [eq_of_beq h] <;> decide
      rw [if_pos hname]
      exact List.sublist_append_left _ _
    split
    next => exact List.nil_sublist _
    next => exact (patternNamesIn_sublist _ items).trans (List.sublist_append_right _ _)

theorem patternNamesIn_sublist (skipped : List String) : ∀ items : List Node,
    (patternNamesIn source skipped items).Sublist
      (((items.filter Node.isChild).flatMap Node.identifiers).map (·.textD source))
  | [] => List.nil_sublist _
  | n :: rest => by
    have hrest := patternNamesIn_sublist skipped rest
    rw [patternNamesIn_eq] at hrest ⊢
    rw [List.filter_cons]
    split
    · rw [List.flatMap_cons, List.flatMap_cons, List.map_append, shown]
      split
      · exact hrest.trans (List.sublist_append_right _ _)
      · exact (patternNames_sublist n).append hrest
    · exact hrest

end

theorem patternNames_of_isBare {n : Node} (h : n.IsBare) : patternNames source n = [] := by
  have hnames : (patternNames source n).Sublist (n.identifiers.map (·.textD source)) :=
    patternNames_sublist n
  rw [h] at hnames
  exact List.sublist_nil.1 hnames

end Names

section Reading

variable {source : Bytes} {n : Node} {p : Pattern}

theorem patternNames_of_name (hkind : n.kind ∈ nameKinds) :
    patternNames source n = [n.textD source] := by
  cases n with
  | text t => simp [nameKinds, Node.kind, Node.info] at hkind
  | branch i items =>
    rcases List.mem_pair.1 hkind with h | h <;>
    · change i.kind = _ at h
      rw [patternNames, h]
      rfl

theorem identifiers_of_name (hkind : n.kind ∈ nameKinds) :
    n.identifiers = n :: n.children.flatMap Node.identifiers := by
  cases n with
  | text t => simp [nameKinds, Node.kind, Node.info] at hkind
  | branch i items =>
    rw [Node.identifiers_branch, if_pos]
    · rfl
    · rcases List.mem_pair.1 hkind with h | h <;>
      · change i.kind = _ at h
        rw [h]
        decide

theorem patternNames_of_compound (hkind : n.kind ∈ p.kinds) :
    patternNames source n = n.children.flatMap (shown source (unboundFields n.kind)) := by
  have hform := Pattern.kind_of_compound hkind
  cases n with
  | text t => rfl
  | branch i items =>
    change i.kind ∉ _ at hform
    have hkinds : (i.kind == "identifier" || i.kind == "shorthand_property_identifier_pattern") = false ∧
        (i.kind == "type_annotation" || i.kind == "comment") = false := by
      simp only [Node.identifierKinds, Node.tokenKinds, List.cons_append, List.nil_append, List.mem_cons,
        not_or] at hform
      simp [hform]
    rw [patternNames, hkinds.1, hkinds.2, if_neg Bool.false_ne_true, if_neg Bool.false_ne_true,
      patternNamesIn_eq]
    rfl

theorem identifiers_of_compound (hkind : n.kind ∈ p.kinds) :
    n.identifiers = n.children.flatMap Node.identifiers := by
  have hform := Pattern.kind_of_compound hkind
  cases n with
  | text t => rfl
  | branch i items =>
    rw [Node.identifiers_branch, if_neg, List.nil_append]
    exact fun h => hform (List.mem_append_left _ (List.contains_iff_mem.1 h))

mutual

theorem Reads.identifiers {n : Node} {p : Pattern} :
    Reads n p → n.identifiers = p.occurrences.map Occurrence.token
  | .name hkind h => by
    rw [identifiers_of_name hkind, h.identifiers]
    rfl
  | .compound hkind h => by
    rw [identifiers_of_compound hkind, h.identifiers, Pattern.occurrences_eq hkind]

theorem ReadsAll.identifiers {cs : List Node} {parts : List Part} : ReadsAll cs parts →
    cs.flatMap Node.identifiers = (parts.flatMap Part.occurrences).map Occurrence.token
  | .nil => rfl
  | .bare hc h => by rw [List.flatMap_cons, hc, List.nil_append, h.identifiers]
  | .inner _ hc h => by
    rw [List.flatMap_cons, List.flatMap_cons, List.map_append, hc.identifiers, h.identifiers]
    rfl
  | .outer _ h => by
    rw [List.flatMap_cons, List.flatMap_cons, List.map_append, h.identifiers, Part.occurrences, mentions,
      List.map_map]
    exact congrArg (· ++ _) (List.map_id _).symm

end

mutual

theorem Reads.names {n : Node} {p : Pattern} :
    Reads n p → patternNames source n = p.bound.map (·.textD source)
  | .name hkind _ => patternNames_of_name hkind
  | .compound hkind h => by
    rw [patternNames_of_compound hkind, h.names _ (Pattern.fits_parts hkind), Pattern.bound,
      Pattern.occurrences_eq hkind]

theorem ReadsAll.names (skipped : List String) {cs : List Node} {parts : List Part} :
    ReadsAll cs parts → (∀ part ∈ parts, part.Fits skipped) → cs.flatMap (shown source skipped) =
      ((parts.flatMap Part.occurrences).filterMap Occurrence.bound?).map (·.textD source)
  | .nil, _ => rfl
  -- A bare child may be in any field: it shows nothing whether it is passed over or not.
  | .bare hc h, hfits => by
    rw [List.flatMap_cons, shown, patternNames_of_isBare hc, ite_self, List.nil_append,
      h.names skipped hfits]
  | .inner hfield hc h, hfits => by
    obtain ⟨hfit, hrest⟩ := List.forall_mem_cons.1 hfits
    rw [List.flatMap_cons, h.names skipped hrest, shown, hfield, hfit, if_neg Bool.false_ne_true, hc.names,
      List.flatMap_cons, List.filterMap_append, List.map_append]
    rfl
  | .outer hfield h, hfits => by
    obtain ⟨hfit, hrest⟩ := List.forall_mem_cons.1 hfits
    rw [List.flatMap_cons, h.names skipped hrest, shown, hfield, Option.any_some, hfit, if_pos rfl,
      List.flatMap_cons, List.filterMap_append, Part.occurrences, bound?_mentions, List.nil_append]
    rfl

end

/-- Nothing but keys, default values and types is passed over. What else stands in front, such as the
decorator of a parameter, shows its names as if they were bound. -/
theorem patternNames_of_extra {c : Node} {cs : List Node} (hkind : n.kind ∈ p.kinds)
    (hchildren : n.children = c :: cs) (hfield : c.field.any (unboundFields n.kind).contains = false)
    (h : ReadsAll cs p.parts) :
    patternNames source n = patternNames source c ++ p.bound.map (·.textD source) := by
  rw [patternNames_of_compound hkind, hchildren, List.flatMap_cons, shown, hfield,
    if_neg Bool.false_ne_true, h.names _ (Pattern.fits_parts hkind), Pattern.bound,
    Pattern.occurrences_eq hkind]

/-- **Patterns are read exactly.** The names that are read off the tree of a pattern are those of the
identifiers that it binds, from left to right. Every identifier of the tree is bound by the pattern or
stands in one of its keys, default values and types, and a name that only those mention is none of
them. -/
theorem patternNames_eq_bound (h : Reads n p) (source : Bytes) :
    patternNames source n = p.bound.map (·.textD source) ∧
    n.identifiers = p.occurrences.map Occurrence.token ∧
    ∀ name, (∀ o ∈ p.occurrences, o.token.textD source = name → o.bound? = none) →
      name ∉ patternNames source n := by
  refine ⟨h.names, h.identifiers, fun name honly hname => ?_⟩
  rw [h.names, Pattern.bound] at hname
  obtain ⟨token, htoken, rfl⟩ := List.mem_map.1 hname
  obtain ⟨o, ho, hbound⟩ := List.mem_filterMap.1 htoken
  cases o with
  | bound t =>
    cases hbound
    cases honly _ ho rfl
  | mentioned place t => cases hbound

end Reading

namespace Sample

def node (kind : String) (field : Option String) (a b : Nat) (items : List Node) : Node :=
  .branch { kind, field, start := some ⟨a, 0, a⟩, stop := some b } items

def mark (kind : String) (a b : Nat) : Node := node kind none a b []

/-- A parameter with a pattern of several forms, a type and a default value. -/
def source : Bytes := (Utf8.encode? "\x7b a, [k]: [b = d], ...c \x7d: T = e").getD []

def key : Node := node "computed_property_name" (some "key") 5 8
  [mark "[" 5 6, node "identifier" none 6 7 [], mark "]" 7 8]

def element : Node := node "assignment_pattern" none 11 16
  [node "identifier" (some "left") 11 12 [], mark "=" 13 14, node "identifier" (some "right") 15 16 []]

def elements : Node :=
  node "array_pattern" (some "value") 10 17 [mark "[" 10 11, element, mark "]" 16 17]

def others : Node := node "rest_pattern" none 19 23 [mark "..." 19 22, node "identifier" none 22 23 []]

def target : Node := node "object_pattern" (some "pattern") 0 25 [mark "\x7b" 0 1,
  node "shorthand_property_identifier_pattern" none 2 3 [], mark "," 3 4,
  node "pair_pattern" none 5 17 [key, mark ":" 8 9, elements], mark "," 17 18, others, mark "\x7d" 24 25]

def type : Node :=
  node "type_annotation" (some "type") 25 28 [mark ":" 25 26, node "type_identifier" none 27 28 []]

def parameter : Node := node "required_parameter" none 0 32
  [target, type, mark "=" 29 30, node "identifier" (some "value") 31 32 []]

def pattern : Pattern :=
  .parameter
    (.object [.name (node "shorthand_property_identifier_pattern" none 2 3 []),
      .pair key (.array [.withDefault (.name (node "identifier" (some "left") 11 12 []))
        (node "identifier" (some "right") 15 16 [])]),
      .rest (.name (node "identifier" none 22 23 []))])
    (some type) (some (node "identifier" (some "value") 31 32 []))

theorem reads_parameter : Reads parameter pattern := by
  have hname {kind : String} {field : Option String} {a b : Nat} (hkind : kind ∈ nameKinds) :
      Reads (node kind field a b []) (.name (node kind field a b [])) := .name hkind .nil
  have helement : Reads element (.withDefault (.name (node "identifier" (some "left") 11 12 []))
      (node "identifier" (some "right") 15 16 [])) :=
    .compound (by decide) (.inner rfl (hname (by decide)) (.bare rfl (.outer rfl .nil)))
  have helements : Reads elements (.array [.withDefault (.name (node "identifier" (some "left") 11 12 []))
      (node "identifier" (some "right") 15 16 [])]) :=
    .compound (by decide) (.bare rfl (.inner rfl helement (.bare rfl .nil)))
  have hothers : Reads others (.rest (.name (node "identifier" none 22 23 []))) :=
    .compound (by decide) (.bare rfl (.inner rfl (hname (by decide)) .nil))
  refine .compound (by decide) (.inner rfl (.compound (by decide) ?_)
    (.outer rfl (.bare rfl (.outer rfl .nil))))
  refine .bare rfl (.inner rfl (hname (by decide)) (.bare rfl (.inner rfl (.compound (by decide) ?_)
    (.bare rfl (.inner rfl hothers (.bare rfl .nil))))))
  exact .outer rfl (.bare rfl (.inner rfl helements .nil))

end Sample

theorem patternNames_eq_bound_nested : Reads Sample.parameter Sample.pattern ∧
    patternNames Sample.source Sample.parameter = ["a", "b", "c"].map Text.ofString ∧
    Text.ofString "k" ∉ patternNames Sample.source Sample.parameter := by
  obtain ⟨hnames, -, honly⟩ := patternNames_eq_bound Sample.reads_parameter Sample.source
  refine ⟨Sample.reads_parameter, hnames.trans (by decide +kernel), honly _ ?_⟩
  decide +kernel

/-! ### Parameters and declarators -/

section Declarations

variable {source : Bytes} {fn statement : Node} {ps : List Pattern}

inductive HasParameters (fn : Node) : List Pattern → Prop
  | single {target : Node} {p : Pattern} (htarget : fn.childByField? "parameter" = some target)
      (h : Reads target p) : HasParameters fn [p]
  | listed {list : Node} {ps : List Pattern} (hsingle : fn.childByField? "parameter" = none)
      (hlist : fn.childByField? "parameters" = some list)
      (h : ReadsAll list.namedChildren (ps.map (.inner none))) : HasParameters fn ps

theorem parameterNames_eq (h : HasParameters fn ps) :
    parameterNames source fn = (ps.flatMap Pattern.bound).map (·.textD source) := by
  cases h with
  | single htarget h =>
    rw [parameterNames, htarget, List.flatMap_singleton]
    exact h.names
  | @listed list ps hsingle hlist h =>
    have hfits : ∀ part ∈ ps.map (Part.inner none), part.Fits [] := by
      intro part hpart
      obtain ⟨q, -, rfl⟩ := List.mem_map.1 hpart
      rfl
    rw [parameterNames, hsingle, hlist]
    dsimp only
    rw [← shown_nil, h.names [] hfits, List.flatMap_map, List.filterMap_flatMap]
    rfl

def Declares (d : Node) (p : Pattern) : Prop :=
  ∃ target, d.childByField? "name" = some target ∧ Reads target p

theorem declaratorNames_eq
    (h : List.Forall₂ Declares (statement.namedChildren.filter (·.kind == "variable_declarator")) ps) :
    declaratorNames source statement = (ps.flatMap Pattern.bound).map (·.textD source) := by
  rw [declaratorNames]
  generalize statement.namedChildren = cs at h ⊢
  induction cs generalizing ps with
  | nil =>
    cases h
    rfl
  | cons d rest ih =>
    rw [List.filter_cons] at h
    rw [List.flatMap_cons]
    split at h
    next hd =>
      cases h with
      | cons hdeclares h =>
        obtain ⟨target, htarget, hreads⟩ := hdeclares
        rw [if_pos hd, htarget, Option.map_some, Option.getD_some, hreads.names, ih h, List.flatMap_cons,
          List.map_append]
    next hd => rw [if_neg hd, List.nil_append, ih h]

end Declarations

end Scope
end Phrasebook
