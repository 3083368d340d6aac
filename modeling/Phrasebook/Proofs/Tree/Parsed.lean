import Phrasebook.Literal.Value
import Phrasebook.Proofs.Log

/-! Trees as a parser delivers them. Every node is clean and covers a span of the source, and its
children lie inside that span, in order and apart from each other. Names are single tokens, and JSX
text stands between the tags of an element, never in a substitution of a template. -/

namespace Phrasebook.Node

mutual

def isLaid : Node → Bool
  | text _ => false
  | branch i items =>
    !i.built && !i.dirty && i.standing == .full &&
    match i.start, i.stop with
    | some m, some e => areLaid m.offset e items
    | _, _ => false

def areLaid (a b : Nat) : List Node → Bool
  | [] => a ≤ b
  | n :: rest =>
    n.isLaid &&
    match n.info.start, n.info.stop with
    | some m, some e => a ≤ m.offset && areLaid e b rest
    | _, _ => false

end

example : areLaid 0 3 [branch { kind := "a", start := some ⟨1, 0, 1⟩, stop := some 2 } []] = true := by cbv

def LaidAt (n : Node) (a b : Nat) : Prop :=
  n.isLaid = true ∧ n.info.start.map (·.offset) = some a ∧ n.info.stop = some b

theorem isLaid_branch {i : Info} {items : List Node} :
    (branch i items).isLaid = true ↔ i.built = false ∧ i.dirty = false ∧ i.standing = .full ∧
      ∃ m e, i.start = some m ∧ i.stop = some e ∧ areLaid m.offset e items = true := by
  rw [isLaid]
  cases i.start <;> cases i.stop <;> simp [and_assoc]

theorem dirty_of_isLaid {n : Node} (h : n.isLaid = true) : n.info.dirty = false := by
  cases n with
  | text t => simp [isLaid] at h
  | branch i items => exact (isLaid_branch.1 h).2.1

theorem exists_laidAt {n : Node} (h : n.isLaid = true) : ∃ a b, n.LaidAt a b := by
  cases n with
  | text t => simp [isLaid] at h
  | branch i items =>
    obtain ⟨-, -, -, m, e, hm, he, -⟩ := isLaid_branch.1 h
    exact ⟨m.offset, e, h, by simp [info, hm], he⟩

theorem areLaid_nil {a b : Nat} : areLaid a b [] = true ↔ a ≤ b := by simp [areLaid]

theorem areLaid_cons {a b : Nat} {n : Node} {rest : List Node} :
    areLaid a b (n :: rest) = true ↔
      ∃ c d, n.LaidAt c d ∧ a ≤ c ∧ areLaid d b rest = true := by
  rw [areLaid]
  unfold LaidAt
  cases n.info.start <;> cases n.info.stop <;> simp [and_assoc]

theorem isChild_of_isLaid {n : Node} (h : n.isLaid = true) : n.isChild = true := by
  cases n with
  | text t => simp [isLaid] at h
  | branch i items => simp [isChild, (isLaid_branch.1 h).2.2.1]

theorem isLaid_of_mem {a b : Nat} {n : Node} {items : List Node} (h : areLaid a b items = true)
    (hn : n ∈ items) : n.isLaid = true := by
  induction items generalizing a with
  | nil => simp at hn
  | cons m rest ih =>
    obtain ⟨c, d, hm, -, hrest⟩ := areLaid_cons.1 h
    rcases List.mem_cons.1 hn with rfl | hn
    · exact hm.1
    · exact ih hrest hn

theorem filter_isChild {items : List Node} (h : ∀ n ∈ items, n.isLaid = true) :
    items.filter isChild = items :=
  List.filter_eq_self.2 fun n hn => isChild_of_isLaid (h n hn)

theorem isLaid_of_mem_items {n c : Node} (h : n.isLaid = true) (hc : c ∈ n.items) :
    c.isLaid = true := by
  cases n with
  | text t => simp [isLaid] at h
  | branch i items =>
    obtain ⟨-, -, -, m, e, -, -, hitems⟩ := isLaid_branch.1 h
    exact isLaid_of_mem hitems hc

theorem children_of_isLaid {n : Node} (h : n.isLaid = true) : n.children = n.items :=
  filter_isChild fun _ hc => isLaid_of_mem_items h hc

mutual

theorem le_of_laidAt {a b : Nat} : ∀ {n : Node}, n.LaidAt a b → a ≤ b
  | text _, h => by simp [LaidAt, isLaid] at h
  | branch i items, ⟨h, ha, hb⟩ => by
    obtain ⟨-, -, -, m, e, hm, he, hitems⟩ := isLaid_branch.1 h
    simp only [info, hm, he, Option.map_some, Option.some.injEq] at ha hb
    subst ha hb
    exact le_of_areLaid hitems

theorem le_of_areLaid {a b : Nat} : ∀ {items : List Node}, areLaid a b items = true → a ≤ b
  | [], h => areLaid_nil.1 h
  | n :: rest, h => by
    obtain ⟨c, d, hn, hac, hrest⟩ := areLaid_cons.1 h
    have hcd := le_of_laidAt hn
    have hdb := le_of_areLaid hrest
    omega

end

def isIn (name : String) (n : Node) : Bool := n.isChild && n.field == some name

theorem childByField?_eq (n : Node) (name : String) :
    n.childByField? name = n.items.find? (isIn name) := by
  rw [childByField?, children, List.find?_filter]
  congr 1
  funext c
  rw [Bool.eq_iff_iff]
  simp [isIn]

theorem isIn_of_field_none {name : String} {n : Node} (h : n.field = none) :
    isIn name n = false := by simp [isIn, h]

def tokenKinds : List String :=
  ["identifier", "property_identifier", "private_property_identifier",
   "shorthand_property_identifier_pattern", "type_identifier"]

def namedKinds : List String :=
  ["function_declaration", "generator_function_declaration", "class_declaration"]

/-- What the grammars of scripts promise of a node: a name is one token, so are the property of a
member expression and the name of a declaration, a declaration does not stand for parameters, JSX text
is in no field, and a substitution holds none of it. -/
def isRegular (n : Node) : Bool :=
  let isToken (c : Node) := tokenKinds.contains c.kind
  (!isToken n || n.items.isEmpty) &&
  (n.kind != "member_expression" || (n.childByField? "property").all isToken) &&
  (!namedKinds.contains n.kind ||
    n.field != some "parameters" && (n.childByField? "name").all isToken) &&
  (!Literal.isJsxText n || n.field.isNone) &&
  (n.kind != "template_substitution" || n.items.all fun c => !Literal.isJsxText c)

mutual

def areRegular : Node → Bool
  | text _ => true
  | branch i items => isRegular (branch i items) && itemsRegular items

def itemsRegular : List Node → Bool
  | [] => true
  | n :: rest => areRegular n && itemsRegular rest

end

theorem areRegular_of_mem {n : Node} {items : List Node} (h : itemsRegular items = true)
    (hn : n ∈ items) : n.areRegular = true := by
  induction items with
  | nil => simp at hn
  | cons m rest ih =>
    simp only [itemsRegular, Bool.and_eq_true] at h
    rcases List.mem_cons.1 hn with rfl | hn
    · exact h.1
    · exact ih h.2 hn

/-- A node as parsed: laid out in order, and regular all the way down. -/
structure Parsed (n : Node) : Prop where
  laid : n.isLaid = true
  regular : n.areRegular = true

namespace Parsed

variable {n c : Node}

theorem isRegular (h : n.Parsed) : n.isRegular = true := by
  cases n with
  | text t => simpa [isLaid] using h.laid
  | branch i items => exact (Bool.and_eq_true_iff.1 h.regular).1

theorem of_mem_items (h : n.Parsed) (hc : c ∈ n.items) : c.Parsed := by
  refine ⟨isLaid_of_mem_items h.laid hc, ?_⟩
  cases n with
  | text t => simp [items] at hc
  | branch i items => exact areRegular_of_mem (Bool.and_eq_true_iff.1 h.regular).2 hc

theorem items_of_token (h : n.Parsed) (hk : tokenKinds.contains n.kind = true) : n.items = [] := by
  have := h.isRegular
  simp only [Node.isRegular, hk, Bool.not_true, Bool.false_or, Bool.and_eq_true,
    List.isEmpty_iff] at this
  exact this.1.1.1.1

theorem property_token (h : n.Parsed) (hk : n.kind = "member_expression")
    (hc : n.childByField? "property" = some c) : tokenKinds.contains c.kind = true := by
  have := h.isRegular
  simp only [Node.isRegular, hk, hc, Bool.and_eq_true, Option.all_some, bne_self_eq_false,
    Bool.false_or] at this
  exact this.1.1.1.2

theorem name_token (h : n.Parsed) (hk : namedKinds.contains n.kind = true)
    (hc : n.childByField? "name" = some c) : tokenKinds.contains c.kind = true := by
  have := h.isRegular
  simp only [Node.isRegular, hk, hc, Bool.and_eq_true, Option.all_some, Bool.not_true,
    Bool.false_or] at this
  exact this.1.1.2.2

theorem field_of_declaration (h : n.Parsed) (hk : namedKinds.contains n.kind = true) :
    n.field ≠ some "parameters" := by
  have := h.isRegular
  simp only [Node.isRegular, hk, Bool.and_eq_true, Bool.not_true, Bool.false_or,
    bne_iff_ne] at this
  exact this.1.1.2.1

theorem field_of_jsxText (h : n.Parsed) (hn : Literal.isJsxText n = true) : n.field = none := by
  have := h.isRegular
  simp only [Node.isRegular, hn, Bool.and_eq_true, Bool.not_true, Bool.false_or,
    Option.isNone_iff_eq_none] at this
  exact this.1.2

theorem substitution_items (h : n.Parsed) (hk : n.kind = "template_substitution")
    (hc : c ∈ n.items) : Literal.isJsxText c = false := by
  have := h.isRegular
  simp only [Node.isRegular, hk, Bool.and_eq_true, bne_self_eq_false, Bool.false_or,
    List.all_eq_true, Bool.not_eq_true'] at this
  exact this.2 c hc

end Parsed
end Phrasebook.Node

namespace Phrasebook

/-- A file as a parser delivers it: the root lies inside the source. -/
structure Tree.Parsed (t : Tree) : Prop where
  root : t.root.Parsed
  stop_le : ∀ b ∈ t.root.info.stop, b ≤ t.source.length

theorem Tree.parsed_iff {t : Tree} : t.Parsed ↔ t.root.isLaid = true ∧ t.root.areRegular = true ∧
    ∀ b ∈ t.root.info.stop, b ≤ t.source.length :=
  ⟨fun h => ⟨h.root.laid, h.root.regular, h.stop_le⟩, fun ⟨hlaid, hregular, hstop⟩ =>
    ⟨⟨hlaid, hregular⟩, hstop⟩⟩

instance (t : Tree) : Decidable t.Parsed := decidable_of_iff _ Tree.parsed_iff.symm

namespace Focus

theorem map_node_ofItems (info : Info) (frames : List Frame) (before items : List Node) :
    (ofItems info frames before items).map (·.node) = items.filter Node.isChild := by
  induction items generalizing before with
  | nil => rfl
  | cons n rest ih =>
    simp only [ofItems]
    split
    next hn => rw [List.map_cons, ih, List.filter_cons_of_pos hn]
    next hn => rw [ih, List.filter_cons_of_neg hn]

theorem map_node_children {f : Focus} (h : f.node.isLaid = true) :
    f.children.map (·.node) = f.node.items := by
  rw [children, map_node_ofItems]
  exact Node.filter_isChild fun _ hc => Node.isLaid_of_mem_items h hc

end Focus
end Phrasebook
