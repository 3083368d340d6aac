import Phrasebook.Proofs.Lists
import Phrasebook.Proofs.Tree.Sturdy
import Phrasebook.Proofs.Wrap.Locality
import Phrasebook.Proofs.Wrap.Naming

/-! What a template is rewritten to: a call whose key holds the static parts with the names between them,
and whose options give each name once, with an expression that has the text of all that share it. -/

namespace Phrasebook

namespace Text

theorem isScalar_attempt (i k : Nat) : (Placeholder.attempt (Placeholder.positional i) k).IsScalar := by
  have hposition : (Placeholder.positional i).IsScalar :=
    (isScalar_ofString _).append (isScalar_ofString _)
  cases k with
  | zero => exact hposition
  | succ k => exact (hposition.append (isScalar_ofString "_")).append (isScalar_ofString _)

theorem isScalar_textD (source : Bytes) (n : Node) : (n.textD source).IsScalar := by
  unfold Node.textD Node.text?
  split
  next t h =>
    obtain ⟨bytes, -, hbytes⟩ := except_bind_eq_ok.1 h
    exact isScalar_of_encode? (Utf8.decodeFault_eq_ok.1 hbytes)
  next => exact fun c hc => absurd hc List.not_mem_nil

theorem isScalar_encode (value : Text) : (Escape.encode value).IsScalar := by
  obtain ⟨bytes, hbytes⟩ := Option.isSome_iff_exists.1 (Escape.stringToken_encode value).encodable
  exact isScalar_of_encode? hbytes

end Text

namespace Node

variable {source : Bytes} {n m : Node} {items items' : List Node} {t t' : Text}

theorem text?_eq_ok : n.text? source = .ok t ↔
    ∃ bytes, n.render source = .ok bytes ∧ Utf8.encode? t = some bytes := by
  rw [text?, except_bind_eq_ok]
  simp only [Utf8.decodeFault_eq_ok]

theorem textD_of_text? (h : n.text? source = .ok t) : n.textD source = t := by
  rw [textD, h]

def Spells (source : Bytes) (items : List Node) (t : Text) : Prop :=
  ∃ bytes, renderItems source items = .ok bytes ∧ Utf8.encode? t = some bytes

theorem spells_nil (source : Bytes) : Spells source [] [] := ⟨[], rfl, rfl⟩

theorem Spells.cons (hprinted : n.isPrinted = true) (hn : n.text? source = .ok t)
    (h : Spells source items t') : Spells source (n :: items) (t ++ t') := by
  obtain ⟨bytes, hbytes, ht⟩ := text?_eq_ok.1 hn
  obtain ⟨more, hmore, ht'⟩ := h
  refine ⟨bytes ++ more, ?_, Utf8.encode?_append ht ht'⟩
  rw [renderItems, if_pos hprinted, hbytes, hmore]
  rfl

theorem Spells.text (ht : t.IsScalar) (h : Spells source items t') :
    Spells source (.text t :: items) (t ++ t') := by
  obtain ⟨bytes, hbytes⟩ := Option.isSome_iff_exists.1 (Text.isSome_encode? ht)
  exact h.cons rfl (text?_eq_ok.2 ⟨bytes, Utf8.encode_eq_ok.2 hbytes, hbytes⟩)

theorem text?_build {kind : String} (h : Spells source
    (items.map (mapInfo fun i => { i with standing := .full })) t) :
    (build kind items).text? source = .ok t := text?_eq_ok.2 h

theorem text?_full (source : Bytes) (n : Node) :
    (n.mapInfo fun i => { i with standing := .full }).text? source = n.text? source := by
  cases n <;> rfl

theorem isPrinted_standing (n : Node) : (n.mapInfo fun i => { i with standing := .full }).isPrinted = true := by
  cases n <;> rfl

theorem mem_preorder_self {i : Info} : branch i items ∈ (branch i items).preorder := by
  rw [preorder]
  exact List.mem_cons_self

theorem mem_preorderItems (hn : n ∈ items) (hchild : n.isChild = true) (hm : m ∈ n.preorder) :
    m ∈ preorderItems items := by
  induction items with
  | nil => cases hn
  | cons first rest ih =>
    rw [preorderItems]
    obtain rfl | hn := List.mem_cons.1 hn
    · rw [if_pos hchild]
      exact List.mem_append_left _ hm
    · split
      · exact List.mem_append_right _ (ih hn)
      · exact ih hn

theorem mem_preorderItems_children (hn : n ∈ items.filter isChild) : n ∈ preorderItems items := by
  obtain ⟨hn, hchild⟩ := List.mem_filter.1 hn
  cases n with
  | text t => cases hchild
  | branch i below => exact mem_preorderItems hn hchild mem_preorder_self

end Node

namespace Placeholder

section Names

variable {source : Bytes} {P : Text → Prop}

/-- Whether the identifiers and names of members at and below a node have texts with a property. -/
def NamesBelow (source : Bytes) (P : Text → Prop) (nodes : List Node) : Prop :=
  ∀ m ∈ nodes, m.kind = "identifier" ∨ m.kind = "property_identifier" → P (m.textD source)

instance [DecidablePred P] (nodes : List Node) : Decidable (NamesBelow source P nodes) :=
  inferInstanceAs (Decidable (∀ m ∈ nodes, _))

mutual

theorem forall_mem_chain? : ∀ {n : Node} {chain : List Text}, NamesBelow source P n.preorder →
    chain? source n = some chain → ∀ name ∈ chain, P name
  | .text t, chain, _, h => by cases h
  | .branch i items, chain, hP, h => by
    rw [chain?] at h
    split at h
    next hkind =>
      cases h
      rw [List.forall_mem_singleton]
      exact hP _ Node.mem_preorder_self (.inl (beq_iff_eq.1 hkind))
    next =>
    split at h
    next =>
      split at h
      next => cases h
      next property hproperty =>
        split at h
        next hkind =>
          obtain ⟨front, hfront, rfl⟩ := Option.map_eq_some_iff.1 h
          rw [Node.preorder] at hP
          have hbelow : NamesBelow source P (Node.preorderItems items) :=
            fun m hm => hP m (List.mem_cons_of_mem _ hm)
          have hchild := Node.mem_preorderItems_children (List.mem_of_find?_eq_some hproperty)
          rw [List.forall_mem_append, List.forall_mem_singleton]
          exact ⟨forall_mem_objectChain? hbelow hfront, hbelow property hchild (.inr (by simpa using hkind))⟩
        next => cases h
    next => cases h

theorem forall_mem_objectChain? : ∀ {items : List Node} {chain : List Text},
    NamesBelow source P (Node.preorderItems items) → objectChain? source items = some chain →
      ∀ name ∈ chain, P name
  | [], chain, _, h => by cases h
  | n :: rest, chain, hP, h => by
    rw [Node.preorderItems] at hP
    rw [objectChain?] at h
    split at h
    next hn =>
      rw [Bool.and_eq_true] at hn
      rw [if_pos hn.1] at hP
      exact forall_mem_chain? (fun m hm => hP m (List.mem_append_left _ hm)) h
    next =>
      refine forall_mem_objectChain? (fun m hm => hP m ?_) h
      split
      · exact List.mem_append_right _ hm
      · exact hm

end

theorem isScalar_of_derived? {n : Node} {name : Text} (h : derived? source n = some name) :
    name.IsScalar := by
  obtain ⟨chain, hchain, rfl⟩ := Option.map_eq_some_iff.1 h
  exact Text.isScalar_join (Text.isScalar_ofString "_")
    (forall_mem_chain? (fun m _ _ => Text.isScalar_textD source m) hchain)

theorem isScalar_names (source : Bytes) (expressions : List Node) :
    ∀ name ∈ names source expressions, name.IsScalar := by
  refine (assigns_names source expressions).forall_mem (fun e he name hname _ => ?_) Text.isScalar_attempt
  obtain ⟨n, -, rfl⟩ := List.mem_map.1 he
  exact isScalar_of_derived? hname

theorem pairwise_names (source : Bytes) (expressions : List Node) :
    ((names source expressions).zip expressions).Pairwise fun p q =>
      p.1 = q.1 → p.2.textD source = q.2.textD source := by
  have htexts : (described source expressions).map (·.2) = expressions.map fun e => e.textD source := by
    rw [described, List.map_map]
    rfl
  have hpairs := (assigns_names source expressions).pairwise
  rw [htexts, List.zip_map_right, List.pairwise_map] at hpairs
  exact hpairs

theorem textD_eq_of_name {expressions : List Node} {p q : Text × Node}
    (hp : p ∈ (names source expressions).zip expressions)
    (hq : q ∈ (names source expressions).zip expressions) (hname : p.1 = q.1) :
    p.2.textD source = q.2.textD source := by
  have : Std.Symm fun p q : Text × Node => p.1 = q.1 → p.2.textD source = q.2.textD source :=
    ⟨fun _ _ h hname => (h hname.symm).symm⟩
  exact List.Pairwise.forall_of_forall (fun _ _ _ => rfl) (pairwise_names source expressions) hp hq hname

end Names

def inBraces (name : Text) : Text := "\x7b\x7b" ++ name ++ "\x7d\x7d"

/-- Static parts with texts between them. -/
def weave (quasis between : List Text) : Text :=
  quasis.headD [] ++ (between.zip quasis.tail).flatMap fun p => p.1 ++ p.2

/-- The static parts with the names in double braces between them. -/
def keyText (quasis names : List Text) : Text := weave quasis (names.map inBraces)

theorem interpolateTail_eq (names quasis : List Text) : interpolateTail names quasis =
    ((names.map inBraces).zip quasis).flatMap fun p => p.1 ++ p.2 := by
  induction names generalizing quasis with
  | nil => rfl
  | cons name names ih =>
    cases quasis with
    | nil => rfl
    | cons quasi quasis =>
      rw [interpolateTail, ih, List.map_cons, List.zip_cons_cons, List.flatMap_cons]
      rfl

theorem interpolate_eq {quasis : List Text} (h : quasis ≠ []) (names : List Text) :
    interpolate quasis names = .ok (keyText quasis names) := by
  obtain ⟨quasi, quasis, rfl⟩ := List.exists_cons_of_ne_nil h
  rw [interpolate, interpolateTail_eq]
  rfl

end Placeholder

theorem Literal.length_quasis {source : Bytes} {n : Node} {t : Template} (h : templateParts source n = .ok t) :
    t.quasis.length = t.expressions.length + 1 := by
  have hraw (cursor stop : Option Nat) (nodes : List Node) :
      (rawQuasis source cursor stop nodes).length = nodes.length + 1 := by
    induction nodes generalizing cursor with
    | nil => rfl
    | cons s rest ih => rw [rawQuasis, List.length_cons, ih, List.length_cons]
  unfold templateParts at h
  obtain ⟨quasis, hquasis, h⟩ := except_bind_eq_ok.1 h
  cases h
  rw [length_of_mapM hquasis, hraw, List.length_map]

namespace Wrap

variable {source : Bytes} {function key : Text} {options : List (Text × Node)}

/-- A call of `function` with the literal of a key, and with an object of the members where there are
any. -/
def callText (function key : Text) (members : List (Text × Text)) : Text :=
  let object : Text := if members.isEmpty then [] else
    ", \x7b " ++ Text.join ", " (members.map fun m => m.1 ++ ": " ++ m.2) ++ " \x7d"
  function ++ "(" ++ Escape.encode key ++ object ++ ")"

def membersOf (source : Bytes) (options : List (Text × Node)) : List (Text × Text) :=
  options.map fun o => (o.1, o.2.textD source)

theorem spells_optionItems {more : List Node} {t : Text}
    (hoptions : ∀ o ∈ options, o.1.IsScalar ∧ o.2.text? source = .ok (o.2.textD source))
    (hmore : Node.Spells source more t) :
    Node.Spells source ((optionItems options).map (Node.mapInfo fun i => { i with standing := .full }) ++ more)
      (Text.join ", " ((membersOf source options).map fun m => m.1 ++ ": " ++ m.2) ++ t) := by
  induction options with
  | nil => exact hmore
  | cons o rest ih =>
    obtain ⟨name, e⟩ := o
    obtain ⟨⟨hname, he⟩, hrest⟩ := List.forall_mem_cons.1 hoptions
    have hlead : (name ++ ": ").IsScalar := hname.append (Text.isScalar_ofString ": ")
    have hvalue := (Node.text?_full source e).trans he
    cases rest with
    | nil =>
      have h := (hmore.cons (Node.isPrinted_standing e) hvalue).text hlead
      simpa [optionItems, membersOf, Text.join, Node.mapInfo] using h
    | cons next rest =>
      have h := (((ih hrest).text (Text.isScalar_ofString ", ")).cons (Node.isPrinted_standing e)
        hvalue).text hlead
      simpa [optionItems, membersOf, Text.join, Node.mapInfo, List.intercalate_cons_cons] using h

theorem text?_lookupCall (hfunction : function.IsScalar)
    (hoptions : ∀ o ∈ options, o.1.IsScalar ∧ o.2.text? source = .ok (o.2.textD source)) (key : Text) :
    (lookupCall function key options).text? source =
      .ok (callText function key (membersOf source options)) := by
  have hopen : (function ++ "(").IsScalar := hfunction.append (Text.isScalar_ofString "(")
  have hclose : Node.Spells source [.text ")"] ")" :=
    (Node.spells_nil source).text (Text.isScalar_ofString ")")
  refine Node.text?_build ?_
  cases options with
  | nil =>
    have h := (hclose.text (Text.isScalar_encode key)).text hopen
    simpa [callText, membersOf, Node.mapInfo] using h
  | cons o rest =>
    have hbrace := hclose.text (Text.isScalar_ofString " \x7d")
    have hobject := (spells_optionItems hoptions hbrace).text (Text.isScalar_ofString ", \x7b ")
    have h := (hobject.text (Text.isScalar_encode key)).text hopen
    simpa [callText, membersOf, Node.mapInfo] using h

/-- How the names of a template's expressions and the options of its call belong together. -/
structure Keyed (source : Bytes) (expressions : List Node) (names : List Text)
    (options : List (Text × Node)) : Prop where
  assigned : Placeholder.Assigns [] 0 (Placeholder.described source expressions) names
  length : names.length = expressions.length
  shared : ∀ p ∈ names.zip expressions, ∀ q ∈ names.zip expressions, p.1 = q.1 →
    p.2.text? source = q.2.text? source
  once : options.map (·.1) = names.eraseDups ∧ (options.map (·.1)).Nodup
  paired : ∀ o ∈ options, o ∈ names.zip expressions ∧
    ∀ p ∈ names.zip expressions, p.1 = o.1 → p.2.text? source = o.2.text? source
  absent : options = [] ↔ expressions = []

theorem keyed_names {expressions : List Node}
    (htext : ∀ e ∈ expressions, ∃ text, e.text? source = .ok text) :
    Keyed source expressions (Placeholder.names source expressions)
      (Placeholder.firstUses [] ((Placeholder.names source expressions).zip expressions)) := by
  set names := Placeholder.names source expressions with hnames
  have hlength : names.length = expressions.length := Placeholder.length_names source expressions
  have hshared : ∀ p ∈ names.zip expressions, ∀ q ∈ names.zip expressions, p.1 = q.1 →
      p.2.text? source = q.2.text? source := by
    intro p hp q hq hname
    obtain ⟨t, ht⟩ := htext p.2 (List.of_mem_zip hp).2
    obtain ⟨t', ht'⟩ := htext q.2 (List.of_mem_zip hq).2
    have hsame := Placeholder.textD_eq_of_name hp hq hname
    rw [Node.textD_of_text? ht, Node.textD_of_text? ht'] at hsame
    rw [ht, ht', hsame]
  have honce : (Placeholder.firstUses [] (names.zip expressions)).map (·.1) = names.eraseDups := by
    rw [Placeholder.map_firstUses_nil, List.map_fst_zip (le_of_eq hlength)]
  have hmem := (Pass.firstUses_sublist [] (names.zip expressions)).subset
  refine ⟨Placeholder.assigns_names source expressions, hlength, hshared,
    ⟨honce, honce ▸ nodup_eraseDups names⟩, fun o ho => ⟨hmem ho, fun p hp => hshared p hp o (hmem ho)⟩, ?_⟩
  constructor
  · intro hnone
    rw [hnone, List.map_nil] at honce
    have hnames : names = [] := by
      cases hcases : names with
      | nil => rfl
      | cons name rest => rw [hcases, List.eraseDups_cons] at honce; cases honce
    rw [hnames] at hlength
    exact List.eq_nil_of_length_eq_zero hlength.symm
  · rintro rfl
    rw [List.zip_nil_right]
    rfl

/-- The names of a template's expressions are found by a search that ends, expressions with one name
have one text, and the call has the static parts with the names between them for its key and each name
once among its options, with an expression that has the text of all that share it. -/
theorem ofTemplate_keyed {n : Node} {t : Literal.Template}
    (ht : Literal.templateParts source n = .ok t) (hfunction : function.IsScalar)
    (htext : ∀ e ∈ t.expressions, ∃ text, e.text? source = .ok text) :
    ∃ names options call, names = Placeholder.names source t.expressions ∧
      options = Pass.keptExpressions source n.items ∧ Keyed source t.expressions names options ∧
      t.quasis.length = names.length + 1 ∧ ofTemplate source function t = .ok call ∧
      call.text? source = .ok (callText function (Placeholder.keyText t.quasis names)
        (options.map fun o => (o.1, o.2.textD source))) := by
  have hkeyed := keyed_names htext
  have hlength := Literal.length_quasis ht
  have hkey := Placeholder.interpolate_eq (List.ne_nil_of_length_eq_add_one hlength)
    (Placeholder.names source t.expressions)
  rw [← Pass.keptExpressions_eq ht] at hkeyed
  refine ⟨_, _, _, rfl, rfl, hkeyed, by rw [hlength, hkeyed.length], ?_,
    text?_lookupCall hfunction (fun o ho => ?_) _⟩
  · rw [ofTemplate, hkey, Pass.keptExpressions_eq ht]
    rfl
  · have hmem := List.of_mem_zip (hkeyed.paired o ho).1
    obtain ⟨text, htext⟩ := htext o.2 hmem.2
    exact ⟨Placeholder.isScalar_names source _ o.1 hmem.1, by rw [htext, Node.textD_of_text? htext]⟩

end Wrap

namespace Sample

def substitution (expression : Node) (a b : Nat) : Node :=
  node "template_substitution" true a b [token "$\x7b" a (a + 2), expression, token "\x7d" (b - 1) b]

/-- A template with a member whose name another expression has, which stands on both sides of it. -/
def clashing : Tree where
  source := (Utf8.encode? "`가 $\x7ba_b\x7d$\x7ba.b\x7d$\x7ba_b\x7d`").getD []
  root := node "template_string" true 0 24 [token "`" 0 1, node "string_fragment" true 1 5 [],
    substitution (node "identifier" true 7 10 []) 5 11,
    substitution (node "member_expression" true 13 16 [inField "object" (node "identifier" true 13 14 []),
      token "." 14 15, inField "property" (node "property_identifier" true 15 16 [])]) 11 17,
    substitution (node "identifier" true 19 22 []) 17 23, token "`" 23 24]

end Sample

theorem ofTemplate_keyed_clashing :
    ∃ t call, Literal.templateParts Sample.clashing.source Sample.clashing.root = .ok t ∧
      t.quasis = [Text.ofString "가 ", [], [], []] ∧
      Wrap.ofTemplate Sample.clashing.source "t" t = .ok call ∧
      call.text? Sample.clashing.source = .ok (Text.ofString
        "t(\"가 \x7b\x7ba_b\x7d\x7d\x7b\x7bexpr1\x7d\x7d\x7b\x7ba_b\x7d\x7d\", \x7b a_b: a_b, expr1: a.b \x7d)") := by
  have hparts : (Literal.templateParts Sample.clashing.source Sample.clashing.root).toOption.map
      (fun t => (t.quasis, Placeholder.names Sample.clashing.source t.expressions)) =
        some ([Text.ofString "가 ", [], [], []],
          [Text.ofString "a_b", Text.ofString "expr1", Text.ofString "a_b"]) := by decide +kernel
  have hexpressions : (Literal.templateParts Sample.clashing.source Sample.clashing.root).toOption.any
      (fun t => t.expressions.all fun e => (e.text? Sample.clashing.source).toOption.isSome) = true := by
    decide +kernel
  have hmembers : ((Pass.keptExpressions Sample.clashing.source Sample.clashing.root.items).map
      fun o => (o.1, o.2.textD Sample.clashing.source)) =
        [(Text.ofString "a_b", Text.ofString "a_b"), (Text.ofString "expr1", Text.ofString "a.b")] := by
    decide +kernel
  cases ht : Literal.templateParts Sample.clashing.source Sample.clashing.root with
  | error e =>
    rw [ht] at hparts
    cases hparts
  | ok t =>
    rw [ht] at hparts hexpressions
    obtain ⟨hquasis, hnames⟩ := Prod.mk.inj (Option.some.inj hparts)
    have htext : ∀ e ∈ t.expressions, ∃ text, e.text? Sample.clashing.source = .ok text := by
      intro e he
      obtain ⟨text, h⟩ := Option.isSome_iff_exists.1 (List.all_eq_true.1 hexpressions e he)
      exact ⟨text, except_eq_ok_of_toOption h⟩
    obtain ⟨names, options, call, rfl, rfl, -, -, hcall, hprint⟩ :=
      Wrap.ofTemplate_keyed ht (Text.isScalar_ofString "t") htext
    refine ⟨t, call, rfl, hquasis, hcall, hprint.trans ?_⟩
    rw [hquasis, hnames, hmembers]
    refine congrArg Except.ok ?_
    decide +kernel

end Phrasebook
