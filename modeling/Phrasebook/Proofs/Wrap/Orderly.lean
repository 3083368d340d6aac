import Phrasebook.Proofs.Tree.Context
import Phrasebook.Proofs.Tree.Sturdy
import Phrasebook.Proofs.Wrap.Importable
import Phrasebook.Proofs.Wrap.Template
import Phrasebook.Proofs.Wrap.Tidiness

/-! The tree that a walk leaves, node by node. What is of the source still has nothing but parts of the
source for items, blocks still open with a brace, and functions have the modifier they were parsed with.
This is told by properties of every node of a tree, and by the shape of a node: what it is and what its
items are, without what stands below these and without the marks of edits. -/

namespace Phrasebook.Node

inductive Throughout (P : Node → Prop) : Node → Prop
  | intro {n : Node} (h : P n) (hitems : ∀ c ∈ n.items, Throughout P c) : Throughout P n

section

variable {P : Node → Prop} {n m c : Node} {path : Path}

theorem Throughout.here (h : Throughout P n) : P n := by
  cases h with
  | intro h _ => exact h

theorem Throughout.of_mem (h : Throughout P n) (hc : c ∈ n.items) : Throughout P c := by
  cases h with
  | intro _ hitems => exact hitems c hc

theorem Throughout.at? (h : Throughout P n) (hat : n.at? path = some m) : Throughout P m := by
  induction path generalizing n with
  | nil =>
    cases hat
    exact h
  | cons k path ih =>
    obtain ⟨c, hc, hat⟩ := Option.bind_eq_some_iff.1 hat
    exact ih (h.of_mem (List.mem_filter.1 (List.mem_of_getElem? hc)).1) hat

end

def bare : Node → Node
  | text t => text t
  | branch i _ => branch { i with dirty := false } []

def shape : Node → Node
  | text t => text t
  | branch i items => branch { i with dirty := false } (items.map bare)

section

variable {n n' m m' : Node} {path place : Path}

@[simp] theorem isChild_bare (n : Node) : n.bare.isChild = n.isChild := by cases n <;> rfl

@[simp] theorem isPrinted_bare (n : Node) : n.bare.isPrinted = n.isPrinted := by cases n <;> rfl

@[simp] theorem kind_bare (n : Node) : n.bare.kind = n.kind := by cases n <;> rfl

@[simp] theorem field_bare (n : Node) : n.bare.field = n.field := by cases n <;> rfl

@[simp] theorem start_bare (n : Node) : n.bare.info.start = n.info.start := by cases n <;> rfl

@[simp] theorem kind_shape (n : Node) : n.shape.kind = n.kind := by cases n <;> rfl

@[simp] theorem named_shape (n : Node) : n.shape.named = n.named := by cases n <;> rfl

@[simp] theorem built_shape (n : Node) : n.shape.info.built = n.info.built := by cases n <;> rfl

@[simp] theorem items_shape (n : Node) : n.shape.items = n.items.map bare := by cases n <;> rfl

@[simp] theorem children_shape (n : Node) : n.shape.children = n.children.map bare := by
  rw [children, items_shape, List.filter_map, children]
  congr 2
  funext c
  exact isChild_bare c

theorem Edits.bare_eq (h : Edits n n') : n'.bare = n.bare := by
  obtain ⟨i, items, items', rfl, rfl⟩ := h
  rfl

theorem Exchanged.edits (hm : Edits m m') (h : Exchanged m m' path n n') : Edits n n' := by
  cases h with
  | here => exact hm
  | inside => exact ⟨_, _, _, rfl, rfl⟩

theorem Exchanged.shape_eq (hm : Edits m m') (h : Exchanged m m' path n n') (hplace : ¬ path <+: place) :
    (n'.at? place).map shape = (n.at? place).map shape := by
  induction h generalizing place with
  | here => exact (hplace List.nil_prefix).elim
  | @inside i before after c c' path hc h ih =>
    have hc' : c'.isChild = true := h.takesPlace.isChild.trans hc
    cases place with
    | nil =>
      rw [Node.at?, Node.at?, Option.map_some, Option.map_some, shape, shape, List.map_append,
        List.map_append, List.map_cons, List.map_cons, (h.edits hm).bare_eq]
    | cons j place =>
      rw [Node.at?, Node.at?, children, children, items, items]
      by_cases hj : j = before.countP isChild
      · subst hj
        rw [getElem?_filter_isChild hc, getElem?_filter_isChild hc', Option.bind_some, Option.bind_some]
        exact ih fun hle => hplace (List.cons_prefix_cons.2 ⟨rfl, hle⟩)
      · rw [getElem?_filter_replaced hc hc' hj]

theorem isPrintedAlong_of (h : ∀ place m, place <+: path → n.at? place = some m →
    ∀ c ∈ m.items, c.isPrinted = true) : IsPrintedAlong path n := by
  induction path generalizing n with
  | nil => exact trivial
  | cons k path ih =>
    intro c hc
    have hmem := (List.mem_filter.1 (List.mem_of_getElem? hc)).1
    refine ⟨fun _ => h [] n List.nil_prefix rfl c hmem, ih fun place m hle hat => ?_⟩
    refine h (k :: place) m (List.cons_prefix_cons.2 ⟨rfl, hle⟩) ?_
    rw [Node.at?, hc]
    exact hat

end

end Phrasebook.Node

namespace Phrasebook

open Node

def isAsyncToken (n : Node) : Bool := n.kind == "async"

/-- What the grammars of scripts promise of blocks and functions: a block opens with a brace, and a function
has one modifier at most that makes it async, a token in no field. -/
structure Formed (n : Node) : Prop where
  brace : n.kind = "statement_block" → n.children.head?.map kind = some "\x7b"
  async : Scope.isFunction n = true → ((n.children.filter isAsyncToken).map field).Sublist [none]

instance (n : Node) : Decidable (Formed n) :=
  decidable_of_iff ((n.kind = "statement_block" → n.children.head?.map kind = some "\x7b") ∧
      (Scope.isFunction n = true → ((n.children.filter isAsyncToken).map field).Sublist [none]))
    ⟨fun h => ⟨h.1, h.2⟩, fun h => ⟨h.brace, h.async⟩⟩

/-- A node that prints all its items. One of the source has only items that stand for a part of it. -/
structure IsOrderly (n : Node) : Prop where
  printed : ∀ c ∈ n.items, c.isPrinted = true
  source : n.info.built = false → ∀ c ∈ n.items, c.isChild = true ∧ c.info.start ≠ none
  formed : n.info.built = false → Formed n
  built : n.info.built = true → newKinds.contains n.kind = true

section Nodes

variable {i j : Info} {n : Node} {items : List Node}

@[simp] theorem isFunction_shape (n : Node) : Scope.isFunction n.shape = Scope.isFunction n := by
  simp [Scope.isFunction]

theorem formed_shape : Formed n.shape ↔ Formed n := by
  have hhead : n.shape.children.head?.map kind = n.children.head?.map kind := by simp [Function.comp_def]
  have hasyncs : (n.shape.children.filter isAsyncToken).map field =
      (n.children.filter isAsyncToken).map field := by
    rw [children_shape, List.filter_map, List.map_map,
      show isAsyncToken ∘ bare = isAsyncToken from funext fun c => congrArg (· == "async") (kind_bare c),
      show field ∘ bare = field from funext field_bare]
  constructor
  · rintro ⟨hbrace, hasync⟩
    rw [kind_shape, hhead] at hbrace
    rw [isFunction_shape, hasyncs] at hasync
    exact ⟨hbrace, hasync⟩
  · rintro ⟨hbrace, hasync⟩
    rw [← kind_shape, ← hhead] at hbrace
    rw [← isFunction_shape, ← hasyncs] at hasync
    exact ⟨hbrace, hasync⟩

theorem isOrderly_shape : IsOrderly n.shape ↔ IsOrderly n := by
  have hprinted : (∀ c ∈ n.shape.items, c.isPrinted = true) ↔ ∀ c ∈ n.items, c.isPrinted = true := by simp
  have hsource : (∀ c ∈ n.shape.items, c.isChild = true ∧ c.info.start ≠ none) ↔
      ∀ c ∈ n.items, c.isChild = true ∧ c.info.start ≠ none := by simp
  constructor
  · rintro ⟨h₁, h₂, h₃, h₄⟩
    rw [built_shape] at h₂ h₃ h₄
    rw [kind_shape] at h₄
    exact ⟨hprinted.1 h₁, fun h => hsource.1 (h₂ h), fun h => formed_shape.1 (h₃ h), h₄⟩
  · rintro ⟨h₁, h₂, h₃, h₄⟩
    rw [← built_shape] at h₂ h₃ h₄
    rw [← kind_shape] at h₄
    exact ⟨hprinted.2 h₁, fun h => hsource.2 (h₂ h), fun h => formed_shape.2 (h₃ h), h₄⟩

theorem IsOrderly.of_shape {m : Node} (h : IsOrderly m) (hshape : n.shape = m.shape) : IsOrderly n :=
  isOrderly_shape.1 (hshape ▸ isOrderly_shape.2 h)

theorem IsOrderly.not_built (h : IsOrderly n) (hkind : newKinds.contains n.kind = false) :
    n.info.built = false := by
  cases hbuilt : n.info.built with
  | false => rfl
  | true => exact absurd (hkind.symm.trans (h.built hbuilt)) Bool.false_ne_true

theorem IsOrderly.children_eq (h : IsOrderly n) (hbuilt : n.info.built = false) : n.children = n.items :=
  List.filter_eq_self.2 fun c hc => (h.source hbuilt c hc).1

theorem IsOrderly.exists_brace (h : IsOrderly n) (hblock : n.kind = "statement_block") :
    ∃ brace rest, n.children = brace :: rest ∧ brace.kind = "\x7b" := by
  have hbrace := (h.formed (h.not_built (by rw [hblock]; decide))).brace hblock
  cases hchildren : n.children with
  | nil =>
    rw [hchildren] at hbrace
    cases hbrace
  | cons brace rest =>
    rw [hchildren] at hbrace
    exact ⟨brace, rest, rfl, Option.some.inj hbrace⟩

theorem isOrderly_text (t : Text) : IsOrderly (.text t) where
  printed _ hc := absurd hc List.not_mem_nil
  source _ _ hc := absurd hc List.not_mem_nil
  formed _ := by
    constructor
    · intro hkind
      simp [kind, info] at hkind
    · intro hfn
      simp [Scope.isFunction, Scope.functionKinds, kind, info] at hfn
  built h := absurd h Bool.false_ne_true

theorem throughout_text (t : Text) : Throughout IsOrderly (.text t) :=
  .intro (isOrderly_text t) fun _ hc => absurd hc List.not_mem_nil

theorem throughout_mapInfo {f : Info → Info} (hkind : ∀ i, (f i).kind = i.kind)
    (hnamed : ∀ i, (f i).named = i.named) (hbuilt : ∀ i, (f i).built = i.built)
    (h : Throughout IsOrderly n) : Throughout IsOrderly (n.mapInfo f) := by
  cases n with
  | text t => exact h
  | branch i items =>
    obtain ⟨hprinted, hsource, hformed, hnew⟩ := h.here
    refine .intro ⟨hprinted, fun hb => hsource ((hbuilt i).symm.trans hb), fun hb => ?_, fun hb => ?_⟩
      fun c hc => h.of_mem hc
    · obtain ⟨hbrace, hasync⟩ := hformed ((hbuilt i).symm.trans hb)
      refine ⟨fun hblock => hbrace ((hkind i).symm.trans hblock), fun hfn => hasync ?_⟩
      rw [← hfn]
      show (i.named && _) = ((f i).named && Scope.functionKinds.contains (f i).kind)
      rw [hnamed, hkind]
      rfl
    · show newKinds.contains (f i).kind = true
      rw [hkind]
      exact hnew ((hbuilt i).symm.trans hb)

theorem inherit_eq (i old : Info) :
    ∃ start stop, i.inherit old = { i with start, stop } := by
  unfold Info.inherit
  split
  · exact ⟨i.start, i.stop, rfl⟩
  · exact ⟨_, _, rfl⟩

theorem throughout_inPlaceOf (old : Node) (h : Throughout IsOrderly n) :
    Throughout IsOrderly (n.inPlaceOf old) := by
  refine throughout_mapInfo (fun i => ?_) (fun i => ?_) (fun i => ?_) h <;>
    obtain ⟨_, _, heq⟩ := inherit_eq i old.info <;> simp only [heq]

theorem throughout_placedRun (first : Node) (more : List Node) (h : Throughout IsOrderly n) :
    Throughout IsOrderly (Pass.placedRun n first more) := by
  unfold Pass.placedRun
  split
  · exact throughout_inPlaceOf first h
  · refine throughout_mapInfo (fun i => ?_) (fun i => ?_) (fun i => ?_) h <;>
      obtain ⟨_, _, heq⟩ := inherit_eq i first.info <;> simp only [heq]

theorem throughout_build {kind : String} (hkind : newKinds.contains kind = true)
    (h : ∀ c ∈ items, Throughout IsOrderly c) : Throughout IsOrderly (build kind items) := by
  refine .intro ⟨fun c hc => ?_, fun hb => absurd hb.symm Bool.false_ne_true,
    fun hb => absurd hb.symm Bool.false_ne_true, fun _ => hkind⟩ fun c hc => ?_
  · obtain ⟨d, -, rfl⟩ := List.mem_map.1 hc
    exact isPrinted_standing d
  · obtain ⟨d, hd, rfl⟩ := List.mem_map.1 hc
    exact throughout_mapInfo (fun _ => rfl) (fun _ => rfl) (fun _ => rfl) (h d hd)

theorem throughout_of_isLaid : ∀ {n : Node}, n.isLaid = true → (∀ m ∈ n.preorder, Formed m) →
    Throughout IsOrderly n
  | .text t, _, _ => throughout_text t
  | .branch i items, hn, hformed => by
    have hbuilt : i.built = false := (isLaid_branch.1 hn).1
    have hlaid : ∀ c ∈ items, c.isLaid = true := fun c hc => isLaid_of_mem_items hn hc
    refine .intro ⟨fun c hc => ?_, fun _ c hc => ?_, fun _ => hformed _ mem_preorder_self,
      fun hb => absurd (hbuilt.symm.trans hb) Bool.false_ne_true⟩ fun c hc => ?_
    · obtain ⟨-, hsame⟩ := isFull_of_isLaid (hlaid c hc)
      rw [← hsame]
      exact isPrinted_standing c
    · exact ⟨isChild_of_isLaid (hlaid c hc), (isTidy_of_isLaid (hlaid c hc)).start⟩
    · refine throughout_of_isLaid (hlaid c hc) fun m hm => hformed m ?_
      rw [preorder]
      exact List.mem_cons_of_mem _ (mem_preorderItems hc (isChild_of_isLaid (hlaid c hc)) hm)
termination_by n => n.weight
decreasing_by
  have hlt : c.weight < weightItems items := weight_lt_of_mem hc
  rw [weight]
  omega

theorem isSturdy_of_orderly {n : Node} (h : Throughout IsOrderly n) (hn : n.isLaid = true) :
    n.isSturdy = true := by
  induction h with
  | @intro n h hitems ih =>
    cases n with
    | text t => cases hn
    | branch i items =>
      refine isSturdy_branch.2 ⟨fun hblock => ?_, fun c hc => ih c hc (isLaid_of_mem_items hn hc)⟩
      obtain ⟨brace, rest, hchildren, -⟩ := h.exists_brace hblock
      have hmem : brace ∈ (branch i items).children := by simp [hchildren]
      exact ⟨brace, List.mem_filter.1 hmem⟩

end Nodes

namespace Wrap

variable {function key : Text} {options : List (Text × Node)}

theorem throughout_optionItems (h : ∀ o ∈ options, Throughout IsOrderly o.2) :
    ∀ m ∈ optionItems options, Throughout IsOrderly m := by
  induction options with
  | nil => simp [optionItems]
  | cons o rest ih =>
    obtain ⟨he, hrest⟩ := List.forall_mem_cons.1 h
    cases rest with
    | nil => exact List.forall_mem_cons.2 ⟨throughout_text _, List.forall_mem_singleton.2 he⟩
    | cons next rest =>
      rw [optionItems.eq_3 _ _ _ (by simp), List.forall_mem_cons, List.forall_mem_cons, List.forall_mem_cons]
      exact ⟨throughout_text _, he, throughout_text _, ih hrest⟩

theorem throughout_lookupCall (h : ∀ o ∈ options, Throughout IsOrderly o.2) :
    Throughout IsOrderly (lookupCall function key options) := by
  refine throughout_build rfl (List.forall_mem_cons.2 ⟨throughout_text _, List.forall_mem_cons.2
    ⟨throughout_text _, List.forall_mem_append.2 ⟨?_, List.forall_mem_singleton.2 (throughout_text _)⟩⟩⟩)
  split
  · exact fun m hm => absurd hm List.not_mem_nil
  · exact List.forall_mem_cons.2 ⟨throughout_text _, List.forall_mem_append.2 ⟨throughout_optionItems h,
      List.forall_mem_singleton.2 (throughout_text _)⟩⟩

theorem throughout_braced {n : Node} (h : Throughout IsOrderly n) : Throughout IsOrderly (braced n) :=
  throughout_build rfl (List.forall_mem_cons.2 ⟨throughout_text _, List.forall_mem_cons.2
    ⟨h, List.forall_mem_singleton.2 (throughout_text _)⟩⟩)

theorem throughout_ofString (value : Text) (inAttribute : Bool) :
    Throughout IsOrderly (ofString function value inAttribute) := by
  have hcall : Throughout IsOrderly (lookupCall function value []) :=
    throughout_lookupCall fun o ho => absurd ho List.not_mem_nil
  cases inAttribute with
  | false => exact hcall
  | true => exact throughout_braced hcall

theorem throughout_ofJsxText (raw value : Text) : Throughout IsOrderly (ofJsxText function raw value) :=
  throughout_build rfl (List.forall_mem_cons.2 ⟨throughout_text _, List.forall_mem_cons.2
    ⟨throughout_ofString value true, List.forall_mem_singleton.2 (throughout_text _)⟩⟩)

end Wrap

namespace Pass

variable {env : Env} {owner : Option Text} {frames : List Frame} {f : Focus}

theorem Visit.kind_eq {made : Made Node} {ws : List Wrapped} (h : Visit env owner frames f made ws)
    (hstring : f.node.kind ≠ "string") (htemplate : f.node.kind ≠ "template_string") :
    made.part.kind = f.node.kind := by
  cases h with
  | skipped => rfl
  | component => rfl
  | entered => rfl
  | string _ _ _ hkind => exact (hstring hkind).elim
  | otherString => rfl
  | template _ _ _ hkind => exact (htemplate hkind).elim

theorem Visit.built {made : Made Node} {ws : List Wrapped} (h : Visit env none frames f made ws) :
    made.part.info.built = f.node.info.built := by
  cases h with
  | skipped => rfl
  | component => rfl
  | entered => rfl

theorem isAsyncToken_of_run {name : Text} {more : List Node} {new : Node}
    (h : (wrapRun? env name f more).result = .ok (some new)) : isAsyncToken new = false := by
  obtain ⟨value, -, -, -, rfl⟩ := wrapRun?_eq_some h
  rw [isAsyncToken, kind_placedRun]
  rfl

theorem asyncs_cons {n n' : Node} {items items' : List Node} (hn : Stays n n')
    (h : ((items'.filter isAsyncToken).map field).Sublist ((items.filter isAsyncToken).map field)) :
    (((n' :: items').filter isAsyncToken).map field).Sublist
      (((n :: items).filter isAsyncToken).map field) := by
  rcases hn.kind with hkind | hkind
  · have hsame : isAsyncToken n' = isAsyncToken n := congrArg (· == "async") hkind
    rw [List.filter_cons, List.filter_cons, hsame]
    split
    · rw [List.map_cons, List.map_cons, hn.field]
      exact h.cons_cons _
    · exact h
  · have hnew : ¬ isAsyncToken n' = true := by
      intro hasync
      rw [beq_iff_eq.1 hasync] at hkind
      exact absurd hkind (by decide)
    rw [List.filter_cons_of_neg hnew]
    exact h.trans (List.Sublist.map _ (List.Sublist.filter _ (List.sublist_cons_self n items)))

theorem Visits.asyncs {owner : Option Text} {parent : Info} {frames : List Frame} {before : List Node}
    {k : Nat} {places : List Focus} {made : Made (List Node)} {ws : List Wrapped} :
    Visits env owner parent frames before k places made ws →
      ((made.part.filter isAsyncToken).map field).Sublist
        (((places.map (·.node)).filter isAsyncToken).map field)
  | .nil => .slnil
  | .node _ hfirst hrest => asyncs_cons hfirst.stays hrest.asyncs
  | .run _ _ _ _ hwrap hrest => by
    rw [List.filter_cons_of_neg (by rw [isAsyncToken_of_run hwrap]; exact Bool.false_ne_true)]
    refine hrest.asyncs.trans (List.Sublist.map _ (List.Sublist.filter _ (List.Sublist.map _ ?_)))
    exact (List.drop_sublist _ _).cons _
  | .otherRun _ hmore _ hrest => by
    rw [← append_drop_takeWhile hmore, ← List.cons_append, List.map_append, List.filter_append,
      List.filter_append, List.map_append, List.map_append]
    exact (List.Sublist.refl _).append hrest.asyncs

theorem Visits.brace {parent : Info} {before : List Node} {k : Nat} {places : List Focus}
    {made : Made (List Node)} {ws : List Wrapped}
    (h : Visits env owner parent frames before k places made ws)
    (hbrace : (places.map (·.node)).head?.map kind = some "\x7b") :
    made.part.head?.map kind = some "\x7b" := by
  cases h with
  | nil => cases hbrace
  | run _ _ hjsx =>
    rw [Literal.isJsxText, Option.some.inj hbrace] at hjsx
    exact absurd hjsx (by decide)
  | otherRun => exact hbrace
  | node _ hfirst _ =>
    have hkind := Option.some.inj hbrace
    have hsame := hfirst.kind_eq (by rw [hkind]; decide) (by rw [hkind]; decide)
    exact congrArg some (hsame.trans hkind)

theorem throughout_reassemble {owner : Option Text} {below : Made (List Node)} {ws : List Wrapped}
    (hparsed : f.node.Parsed) (h : IsOrderly f.node)
    (hbelow : Visits env owner f.node.info frames [] 0 f.children below ws)
    (hitems : ∀ c ∈ below.part, Throughout IsOrderly c) :
    Throughout IsOrderly (reassemble f.node.info below).part := by
  have hchildren := parsed_children hparsed
  have hfull := (hbelow.placed hchildren).full
  have htidy := hbelow.isTidy hchildren
  have hpart : (reassemble f.node.info below).part.children = below.part := children_of_isFull hfull
  have hplaces : f.children.map (·.node) = f.node.children := by
    rw [Focus.map_node_children hparsed.laid, children_of_isLaid hparsed.laid]
  have hbuilt := Header.built_of_parsed hparsed
  obtain ⟨hbrace, hasync⟩ := h.formed hbuilt
  refine .intro ⟨fun c hc => ?_, fun _ c hc => ⟨(htidy c hc).isChild, (htidy c hc).start⟩, fun _ => ⟨?_, ?_⟩,
    fun hb => absurd (hbuilt.symm.trans hb) Bool.false_ne_true⟩ hitems
  · rw [← (hfull c hc).same]
    exact isPrinted_standing c
  · intro hblock
    rw [hpart]
    exact hbelow.brace (by rw [hplaces]; exact hbrace hblock)
  · intro hfn
    rw [hpart]
    exact hbelow.asyncs.trans (hplaces ▸ hasync hfn)

theorem throughout_children (hparsed : f.node.Parsed) (h : Throughout IsOrderly f.node) :
    ∀ p ∈ f.children, Throughout IsOrderly p.node := by
  intro p hp
  refine h.of_mem ?_
  rw [← Focus.map_node_children hparsed.laid]
  exact List.mem_map_of_mem hp

theorem throughout_of_string {name : Text} {new : Node}
    (h : (wrapString? env name f).result = .ok (some new)) : Throughout IsOrderly new := by
  obtain ⟨value, -, -, -, rfl⟩ := wrapString?_eq_some h
  exact throughout_inPlaceOf _ (Wrap.throughout_ofString value _)

theorem throughout_of_run {name : Text} {more : List Node} {new : Node}
    (h : (wrapRun? env name f more).result = .ok (some new)) : Throughout IsOrderly new := by
  obtain ⟨value, -, -, -, rfl⟩ := wrapRun?_eq_some h
  exact throughout_placedRun _ _ (Wrap.throughout_ofJsxText _ value)

theorem throughout_ofTemplate {key : Text} {names : List Text} {below : Made (List Node)} (n : Node)
    (h : ∀ c ∈ below.part, Throughout IsOrderly c) :
    Throughout IsOrderly (ofTemplate env key n names below).part := by
  have hcall : Throughout IsOrderly (templateCall env key (names.zip below.part) n) :=
    throughout_inPlaceOf n (Wrap.throughout_lookupCall fun o ho => h o.2 (List.of_mem_zip ho).2)
  exact .intro (hcall.here.of_shape rfl) fun c hc => hcall.of_mem hc

mutual

theorem Visit.orderly {owner : Option Text} {frames : List Frame} {f : Focus} {made : Made Node}
    {ws : List Wrapped} : Visit env owner frames f made ws → Throughout IsOrderly f.node →
      Throughout IsOrderly made.part
  | .skipped _ _, h => h
  | .otherString _ _ _ _ _, h => h
  | .string _ _ _ _ hwrap, _ => throughout_of_string hwrap
  | .component hsees _ _ _ hbelow, h =>
    throughout_reassemble hsees.parsed h.here hbelow
      (hbelow.orderly (throughout_children hsees.parsed h))
  | .entered hsees _ hbelow, h =>
    throughout_reassemble hsees.parsed h.here hbelow
      (hbelow.orderly (throughout_children hsees.parsed h))
  | .template hsees _ _ _ _ hbelow, h => by
    refine throughout_ofTemplate _ (hbelow.orderly fun p hp => ?_)
    obtain ⟨s, hs, -, hp | rfl⟩ := keptFoci_cases hp
    · exact throughout_children (parsed_children hsees.parsed s hs)
        (throughout_children hsees.parsed h s hs) p hp
    · exact throughout_children hsees.parsed h p hs

theorem Visits.orderly {owner : Option Text} {parent : Info} {frames : List Frame} {before : List Node}
    {k : Nat} {places : List Focus} {made : Made (List Node)} {ws : List Wrapped} :
    Visits env owner parent frames before k places made ws →
      (∀ p ∈ places, Throughout IsOrderly p.node) → ∀ n ∈ made.part, Throughout IsOrderly n
  | .nil, _ => fun n hn => absurd hn List.not_mem_nil
  | .node _ hfirst hrest, h => by
    obtain ⟨hf, hplaces⟩ := List.forall_mem_cons.1 h
    exact List.forall_mem_cons.2 ⟨hfirst.orderly hf, hrest.orderly hplaces⟩
  | .otherRun _ hmore _ hrest, h => by
    rw [← append_drop_takeWhile hmore, ← List.cons_append, List.forall_mem_append] at h
    refine List.forall_mem_append.2 ⟨?_, hrest.orderly h.2⟩
    rw [← List.map_cons]
    exact List.forall_mem_map.2 h.1
  | .run _ _ _ _ hwrap hrest, h => by
    refine List.forall_mem_cons.2 ⟨throughout_of_run hwrap, hrest.orderly fun p hp => ?_⟩
    exact (List.forall_mem_cons.1 h).2 p (List.mem_of_mem_drop hp)

end

end Pass

end Phrasebook
