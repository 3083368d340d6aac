import Mathlib.Data.List.Flatten
import Mathlib.Data.List.TakeWhile
import Mathlib.Logic.Function.Iterate
import Phrasebook.Proofs.Wrap.Comments
import Phrasebook.Proofs.Wrap.Exclusion
import Phrasebook.Proofs.Wrap.Module
import Phrasebook.Proofs.Wrap.Stages
import Phrasebook.Proofs.Wrap.Unwinding

/-! The walk with a stack from its start to its end. The nodes as parsed that were visited, followed by
those that are on the stack with all below them, are in the order of the tree and none is there twice. A
step only takes nodes out of this list: those of a run that was replaced, and those of a template that its
call does not keep. Every step lowers a measure of what is on the stack, although a replacement puts nodes
there that were in no tree before: what takes the place of a literal has a bounded weight, and what is
left of a template weighs no more than the template. So the loop ends, and it ends with what the recursive
walk makes and logs. -/

namespace Phrasebook

namespace Focus

theorem preorder_eq {f : Focus} (h : f.node.isChild = true) : f.preorder = f :: f.inner := by
  obtain ⟨node, frames⟩ := f
  cases node with
  | text t => cases h
  | branch i items => rw [preorder, Node.foci]; rfl

theorem flatMap_preorder_ofItems (info : Info) (frames : List Frame) (before items : List Node) :
    (ofItems info frames before items).flatMap preorder = Node.fociItems frames info before items := by
  induction items generalizing before with
  | nil => rfl
  | cons n rest ih =>
    rw [ofItems, Node.fociItems]
    split
    · rw [List.flatMap_cons, ih]
      rfl
    · exact ih _

theorem inner_eq (f : Focus) : f.inner = f.children.flatMap preorder :=
  (flatMap_preorder_ofItems _ _ _ _).symm

theorem isChild_of_mem_children {f c : Focus} (h : c ∈ f.children) : c.node.isChild = true := by
  have hc : c.node ∈ f.children.map (·.node) := List.mem_map_of_mem h
  rw [children, map_node_ofItems] at hc
  exact (List.mem_filter.1 hc).2

/-- The siblings after a node that belong to the same run of JSX text, where they stand. -/
def runAfter (f : Focus) : List Focus :=
  match f.frames with
  | [] => []
  | frame :: frames =>
    (ofItems frame.info frames (f.node :: frame.before) frame.after).takeWhile fun p =>
      Literal.isJsxText p.node

end Focus

namespace Pass

open Focus

theorem Once.cons_of_children {f : Focus} {nodes : List Focus} (h : Once f.children nodes) :
    Once [f] (f :: nodes) := by
  have hbelow := h.of_below fun p hp => (prefix_path_of_mem_children hp).1
  refine ⟨List.nodup_cons.2 ⟨fun hf => ?_, h.nodup⟩, ?_⟩
  · obtain ⟨p, hp, hpf⟩ := h.under f hf
    obtain ⟨hle, hne⟩ := prefix_path_of_mem_children hp
    exact hne (hpf.eq_of_length_le hle.length_le)
  · exact List.forall_mem_cons.2 ⟨⟨f, List.mem_singleton_self f, List.prefix_rfl⟩, hbelow.under⟩

mutual

theorem once_foci : ∀ (n : Node) (frames : List Frame), Once [⟨n, frames⟩] (n.foci frames)
  | .text _, _ => .nil _
  | .branch i items, frames => by
    rw [Node.foci]
    exact @Once.cons_of_children ⟨.branch i items, frames⟩ _ (once_fociItems i frames items [])

theorem once_fociItems (i : Info) (frames : List Frame) : ∀ (items before : List Node),
    Once (ofItems i frames before items) (Node.fociItems frames i before items)
  | [], _ => .nil _
  | n :: rest, before => by
    have hapart := pairwise_apart_ofItems i frames before (n :: rest)
    rw [ofItems] at hapart ⊢
    rw [Node.fociItems]
    split
    next hn =>
      rw [if_pos hn, List.pairwise_cons] at hapart
      refine (once_foci n _).append (once_fociItems i frames rest _) fun p hp => ?_
      rw [List.mem_singleton.1 hp]
      exact hapart.1
    next => exact once_fociItems i frames rest _

end

theorem nodup_foci (n : Node) (frames : List Frame) : (n.foci frames).Nodup := (once_foci n frames).nodup

theorem preorder_sublist_inner {f c : Focus} (hc : c ∈ f.children) : c.preorder.Sublist f.inner := by
  have h := (List.singleton_sublist.2 hc).flatMap preorder
  rwa [List.flatMap_singleton, ← inner_eq] at h

theorem preorder_expressionFocus_sublist {s : Focus} (hs : s.node.isChild = true) :
    (expressionFocus s).preorder.Sublist s.preorder := by
  rcases expressionFocus_cases s with h | h
  · rw [preorder_eq hs]
    exact (preorder_sublist_inner h).cons _
  · rw [h]

theorem flatMap_kept_sublist (source : Bytes) (f : Focus) :
    (((keptFoci source f).map (·.2)).flatMap preorder).Sublist f.inner := by
  have hkept : ((keptFoci source f).map (·.2)).Sublist (expressionFoci f) :=
    ((firstUses_sublist _ _).map _).trans (map_snd_zip_sublist _ _)
  refine (hkept.flatMap _).trans ?_
  rw [expressionFoci, List.flatMap_map, inner_eq]
  refine (List.Sublist.flatMap_right _ fun s hs => ?_).trans (List.filter_sublist.flatMap _)
  exact preorder_expressionFocus_sublist (isChild_of_mem_children (List.mem_filter.1 hs).1)

/-- The nodes as parsed that were visited. -/
def places (visited : List Visited) : List Focus := visited.filterMap (·.item.parsed?)

namespace Item

def ahead : Item → List Focus
  | parsed f => f.preorder
  | made _ => []

def inner : Item → List Focus
  | parsed f => f.inner
  | made _ => []

theorem ahead_eq {item : Item} (h : item.node.isChild = true) :
    item.ahead = item.parsed?.toList ++ item.inner := by
  cases item with
  | parsed f => exact preorder_eq h
  | made n => rfl

@[simp] theorem flatMap_ahead_parsed (fs : List Focus) :
    (fs.map parsed).flatMap ahead = fs.flatMap preorder := List.flatMap_map ..

@[simp] theorem flatMap_ahead_made (ns : List Node) : (ns.map made).flatMap ahead = [] := by
  simp [ahead]

end Item

def Stage.ahead (s : Stage) : List Focus := s.pending.flatMap Item.ahead

def State.ahead : State → List Focus
  | .root n => (Focus.ofRoot n).preorder
  | .inside s outer => s.ahead ++ outer.flatMap Stage.ahead
  | .ended _ => []

def Answer.ahead : Answer → List Focus
  | .leave => []
  | .enter t => t.ahead
  | .replace t _ => t.ahead

section Steps

variable {env : Env} {context : Option Context} {item : Item} {frames : List Frame} {answer : Answer}

theorem ahead_into (owner : Option Context) (finish : Finish) :
    (Stage.into item frames owner finish).ahead = item.inner := by
  cases item with
  | parsed f => exact (Item.flatMap_ahead_parsed _).trans f.inner_eq.symm
  | made n => exact Item.flatMap_ahead_made _

theorem ahead_inPlace (new : Node) : (Stage.inPlace new frames context).ahead = [] := ahead_into _ _

theorem ahead_ofTemplate (key : Text) (f : Focus) :
    (Stage.ofTemplate env key (.parsed f) frames context).ahead =
      ((keptFoci env.source f).map (·.2)).flatMap preorder := by
  have hkept : ((Item.parsed f).kept env.source).map (·.2) =
      ((keptFoci env.source f).map (·.2)).map .parsed := by simp [Item.kept, Function.comp_def]
  rw [Stage.ahead, Stage.ofTemplate, hkept, Item.flatMap_ahead_parsed]

theorem Goes.ahead (h : Goes env context item frames answer) : answer.ahead.Sublist item.inner := by
  cases h with
  | left => exact List.nil_sublist _
  | entered => rw [Answer.ahead, ahead_into]
  | component => rw [Answer.ahead, ahead_into]
  | string =>
    rw [Answer.ahead, ahead_inPlace]
    exact List.nil_sublist _
  | run =>
    rw [Answer.ahead, ahead_inPlace]
    exact List.nil_sublist _
  | template =>
    rw [Answer.ahead]
    cases item with
    | parsed f =>
      rw [ahead_ofTemplate]
      exact flatMap_kept_sublist _ _
    | made n =>
      have hkept : ((Item.made n).kept env.source).map (·.2) =
          ((keptExpressions env.source n.items).map (·.2)).map .made := by simp [Item.kept, Function.comp_def]
      rw [Stage.ahead, Stage.ofTemplate, hkept, Item.flatMap_ahead_made]
      exact List.nil_sublist _

theorem places_append (visited : List Visited) (v : Visited) :
    places (visited ++ [v]) = places visited ++ v.item.parsed?.toList := by
  rw [places, List.filterMap_append]
  obtain ⟨item, context, deed⟩ := v
  cases item <;> rfl

theorem ahead_inside {s : Stage} {outer : List Stage} {rest : List Item} (h : s.pending = item :: rest) :
    State.ahead (.inside s outer) =
      item.ahead ++ (rest.flatMap Item.ahead ++ outer.flatMap Stage.ahead) := by
  rw [State.ahead, Stage.ahead, h, List.flatMap_cons, List.append_assoc]

theorem sublist_of_visit {visited : List Visited} {deed : Deed} {next later later' : List Focus}
    (hchild : item.node.isChild = true) (hnext : next.Sublist item.inner) (hlater : later'.Sublist later) :
    (places (visited ++ [⟨item, context, deed⟩]) ++ (next ++ later')).Sublist
      (places visited ++ (item.ahead ++ later)) := by
  rw [places_append, Item.ahead_eq hchild, List.append_assoc, List.append_assoc]
  exact (((hnext.append hlater).append_left _).append_left _)

theorem Round.ahead {visited : List Visited} {entries : List Entry} {state : State} {w : Walker}
    (h : Round env visited entries state w) (hgood : state.Good env) :
    (places w.visited ++ w.state.ahead).Sublist (places visited ++ state.ahead) := by
  have hroot {n : Node} {next : List Focus} {deed : Deed} (hn : n.Parsed)
      (hnext : next.Sublist (Focus.ofRoot n).inner) :
      (places (visited ++ [⟨.parsed (.ofRoot n), none, deed⟩]) ++ next).Sublist
        (places visited ++ State.ahead (.root n)) := by
    have hchild : (Item.parsed (.ofRoot n)).node.isChild = true := Node.isChild_of_isLaid hn.laid
    have h := @sublist_of_visit none (.parsed (.ofRoot n)) visited deed next [] [] hchild hnext .slnil
    rwa [List.append_nil, List.append_nil] at h
  cases h with
  | ended => exact .refl _
  | rootLeft => exact hroot hgood (List.nil_sublist _)
  | rootEntered hvisit hresult =>
    subst hvisit
    have hnext := (goes_of_visit hresult).ahead
    refine hroot hgood ?_
    rwa [State.ahead, List.flatMap_nil, List.append_nil]
  | passed => exact .refl _
  | aside hpending hchild =>
    rw [ahead_inside hpending]
    exact (List.sublist_append_right _ _).append_left _
  | failed hpending hchild =>
    rw [ahead_inside hpending]
    exact sublist_of_visit hchild (List.nil_sublist _) (List.nil_sublist _)
  | left hpending hchild =>
    rw [ahead_inside hpending]
    show (places _ ++ ([] ++ _)).Sublist _
    exact sublist_of_visit hchild (List.nil_sublist _) (.refl _)
  | entered hpending hchild hvisit hresult =>
    subst hvisit
    rw [ahead_inside hpending]
    exact sublist_of_visit hchild (goes_of_visit hresult).ahead (.refl _)
  | replaced hpending hchild hvisit hresult =>
    subst hvisit
    rw [ahead_inside hpending]
    exact sublist_of_visit hchild (goes_of_visit hresult).ahead
      (((List.drop_sublist _ _).flatMap _).append_right _)
  | closed hpending =>
    refine List.Sublist.append_left ?_ _
    exact List.sublist_append_right _ _
  | finished hpending => exact (List.nil_sublist _).append_left _

/-- The nodes that no longer count once a literal is replaced: those below it, but not those at or below
an expression of a template that the call keeps, and with JSX text the rest of the run. -/
inductive Dropped (source : Bytes) (f : Focus) : Focus → Prop
  | below {g : Focus} (hg : g ∈ f.inner)
      (hkept : f.node.kind = "template_string" → ∀ p ∈ (keptFoci source f).map (·.2), g ∉ p.preorder) :
      Dropped source f g
  | run {g p : Focus} (hjsx : Literal.isJsxText f.node = true) (hp : p ∈ f.runAfter)
      (hg : g ∈ p.preorder) : Dropped source f g

theorem not_mem_of_nodup {xs ys zs : List Focus} (h : (xs ++ (ys ++ zs)).Nodup) {g : Focus}
    (hg : g ∈ ys) : g ∉ xs ∧ g ∉ zs := by
  obtain ⟨-, hyz, hxy⟩ := List.nodup_append.1 h
  obtain ⟨-, -, hyz⟩ := List.nodup_append.1 hyz
  exact ⟨fun hx => hxy g hx g (List.mem_append_left _ hg) rfl, fun hz => hyz g hg g hz rfl⟩

theorem Ready.take_runAfter {s : Stage} {P : Made Node → Prop} {f : Focus} {rest : List Item}
    (h : Ready env s P) (hpending : s.pending = .parsed f :: rest)
    (hjsx : Literal.isJsxText f.node = true) {more : List Node}
    (hmore : more = (Focus.mk f.node (s.frame rest :: s.frames)).siblingsAfter.takeWhile
      Literal.isJsxText) : rest.take more.length = f.runAfter.map .parsed := by
  have hlaid := h.laid_of_jsxText hpending hjsx
  rw [Stage.siblingsAfter_frame, Node.filter_isChild hlaid] at hmore
  cases h with
  | @parsed g past items hsees hparent hitems hbeside hplaces =>
    obtain ⟨n, after, rfl, -, -, hf, hrest, -⟩ :=
      next_of_parsed hsees hitems (hpending.symm.trans hplaces)
    cases hf
    rw [hmore, hrest, List.map_map, List.takeWhile_map, List.length_map, ← List.map_take]
    exact congrArg _ (List.prefix_iff_eq_take.1 (List.takeWhile_prefix _)).symm
  | kept hsees hkind hparent hplaces hmap =>
    rw [← Item.node_parsed f, isJsxText_of_kept hsees hplaces (hpending.symm.trans hmap)] at hjsx
    cases hjsx
  | made hinert hparent hitems hmade =>
    cases hmade (.parsed f) (hpending ▸ List.mem_cons_self)

theorem not_mem_ahead_of_dropped {f g : Focus} {t : Stage} {run : Nat}
    (hgoes : Goes env context (.parsed f) frames (.replace t run))
    (hkept : f.node.kind = "template_string" → ∀ p ∈ (keptFoci env.source f).map (·.2), g ∉ p.preorder) :
    g ∉ t.ahead := by
  cases hgoes with
  | string => simp [ahead_inPlace]
  | run => simp [ahead_inPlace]
  | template hfn hkind =>
    rw [ahead_ofTemplate, List.mem_flatMap]
    rintro ⟨p, hp, hg⟩
    exact hkept hkind p hp hg

theorem Goes.run_of_jsxText {f : Focus} {t : Stage} {run : Nat}
    (hgoes : Goes env context (.parsed f) frames (.replace t run))
    (hjsx : Literal.isJsxText f.node = true) :
    ∃ more, more = (Focus.mk f.node frames).siblingsAfter.takeWhile Literal.isJsxText ∧
      run = more.length := by
  cases hgoes with
  | string hkind =>
    rw [Item.node_parsed] at hkind
    rw [Literal.isJsxText, hkind] at hjsx
    cases hjsx
  | template hfn hkind =>
    rw [Item.node_parsed] at hkind
    rw [Literal.isJsxText, hkind] at hjsx
    cases hjsx
  | run hjsx hmore => exact ⟨_, hmore, rfl⟩

theorem Goes.dropped {visited : List Visited} {s t : Stage} {P : Made Node → Prop} {outer : List Stage}
    {f g : Focus} {rest : List Item} {run : Nat}
    (hgoes : Goes env s.context (.parsed f) (s.frame rest :: s.frames) (.replace t run))
    (h : Ready env s P) (hpending : s.pending = .parsed f :: rest) (hchild : f.node.isChild = true)
    (hnodup : (places visited ++ State.ahead (.inside s outer)).Nodup) (hg : Dropped env.source f g) :
    g ∉ places visited ++ ([f] ++ (t.ahead ++
      ((rest.drop run).flatMap Item.ahead ++ outer.flatMap Stage.ahead))) := by
  rw [ahead_inside hpending, Item.ahead, preorder_eq hchild, ← List.singleton_append] at hnodup
  -- No node is in this list twice, so one of a part that is taken out is in no other part.
  cases hg with
  | below hg hkept =>
    rw [List.append_assoc, ← List.append_assoc (places visited)] at hnodup
    obtain ⟨hbefore, hafter⟩ := not_mem_of_nodup hnodup hg
    have hdrop : g ∉ (rest.drop run).flatMap Item.ahead := fun h =>
      hafter (List.mem_append_left _ (((List.drop_sublist _ _).flatMap _).subset h))
    have hnext := not_mem_ahead_of_dropped hgoes hkept
    simp only [List.mem_append, not_or] at hbefore hafter ⊢
    exact ⟨hbefore.1, hbefore.2, hnext, hdrop, hafter.2⟩
  | run hjsx hp hg =>
    obtain ⟨more, hmore, rfl⟩ := hgoes.run_of_jsxText hjsx
    have hrun := h.take_runAfter hpending hjsx hmore
    have hg' : g ∈ f.runAfter.flatMap preorder := List.mem_flatMap.2 ⟨_, hp, hg⟩
    rw [← List.take_append_drop more.length rest, List.flatMap_append, hrun, Item.flatMap_ahead_parsed,
      ← List.append_assoc (places visited), List.append_assoc (f.runAfter.flatMap _)] at hnodup
    obtain ⟨hbefore, hafter⟩ := not_mem_of_nodup hnodup hg'
    have hnext : g ∉ t.ahead := fun h =>
      hbefore (by simp [show g ∈ f.inner from hgoes.ahead.subset h])
    simp only [List.mem_append, not_or] at hbefore hafter ⊢
    exact ⟨hbefore.1, hbefore.2.1, hnext, hafter⟩

end Steps

end Pass
end Phrasebook

namespace Phrasebook

namespace Pass

section Weights

theorem weight_mapInfo (n : Node) (f : Info → Info) : (n.mapInfo f).weight = n.weight := by
  cases n <;> rfl

theorem weight_of_isChild {n : Node} (h : n.isChild = true) : n.weight = 1 + Node.weightItems n.items := by
  cases n with
  | text t => cases h
  | branch i items => rfl

theorem weight_wrapString {env : Env} {owner : Text} {f : Focus} {new : Node}
    (h : (wrapString? env owner f).result = .ok (some new)) : new.weight ≤ 12 := by
  obtain ⟨value, -, -, -, rfl⟩ := wrapString?_eq_some h
  rw [Node.inPlaceOf, weight_mapInfo]
  cases Literal.inAttribute f <;> simp [Wrap.ofString, Wrap.braced, Wrap.lookupCall, Wrap.callWith,
    Node.build, Node.weight, Node.weightItems, weight_mapInfo]

theorem weight_wrapRun {env : Env} {owner : Text} {f : Focus} {more : List Node} {new : Node}
    (h : (wrapRun? env owner f more).result = .ok (some new)) : new.weight ≤ 12 := by
  obtain ⟨value, -, -, -, rfl⟩ := wrapRun?_eq_some h
  have hplaced (new : Node) : (placedRun new f.node more).weight = new.weight := by
    unfold placedRun Node.inPlaceOf Node.inPlaceOfRun
    split <;> exact weight_mapInfo _ _
  rw [hplaced]
  simp [Wrap.ofJsxText, Wrap.braced, Wrap.lookupCall, Wrap.callWith, Node.build, Node.weight,
    Node.weightItems, weight_mapInfo]

end Weights

/-- The measure of a node on the stack. A node as parsed may be replaced by one of weight 12. -/
def Item.cost : Item → Nat
  | parsed f => 1 + 12 * f.node.weight
  | made n => 1 + n.weight

def costOf : List Item → Nat
  | [] => 0
  | item :: rest => item.cost + costOf rest

def Stage.cost (s : Stage) : Nat := 1 + s.detached.length + costOf s.pending

def costOfStages : List Stage → Nat
  | [] => 0
  | s :: outer => s.cost + costOfStages outer

def State.cost : State → Nat
  | .root n => 2 + 12 * n.weight
  | .inside s outer => s.cost + costOfStages outer
  | .ended _ => 0

def Answer.cost : Answer → Nat
  | .leave => 0
  | .enter t => t.cost
  | .replace t _ => t.cost

section Costs

variable {env : Env} {context : Option Context} {item : Item} {frames : List Frame} {answer : Answer}

theorem Item.cost_pos (item : Item) : 0 < item.cost := by
  unfold cost
  split <;> omega

theorem costOf_made (ns : List Node) : costOf (ns.map .made) = Node.weightItems ns := by
  induction ns with
  | nil => rfl
  | cons n ns ih => rw [List.map_cons, costOf, ih, Node.weightItems, Item.cost]

theorem costOf_parsed (fs : List Focus) :
    costOf (fs.map .parsed) ≤ 12 * Node.weightItems (fs.map (·.node)) := by
  induction fs with
  | nil => exact Nat.le_refl _
  | cons f fs ih =>
    rw [List.map_cons, costOf, List.map_cons, Node.weightItems, Item.cost]
    omega

theorem length_take_add_costOf_drop (k : Nat) (items : List Item) :
    (items.take k).length + costOf (items.drop k) ≤ costOf items := by
  induction items generalizing k with
  | nil => simp [costOf]
  | cons item rest ih =>
    cases k with
    | zero => simp
    | succ k =>
      have hpos := item.cost_pos
      have hrest := ih k
      rw [List.take_succ_cons, List.drop_succ_cons, List.length_cons, costOf]
      omega

theorem cost_into_made {n : Node} (hchild : n.isChild = true) (owner : Option Context) (finish : Finish) :
    (Stage.into (.made n) frames owner finish).cost = n.weight := by
  rw [weight_of_isChild hchild, ← costOf_made]
  rfl

theorem cost_into (h : Fits env context frames item) (hchild : item.node.isChild = true)
    (owner : Option Context) (finish : Finish) : (Stage.into item frames owner finish).cost < item.cost := by
  cases h with
  | @parsed f hparsed =>
    have hweight : f.node.weight = _ := weight_of_isChild hchild
    have hbelow := costOf_parsed f.children
    rw [Focus.map_node_children hparsed.laid] at hbelow
    show 1 + 0 + costOf (f.children.map .parsed) < 1 + 12 * f.node.weight
    omega
  | @made n =>
    have hn : n.isChild = true := hchild
    rw [cost_into_made hn]
    show n.weight < 1 + n.weight
    omega

theorem cost_inPlace {new : Node} (hchild : new.isChild = true) (hweight : new.weight ≤ 12) {f : Focus}
    (hf : f.node.isChild = true) : (Stage.inPlace new frames context).cost < (Item.parsed f).cost := by
  have hpos := weight_of_isChild hf
  rw [Stage.inPlace, cost_into_made hchild]
  show new.weight < 1 + 12 * f.node.weight
  omega

theorem cost_ofTemplate {f : Focus} (hlaid : f.node.isLaid = true) (key : Text) :
    (Stage.ofTemplate env key (.parsed f) frames context).cost < (Item.parsed f).cost := by
  have hweight := weight_of_isChild (Node.isChild_of_isLaid hlaid)
  have hkept := weightItems_keptExpressions_le env.source f.node.items
  have hcost := costOf_parsed ((keptFoci env.source f).map (·.2))
  have hnodes : ((keptFoci env.source f).map (·.2)).map (·.node) =
      (keptExpressions env.source f.node.items).map (·.2) := by
    rw [← map_keptFoci hlaid]
    simp [Function.comp_def]
  have hplaces : ((Item.parsed f).kept env.source).map (·.2) =
      ((keptFoci env.source f).map (·.2)).map .parsed := by simp [Item.kept, Function.comp_def]
  rw [hnodes] at hcost
  show 1 + 0 + costOf (((Item.parsed f).kept env.source).map (·.2)) < 1 + 12 * f.node.weight
  rw [hplaces]
  omega

theorem Goes.cost (hgoes : Goes env context item frames answer) (h : Fits env context frames item)
    (hchild : item.node.isChild = true) : answer.cost < item.cost := by
  cases hgoes with
  | left => exact item.cost_pos
  | entered => exact cost_into h hchild _ _
  | component => exact cost_into h hchild _ _
  | string hkind hwrap =>
    obtain ⟨-, hnew, f, rfl, -⟩ := h.of_string hkind hwrap
    exact cost_inPlace hnew (weight_wrapString hwrap) hchild
  | run hjsx hmore hwrap =>
    obtain ⟨-, hnew, -⟩ := h.of_run hjsx hwrap
    obtain ⟨f, rfl, -⟩ := h.parsed_of_kind Literal.jsxTextKinds hjsx (by decide)
    exact cost_inPlace hnew (weight_wrapRun hwrap) hchild
  | template hfn hkind =>
    obtain ⟨f, rfl, hsees, -⟩ := h.parsed_of_kind ["template_string"] (by simp [hkind]) (by decide)
    exact cost_ofTemplate hsees.parsed.laid _

theorem cost_inside {s : Stage} {outer : List Stage} {rest : List Item} (h : s.pending = item :: rest) :
    State.cost (.inside s outer) =
      1 + s.detached.length + (item.cost + costOf rest) + costOfStages outer := by
  rw [State.cost, Stage.cost, h, costOf]

theorem Round.cost {visited : List Visited} {entries : List Entry} {state : State} {w : Walker}
    (h : Round env visited entries state w) (hgood : state.Good env)
    (hrunning : ∀ result, state ≠ .ended result) : w.state.cost < state.cost := by
  cases h with
  | ended => exact absurd rfl (hrunning _)
  | rootLeft =>
    show 0 < 2 + 12 * _
    omega
  | @rootEntered n t answer hvisit hresult =>
    subst hvisit
    have hlt : t.cost < 1 + 12 * n.weight := (goes_of_visit hresult).cost (.parsed hgood .nil rfl)
      (Node.isChild_of_isLaid (hgood : n.Parsed).laid)
    show t.cost + 0 < 2 + 12 * n.weight
    omega
  | @passed s outer item detached hdetached =>
    show (1 + detached.length + costOf s.pending) + _ < (1 + s.detached.length + costOf s.pending) + _
    rw [hdetached, List.length_cons]
    omega
  | @aside s outer item rest hpending hchild =>
    have hpos := item.cost_pos
    rw [cost_inside hpending]
    show (1 + s.detached.length + costOf rest) + _ < _
    omega
  | @failed s outer item rest answer fault hpending =>
    have hpos := item.cost_pos
    rw [cost_inside hpending]
    show 0 < _
    omega
  | @left s outer item rest answer hpending =>
    have hpos := item.cost_pos
    rw [cost_inside hpending]
    show (1 + s.detached.length + costOf rest) + _ < _
    omega
  | @entered s t outer item rest answer hpending hchild hvisit hresult =>
    subst hvisit
    obtain ⟨P, h⟩ := Stacked.ready hgood
    have hlt : t.cost < item.cost := (goes_of_visit hresult).cost (h.fits hpending) hchild
    rw [cost_inside hpending]
    show t.cost + ((1 + s.detached.length + costOf rest) + costOfStages outer) < _
    omega
  | @replaced s t outer item rest run answer hpending hchild hvisit hresult =>
    subst hvisit
    obtain ⟨P, h⟩ := Stacked.ready hgood
    have hlt : t.cost < item.cost := (goes_of_visit hresult).cost (h.fits hpending) hchild
    have hrest := length_take_add_costOf_drop run rest
    rw [cost_inside hpending]
    show t.cost + ((1 + (rest.take run).length + costOf (rest.drop run)) + costOfStages outer) < _
    omega
  | @closed s t outer hpending =>
    show (1 + t.detached.length + costOf t.pending) + costOfStages outer <
      (1 + s.detached.length + costOf s.pending) +
        ((1 + t.detached.length + costOf t.pending) + costOfStages outer)
    omega
  | @finished s hpending =>
    show 0 < (1 + s.detached.length + costOf s.pending) + 0
    omega

end Costs

/-- A visit is told what the tree as parsed has around the node. -/
structure Visited.Informed (env : Env) (v : Visited) : Prop where
  context : ∀ f, v.item = .parsed f → v.context = contextOf? env.source f
  literal : Node.literalKinds.contains v.item.node.kind = true → ∃ f, v.item = .parsed f

theorem Fits.informed {env : Env} {context : Option Context} {frames : List Frame} {item : Item}
    (h : Fits env context frames item) (deed : Deed) : Visited.Informed env ⟨item, context, deed⟩ where
  context := by
    intro f hf
    cases h with
    | parsed hparsed haround hcontext =>
      cases hf
      exact hcontext.symm
    | made => cases hf
  literal hkind := by
    obtain ⟨f, hf, -⟩ := h.parsed_of_kind Node.literalKinds hkind (by decide)
    exact ⟨f, hf⟩

def Walker.Drops (env : Env) (w : Walker) (v : Visited) : Prop :=
  v.deed = .replaced → ∀ f, v.item = .parsed f → ∀ g, Dropped env.source f g →
    g ∉ places w.visited ++ w.state.ahead

/-- What holds of the loop at every moment of the walk over a tree. -/
structure Walker.Sound (env : Env) (root : Node) (w : Walker) : Prop where
  good : w.state.Good env
  meaning : w.meaning env = walk env root
  inOrder : (places w.visited ++ w.state.ahead).Sublist (root.foci [])
  informed : ∀ v ∈ w.visited, v.Informed env
  drops : ∀ v ∈ w.visited, w.Drops env v

theorem Walker.sound_start (env : Env) {root : Node} (h : root.Parsed) :
    Walker.Sound env root (.start root) where
  good := h
  meaning := by
    show Logged.mk ([] ++ (walkNode env none [] root).entries) _ = _
    rw [List.nil_append]
    rfl
  inOrder := .refl _
  informed := by simp [Walker.start]
  drops := by simp [Walker.start]

section Runs

variable {env : Env} {root : Node} {w : Walker}

theorem mem_or_of_mem_concat {visited : List Visited} {v : Visited} {p : Visited → Prop} (hv : p v) :
    ∀ u ∈ visited ++ [v], u ∈ visited ∨ p u := by
  intro u hu
  rcases List.mem_append.1 hu with hu | hu
  · exact .inl hu
  · exact .inr (List.mem_singleton.1 hu ▸ hv)

theorem Round.informed {visited : List Visited} {entries : List Entry} {state : State}
    (h : Round env visited entries state w) (hgood : state.Good env) :
    ∀ v ∈ w.visited, v ∈ visited ∨ v.Informed env := by
  have hroot {n : Node} (deed : Deed) (hn : n.Parsed) :
      Visited.Informed env ⟨.parsed (.ofRoot n), none, deed⟩ :=
    (.parsed hn .nil rfl : Fits env none [] (.parsed (.ofRoot n))).informed deed
  have hinside {s : Stage} {outer : List Stage} {item : Item} {rest : List Item} (deed : Deed)
      (hgood : Stacked env s outer) (hpending : s.pending = item :: rest) :
      Visited.Informed env ⟨item, s.context, deed⟩ := by
    obtain ⟨P, h⟩ := hgood.ready
    exact (h.fits hpending).informed deed
  cases h with
  | rootLeft => exact mem_or_of_mem_concat (hroot _ hgood)
  | rootEntered => exact mem_or_of_mem_concat (hroot _ hgood)
  | failed hpending => exact mem_or_of_mem_concat (hinside _ hgood hpending)
  | left hpending => exact mem_or_of_mem_concat (hinside _ hgood hpending)
  | entered hpending => exact mem_or_of_mem_concat (hinside _ hgood hpending)
  | replaced hpending => exact mem_or_of_mem_concat (hinside _ hgood hpending)
  | ended => exact fun v hv => .inl hv
  | passed => exact fun v hv => .inl hv
  | aside => exact fun v hv => .inl hv
  | closed => exact fun v hv => .inl hv
  | finished => exact fun v hv => .inl hv

theorem Round.drops {visited : List Visited} {entries : List Entry} {state : State}
    (h : Round env visited entries state w) (hgood : state.Good env)
    (hnodup : (places visited ++ state.ahead).Nodup) :
    ∀ v ∈ w.visited, v ∈ visited ∨ w.Drops env v := by
  cases h with
  | replaced hpending hchild hvisit hresult =>
    subst hvisit
    refine mem_or_of_mem_concat fun _ f hf g hg => ?_
    obtain ⟨P, h⟩ := Stacked.ready hgood
    cases hf
    rw [places_append, List.append_assoc]
    exact (goes_of_visit hresult).dropped h hpending hchild hnodup hg
  | rootLeft => exact mem_or_of_mem_concat fun h => nomatch h
  | rootEntered => exact mem_or_of_mem_concat fun h => nomatch h
  | failed => exact mem_or_of_mem_concat fun h => nomatch h
  | left => exact mem_or_of_mem_concat fun h => nomatch h
  | entered => exact mem_or_of_mem_concat fun h => nomatch h
  | ended => exact fun v hv => .inl hv
  | passed => exact fun v hv => .inl hv
  | aside => exact fun v hv => .inl hv
  | closed => exact fun v hv => .inl hv
  | finished => exact fun v hv => .inl hv

theorem Walker.Sound.step (h : Walker.Sound env root w) : Walker.Sound env root (w.step env) := by
  have hround := round_step env w
  have hahead := hround.ahead h.good
  have hnodup := h.inOrder.nodup (nodup_foci root [])
  refine ⟨hround.good h.good, (hround.meaning h.good).trans h.meaning, hahead.trans h.inOrder,
    fun v hv => ?_, fun v hv => ?_⟩
  · rcases hround.informed h.good v hv with hv | hv
    · exact h.informed v hv
    · exact hv
  · rcases hround.drops h.good hnodup v hv with hv | hv
    · exact fun hdeed f hf g hg hmem => h.drops v hv hdeed f hf g hg (hahead.subset hmem)
    · exact hv

theorem Walker.Sound.exists_ended (h : Walker.Sound env root w) :
    ∃ n ≤ w.state.cost, ∃ visited entries result,
      (Walker.step env)^[n] w = ⟨visited, entries, .ended result⟩ ∧
        Walker.Sound env root ⟨visited, entries, .ended result⟩ := by
  induction hcost : w.state.cost using Nat.strongRecOn generalizing w with
  | ind k ih =>
    by_cases hended : ∃ result, w.state = .ended result
    · obtain ⟨result, hresult⟩ := hended
      refine ⟨0, Nat.zero_le _, w.visited, w.entries, result, ?_, ?_⟩
      · rw [← hresult]
        rfl
      · rw [← hresult]
        exact h
    · -- Not at the end yet: one step, and fewer are left than before.
      have hlt := (round_step env w).cost h.good fun result hresult => hended ⟨result, hresult⟩
      obtain ⟨n, hn, visited, entries, result, hrun, hsound⟩ := ih _ (hcost ▸ hlt) h.step rfl
      exact ⟨n + 1, by omega, visited, entries, result, hrun, hsound⟩

end Runs

/-- **The walk.** The loop with a stack ends, after a number of steps bounded by the weight of the tree, with
what the recursive walk makes and logs. It visits nodes of the tree as parsed in preorder and none of them
twice. A literal that it visits is one of these, and is told the component or hook nearest around it. Of
a literal that it replaced it never visits what is dropped: the rest of a run of JSX text, and what is
below the literal but not in an expression that the call keeps. -/
theorem walk_visits (env : Env) {root : Node} (h : root.Parsed) :
    ∃ n ≤ 12 * root.weight + 2, ∃ visited : List Visited,
      (Walker.step env)^[n] (.start root) =
        ⟨visited, (walk env root).entries, .ended (walk env root).result⟩ ∧
      (places visited).Sublist (root.foci []) ∧ (places visited).Nodup ∧
      (∀ v ∈ visited, v.Informed env) ∧
      ∀ v ∈ visited, v.deed = .replaced → ∀ f, v.item = .parsed f → ∀ g, Dropped env.source f g →
        g ∉ places visited := by
  obtain ⟨n, hn, visited, entries, result, hrun, hsound⟩ := (Walker.sound_start env h).exists_ended
  have hmeaning := hsound.meaning
  rw [Walker.meaning, State.meaning, Logged.of, List.append_nil] at hmeaning
  have hplaces := hsound.inOrder
  rw [State.ahead, List.append_nil] at hplaces
  refine ⟨n, Nat.add_comm 2 _ ▸ hn, visited, ?_, hplaces, hplaces.nodup (nodup_foci root []),
    hsound.informed, fun v hv hdeed f hf g hg hmem => ?_⟩
  · rw [hrun, ← hmeaning]
  · exact hsound.drops v hv hdeed f hf g hg (List.mem_append_left _ hmem)

end Pass

namespace Sample

def paragraph : Tree where
  source := (Utf8.encode? "function A()\x7breturn <p>가&amp;</p>;\x7d").getD []
  root := node "program" true 0 37 [node "function_declaration" true 0 37 [
    token "function" 0 8, inField "name" (node "identifier" true 9 10 []),
    inField "parameters" (node "formal_parameters" true 10 12 [token "(" 10 11, token ")" 11 12]),
    inField "body" (node "statement_block" true 12 37 [token "\x7b" 12 13,
      node "return_statement" true 13 36 [token "return" 13 19,
        node "jsx_element" true 20 35 [
          inField "open_tag" (node "jsx_opening_element" true 20 23 [token "<" 20 21,
            inField "name" (node "identifier" true 21 22 []), token ">" 22 23]),
          node "jsx_text" true 23 26 [], node "html_character_reference" true 26 31 [],
          inField "close_tag" (node "jsx_closing_element" true 31 35 [token "</" 31 33,
            inField "name" (node "identifier" true 33 34 []), token ">" 34 35])],
        token ";" 35 36],
      token "\x7d" 36 37])]]

def paragraphEnv : Pass.Env := ({ sourcePattern := .null } : Settings).env paragraph

theorem paragraph_parsed : paragraph.Parsed := by decide +kernel

end Sample

theorem Focus.isJsxText_runAfter {f p : Focus} (h : p ∈ f.runAfter) :
    Literal.isJsxText p.node = true := by
  unfold runAfter at h
  split at h
  next => cases h
  next => exact List.mem_takeWhile_imp (p := fun q : Focus => Literal.isJsxText q.node) h

theorem Focus.mem_preorder_of_isJsxText {f : Focus} (h : Literal.isJsxText f.node = true) :
    f ∈ f.preorder := by
  obtain ⟨node, frames⟩ := f
  cases node with
  | text t => cases h
  | branch i items =>
    rw [preorder, Node.foci]
    exact List.mem_cons_self

def Pass.Visited.isOfPair (v : Pass.Visited) : Bool :=
  v.item.parsed?.any (fun f => Literal.isJsxText f.node && f.runAfter.length == 1) &&
    (v.deed matches .replaced) && v.context.map (·.name) == some (Text.ofString "A")

/-- A run of two nodes is replaced at the first of them, for the component around it, and the second is
not visited. -/
theorem walk_visits_run :
    ∃ n ≤ 12 * Sample.paragraph.root.weight + 2, ∃ visited : List Pass.Visited,
      (Pass.Walker.step Sample.paragraphEnv)^[n] (.start Sample.paragraph.root) =
        ⟨visited, (Pass.walk Sample.paragraphEnv Sample.paragraph.root).entries,
          .ended (Pass.walk Sample.paragraphEnv Sample.paragraph.root).result⟩ ∧
      (Pass.places visited).Sublist (Sample.paragraph.root.foci []) ∧ (Pass.places visited).Nodup ∧
      (∀ v ∈ visited, v.Informed Sample.paragraphEnv) ∧
      ∃ v ∈ visited, ∃ f second, v.item = .parsed f ∧ v.deed = .replaced ∧ f.runAfter = [second] ∧
        v.context.map (·.name) = some (Text.ofString "A") ∧ second ∉ Pass.places visited := by
  obtain ⟨n, hn, visited, hrun, hplaces, hnodup, hinformed, hdropped⟩ :=
    Pass.walk_visits Sample.paragraphEnv Sample.paragraph_parsed.root
  have hpair : ((Pass.Walker.step Sample.paragraphEnv)^[12 * Sample.paragraph.root.weight + 2]
      (.start Sample.paragraph.root)).visited.any Pass.Visited.isOfPair = true := by decide +kernel
  obtain ⟨k, hk⟩ := Nat.exists_eq_add_of_le hn
  rw [hk, Nat.add_comm, Function.iterate_add_apply, hrun, Function.iterate_fixed rfl] at hpair
  obtain ⟨v, hv, hpair⟩ := List.any_eq_true.1 hpair
  rw [Pass.Visited.isOfPair, Bool.and_eq_true, Bool.and_eq_true, Option.any_eq_true] at hpair
  obtain ⟨⟨⟨f, hf, hfirst⟩, hdeed⟩, hname⟩ := hpair
  rw [Bool.and_eq_true, beq_iff_eq, List.length_eq_one_iff] at hfirst
  obtain ⟨hjsx, second, hsecond⟩ := hfirst
  have hitem : v.item = .parsed f := by
    cases hcases : v.item with
    | parsed g =>
      rw [hcases] at hf
      cases hf
      rfl
    | made n =>
      rw [hcases] at hf
      cases hf
  have hreplaced : v.deed = .replaced := by
    cases hcases : v.deed with
    | replaced => rfl
    | _ =>
      rw [hcases] at hdeed
      cases hdeed
  have hmem : second ∈ f.runAfter := hsecond ▸ List.mem_singleton_self second
  refine ⟨n, hn, visited, hrun, hplaces, hnodup, hinformed, v, hv, f, second, hitem, hreplaced, hsecond,
    by simpa using hname, hdropped v hv hreplaced f hitem second (.run hjsx hmem ?_)⟩
  exact Focus.mem_preorder_of_isJsxText (Focus.isJsxText_runAfter hmem)

end Phrasebook
