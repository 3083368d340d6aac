import Phrasebook.Proofs.Scope.Routes
import Phrasebook.Proofs.Wrap.NewText
import Phrasebook.Proofs.Wrap.Visit

/-! Where the components and the wrapped literals stand in the tree that a walk leaves. A path leads to
each of them, components come in the order of their places, and every literal is inside the component
that was marked as modified for it. -/

namespace Phrasebook

open Node

namespace Node

/-- A node that is both a printed part of its parent and reached from it. -/
structure IsFull (n : Node) : Prop where
  isChild : n.isChild = true
  same : (n.mapInfo fun i => { i with standing := .full }) = n

theorem isFull_of_standing {i : Info} {items : List Node} (h : i.standing = .full) :
    (branch i items).IsFull := by
  refine ⟨by simp [Node.isChild, h], ?_⟩
  rw [mapInfo, ← h]

theorem isFull_of_isLaid {n : Node} (h : n.isLaid = true) : n.IsFull := by
  cases n with
  | text t => simp [isLaid] at h
  | branch i items => exact isFull_of_standing (isLaid_branch.1 h).2.2.1

theorem standing_of_isLaid {n : Node} (h : n.isLaid = true) : n.info.standing = .full := by
  cases n with
  | text t => simp [isLaid] at h
  | branch i items => exact (isLaid_branch.1 h).2.2.1

theorem children_of_isFull {i : Info} {items : List Node} (h : ∀ n ∈ items, n.IsFull) :
    (branch i items).children = items :=
  List.filter_eq_self.2 fun n hn => (h n hn).isChild

theorem isFull_inPlaceOf {new old : Node} (hnew : new.isChild = true) (hold : old.isLaid = true) :
    (new.inPlaceOf old).IsFull := by
  cases new with
  | text t => simp [Node.isChild] at hnew
  | branch i items => exact isFull_of_standing (standing_of_isLaid hold)

end Node

namespace Wrap

theorem children_optionItems {options : List (Text × Node)} (h : ∀ o ∈ options, o.2.IsFull) :
    ((optionItems options).map (mapInfo fun i => { i with standing := .full })).filter isChild =
      options.map (·.2) := by
  induction options with
  | nil => rfl
  | cons o options ih =>
    obtain ⟨name, e⟩ := o
    obtain ⟨he, hrest⟩ := List.forall_mem_cons.1 h
    have htext (t : Text) : ¬ (Node.text t).isChild = true := Bool.false_ne_true
    cases options with
    | nil =>
      show [Node.text (name ++ ": "), e.mapInfo fun i => { i with standing := .full }].filter isChild =
        [e]
      rw [he.same, List.filter_cons_of_neg (htext _), List.filter_cons_of_pos he.isChild,
        List.filter_nil]
    | cons o' options =>
      rw [optionItems, List.map_cons, List.map_cons, List.map_cons, he.same, mapInfo, mapInfo,
        List.filter_cons_of_neg (htext _), List.filter_cons_of_pos he.isChild,
        List.filter_cons_of_neg (htext _), ih hrest]
      rfl
      exact List.cons_ne_nil _ _

theorem children_lookupCall (function key : Text) {options : List (Text × Node)}
    (h : ∀ o ∈ options, o.2.IsFull) :
    (lookupCall function key options).children = options.map (·.2) := by
  have hitems := children_optionItems h
  cases options with
  | nil => rfl
  | cons o options =>
    rw [children, items_lookupCall_cons]
    simp [isChild, hitems]

end Wrap

namespace Pass

variable {env : Env}

def InItems (k : Nat) (items : List Node) (P : Path → Node → Prop) (path : Path) : Prop :=
  ∃ j rest n, path = (k + j) :: rest ∧ items[j]? = some n ∧ P rest n

section InItems

variable {k : Nat} {items : List Node} {P : Path → Node → Prop} {path : Path}

theorem InItems.head {n : Node} (h : P path n) : InItems k (n :: items) P (k :: path) :=
  ⟨0, path, n, rfl, rfl, h⟩

theorem InItems.cons {n : Node} (h : InItems (k + 1) items P path) : InItems k (n :: items) P path := by
  obtain ⟨j, rest, m, rfl, hm, h⟩ := h
  exact ⟨j + 1, rest, m, by rw [Nat.add_right_comm, Nat.add_assoc], hm, h⟩

theorem InItems.append {k' : Nat} {xs : List Node} (h : InItems k' items P path)
    (hk : k' = k + xs.length) : InItems k (xs ++ items) P path := by
  obtain ⟨j, rest, n, rfl, hn, h⟩ := h
  refine ⟨xs.length + j, rest, n, by rw [hk, Nat.add_assoc], ?_, h⟩
  rw [List.getElem?_append_right (Nat.le_add_right _ _), Nat.add_sub_cancel_left, hn]

theorem InItems.not_around {other : Path} (h : InItems k items P path) {j : Nat} (hj : j < k) :
    ¬ path <+: j :: other := by
  obtain ⟨l, rest, n, rfl, -, -⟩ := h
  intro hle
  have := (List.cons_prefix_cons.1 hle).1
  omega

end InItems

/-- A path to what took the place of a literal. -/
def IsCall (path : Path) (n : Node) : Prop :=
  ∃ call, n.at? path = some call ∧ newKinds.contains call.kind = true

/-- The component that a literal was wrapped for: a modified one among those listed, or else the one
around all of them. -/
def Wrapped.HasOwner (w : Wrapped) (owner : Option Text) (touched : Bool)
    (components : List Component) : Prop :=
  (w.owner = none ∧ owner.isSome = true ∧ touched = true) ∨
    ∃ c ∈ components, w.owner = some c.path ∧ c.modified = true ∧ c.path <+: w.path

def InPreorder (components : List Component) : Prop :=
  components.Pairwise fun c d => ¬ d.path <+: c.path

structure Placed (owner : Option Text) (made : Made Node) (ws : List Wrapped) : Prop where
  full : made.part.IsFull
  routes : ∀ c ∈ made.components, Scope.Route c.path made.part
  order : InPreorder made.components
  calls : ∀ w ∈ ws, IsCall w.path made.part
  owners : ∀ w ∈ ws, w.HasOwner owner made.touched made.components

/-- Where everything stands in what the walk makes of items, the first of which is the `k`-th child. -/
structure PlacedIn (owner : Option Text) (k : Nat) (made : Made (List Node)) (ws : List Wrapped) :
    Prop where
  full : ∀ n ∈ made.part, n.IsFull
  routes : ∀ c ∈ made.components, InItems k made.part Scope.Route c.path
  order : InPreorder made.components
  calls : ∀ w ∈ ws, InItems k made.part IsCall w.path
  owners : ∀ w ∈ ws, w.HasOwner owner made.touched made.components

namespace Wrapped.HasOwner

variable {w : Wrapped} {owner : Option Text} {touched : Bool} {components : List Component}

theorem mono {touched' : Bool} {components' : List Component}
    (h : w.HasOwner owner touched components) (htouched : touched = true → touched' = true)
    (hcomponents : components ⊆ components') : w.HasOwner owner touched' components' := by
  rcases h with ⟨hw, howner, h⟩ | ⟨c, hc, h⟩
  · exact .inl ⟨hw, howner, htouched h⟩
  · exact .inr ⟨c, hcomponents hc, h⟩

theorem below (k : Nat) (h : w.HasOwner owner touched components) :
    (w.below k).HasOwner owner touched (components.map (·.below k)) := by
  rcases h with ⟨hw, h⟩ | ⟨c, hc, hw, hmodified, hle⟩
  · exact .inl ⟨by rw [Wrapped.below, hw]; rfl, h⟩
  · refine .inr ⟨c.below k, List.mem_map_of_mem hc, by rw [Wrapped.below, hw]; rfl, hmodified, ?_⟩
    exact List.cons_prefix_cons.2 ⟨rfl, hle⟩

theorem owned {name : Text} {c : Component} (h : w.HasOwner (some name) touched components)
    (hpath : c.path = []) (hmodified : c.modified = touched) :
    w.owned.HasOwner owner false (c :: components) := by
  rcases h with ⟨hw, -, htouched⟩ | ⟨d, hd, hw, hd', hle⟩
  · refine .inr ⟨c, List.mem_cons_self, by rw [Wrapped.owned, hw, hpath]; rfl, ?_, ?_⟩
    · rw [hmodified, htouched]
    · rw [hpath]
      exact List.nil_prefix
  · exact .inr ⟨d, List.mem_cons_of_mem _ hd, by rw [Wrapped.owned, hw]; rfl, hd', hle⟩

end Wrapped.HasOwner

namespace PlacedIn

variable {owner : Option Text} {k : Nat} {made : Made (List Node)} {ws : List Wrapped}

theorem nil : PlacedIn owner k (.same []) [] := by
  refine ⟨?_, ?_, .nil, ?_, ?_⟩ <;> simp [Made.same]

theorem append {k' : Nat} {xs : List Node} (h : PlacedIn owner k' made ws)
    (hk : k' = k + xs.length) (hxs : ∀ n ∈ xs, n.IsFull) :
    PlacedIn owner k { made with part := xs ++ made.part } ws where
  full := List.forall_mem_append.2 ⟨hxs, h.full⟩
  routes c hc := (h.routes c hc).append hk
  order := h.order
  calls w hw := (h.calls w hw).append hk
  owners := h.owners

theorem run {name : Text} {new : Node} {f : Focus} {more : List Focus}
    (h : PlacedIn (some name) (k + 1) made ws) (hnew : new.IsFull)
    (hkind : newKinds.contains new.kind = true) :
    PlacedIn (some name) k { made with part := new :: made.part, touched := true, changed := true }
      (⟨f, more, [k], none⟩ :: ws) where
  full := List.forall_mem_cons.2 ⟨hnew, h.full⟩
  routes c hc := (h.routes c hc).cons
  order := h.order
  calls := List.forall_mem_cons.2
    ⟨.head ⟨new, rfl, hkind⟩, fun w hw => (h.calls w hw).cons⟩
  owners := List.forall_mem_cons.2
    ⟨.inl ⟨rfl, rfl, rfl⟩, fun w hw => (h.owners w hw).mono (fun _ => rfl) (List.Subset.refl _)⟩

theorem node {first : Made Node} {us : List Wrapped} (hfirst : Placed owner first us)
    (h : PlacedIn owner (k + 1) made ws) :
    PlacedIn owner k ⟨first.part :: made.part, first.components.map (·.below k) ++ made.components,
      first.touched || made.touched, first.changed || made.changed⟩ (us.map (·.below k) ++ ws) where
  full := List.forall_mem_cons.2 ⟨hfirst.full, h.full⟩
  routes := by
    refine List.forall_mem_append.2 ⟨fun c hc => ?_, fun c hc => ?_⟩
    · obtain ⟨d, hd, rfl⟩ := List.mem_map.1 hc
      exact .head (hfirst.routes d hd)
    · exact (h.routes c hc).cons
  order := by
    refine List.pairwise_append.2 ⟨List.pairwise_map.2 (hfirst.order.imp fun hcd hle => ?_), h.order,
      fun c hc d hd => ?_⟩
    · exact hcd (List.cons_prefix_cons.1 hle).2
    -- The components of later children start at a later position.
    · obtain ⟨e, -, rfl⟩ := List.mem_map.1 hc
      exact (h.routes d hd).not_around (Nat.lt_succ_self k)
  calls := by
    refine List.forall_mem_append.2 ⟨fun w hw => ?_, fun w hw => ?_⟩
    · obtain ⟨u, hu, rfl⟩ := List.mem_map.1 hw
      exact .head (hfirst.calls u hu)
    · exact (h.calls w hw).cons
  owners := by
    refine List.forall_mem_append.2 ⟨fun w hw => ?_, fun w hw => ?_⟩
    · obtain ⟨u, hu, rfl⟩ := List.mem_map.1 hw
      exact ((hfirst.owners u hu).below k).mono (fun ht => by simp [ht]) (List.subset_append_left _ _)
    · exact (h.owners w hw).mono (fun ht => by simp [ht]) (List.subset_append_right _ _)

end PlacedIn

theorem field_of_componentName? {source : Bytes} {frames : List Frame} {n : Node} {name : Text}
    (hn : n.Parsed) (h : Scope.componentName? source ⟨n, frames⟩ = some name) :
    n.field ≠ some "parameters" := by
  have hname : (Scope.functionName? source ⟨n, frames⟩).isSome = true := by
    unfold Scope.componentName? at h
    cases hname : Scope.functionName? source ⟨n, frames⟩ with
    | none =>
      rw [hname] at h
      cases h
    | some t => rfl
  unfold Scope.functionName? at hname
  split at hname
  next hkind =>
    refine hn.field_of_declaration ?_
    simp only [Scope.declaredKinds, List.contains_cons, List.contains_nil, Bool.or_false,
      Bool.or_eq_true] at hkind
    simp only [namedKinds, List.contains_cons, Bool.or_eq_true]
    rcases hkind with hkind | hkind
    · exact .inl hkind
    · exact .inr (.inl hkind)
  next =>
    split at hname
    next hkind =>
      have hfield : n.field = some "value" := by simpa using (Bool.and_eq_true_iff.1 hkind).2
      rw [hfield]
      decide
    next => cases hname

section Reassembling

variable {owner : Option Text} {frames : List Frame} {f : Focus} {below : Made (List Node)}
  {ws : List Wrapped}

theorem isOpen_reassemble (hf : f.node.Parsed) (hskip : skippedKinds.contains f.node.kind = false)
    (hbeside : Beside f.node.items below.part) (hitems : f.node.items ≠ []) :
    Scope.IsOpen (reassemble f.node.info below).part where
  token := by
    cases htoken : tokenKinds.contains f.node.kind with
    | false => exact htoken
    | true => exact (hitems (hf.items_of_token htoken)).elim
  statement hkind := by
    rw [show f.node.kind = "import_statement" from hkind] at hskip
    exact absurd hskip (by decide)
  name hkind d hd := by
    have hrel := hbeside.childByField? (i := f.node.info)
      (j := { f.node.info with dirty := f.node.info.dirty || below.changed }) "name"
    have hsame := eq_of_rel_token hrel fun n hn => hf.name_token hkind hn
    exact hf.name_token hkind (hsame.symm.trans hd)

theorem InItems.isCall {n : Node} {items : List Node} {path : Path}
    (h : InItems 0 items IsCall path) (hn : n.children = items) : IsCall path n := by
  obtain ⟨j, rest, m, rfl, hm, call, hcall, hkind⟩ := h
  refine ⟨call, ?_, hkind⟩
  rw [Nat.zero_add, at?, hn, hm]
  exact hcall

theorem InItems.route {n : Node} {items : List Node} {path : Path}
    (h : InItems 0 items Scope.Route path) (hn : n.children = items)
    (hopen : items ≠ [] → Scope.IsOpen n) : Scope.Route path n := by
  obtain ⟨j, rest, m, rfl, hm, hroute⟩ := h
  rw [Nat.zero_add]
  exact ⟨hopen (List.ne_nil_of_mem (List.mem_of_getElem? hm)), m, hn ▸ hm, hroute⟩

theorem placed_reassemble (hf : f.node.Parsed) (hskip : skippedKinds.contains f.node.kind = false)
    (hbeside : Beside f.node.items below.part) (hnil : f.node.items = [] → below = .same [])
    (h : PlacedIn owner 0 below ws) : Placed owner (reassemble f.node.info below) ws := by
  have hchildren : (reassemble f.node.info below).part.children = below.part :=
    children_of_isFull h.full
  have hopen (hpart : below.part ≠ []) : Scope.IsOpen (reassemble f.node.info below).part := by
    refine isOpen_reassemble hf hskip hbeside fun hitems => hpart ?_
    rw [hnil hitems]
    rfl
  exact ⟨isFull_of_standing (standing_of_isLaid hf.laid),
    fun c hc => (h.routes c hc).route hchildren hopen, h.order,
    fun w hw => (h.calls w hw).isCall hchildren, h.owners⟩

theorem placed_ofComponent {name : Text} (hf : f.node.Parsed)
    (hskip : skippedKinds.contains f.node.kind = false) (hfn : Scope.isFunction f.node = true)
    (hname : Scope.componentName? env.source ⟨f.node, frames⟩ = some name)
    (hbeside : Beside f.node.items below.part) (hnil : f.node.items = [] → below = .same [])
    (h : PlacedIn (some name) 0 below ws) :
    Placed owner (ofComponent env f.node name below) (ws.map Wrapped.owned) := by
  obtain ⟨hfull, hroutes, horder, hcalls, howners⟩ := placed_reassemble hf hskip hbeside hnil h
  have hfield : f.node.field ≠ some "parameters" := field_of_componentName? hf hname
  refine ⟨hfull, List.forall_mem_cons.2 ⟨⟨hfn, hfield⟩, hroutes⟩,
    .cons (fun c hc hle => ?_) horder, fun w hw => ?_, fun w hw => ?_⟩
  · obtain ⟨j, rest, n, hpath, -, -⟩ := h.routes c hc
    rw [hpath] at hle
    cases List.prefix_nil.1 hle
  · obtain ⟨u, hu, rfl⟩ := List.mem_map.1 hw
    exact hcalls u hu
  · obtain ⟨u, hu, rfl⟩ := List.mem_map.1 hw
    exact (howners u hu).owned rfl rfl

theorem children_ofTemplate {key : Text} {n : Node} {names : List Text}
    (hlength : below.part.length ≤ names.length) (h : ∀ m ∈ below.part, m.IsFull) :
    (ofTemplate env key n names below).part.children = below.part := by
  have hoptions : (names.zip below.part).map (·.2) = below.part := List.map_snd_zip hlength
  refine (Wrap.children_lookupCall env.function.spelling key fun o ho => ?_).trans hoptions
  exact h _ (hoptions ▸ List.mem_map_of_mem ho)

theorem placed_ofTemplate {name key : Text} {names : List Text} (hf : f.node.Parsed)
    (hlength : below.part.length ≤ names.length) (h : PlacedIn (some name) 0 below ws) :
    Placed (some name) (ofTemplate env key f.node names below) (⟨f, [], [], none⟩ :: ws) := by
  have hchildren : (ofTemplate env key f.node names below).part.children = below.part :=
    children_ofTemplate hlength h.full
  have hkind : (ofTemplate env key f.node names below).part.kind = "call_expression" := rfl
  have hopen : Scope.IsOpen (ofTemplate env key f.node names below).part := by
    refine ⟨?_, ?_, fun hnamed => ?_⟩
    · rw [hkind]
      decide
    · rw [hkind]
      decide
    · rw [hkind] at hnamed
      exact absurd hnamed (by decide)
  exact ⟨isFull_of_standing (show f.node.info.standing = .full from standing_of_isLaid hf.laid),
    fun c hc => (h.routes c hc).route hchildren fun _ => hopen, h.order,
    List.forall_mem_cons.2 ⟨⟨_, rfl, rfl⟩, fun w hw => (h.calls w hw).isCall hchildren⟩,
    List.forall_mem_cons.2 ⟨.inl ⟨rfl, rfl, rfl⟩,
      fun w hw => (h.owners w hw).mono (fun _ => rfl) (List.Subset.refl _)⟩⟩

end Reassembling

theorem isFull_placedRun {new first : Node} {more : List Node} (hnew : new.isChild = true)
    (hfirst : first.isLaid = true) : (placedRun new first more).IsFull := by
  unfold placedRun
  split
  · exact isFull_inPlaceOf hnew hfirst
  · cases new with
    | text t => simp [Node.isChild] at hnew
    | branch i items => exact isFull_of_standing rfl

theorem kind_placedRun (new first : Node) (more : List Node) :
    (placedRun new first more).kind = new.kind := by
  unfold placedRun
  split
  · exact kind_inPlaceOf new first
  · cases new with
    | text t => rfl
    | branch i items =>
      show (Info.inherit i first.info).kind = i.kind
      unfold Info.inherit
      split <;> rfl

theorem Visits.length_part {owner : Option Text} {parent : Info} {frames : List Frame}
    {before : List Node} {k : Nat} {places : List Focus} {made : Made (List Node)}
    {ws : List Wrapped} : Visits env owner parent frames before k places made ws →
      (∀ p ∈ places, Literal.isJsxText p.node = false) → made.part.length = places.length
  | .nil, _ => rfl
  | .run _ _ hjsx _ _ _, h => by
    rw [(List.forall_mem_cons.1 h).1] at hjsx
    cases hjsx
  | .otherRun hjsx _ _ _, h => by
    rw [(List.forall_mem_cons.1 h).1] at hjsx
    cases hjsx
  | .node _ _ hrest, h => by
    have hlength := hrest.length_part (List.forall_mem_cons.1 h).2
    rw [List.length_cons, List.length_cons, hlength]

mutual

theorem Visit.placed {owner : Option Text} {frames : List Frame} {f : Focus} {made : Made Node}
    {ws : List Wrapped} : Visit env owner frames f made ws → Placed owner made ws
  | .skipped hsees _ => ⟨isFull_of_isLaid hsees.parsed.laid, by simp [Made.same], .nil, by simp, by simp⟩
  | .otherString hsees _ _ _ _ =>
    ⟨isFull_of_isLaid hsees.parsed.laid, by simp [Made.same], .nil, by simp, by simp⟩
  | .component hsees hskip hfn hname hbelow => by
    have hplaced := hbelow.placed (parsed_children hsees.parsed)
    obtain ⟨hbeside, hnil⟩ := beside_of_children hsees hbelow hbelow.beside
    exact placed_ofComponent hsees.parsed hskip hfn hname hbeside hnil hplaced
  | .entered hsees henter hbelow => by
    have hplaced := hbelow.placed (parsed_children hsees.parsed)
    obtain ⟨hbeside, hnil⟩ := beside_of_children hsees hbelow hbelow.beside
    exact placed_reassemble hsees.parsed henter.1 hbeside hnil hplaced
  | .string hsees _ _ hkind hwrap => by
    obtain ⟨value, -, -, -, rfl⟩ := wrapString?_eq_some hwrap
    refine ⟨isFull_inPlaceOf (isChild_ofString _ _ _) hsees.parsed.laid, by simp, .nil, ?_, ?_⟩
    · refine List.forall_mem_singleton.2 ⟨_, rfl, ?_⟩
      rw [kind_inPlaceOf]
      exact kind_ofString _ _ _
    · exact List.forall_mem_singleton.2 (.inl ⟨rfl, rfl, rfl⟩)
  | .template hsees _ _ hkind hkey hbelow => by
    have hplaced := hbelow.placed hsees.parsed_kept
    -- No kept expression is JSX text, so the walk left one node for each, and the names go round.
    refine placed_ofTemplate hsees.parsed (Nat.le_of_eq ?_) hplaced
    rw [hbelow.length_part hsees.isJsxText_kept, ← map_keptFoci hsees.parsed.laid]
    simp

theorem Visits.placed {owner : Option Text} {parent : Info} {frames : List Frame}
    {before : List Node} {k : Nat} {places : List Focus} {made : Made (List Node)}
    {ws : List Wrapped} : Visits env owner parent frames before k places made ws →
      (∀ p ∈ places, p.node.Parsed) → PlacedIn owner k made ws
  | .nil, _ => .nil
  | .run hsees _ hjsx hmore hwrap hrest, h => by
    have hplaced := hrest.placed fun p hp => h p (List.mem_cons_of_mem _ (List.mem_of_mem_drop hp))
    obtain ⟨value, -, -, -, rfl⟩ := wrapRun?_eq_some hwrap
    exact hplaced.run (isFull_placedRun rfl hsees.parsed.laid) (by rw [kind_placedRun]; rfl)
  | .otherRun hjsx hmore hwrap hrest, h => by
    have hplaced := hrest.placed fun p hp => h p (List.mem_cons_of_mem _ (List.mem_of_mem_drop hp))
    refine hplaced.append (by simp) ?_
    obtain ⟨hf, hrest⟩ := List.forall_mem_cons.1 h
    refine List.forall_mem_cons.2 ⟨isFull_of_isLaid hf.laid, fun n hn => ?_⟩
    obtain ⟨p, hp, rfl⟩ := List.mem_map.1 hn
    rw [hmore] at hp
    exact isFull_of_isLaid (hrest p ((List.takeWhile_sublist _).subset hp)).laid
  | .node _ hfirst hrest, h => by
    have hplaced := hrest.placed (List.forall_mem_cons.1 h).2
    exact hplaced.node hfirst.placed

end

end Pass
end Phrasebook
