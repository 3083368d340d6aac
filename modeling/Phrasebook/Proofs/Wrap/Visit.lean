import Mathlib.Tactic.Common
import Phrasebook.Proofs.Wrap.Rewriting
import Phrasebook.Proofs.Wrap.Surroundings

/-! The walk over a parsed tree as a relation between a node as parsed and what the walk makes of it,
with the literals it wrapped. The relation keeps two surroundings apart: the frames of the tree that
is being edited, in which every test is made, and those of the tree as parsed. -/

namespace Phrasebook

def Focus.above (n : Node) : List Frame → List Focus
  | [] => []
  | frame :: frames => ⟨frame.close n, frames⟩ :: above (frame.close n) frames

def Scope.inComponent (source : Bytes) (f : Focus) : Bool :=
  (Focus.above f.node f.frames).any fun g =>
    isFunction g.node && (componentName? source g).isSome

namespace Focus

theorem mem_ofItems {info : Info} {frames : List Frame} {before items : List Node} {c : Focus}
    (h : c ∈ ofItems info frames before items) :
    ∃ past n after, items = past ++ n :: after ∧
      c = ⟨n, ⟨info, past.reverse ++ before, after⟩ :: frames⟩ := by
  induction items generalizing before with
  | nil => simp [ofItems] at h
  | cons m rest ih =>
    have hrest (hc : c ∈ ofItems info frames (m :: before) rest) :
        ∃ past n after, m :: rest = past ++ n :: after ∧
          c = ⟨n, ⟨info, past.reverse ++ before, after⟩ :: frames⟩ := by
      obtain ⟨past, n, after, rfl, rfl⟩ := ih hc
      exact ⟨m :: past, n, after, rfl, by simp⟩
    rw [ofItems] at h
    split at h
    next =>
      rcases List.mem_cons.1 h with rfl | h
      · exact ⟨[], m, rest, rfl, rfl⟩
      · exact hrest h
    next => exact hrest h

theorem mem_children_of_items {f : Focus} {past after : List Node} {n : Node}
    (hitems : f.node.items = past.reverse ++ n :: after) (hn : n.isChild = true) :
    ⟨n, ⟨f.node.info, past, after⟩ :: f.frames⟩ ∈ f.children := by
  have hmem (xs before : List Node) :
      ⟨n, ⟨f.node.info, xs.reverse ++ before, after⟩ :: f.frames⟩ ∈
        ofItems f.node.info f.frames before (xs ++ n :: after) := by
    induction xs generalizing before with
    | nil =>
      rw [List.nil_append, ofItems_cons hn]
      exact List.mem_cons_self
    | cons m xs ih =>
      rw [List.cons_append, ofItems, List.reverse_cons, List.append_assoc]
      split
      · exact List.mem_cons_of_mem _ (ih _)
      · exact ih _
  rw [children, hitems]
  simpa using hmem past.reverse []

theorem frames_of_mem_children {f c : Focus} (h : c ∈ f.children) :
    ∃ past after, c.frames = ⟨f.node.info, past, after⟩ :: f.frames := by
  obtain ⟨past, n, after, -, rfl⟩ := mem_ofItems h
  exact ⟨_, _, rfl⟩

theorem above_of_mem_children {f c : Focus} (h : c ∈ f.children) :
    above c.node c.frames = f :: above f.node f.frames := by
  obtain ⟨past, n, after, hitems, rfl⟩ := mem_ofItems h
  obtain ⟨node, frames⟩ := f
  cases node with
  | text t => simp [Node.items] at hitems
  | branch i items =>
    have hclose : Frame.close ⟨i, past.reverse ++ [], after⟩ n = .branch i items := by
      simp only [Frame.close, List.append_nil, List.reverse_reverse]
      exact congrArg (Node.branch i) hitems.symm
    show ⟨Frame.close _ n, frames⟩ :: above (Frame.close _ n) frames = _
    rw [show Frame.close ⟨(Node.branch i items).info, past.reverse ++ [], after⟩ n =
      .branch i items from hclose]

end Focus

theorem Scope.inComponent_of_mem_children {source : Bytes} {f c : Focus} (hc : c ∈ f.children)
    (h : inComponent source f = true) : inComponent source c = true := by
  rw [inComponent, Focus.above_of_mem_children hc, List.any_cons, Bool.or_eq_true]
  exact .inr h

theorem Scope.inComponent_of_component {source : Bytes} {f c : Focus} {name : Text}
    (hc : c ∈ f.children) (hfn : isFunction f.node = true)
    (hname : componentName? source f = some name) : inComponent source c = true := by
  rw [inComponent, Focus.above_of_mem_children hc, List.any_cons, hfn, hname]
  rfl

namespace Pass

/-- A literal that the walk wrapped. -/
structure Wrapped where
  focus : Focus
  more : List Focus
  path : Path
  /-- Where the component around it stands there, once the walk is back at it. -/
  owner : Option Path

def Wrapped.below (k : Nat) (w : Wrapped) : Wrapped :=
  { w with path := k :: w.path, owner := w.owner.map (k :: ·) }

def Wrapped.owned (w : Wrapped) : Wrapped := { w with owner := some (w.owner.getD []) }

/-- What is known when the walk comes to a node: it is as parsed, the frames match those it was
parsed in, and it has an owner only inside a component. -/
structure Sees (env : Env) (owner : Option Text) (frames : List Frame) (f : Focus) : Prop where
  parsed : f.node.Parsed
  around : Matches f.frames frames
  within : owner.isSome = true → Scope.inComponent env.source f = true

def expressionFocus (s : Focus) : Focus :=
  ((s.children.filter fun c => c.node.named).find? fun c => c.node.kind != "comment").getD s

def expressionFoci (f : Focus) : List Focus :=
  (f.children.filter fun c => c.node.kind == "template_substitution").map expressionFocus

def keptFoci (source : Bytes) (f : Focus) : List (Text × Focus) :=
  Placeholder.firstUses []
    ((Placeholder.names source ((expressionFoci f).map (·.node))).zip (expressionFoci f))

def templateCall (env : Env) (key : Text) (options : List (Text × Node)) (n : Node) : Node :=
  (Wrap.lookupCall env.function.spelling key options).inPlaceOf n

def Enters (env : Env) (owner : Option Text) (frames : List Frame) (n : Node) : Prop :=
  skippedKinds.contains n.kind = false ∧
  ((Scope.isFunction n = true ∧ Scope.componentName? env.source ⟨n, frames⟩ = none) ∨
   (Scope.isFunction n = false ∧ ∀ name, owner = some name → n.kind ≠ "string" ∧
    (n.kind = "template_string" → (templateKey? env name ⟨n, frames⟩).result = .ok none)))

def ofComponent (env : Env) (n : Node) (name : Text) (below : Made (List Node)) : Made Node :=
  let made := reassemble n.info below
  { made with
    components :=
      { name, path := [], serverBound := Scope.callsFunction env.source env.serverFunction n
        modified := below.touched } :: below.components
    touched := false }

/-- What the walk makes of a template that is wrapped. -/
def ofTemplate (env : Env) (key : Text) (n : Node) (names : List Text) (below : Made (List Node)) :
    Made Node :=
  let call := templateCall env key (names.zip below.part) n
  let made := reassemble call.info { below with part := call.items }
  { made with touched := true, changed := true }

mutual

/-- The walk over a node: what it makes of it, and what it wraps there. -/
inductive Visit (env : Env) : Option Text → List Frame → Focus → Made Node → List Wrapped → Prop
  | skipped {owner : Option Text} {frames : List Frame} {f : Focus} (hsees : Sees env owner frames f)
      (hskip : skippedKinds.contains f.node.kind = true) :
      Visit env owner frames f (.same f.node) []
  | component {owner : Option Text} {frames : List Frame} {f : Focus} {name : Text}
      {below : Made (List Node)} {ws : List Wrapped} (hsees : Sees env owner frames f)
      (hskip : skippedKinds.contains f.node.kind = false) (hfn : Scope.isFunction f.node = true)
      (hname : Scope.componentName? env.source ⟨f.node, frames⟩ = some name)
      (hbelow : Visits env (some name) f.node.info frames [] 0 f.children below ws) :
      Visit env owner frames f (ofComponent env f.node name below) (ws.map Wrapped.owned)
  | entered {owner : Option Text} {frames : List Frame} {f : Focus} {below : Made (List Node)}
      {ws : List Wrapped} (hsees : Sees env owner frames f) (henter : Enters env owner frames f.node)
      (hbelow : Visits env owner f.node.info frames [] 0 f.children below ws) :
      Visit env owner frames f (reassemble f.node.info below) ws
  | string {frames : List Frame} {f : Focus} {name : Text} {new : Node}
      (hsees : Sees env (some name) frames f)
      (hskip : skippedKinds.contains f.node.kind = false) (hfn : Scope.isFunction f.node = false)
      (hkind : f.node.kind = "string")
      (hwrap : (wrapString? env name ⟨f.node, frames⟩).result = .ok (some new)) :
      Visit env (some name) frames f ⟨new, [], true, true⟩ [⟨f, [], [], none⟩]
  | otherString {frames : List Frame} {f : Focus} {name : Text}
      (hsees : Sees env (some name) frames f)
      (hskip : skippedKinds.contains f.node.kind = false) (hfn : Scope.isFunction f.node = false)
      (hkind : f.node.kind = "string")
      (hwrap : (wrapString? env name ⟨f.node, frames⟩).result = .ok none) :
      Visit env (some name) frames f (.same f.node) []
  | template {frames : List Frame} {f : Focus} {name key : Text} {below : Made (List Node)}
      {ws : List Wrapped} (hsees : Sees env (some name) frames f)
      (hskip : skippedKinds.contains f.node.kind = false)
      (hfn : Scope.isFunction f.node = false) (hkind : f.node.kind = "template_string")
      (hkey : (templateKey? env name ⟨f.node, frames⟩).result = .ok (some key))
      (hbelow : Visits env (some name)
        (templateCall env key (keptExpressions env.source f.node.items) f.node).info frames [] 0
        ((keptFoci env.source f).map (·.2)) below ws) :
      Visit env (some name) frames f
        (ofTemplate env key f.node ((keptExpressions env.source f.node.items).map (·.1)) below)
        (⟨f, [], [], none⟩ :: ws)

/-- The walk over some nodes under one parent, given as they stand in the tree as parsed. -/
inductive Visits (env : Env) : Option Text → Info → List Frame → List Node → Nat → List Focus →
    Made (List Node) → List Wrapped → Prop
  | nil {owner : Option Text} {parent : Info} {frames : List Frame} {before : List Node} {k : Nat} :
      Visits env owner parent frames before k [] (.same []) []
  | run {parent : Info} {frames : List Frame} {before : List Node} {k : Nat} {f : Focus}
      {more rest : List Focus} {name : Text} {new : Node} {made : Made (List Node)}
      {ws : List Wrapped}
      (hsees : Sees env (some name) (⟨parent, before, rest.map (·.node)⟩ :: frames) f)
      (hlined : Lined true parent frames before (f :: rest))
      (hjsx : Literal.isJsxText f.node = true)
      (hmore : more = rest.takeWhile fun p => isRunItem p.node)
      (hwrap : (wrapRun? env name ⟨f.node, ⟨parent, before, rest.map (·.node)⟩ :: frames⟩
        (more.map (·.node))).result = .ok (some new))
      (hrest : Visits env (some name) parent frames (new :: before) (k + 1)
        (rest.drop more.length) made ws) :
      Visits env (some name) parent frames before k (f :: rest)
        { made with part := new :: made.part, touched := true, changed := true }
        (⟨f, more, [k], none⟩ :: ws)
  | otherRun {parent : Info} {frames : List Frame} {before : List Node} {k : Nat} {f : Focus}
      {more rest : List Focus} {name : Text} {made : Made (List Node)} {ws : List Wrapped}
      (hjsx : Literal.isJsxText f.node = true)
      (hmore : more = rest.takeWhile fun p => isRunItem p.node)
      (hwrap : (wrapRun? env name ⟨f.node, ⟨parent, before, rest.map (·.node)⟩ :: frames⟩
        (more.map (·.node))).result = .ok none)
      (hrest : Visits env (some name) parent frames
        ((f.node :: more.map (·.node)).reverse ++ before) (k + (more.length + 1))
        (rest.drop more.length) made ws) :
      Visits env (some name) parent frames before k (f :: rest)
        { made with part := f.node :: more.map (·.node) ++ made.part } ws
  | node {owner : Option Text} {parent : Info} {frames : List Frame} {before : List Node} {k : Nat}
      {f : Focus} {rest : List Focus} {first : Made Node} {made : Made (List Node)}
      {us ws : List Wrapped} (hjsx : owner.isSome = true → Literal.isJsxText f.node = false)
      (hfirst : Visit env owner (⟨parent, before, rest.map (·.node)⟩ :: frames) f first us)
      (hrest : Visits env owner parent frames (first.part :: before) (k + 1) rest made ws) :
      Visits env owner parent frames before k (f :: rest)
        ⟨first.part :: made.part, first.components.map (·.below k) ++ made.components,
          first.touched || made.touched, first.changed || made.changed⟩
        (us.map (·.below k) ++ ws)

end

theorem firstUses_map {α β : Type} (g : α → β) (seen : List Text) (pairs : List (Text × α)) :
    Placeholder.firstUses seen (pairs.map fun p => (p.1, g p.2)) =
      (Placeholder.firstUses seen pairs).map fun p => (p.1, g p.2) := by
  induction pairs generalizing seen with
  | nil => rfl
  | cons p rest ih =>
    simp only [List.map_cons, Placeholder.firstUses]
    split
    · exact ih seen
    · rw [ih, List.map_cons]

theorem node_expressionFocus {s : Focus} (h : s.node.isLaid = true) :
    (expressionFocus s).node = Literal.expressionOf s.node := by
  have hfind : (s.node.namedChildren.find? fun c => c.kind != "comment") =
      ((s.children.filter fun c => c.node.named).find? fun c => c.node.kind != "comment").map
        (·.node) := by
    rw [Node.namedChildren, Node.children_of_isLaid h, ← Focus.map_node_children h, List.filter_map,
      List.find?_map]
    rfl
  rw [expressionFocus, Literal.expressionOf, hfind]
  cases List.find? _ _ <;> rfl

theorem isLaid_children {f c : Focus} (h : f.node.isLaid = true) (hc : c ∈ f.children) :
    c.node.isLaid = true := by
  refine Node.isLaid_of_mem_items h ?_
  rw [← Focus.map_node_children h]
  exact List.mem_map_of_mem hc

theorem map_node_expressionFoci {f : Focus} (h : f.node.isLaid = true) :
    (expressionFoci f).map (·.node) =
      ((f.node.items.filter Node.isChild).filter fun c => c.kind == "template_substitution").map
        Literal.expressionOf := by
  rw [Node.filter_isChild fun _ hc => Node.isLaid_of_mem_items h hc, ← Focus.map_node_children h,
    List.filter_map, List.map_map, expressionFoci, List.map_map]
  refine List.map_congr_left fun s hs => ?_
  exact node_expressionFocus (isLaid_children h (List.mem_filter.1 hs).1)

theorem map_keptFoci {source : Bytes} {f : Focus} (h : f.node.isLaid = true) :
    ((keptFoci source f).map fun p => (p.1, p.2.node)) = keptExpressions source f.node.items := by
  rw [keptFoci, ← firstUses_map, keptExpressions, ← map_node_expressionFoci h, List.zip_map_right]
  rfl

theorem mem_keptFoci {source : Bytes} {f : Focus} {p : Text × Focus} (h : p ∈ keptFoci source f) :
    ∃ s ∈ f.children, s.node.kind = "template_substitution" ∧ p.2 = expressionFocus s := by
  have hzip := (firstUses_sublist _ _).subset h
  obtain ⟨s, hs, he⟩ := List.mem_map.1 (List.of_mem_zip hzip).2
  obtain ⟨hs, hk⟩ := List.mem_filter.1 hs
  exact ⟨s, hs, by simpa using hk, he.symm⟩

theorem expressionFocus_cases (s : Focus) :
    expressionFocus s ∈ s.children ∨ expressionFocus s = s := by
  unfold expressionFocus
  cases h : List.find? _ _ with
  | none => exact .inr rfl
  | some c => exact .inl (List.mem_filter.1 (List.mem_of_find?_eq_some h)).1

section Places

variable {env : Env} {owner : Option Text} {frames : List Frame} {f : Focus}

theorem parsed_children (h : f.node.Parsed) : ∀ p ∈ f.children, p.node.Parsed := by
  intro p hp
  refine h.of_mem_items ?_
  rw [← Focus.map_node_children h.laid]
  exact List.mem_map_of_mem hp

theorem Sees.lined_children (h : Sees env owner frames f) (inside : Bool) :
    Lined inside f.node.info frames [] f.children :=
  .children h.around .nil (fun _ hn => h.parsed.of_mem_items hn) fun _ hnone => by cases hnone

theorem Sees.within_children (h : Sees env owner frames f) :
    owner.isSome = true → ∀ p ∈ f.children, Scope.inComponent env.source p = true :=
  fun howner _ hp => Scope.inComponent_of_mem_children hp (h.within howner)

theorem keptFoci_cases {source : Bytes} {p : Focus} (h : p ∈ (keptFoci source f).map (·.2)) :
    ∃ s ∈ f.children, s.node.kind = "template_substitution" ∧ (p ∈ s.children ∨ p = s) := by
  obtain ⟨q, hq, rfl⟩ := List.mem_map.1 h
  obtain ⟨s, hs, hkind, hqs⟩ := mem_keptFoci hq
  exact ⟨s, hs, hkind, hqs ▸ expressionFocus_cases s⟩

theorem Sees.parsed_kept (h : Sees env owner frames f) {source : Bytes} :
    ∀ p ∈ (keptFoci source f).map (·.2), p.node.Parsed := by
  intro p hp
  obtain ⟨s, hs, -, hp | rfl⟩ := keptFoci_cases hp
  · exact parsed_children (parsed_children h.parsed s hs) p hp
  · exact parsed_children h.parsed p hs

theorem Sees.within_kept (h : Sees env owner frames f) (howner : owner.isSome = true)
    {source : Bytes} :
    ∀ p ∈ (keptFoci source f).map (·.2), Scope.inComponent env.source p = true := by
  intro p hp
  obtain ⟨s, hs, -, hp | rfl⟩ := keptFoci_cases hp
  · exact Scope.inComponent_of_mem_children hp
      (Scope.inComponent_of_mem_children hs (h.within howner))
  · exact Scope.inComponent_of_mem_children hs (h.within howner)

theorem Sees.isJsxText_kept (h : Sees env owner frames f) {source : Bytes} :
    ∀ p ∈ (keptFoci source f).map (·.2), Literal.isJsxText p.node = false := by
  intro p hp
  obtain ⟨s, hs, hsubst, hp | rfl⟩ := keptFoci_cases hp
  · have hparsed := parsed_children h.parsed s hs
    refine hparsed.substitution_items hsubst ?_
    rw [← Focus.map_node_children hparsed.laid]
    exact List.mem_map_of_mem hp
  · rw [Literal.isJsxText, hsubst]
    decide

theorem Sees.matches_kept (h : Sees env owner frames f) (hkind : f.node.kind = "template_string")
    {source : Bytes} {call : Info} (hcall : call.kind = "call_expression") :
    ∀ p ∈ (keptFoci source f).map (·.2), ∀ before after,
      Matches p.frames (⟨call, before, after⟩ :: frames) := by
  intro p hp before after
  -- As parsed an expression is two frames below the template; in the walk it is right below the call.
  obtain ⟨s, hs, hsubst, hp | rfl⟩ := keptFoci_cases hp
  · obtain ⟨past, later, hp⟩ := Focus.frames_of_mem_children hp
    obtain ⟨beside, beyond, hs⟩ := Focus.frames_of_mem_children hs
    rw [hp, hs]
    exact .expression hsubst hkind hcall h.around
  · obtain ⟨beside, beyond, hp⟩ := Focus.frames_of_mem_children hs
    rw [hp]
    exact .substitution hkind hcall h.around

theorem Sees.lined_kept (h : Sees env owner frames f) (hkind : f.node.kind = "template_string")
    {source : Bytes} {call : Info} (hcall : call.kind = "call_expression") (inside : Bool) :
    Lined inside call frames [] ((keptFoci source f).map (·.2)) :=
  .kept (h.matches_kept hkind hcall) h.isJsxText_kept

end Places

section Staying

theorem field_inPlaceOf {new old : Node} (hnew : new.isChild = true) :
    (new.inPlaceOf old).field = old.field := by
  cases new with
  | text t => simp [Node.isChild] at hnew
  | branch i items => rfl

theorem isChild_inPlaceOf {new old : Node} (hnew : new.isChild = true) (hold : old.isLaid = true) :
    (new.inPlaceOf old).isChild = old.isChild := by
  cases new with
  | text t => simp [Node.isChild] at hnew
  | branch i items =>
    cases old with
    | text t => simp [Node.isLaid] at hold
    | branch j js => rfl

theorem kind_inPlaceOf (new old : Node) : (new.inPlaceOf old).kind = new.kind := by
  cases new with
  | text t => rfl
  | branch i items =>
    show (Info.inherit i old.info).kind = i.kind
    unfold Info.inherit
    split <;> rfl

theorem stays_inPlaceOf {new old : Node} (hnew : new.isChild = true)
    (hkind : newKinds.contains new.kind = true) (hold : old.isLaid = true)
    (htoken : Node.tokenKinds.contains old.kind = false) (hmember : old.kind ≠ "member_expression") :
    Stays old (new.inPlaceOf old) where
  field := field_inPlaceOf hnew
  isChild := isChild_inPlaceOf hnew hold
  kind := .inr (by rw [kind_inPlaceOf, hkind])
  token h := by
    rw [htoken] at h
    cases h
  member h := (hmember h).elim

theorem isChild_ofString (function value : Text) (inAttribute : Bool) :
    (Wrap.ofString function value inAttribute).isChild = true := by
  cases inAttribute <;> rfl

theorem kind_ofString (function value : Text) (inAttribute : Bool) :
    newKinds.contains (Wrap.ofString function value inAttribute).kind = true := by
  cases inAttribute <;> rfl

theorem stays_reassemble {n : Node} {below : Made (List Node)} (hn : n.Parsed)
    (hbelow : Beside n.items below.part)
    (hnil : n.items = [] → below = .same []) : Stays n (reassemble n.info below).part := by
  cases n with
  | text t => simpa [Node.isLaid] using hn.laid
  | branch i items =>
    refine ⟨rfl, rfl, .inl rfl, fun htoken => ?_, fun hmember => ⟨rfl, ?_⟩⟩
    · have hitems := hn.items_of_token htoken
      rw [hnil hitems]
      simp only [reassemble, Made.same, Node.info, Bool.or_false]
      exact congrArg (Node.branch i) hitems.symm
    -- The property of a member expression is a token, so the walk has not touched it.
    · exact eq_of_rel_token (hbelow.childByField? "property") fun c hc =>
        hn.property_token hmember hc

theorem map_node_takeWhile {more rest : List Focus}
    (hmore : more = rest.takeWhile fun p => isRunItem p.node) :
    more.map (·.node) = (rest.map (·.node)).takeWhile isRunItem := by
  rw [hmore, List.takeWhile_map]
  rfl

theorem append_drop_takeWhile {α : Type} {p : α → Bool} {xs ys : List α}
    (h : xs = ys.takeWhile p) : xs ++ ys.drop xs.length = ys := by
  obtain ⟨zs, hzs⟩ := h ▸ List.takeWhile_prefix p (l := ys)
  rw [← hzs, List.drop_left]

theorem field_placedRun {new first : Node} {more : List Node} (hnew : new.isChild = true) :
    (placedRun new first more).field = first.field := by
  unfold placedRun
  split
  · exact field_inPlaceOf hnew
  · cases new with
    | text t => simp [Node.isChild] at hnew
    | branch i items => rfl

theorem Visits.eq_of_nil {env : Env} {owner : Option Text} {parent : Info} {frames : List Frame}
    {before : List Node} {k : Nat} {made : Made (List Node)} {ws : List Wrapped}
    (h : Visits env owner parent frames before k [] made ws) : made = .same [] ∧ ws = [] := by
  cases h
  exact ⟨rfl, rfl⟩

theorem beside_of_children {env : Env} {owner owner' : Option Text} {frames : List Frame} {f : Focus}
    {below : Made (List Node)} {ws : List Wrapped} (hsees : Sees env owner frames f)
    (hbelow : Visits env owner' f.node.info frames [] 0 f.children below ws)
    (hbeside : Beside (f.children.map (·.node)) below.part) :
    Beside f.node.items below.part ∧ (f.node.items = [] → below = .same []) := by
  refine ⟨Focus.map_node_children hsees.parsed.laid ▸ hbeside, fun hitems => ?_⟩
  have hchildren : f.children = [] := by
    rw [← List.map_eq_nil_iff, Focus.map_node_children hsees.parsed.laid, hitems]
  rw [hchildren] at hbelow
  exact hbelow.eq_of_nil.1

theorem stays_of_children {env : Env} {owner owner' : Option Text} {frames : List Frame} {f : Focus}
    {below : Made (List Node)} {ws : List Wrapped} (hsees : Sees env owner frames f)
    (hbelow : Visits env owner' f.node.info frames [] 0 f.children below ws)
    (hbeside : Beside (f.children.map (·.node)) below.part) :
    Stays f.node (reassemble f.node.info below).part := by
  obtain ⟨hitems, hnil⟩ := beside_of_children hsees hbelow hbeside
  exact stays_reassemble hsees.parsed hitems hnil

theorem stays_ofTemplate {env : Env} {key : Text} {n : Node} {names : List Text}
    {below : Made (List Node)} (hn : n.isLaid = true) (hkind : n.kind = "template_string") :
    Stays n (ofTemplate env key n names below).part where
  field := rfl
  isChild := by
    cases n with
    | text t => simp [Node.isLaid] at hn
    | branch i items => rfl
  kind := .inr rfl
  token h := by
    rw [hkind] at h
    exact absurd h (by decide)
  member h := by
    rw [hkind] at h
    exact absurd h (by decide)

mutual

theorem Visit.stays {env : Env} {owner : Option Text} {frames : List Frame} {f : Focus}
    {made : Made Node} {ws : List Wrapped} :
    Visit env owner frames f made ws → Stays f.node made.part
  | .skipped _ _ => .refl _
  | .otherString _ _ _ _ _ => .refl _
  | .component hsees _ _ _ hbelow => stays_of_children hsees hbelow hbelow.beside
  | .entered hsees _ hbelow => stays_of_children hsees hbelow hbelow.beside
  | .string hsees _ _ hkind hwrap => by
    obtain ⟨value, -, -, -, rfl⟩ := wrapString?_eq_some hwrap
    exact stays_inPlaceOf (isChild_ofString _ _ _) (kind_ofString _ _ _) hsees.parsed.laid
      (by rw [hkind]; decide) (by rw [hkind]; decide)
  | .template hsees _ _ hkind _ _ => stays_ofTemplate hsees.parsed.laid hkind

theorem Visits.beside {env : Env} {owner : Option Text} {parent : Info} {frames : List Frame}
    {before : List Node} {k : Nat} {places : List Focus} {made : Made (List Node)}
    {ws : List Wrapped} :
    Visits env owner parent frames before k places made ws →
      Beside (places.map (·.node)) made.part
  | .nil => .nil
  | .run _ hlined hjsx hmore hwrap hrest => by
    have hbeside := hrest.beside
    have hfields := hlined.field_of_run hjsx (map_node_takeWhile hmore)
    rw [← append_drop_takeWhile hmore, List.map_cons, List.map_append, ← List.cons_append]
    refine .run hfields ?_ hbeside
    obtain ⟨value, -, -, -, rfl⟩ := wrapRun?_eq_some hwrap
    exact (field_placedRun rfl).trans (hfields _ List.mem_cons_self)
  | .otherRun _ hmore _ hrest => by
    have hbeside := hrest.beside
    rw [← append_drop_takeWhile hmore, List.map_cons, List.map_append, ← List.cons_append]
    exact (Beside.refl _).append hbeside
  | .node _ hfirst hrest => .node hfirst.stays hrest.beside

end

end Staying

/-- What holds of every literal, and of the other nodes of a run, at the moment it is wrapped. -/
structure WhenWrapped (env : Env) (P : Focus → List Focus → Prop) : Prop where
  string : ∀ {frames : List Frame} {f : Focus} {name : Text} {new : Node},
    Sees env (some name) frames f → f.node.kind = "string" →
    (wrapString? env name ⟨f.node, frames⟩).result = .ok (some new) → P f []
  template : ∀ {frames : List Frame} {f : Focus} {name key : Text},
    Sees env (some name) frames f → f.node.kind = "template_string" →
    (templateKey? env name ⟨f.node, frames⟩).result = .ok (some key) → P f []
  run : ∀ {parent : Info} {frames : List Frame} {before : List Node} {f : Focus}
    {more rest : List Focus} {name : Text} {new : Node},
    Sees env (some name) (⟨parent, before, rest.map (·.node)⟩ :: frames) f →
    Lined true parent frames before (f :: rest) → Literal.isJsxText f.node = true →
    more = (rest.takeWhile fun p => isRunItem p.node) →
    (wrapRun? env name ⟨f.node, ⟨parent, before, rest.map (·.node)⟩ :: frames⟩
      (more.map (·.node))).result = .ok (some new) → P f more

mutual

theorem Visit.forall_wrapped {env : Env} {P : Focus → List Focus → Prop} (h : WhenWrapped env P)
    {owner : Option Text} {frames : List Frame} {f : Focus}
    {made : Made Node} {ws : List Wrapped} :
    Visit env owner frames f made ws → ∀ w ∈ ws, P w.focus w.more
  | .skipped _ _ => by simp
  | .otherString _ _ _ _ _ => by simp
  | .component _ _ _ _ hbelow => by
    intro w hw
    obtain ⟨u, hu, rfl⟩ := List.mem_map.1 hw
    exact hbelow.forall_wrapped h u hu
  | .entered _ _ hbelow => hbelow.forall_wrapped h
  | .string hsees _ _ hkind hwrap =>
    List.forall_mem_cons.2 ⟨h.string hsees hkind hwrap, by simp⟩
  | .template hsees _ _ hkind hkey hbelow =>
    List.forall_mem_cons.2 ⟨h.template hsees hkind hkey, hbelow.forall_wrapped h⟩

theorem Visits.forall_wrapped {env : Env} {P : Focus → List Focus → Prop} (h : WhenWrapped env P)
    {owner : Option Text} {parent : Info} {frames : List Frame} {before : List Node} {k : Nat}
    {places : List Focus} {made : Made (List Node)} {ws : List Wrapped} :
    Visits env owner parent frames before k places made ws → ∀ w ∈ ws, P w.focus w.more
  | .nil => by simp
  | .run hsees hlined hjsx hmore hwrap hrest =>
    List.forall_mem_cons.2 ⟨h.run hsees hlined hjsx hmore hwrap, hrest.forall_wrapped h⟩
  | .otherRun _ _ _ hrest => hrest.forall_wrapped h
  | .node _ hfirst hrest => by
    refine List.forall_mem_append.2 ⟨fun w hw => ?_, hrest.forall_wrapped h⟩
    obtain ⟨u, hu, rfl⟩ := List.mem_map.1 hw
    exact hfirst.forall_wrapped h u hu

end

section Adequacy

variable {env : Env}

mutual

theorem visit_of_walkNode {env : Env} {owner : Option Text} {frames : List Frame} :
    ∀ {f : Focus} {made : Made Node}, Sees env owner frames f →
      (walkNode env owner frames f.node).result = .ok made → ∃ ws, Visit env owner frames f made ws
  | ⟨.text t, was⟩, _, hsees, _ => by simpa [Node.isLaid] using hsees.parsed.laid
  | ⟨.branch info items, was⟩, made, hsees, h => by
    have hf : (Node.branch info items).isLaid = true := hsees.parsed.laid
    have hitems : (Focus.mk (.branch info items) was).children.map (·.node) = items :=
      Focus.map_node_children hf
    have hparsed := parsed_children hsees.parsed
    have hkept : (keptExpressions env.source items).map (·.2) =
        ((keptFoci env.source ⟨.branch info items, was⟩).map (·.2)).map (·.node) := by
      rw [← show _ = keptExpressions env.source items from
        map_keptFoci (f := ⟨.branch info items, was⟩) hf, List.map_map, List.map_map]
      rfl
    have hentered {below : Made (List Node)} (henter : Enters env owner frames (.branch info items))
        (hb : (walkItems env owner info frames [] 0 items).result = .ok below) :
        ∃ ws, Visit env owner frames ⟨.branch info items, was⟩ (reassemble info below) ws := by
      rw [← hitems] at hb
      obtain ⟨ws, hws⟩ := visits_of_walkItems hparsed hsees.within_children
        (hsees.lined_children _) hb
      exact ⟨ws, .entered hsees henter hws⟩
    by_cases hskip : skippedKinds.contains info.kind = true
    · cases owner
      all_goals
        rw [walkNode, if_pos hskip] at h
        cases h
        exact ⟨_, .skipped hsees hskip⟩
    have hskip' : skippedKinds.contains info.kind = false := by simpa using hskip
    by_cases hfn : Scope.isFunction (.branch info items) = true
    · cases hname : Scope.componentName? env.source ⟨.branch info items, frames⟩ with
      | none =>
        have h' : ∃ below, (walkItems env owner info frames [] 0 items).result = .ok below ∧
            reassemble info below = made := by
          cases owner
          all_goals
            rw [walkNode, if_neg hskip, if_pos hfn, hname] at h
            obtain ⟨below, hb, hmade⟩ := Logged.result_bind_eq_ok.1 h
            cases hmade
            exact ⟨below, hb, rfl⟩
        obtain ⟨below, hb, rfl⟩ := h'
        exact hentered ⟨hskip', .inl ⟨hfn, hname⟩⟩ hb
      | some name =>
        have h' : ∃ below, (walkItems env (some name) info frames [] 0 items).result = .ok below ∧
            ofComponent env (.branch info items) name below = made := by
          cases owner
          all_goals
            rw [walkNode, if_neg hskip, if_pos hfn, hname] at h
            obtain ⟨below, hb, hmade⟩ := Logged.result_bind_eq_ok.1 h
            cases hmade
            exact ⟨below, hb, rfl⟩
        obtain ⟨below, hb, rfl⟩ := h'
        rw [← hitems] at hb
        -- The walk judges a component by its own frames; the name carries over to those as parsed.
        have hwithin : (some name).isSome = true → ∀ p ∈ (Focus.mk (.branch info items) was).children,
            Scope.inComponent env.source p = true := fun _ p hp =>
          Scope.inComponent_of_component hp hfn (hsees.around.componentName?.symm.trans hname)
        obtain ⟨ws, hws⟩ := visits_of_walkItems hparsed hwithin (hsees.lined_children _) hb
        exact ⟨_, .component hsees hskip' hfn hname hws⟩
    have hfn' : Scope.isFunction (.branch info items) = false := by simpa using hfn
    cases owner with
    | none =>
      rw [walkNode, if_neg hskip, if_neg hfn] at h
      obtain ⟨below, hb, hmade⟩ := Logged.result_bind_eq_ok.1 h
      cases hmade
      exact hentered ⟨hskip', .inr ⟨hfn', by simp⟩⟩ hb
    | some name =>
      rw [walkNode, if_neg hskip, if_neg hfn] at h
      dsimp only at h
      split at h
      next hkind =>
        have hkind' : info.kind = "string" := by simpa using hkind
        obtain ⟨new?, hwrap, hmade⟩ := Logged.result_bind_eq_ok.1 h
        cases new? with
        | none =>
          cases hmade
          exact ⟨_, .otherString hsees hskip' hfn' hkind' hwrap⟩
        | some new =>
          cases hmade
          exact ⟨_, .string hsees hskip' hfn' hkind' hwrap⟩
      next hkind =>
      have hkind' : info.kind ≠ "string" := by simpa using hkind
      split at h
      next htemplate =>
        have htemplate' : info.kind = "template_string" := by simpa using htemplate
        obtain ⟨key?, hkey, hmade⟩ := Logged.result_bind_eq_ok.1 h
        cases key? with
        | none =>
          obtain ⟨below, hb, hmade⟩ := Logged.result_bind_eq_ok.1 hmade
          cases hmade
          refine hentered ⟨hskip', .inr ⟨hfn', ?_⟩⟩ hb
          rintro name' ⟨⟩
          exact ⟨hkind', fun _ => hkey⟩
        | some key =>
          obtain ⟨below, hb, hmade⟩ := Logged.result_bind_eq_ok.1 hmade
          cases hmade
          -- Below a call the walk goes over the kept expressions, not over the items of the template.
          rw [hkept] at hb
          obtain ⟨ws, hws⟩ := visits_of_walkItems hsees.parsed_kept (fun h => hsees.within_kept h)
            (hsees.lined_kept htemplate' rfl _) hb
          exact ⟨_, .template (f := ⟨.branch info items, was⟩) hsees hskip' hfn' htemplate' hkey hws⟩
      next htemplate =>
        obtain ⟨below, hb, hmade⟩ := Logged.result_bind_eq_ok.1 h
        cases hmade
        refine hentered ⟨hskip', .inr ⟨hfn', ?_⟩⟩ hb
        rintro name' ⟨⟩
        exact ⟨hkind', fun ht => (htemplate (beq_iff_eq.2 ht)).elim⟩
termination_by f => f.node.weight
decreasing_by
  all_goals
    simp only [Node.weight, hitems, ← hkept]
    have := weightItems_keptExpressions_le env.source items
    omega

theorem visits_of_walkItems {env : Env} {owner : Option Text} {parent : Info}
    {frames : List Frame} {before : List Node} {k : Nat} :
    ∀ {places : List Focus} {made : Made (List Node)}, (∀ p ∈ places, p.node.Parsed) →
      (owner.isSome = true → ∀ p ∈ places, Scope.inComponent env.source p = true) →
      Lined owner.isSome parent frames before places →
      (walkItems env owner parent frames before k (places.map (·.node))).result = .ok made →
      ∃ ws, Visits env owner parent frames before k places made ws
  | [], made, _, _, _, h => by
    rw [List.map_nil, walkItems] at h
    cases h
    exact ⟨_, .nil⟩
  | f :: rest, made, hparsed, hwithin, hlined, h => by
    have hf := hparsed f List.mem_cons_self
    have hsees : Sees env owner (⟨parent, before, rest.map (·.node)⟩ :: frames) f :=
      ⟨hf, hlined.matches_head, fun howner => hwithin howner f List.mem_cons_self⟩
    have hchild : ¬ ((!f.node.isChild) = true) := by simp [Node.isChild_of_isLaid hf.laid]
    rw [List.map_cons] at h
    -- JSX text inside a component is walked as a run, and every other node by itself.
    by_cases hjsx : owner.isSome = true → Literal.isJsxText f.node = false
    · have h' : ∃ first made', (walkNode env owner
          (⟨parent, before, rest.map (·.node)⟩ :: frames) f.node).result = .ok first ∧
          (walkItems env owner parent frames (first.part :: before) (k + 1)
            (rest.map (·.node))).result = .ok made' ∧
          made = ⟨first.part :: made'.part, first.components.map (·.below k) ++ made'.components,
            first.touched || made'.touched, first.changed || made'.changed⟩ := by
        rw [walkItems.eq_3, if_neg hchild] at h
        · obtain ⟨first, hfirst, h⟩ := Logged.result_bind_eq_ok.1 h
          obtain ⟨made', hmade', h⟩ := Logged.result_bind_eq_ok.1 h
          cases h
          exact ⟨first, made', hfirst, hmade', rfl⟩
        · rintro name rfl hj
          simp [hj] at hjsx
      obtain ⟨first, made', hfirst, hmade', rfl⟩ := h'
      obtain ⟨us, hus⟩ := visit_of_walkNode hsees hfirst
      obtain ⟨ws, hws⟩ := visits_of_walkItems
        (fun p hp => hparsed p (List.mem_cons_of_mem _ hp))
        (fun howner p hp => hwithin howner p (List.mem_cons_of_mem _ hp))
        (hlined.tail hus.stays hjsx) hmade'
      exact ⟨_, .node hjsx hus hws⟩
    · obtain ⟨howner, hj⟩ := Classical.not_imp.1 hjsx
      obtain ⟨name, rfl⟩ := Option.isSome_iff_exists.1 howner
      have hj' : Literal.isJsxText f.node = true := by simpa using hj
      obtain ⟨more, hmore⟩ : ∃ more, more = rest.takeWhile fun p => isRunItem p.node := ⟨_, rfl⟩
      have hnodes := map_node_takeWhile hmore
      have hlength : ((rest.map (·.node)).takeWhile isRunItem).length = more.length := by
        rw [← hnodes, List.length_map]
      rw [walkItems.eq_2 _ _ _ _ _ _ _ _ hj', if_neg hchild] at h
      dsimp only at h
      obtain ⟨new?, hwrap, h⟩ := Logged.result_bind_eq_ok.1 h
      rw [← hnodes] at hwrap
      rw [hlength, ← List.map_drop] at h
      have hparsed' : ∀ p ∈ rest.drop more.length, p.node.Parsed := fun p hp =>
        hparsed p (List.mem_cons_of_mem _ (List.mem_of_mem_drop hp))
      have hwithin' : (some name).isSome = true → ∀ p ∈ rest.drop more.length,
          Scope.inComponent env.source p = true := fun howner p hp =>
        hwithin howner p (List.mem_cons_of_mem _ (List.mem_of_mem_drop hp))
      have hfields := hlined.field_of_run hj' hnodes
      cases new? with
      | none =>
        obtain ⟨made', hmade', h⟩ := Logged.result_bind_eq_ok.1 h
        cases h
        rw [← hnodes] at hmade'
        have hdrop := hlined.drop hj' hnodes (Beside.refl (f.node :: more.map (·.node)))
        rw [List.length_map] at hdrop
        rw [List.length_cons, List.length_map] at hmade'
        obtain ⟨ws, hws⟩ := visits_of_walkItems hparsed' hwithin' hdrop hmade'
        rw [← hnodes]
        exact ⟨_, .otherRun hj' hmore hwrap hws⟩
      | some new =>
        obtain ⟨made', hmade', h⟩ := Logged.result_bind_eq_ok.1 h
        cases h
        have hnew : new.field = none := by
          obtain ⟨value, -, -, -, rfl⟩ := wrapRun?_eq_some hwrap
          exact (field_placedRun rfl).trans (hfields _ List.mem_cons_self)
        have hdrop := hlined.drop hj' hnodes (by simpa using Beside.run hfields hnew .nil)
        rw [List.length_map] at hdrop
        obtain ⟨ws, hws⟩ := visits_of_walkItems hparsed' hwithin' hdrop hmade'
        exact ⟨_, .run hsees hlined hj' hmore hwrap hws⟩
termination_by places => Node.weightItems (places.map (·.node))
decreasing_by
  all_goals
    simp only [List.map_cons, Node.weightItems, List.map_drop]
    try have := Node.weightItems_drop_le more.length (rest.map (·.node))
    omega

end

theorem visit_of_walk {root : Node} {made : Made Node} (hroot : root.Parsed)
    (h : (walk env root).result = .ok made) :
    ∃ ws, Visit env none [] (Focus.ofRoot root) made ws :=
  visit_of_walkNode (f := Focus.ofRoot root) ⟨hroot, .nil, fun h => by cases h⟩ h

end Adequacy

end Pass
end Phrasebook
