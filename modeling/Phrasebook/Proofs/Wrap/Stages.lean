import Phrasebook.Proofs.Tree.Sturdy
import Phrasebook.Proofs.Wrap.Stack

/-! What stands on the stack of the walk: children of a node as parsed of which those before are done,
expressions of a template that became a call, or items of a node that was put in. Every node as parsed
comes up in frames that match its own, and for the component that is nearest around it. -/

namespace Phrasebook

namespace Node

mutual

def isInert : Node → Bool
  | text _ => true
  | branch i items => newKinds.contains i.kind && areInert items

def areInert : List Node → Bool
  | [] => true
  | n :: rest => n.isInert && areInert rest

end

theorem areInert_iff {items : List Node} : areInert items = true ↔ ∀ n ∈ items, n.isInert = true := by
  induction items with
  | nil => simp [areInert]
  | cons n rest ih => simp [areInert, ih]

theorem kind_ne_of_isInert {n : Node} (h : n.isInert = true) {kinds : List String}
    (hkinds : ∀ kind ∈ "" :: newKinds, kinds.contains kind = false) : kinds.contains n.kind = false := by
  cases n with
  | text t => exact hkinds "" List.mem_cons_self
  | branch i items =>
    rw [isInert, Bool.and_eq_true, List.contains_iff_mem] at h
    exact hkinds i.kind (List.mem_cons_of_mem _ h.1)

theorem isFunction_of_isInert {n : Node} (h : n.isInert = true) : Scope.isFunction n = false := by
  rw [Scope.isFunction, kind_ne_of_isInert h (by decide), Bool.and_false]

theorem isInert_mapInfo {n : Node} {f : Info → Info} (hf : ∀ i, (f i).kind = i.kind) :
    (n.mapInfo f).isInert = n.isInert := by
  cases n with
  | text t => rfl
  | branch i items => rw [mapInfo, isInert, isInert, hf]

end Node

namespace Pass

open Node

theorem isInert_ofString {env : Env} {owner : Text} {f : Focus} {new : Node}
    (h : (wrapString? env owner f).result = .ok (some new)) : new.isInert = true := by
  obtain ⟨value, -, -, -, rfl⟩ := wrapString?_eq_some h
  rw [Node.inPlaceOf]
  refine (isInert_mapInfo fun i => ?_).trans ?_
  · exact kind_inherit i f.node.info
  · cases Literal.inAttribute f <;> rfl

theorem isInert_ofRun {env : Env} {owner : Text} {f : Focus} {more : List Node} {new : Node}
    (h : (wrapRun? env owner f more).result = .ok (some new)) : new.isInert = true := by
  obtain ⟨value, -, -, -, rfl⟩ := wrapRun?_eq_some h
  unfold placedRun Node.inPlaceOf Node.inPlaceOfRun
  split
  all_goals
    refine (isInert_mapInfo fun i => ?_).trans rfl
    exact kind_inherit i f.node.info

def contextOf? (source : Bytes) (f : Focus) : Option Context :=
  (Focus.above f.node f.frames).findSome? fun g =>
    if Scope.isFunction g.node then
      (Scope.componentName? source g).map fun name => ⟨name, g⟩
    else none

section Contexts

variable {source : Bytes} {f c : Focus}

theorem contextOf?_of_component {name : Text} (hc : c ∈ f.children)
    (hfn : Scope.isFunction f.node = true) (hname : Scope.componentName? source f = some name) :
    contextOf? source c = some ⟨name, f⟩ := by
  rw [contextOf?, Focus.above_of_mem_children hc]
  exact List.findSome?_cons_of_isSome (by simp [hfn, hname]) |>.trans (by simp [hfn, hname])

theorem contextOf?_of_other (hc : c ∈ f.children)
    (hown : Scope.isFunction f.node = true → Scope.componentName? source f = none) :
    contextOf? source c = contextOf? source f := by
  rw [contextOf?, Focus.above_of_mem_children hc, List.findSome?_cons_of_isNone]
  · rfl
  · by_cases hfn : Scope.isFunction f.node = true
    · simp [hfn, hown hfn]
    · simp [hfn]

theorem isFunction_of_kind {n : Node} {kind : String} (h : n.kind = kind)
    (hkind : Scope.functionKinds.contains kind = false) : Scope.isFunction n = false := by
  rw [Scope.isFunction, h, hkind, Bool.and_false]

theorem contextOf?_of_kept (hkind : f.node.kind = "template_string")
    (hc : c ∈ (keptFoci source f).map (·.2)) : contextOf? source c = contextOf? source f := by
  obtain ⟨s, hs, hsubst, hcs⟩ := keptFoci_cases hc
  have hsf : contextOf? source s = contextOf? source f :=
    contextOf?_of_other hs fun h => by rw [isFunction_of_kind hkind (by decide)] at h; cases h
  rcases hcs with hcs | rfl
  · rw [← hsf]
    exact contextOf?_of_other hcs fun h => by rw [isFunction_of_kind hsubst (by decide)] at h; cases h
  · exact hsf

end Contexts

inductive Fits (env : Env) (context : Option Context) (frames : List Frame) : Item → Prop
  | parsed {f : Focus} (hparsed : f.node.Parsed) (haround : Matches f.frames frames)
      (hcontext : contextOf? env.source f = context) : Fits env context frames (.parsed f)
  | made {n : Node} (hinert : n.isInert = true) : Fits env context frames (.made n)

def Item.Returns : Item → Made Node → Prop
  | .parsed f, m => Stays f.node m.part
  | .made n, m => m.part = n ∧ m.changed = false

theorem Item.returns_same (item : Item) : item.Returns (.same item.node) := by
  cases item with
  | parsed f => exact .refl _
  | made n => exact ⟨rfl, rfl⟩

/-- A stage in good order, and what is promised of the node that it makes. -/
inductive Ready (env : Env) : Stage → (Made Node → Prop) → Prop
  | parsed {s : Stage} {f : Focus} {past items : List Node} (hsees : Sees env none s.frames f)
      (hparent : s.parent = f.node.info)
      (hitems : f.node.items = past.reverse ++ items) (hbeside : Beside past.reverse s.before.reverse)
      (hpending : s.pending = (Focus.ofItems f.node.info f.frames past items).map .parsed)
      (hcontext : ∀ c ∈ f.children, contextOf? env.source c = s.context)
      (hfinish : s.finish = .entered ∨ ∃ name serverBound, s.finish = .component name serverBound)
      (hfresh : past = [] → s.join (.same []) = .same []) :
      Ready env s fun m => Stays f.node m.part
  | kept {s : Stage} {f : Focus} {places : List Focus} {key : Text} {names : List Text}
      (hsees : Sees env none s.frames f) (hkind : f.node.kind = "template_string")
      (hparent : s.parent.kind = "call_expression")
      (hplaces : places ⊆ (keptFoci env.source f).map (·.2)) (hpending : s.pending = places.map .parsed)
      (hcontext : contextOf? env.source f = s.context) (hfinish : s.finish = .template key names f.node) :
      Ready env s fun m => Stays f.node m.part
  | made {s : Stage} {i : Info} {items : List Node} {finish : Finish}
      (hinert : (Node.branch i items).isInert = true) (hparent : s.parent = i)
      (hitems : items = s.before.reverse ++ s.pending.map Item.node)
      (hmade : ∀ item ∈ s.pending, item = .made item.node) (hchanged : s.changed = false)
      (hfinish : s.finish = finish) (hmode : finish = .entered ∨ finish = .replaced) :
      Ready env s fun m => m.part = .branch i items ∧ (finish = .entered → m.changed = false)

variable {env : Env} {s : Stage} {P : Made Node → Prop} {item : Item} {rest : List Item}

theorem next_of_parsed {f : Focus} {frames : List Frame} {past items : List Node}
    (hsees : Sees env none frames f) (hitems : f.node.items = past.reverse ++ items)
    (hplaces : item :: rest = (Focus.ofItems f.node.info f.frames past items).map .parsed) :
    ∃ n after, items = n :: after ∧ n.Parsed ∧ (∀ m ∈ after, m.Parsed) ∧
      item = .parsed ⟨n, ⟨f.node.info, past, after⟩ :: f.frames⟩ ∧
      rest = (Focus.ofItems f.node.info f.frames (n :: past) after).map .parsed ∧
      rest.map Item.node = after := by
  have hlater : ∀ n ∈ items, n.Parsed := fun n hn =>
    hsees.parsed.of_mem_items (hitems ▸ List.mem_append_right _ hn)
  cases items with
  | nil => cases hplaces
  | cons n after =>
    obtain ⟨hn, hafter⟩ := List.forall_mem_cons.1 hlater
    rw [Focus.ofItems_cons (Node.isChild_of_isLaid hn.laid), List.map_cons] at hplaces
    injection hplaces with hitem hrest
    refine ⟨n, after, rfl, hn, hafter, hitem, hrest, ?_⟩
    rw [hrest, List.map_map]
    refine (Focus.map_node_ofItems _ _ _ _).trans ?_
    exact Node.filter_isChild fun m hm => (hafter m hm).laid

theorem Ready.fits (h : Ready env s P) (hpending : s.pending = item :: rest) :
    Fits env s.context (s.frame rest :: s.frames) item := by
  cases h with
  | @parsed f past items hsees hparent hitems hbeside hplaces hcontext =>
    obtain ⟨n, after, rfl, hn, -, rfl, -, hafter⟩ :=
      next_of_parsed hsees hitems (hpending.symm.trans hplaces)
    refine .parsed hn ?_ (hcontext _ (Focus.mem_children_of_items hitems (Node.isChild_of_isLaid hn.laid)))
    rw [Stage.frame, hafter, hparent]
    exact .child hbeside hsees.around
  | @kept f places key names hsees hkind hparent hplaces hmap hcontext =>
    rw [hpending] at hmap
    cases places with
    | nil => cases hmap
    | cons p places =>
      injection hmap with hitem hrest
      have hp := hplaces List.mem_cons_self
      rw [hitem]
      exact .parsed (hsees.parsed_kept p hp) (hsees.matches_kept hkind hparent p hp _ _)
        ((contextOf?_of_kept hkind hp).trans hcontext)
  | made hinert hparent hitems hmade =>
    rw [hpending] at hitems hmade
    rw [Node.isInert, Bool.and_eq_true, Node.areInert_iff] at hinert
    rw [hmade item List.mem_cons_self]
    exact .made (hinert.2 _ (by simp [hitems]))

theorem Fits.ne_map_parsed {context : Option Context} {frames : List Frame}
    (h : Fits env context frames item) (hchild : item.node.isChild = false) (rest : List Item)
    (places : List Focus) : item :: rest ≠ places.map .parsed := by
  intro hplaces
  cases h with
  | parsed hparsed =>
    exact absurd (Node.isChild_of_isLaid hparsed.laid) (by simpa using hchild)
  | made => cases places <;> cases hplaces

theorem Ready.pass (h : Ready env s P) (detached : List Item) : Ready env { s with detached } P := by
  cases h with
  | parsed hsees hparent hitems hbeside hplaces hcontext hfinish hfresh =>
    exact .parsed hsees hparent hitems hbeside hplaces hcontext hfinish hfresh
  | kept hsees hkind hparent hplaces hmap hcontext hfinish =>
    exact .kept hsees hkind hparent hplaces hmap hcontext hfinish
  | made hinert hparent hitems hmade hchanged hfinish hmode =>
    exact .made hinert hparent hitems hmade hchanged hfinish hmode

theorem Ready.inert_of_text (h : Ready env s P) (hpending : s.pending = item :: rest)
    (hchild : item.node.isChild = false) :
    item.node.isInert = true ∧ ∀ n ∈ s.before, n.isInert = true := by
  have hnone := (h.fits hpending).ne_map_parsed hchild rest
  cases h with
  | parsed hsees hparent hitems hbeside hplaces => exact absurd (hpending.symm.trans hplaces) (hnone _)
  | kept hsees hkind hparent hplaces hmap => exact absurd (hpending.symm.trans hmap) (hnone _)
  | made hinert hparent hitems =>
    rw [Node.isInert, Bool.and_eq_true, Node.areInert_iff] at hinert
    exact ⟨hinert.2 _ (by simp [hitems, hpending]), fun n hn => hinert.2 n (by simp [hitems, hn])⟩

theorem Ready.aside (h : Ready env s P) (hpending : s.pending = item :: rest)
    (hchild : item.node.isChild = false) :
    Ready env { s with pending := rest, before := item.node :: s.before } P := by
  have hnone := (h.fits hpending).ne_map_parsed hchild rest
  cases h with
  | parsed hsees hparent hitems hbeside hplaces => exact absurd (hpending.symm.trans hplaces) (hnone _)
  | kept hsees hkind hparent hplaces hmap => exact absurd (hpending.symm.trans hmap) (hnone _)
  | made hinert hparent hitems hmade hchanged hfinish hmode =>
    rw [hpending] at hitems hmade
    refine .made hinert hparent ?_ (fun _ h => hmade _ (List.mem_cons_of_mem _ h)) hchanged hfinish hmode
    simpa using hitems

theorem Ready.take (h : Ready env s P) (hpending : s.pending = item :: rest) {m : Made Node}
    (hm : item.Returns m) {detached : List Item} :
    Ready env ({ s with detached, pending := rest }.take m) P := by
  cases h with
  | @parsed f past items hsees hparent hitems hbeside hplaces hcontext hfinish hfresh =>
    obtain ⟨n, after, rfl, -, -, rfl, hrest, -⟩ :=
      next_of_parsed hsees hitems (hpending.symm.trans hplaces)
    refine .parsed hsees hparent ?_ ?_ hrest hcontext hfinish (fun h => nomatch h)
    · simpa using hitems
    · rw [Stage.take, List.reverse_cons, List.reverse_cons]
      exact hbeside.append (.node hm .nil)
  | @kept f places key names hsees hkind hparent hplaces hmap hcontext hfinish =>
    rw [hpending] at hmap
    cases places with
    | nil => cases hmap
    | cons p places =>
      injection hmap with _ hrest
      exact .kept hsees hkind hparent (fun _ h => hplaces (List.mem_cons_of_mem _ h)) hrest hcontext hfinish
  | made hinert hparent hitems hmade hchanged hfinish hmode =>
    rw [hpending] at hitems hmade
    rw [hmade item List.mem_cons_self] at hm
    refine .made hinert hparent ?_ (fun _ h => hmade _ (List.mem_cons_of_mem _ h)) ?_ hfinish hmode
    · rw [Stage.take, hm.1]
      simpa using hitems
    · rw [Stage.take, hm.2, Bool.or_false]
      exact hchanged

theorem isJsxText_of_kept {f : Focus} {places : List Focus} {frames : List Frame}
    (hsees : Sees env none frames f) (hplaces : places ⊆ (keptFoci env.source f).map (·.2))
    (h : item :: rest = places.map .parsed) : Literal.isJsxText item.node = false := by
  cases places with
  | nil => cases h
  | cons p places =>
    injection h with hitem _
    rw [hitem]
    exact hsees.isJsxText_kept p (hplaces List.mem_cons_self)

theorem isJsxText_of_mem_inert {i : Info} {items : List Node} {n : Node}
    (hinert : (Node.branch i items).isInert = true) (hn : n ∈ items) : Literal.isJsxText n = false := by
  rw [Node.isInert, Bool.and_eq_true, Node.areInert_iff] at hinert
  exact kind_ne_of_isInert (hinert.2 n hn) (by decide)

theorem Ready.laid_of_jsxText (h : Ready env s P) (hpending : s.pending = item :: rest)
    (hjsx : Literal.isJsxText item.node = true) : ∀ n ∈ rest.map Item.node, n.isLaid = true := by
  cases h with
  | @parsed f past items hsees hparent hitems hbeside hplaces =>
    obtain ⟨n, after, -, -, hparsed, -, -, hafter⟩ :=
      next_of_parsed hsees hitems (hpending.symm.trans hplaces)
    rw [hafter]
    exact fun n hn => (hparsed n hn).laid
  | kept hsees hkind hparent hplaces hmap =>
    rw [isJsxText_of_kept hsees hplaces (hpending.symm.trans hmap)] at hjsx
    cases hjsx
  | made hinert hparent hitems =>
    rw [isJsxText_of_mem_inert hinert (by simp [hitems, hpending] : item.node ∈ _)] at hjsx
    cases hjsx

theorem Ready.take_run (h : Ready env s P) (hpending : s.pending = item :: rest) {more : List Node}
    (hjsx : Literal.isJsxText item.node = true)
    (hmore : more = (Focus.mk item.node (s.frame rest :: s.frames)).siblingsAfter.takeWhile
      Literal.isJsxText)
    {m : Made Node} (hm : m.part.field = item.node.field) {detached : List Item} :
    Ready env ({ s with detached, pending := rest.drop more.length }.take m) P := by
  cases h with
  | @parsed f past items hsees hparent hitems hbeside hplaces hcontext hfinish hfresh =>
    obtain ⟨n, after, rfl, hn, hafters, rfl, hrest, hafter⟩ :=
      next_of_parsed hsees hitems (hpending.symm.trans hplaces)
    have hlaid : ∀ n ∈ after, n.isLaid = true := fun n hn => (hafters n hn).laid
    rw [Stage.siblingsAfter_frame, hafter, Node.filter_isChild hlaid] at hmore
    obtain ⟨later, hsplit⟩ : ∃ later, after = more ++ later :=
      ⟨after.dropWhile Literal.isJsxText, by rw [hmore, List.takeWhile_append_dropWhile]⟩
    subst hsplit
    -- JSX text is in no field, so one node in no field may stand in the place of all of it.
    have hfield : ∀ c ∈ n :: more, c.field = none := by
      refine List.forall_mem_cons.2 ⟨hn.field_of_jsxText hjsx, fun c hc => ?_⟩
      have hc' : Literal.isJsxText c = true := List.all_eq_true.1 List.all_takeWhile c (hmore ▸ hc)
      exact (hafters c (List.mem_append_left _ hc)).field_of_jsxText hc'
    have hdrop : rest.drop more.length =
        (Focus.ofItems f.node.info f.frames (more.reverse ++ n :: past) later).map .parsed := by
      rw [hrest, ← List.map_drop, Focus.drop_ofItems fun c hc =>
        Node.isChild_of_isLaid (hlaid c (List.mem_append_left _ hc))]
    refine .parsed hsees hparent ?_ ?_ hdrop hcontext hfinish (fun h => absurd h (by simp))
    · simpa using hitems
    · rw [Stage.take, List.reverse_cons, List.reverse_append, List.reverse_cons, List.reverse_reverse,
        List.append_assoc]
      exact hbeside.append (by simpa using Beside.run hfield (hm.trans (hfield n List.mem_cons_self)) .nil)
  | kept hsees hkind hparent hplaces hmap =>
    rw [isJsxText_of_kept hsees hplaces (hpending.symm.trans hmap)] at hjsx
    cases hjsx
  | made hinert hparent hitems =>
    rw [isJsxText_of_mem_inert hinert (by simp [hitems, hpending] : item.node ∈ _)] at hjsx
    cases hjsx

theorem Ready.closes (h : Ready env s P) (hpending : s.pending = []) : P (s.close env (.same [])) := by
  cases h with
  | @parsed f past items hsees hparent hitems hbeside hplaces hcontext hfinish hfresh =>
    have hlater : ∀ n ∈ items, n.isLaid = true := fun n hn =>
      (hsees.parsed.of_mem_items (hitems ▸ List.mem_append_right _ hn)).laid
    have hnone : items = [] := by
      rw [hpending, eq_comm, List.map_eq_nil_iff, ← List.map_eq_nil_iff (f := Focus.node)] at hplaces
      rwa [Focus.map_node_ofItems, Node.filter_isChild hlater] at hplaces
    rw [hnone, List.append_nil] at hitems
    have hstays : Stays f.node (reassemble f.node.info (s.join (.same []))).part := by
      refine stays_reassemble hsees.parsed ?_ fun h => hfresh (by simpa [h] using hitems.symm)
      rw [hitems, Stage.join]
      simpa [Made.same] using hbeside
    rw [Stage.close, hparent]
    rcases hfinish with hfinish | ⟨name, serverBound, hfinish⟩
    · rw [hfinish]
      exact hstays
    · rw [hfinish]
      exact hstays
  | @kept f places key names hsees hkind hparent hplaces hmap hcontext hfinish =>
    rw [Stage.close, hfinish]
    exact stays_ofTemplate hsees.parsed.laid hkind
  | @made i items finish hinert hparent hitems hmade hchanged hfinish hmode =>
    have hpart : (reassemble s.parent (s.join (.same []))).part = .branch i items := by
      rw [hpending, List.map_nil, List.append_nil] at hitems
      rw [reassemble, Stage.join, hparent, hitems, hchanged]
      simp [Made.same]
    rw [Stage.close, hfinish]
    rcases hmode with rfl | rfl
    · refine ⟨hpart, fun _ => ?_⟩
      show (s.changed || (Made.same []).changed) = false
      rw [hchanged]
      rfl
    · exact ⟨hpart, fun h => by cases h⟩

section Visiting

variable {context : Option Context} {frames : List Frame} {t : Stage} {run : Nat}

theorem ready_into {f : Focus} {finish : Finish} (hsees : Sees env none frames f)
    (hcontext : ∀ c ∈ f.children, contextOf? env.source c = context)
    (hfinish : finish = .entered ∨ ∃ name serverBound, finish = .component name serverBound) :
    Ready env (.into (.parsed f) frames context finish) fun m => Stays f.node m.part :=
  @Ready.parsed env _ f [] f.node.items hsees rfl rfl .nil rfl hcontext hfinish fun _ => rfl

theorem ready_made {n : Node} {finish : Finish} (hinert : n.isInert = true) (hchild : n.isChild = true)
    (hmode : finish = .entered ∨ finish = .replaced) :
    Ready env (.into (.made n) frames context finish) fun m =>
      m.part = n ∧ (finish = .entered → m.changed = false) := by
  cases n with
  | text t => cases hchild
  | branch i items =>
    refine .made hinert rfl ?_ ?_ rfl rfl hmode
    · simp [Stage.into, Item.below, Node.items, Function.comp_def]
    · intro item hitem
      obtain ⟨n, -, rfl⟩ := List.mem_map.1 hitem
      rfl

theorem Fits.enter (h : Fits env context frames item) (hchild : item.node.isChild = true)
    (hgoes : Goes env context item frames (.enter t)) :
    ∃ Q, Ready env t Q ∧ ∀ m, Q m → item.Returns m := by
  cases h with
  | @parsed f hparsed haround hcontext =>
    have hsees : Sees env none frames f := ⟨hparsed, haround, by simp⟩
    cases hgoes with
    | entered hown =>
      rw [Item.node_parsed, haround.componentName?] at hown
      exact ⟨_, ready_into hsees (fun c hc => (contextOf?_of_other hc hown).trans hcontext) (.inl rfl),
        fun _ h => h⟩
    | component hfn hname =>
      rw [Item.node_parsed, haround.componentName?] at hname
      exact ⟨_, ready_into hsees (fun c hc => contextOf?_of_component hc hfn hname)
        (.inr ⟨_, _, rfl⟩), fun _ h => h⟩
  | made hinert =>
    cases hgoes with
    | entered => exact ⟨_, ready_made hinert hchild (.inl rfl), fun _ h => ⟨h.1, h.2 rfl⟩⟩
    | component hfn =>
      rw [Item.node_made, isFunction_of_isInert hinert] at hfn
      cases hfn

theorem Fits.parsed_of_kind (kinds : List String) (h : Fits env context frames item)
    (hkind : kinds.contains item.node.kind = true)
    (hkinds : ∀ kind ∈ "" :: newKinds, kinds.contains kind = false) :
    ∃ f, item = .parsed f ∧ Sees env none frames f ∧ contextOf? env.source f = context := by
  cases h with
  | @parsed f hparsed haround hcontext => exact ⟨f, rfl, ⟨hparsed, haround, by simp⟩, hcontext⟩
  | made hinert =>
    rw [Item.node_made, kind_ne_of_isInert hinert hkinds] at hkind
    cases hkind

theorem isChild_placedRun {new first : Node} {more : List Node} (hnew : new.isChild = true)
    (hfirst : first.isLaid = true) : (placedRun new first more).isChild = true := by
  unfold placedRun
  split
  · rw [isChild_inPlaceOf hnew hfirst, Node.isChild_of_isLaid hfirst]
  · cases new with
    | text t => cases hnew
    | branch i items => rfl

theorem Fits.of_string {owner : Text} {new : Node} (h : Fits env context frames item)
    (hkind : item.node.kind = "string")
    (hwrap : (wrapString? env owner ⟨item.node, frames⟩).result = .ok (some new)) :
    new.isInert = true ∧ new.isChild = true ∧ ∃ f, item = .parsed f ∧ Stays f.node new := by
  obtain ⟨f, rfl, hsees, -⟩ := h.parsed_of_kind ["string"] (by simp [hkind]) (by decide)
  rw [Item.node_parsed] at hkind hwrap
  obtain ⟨value, -, -, -, hnew⟩ := wrapString?_eq_some hwrap
  have hstays : Stays f.node new := hnew ▸ stays_inPlaceOf (isChild_ofString _ _ _)
    (kind_ofString _ _ _) hsees.parsed.laid (by rw [hkind]; decide) (by rw [hkind]; decide)
  exact ⟨isInert_ofString hwrap, hstays.isChild.trans (Node.isChild_of_isLaid hsees.parsed.laid),
    f, rfl, hstays⟩

theorem Fits.of_run {owner : Text} {new : Node} {more : List Node} (h : Fits env context frames item)
    (hjsx : Literal.isJsxText item.node = true)
    (hwrap : (wrapRun? env owner ⟨item.node, frames⟩ more).result = .ok (some new)) :
    new.isInert = true ∧ new.isChild = true ∧ new.field = item.node.field := by
  obtain ⟨f, rfl, hsees, -⟩ := h.parsed_of_kind Literal.jsxTextKinds hjsx (by decide)
  obtain ⟨value, -, -, -, hnew⟩ := wrapRun?_eq_some hwrap
  exact ⟨isInert_ofRun hwrap, hnew ▸ isChild_placedRun rfl hsees.parsed.laid,
    hnew ▸ field_placedRun rfl⟩

theorem Ready.replace (h : Ready env s P) (hpending : s.pending = item :: rest)
    (hgoes : Goes env s.context item (s.frame rest :: s.frames) (.replace t run)) :
    ∃ Q, Ready env t Q ∧ ∀ m, Q m →
      Ready env ({ s with detached := rest.take run, pending := rest.drop run }.take m) P := by
  have hfits := h.fits hpending
  cases hgoes with
  | string hkind hwrap =>
    obtain ⟨hinert, hchild, f, rfl, hstays⟩ := hfits.of_string hkind hwrap
    exact ⟨_, ready_made hinert hchild (.inr rfl), fun m hm =>
      h.take hpending (show Stays f.node m.part from hm.1 ▸ hstays)⟩
  | template hfn hkind =>
    obtain ⟨f, rfl, hsees, hcontext⟩ :=
      hfits.parsed_of_kind ["template_string"] (by simp [hkind]) (by decide)
    refine ⟨_, .kept hsees hkind (kind_inPlaceOf _ _) (List.Subset.refl _) ?_ hcontext rfl, fun m hm =>
      h.take hpending hm⟩
    simp [Stage.ofTemplate, Item.kept, Function.comp_def]
  | run hjsx hmore hwrap =>
    obtain ⟨hinert, hchild, hfield⟩ := hfits.of_run hjsx hwrap
    exact ⟨_, ready_made hinert hchild (.inr rfl), fun m hm =>
      h.take_run hpending hjsx hmore (hm.1 ▸ hfield)⟩

end Visiting

/-- Stages in good order, one inside the other: what is promised of the node that one makes is enough
for the one around it to be in good order when it gets the node. -/
inductive Stacked (env : Env) : Stage → List Stage → Prop
  | last {s : Stage} {P : Made Node → Prop} (h : Ready env s P) : Stacked env s []
  | above {s t : Stage} {outer : List Stage} {P : Made Node → Prop} (h : Ready env s P)
      (hback : ∀ m, P m → Stacked env (t.take m) outer) : Stacked env s (t :: outer)

theorem Stacked.ready {outer : List Stage} (h : Stacked env s outer) : ∃ P, Ready env s P := by
  cases h with
  | last h => exact ⟨_, h⟩
  | above h => exact ⟨_, h⟩

theorem Stacked.change {s' : Stage} {outer : List Stage} (h : Stacked env s outer)
    (hchange : ∀ P, Ready env s P → Ready env s' P) : Stacked env s' outer := by
  cases h with
  | last h => exact .last (hchange _ h)
  | above h hback => exact .above (hchange _ h) hback

theorem Stacked.push {t s' : Stage} {outer : List Stage} (h : Stacked env s outer)
    (hpush : ∀ P, Ready env s P → ∃ Q, Ready env t Q ∧ ∀ m, Q m → Ready env (s'.take m) P) :
    Stacked env t (s' :: outer) := by
  cases h with
  | last h =>
    obtain ⟨Q, ht, hback⟩ := hpush _ h
    exact .above ht fun m hm => .last (hback m hm)
  | above h houter =>
    obtain ⟨Q, ht, hback⟩ := hpush _ h
    exact .above ht fun m hm => .above (hback m hm) houter

def State.Good (env : Env) : State → Prop
  | .root n => n.Parsed
  | .inside s outer => Stacked env s outer
  | .ended _ => True

theorem visit_none (env : Env) (item : Item) (frames : List Frame) :
    visit env none item frames = pure .leave ∨ ∃ t, visit env none item frames = pure (.enter t) := by
  unfold visit
  dsimp only
  split
  next => exact .inl rfl
  split
  next =>
    split
    · exact .inr ⟨_, rfl⟩
    · exact .inr ⟨_, rfl⟩
  next => exact .inr ⟨_, rfl⟩

/-- One step of the loop, by where the loop is and what is on top of the stack. -/
inductive Round (env : Env) (visited : List Visited) (entries : List Entry) : State → Walker → Prop
  | ended {result : Except Fault (Made Node)} :
      Round env visited entries (.ended result) ⟨visited, entries, .ended result⟩
  | rootLeft {n : Node} {answer : Logged Answer}
      (hvisit : visit env none (.parsed (.ofRoot n)) [] = answer) (hresult : answer.result = .ok .leave) :
      Round env visited entries (.root n)
        ⟨visited ++ [⟨.parsed (.ofRoot n), none, .left⟩], entries ++ answer.entries, .ended (.ok (.same n))⟩
  | rootEntered {n : Node} {t : Stage} {answer : Logged Answer}
      (hvisit : visit env none (.parsed (.ofRoot n)) [] = answer)
      (hresult : answer.result = .ok (.enter t)) :
      Round env visited entries (.root n)
        ⟨visited ++ [⟨.parsed (.ofRoot n), none, .entered⟩], entries ++ answer.entries, .inside t []⟩
  | passed {s : Stage} {outer : List Stage} {item : Item} {detached : List Item}
      (hdetached : s.detached = item :: detached) :
      Round env visited entries (.inside s outer) ⟨visited, entries, .inside { s with detached } outer⟩
  | aside {s : Stage} {outer : List Stage} {item : Item} {rest : List Item}
      (hpending : s.pending = item :: rest) (hchild : item.node.isChild = false) :
      Round env visited entries (.inside s outer)
        ⟨visited, entries, .inside { s with pending := rest, before := item.node :: s.before } outer⟩
  | failed {s : Stage} {outer : List Stage} {item : Item} {rest : List Item} {answer : Logged Answer}
      {fault : Fault} (hpending : s.pending = item :: rest) (hchild : item.node.isChild = true)
      (hvisit : visit env s.context item (s.frame rest :: s.frames) = answer)
      (hresult : answer.result = .error fault) :
      Round env visited entries (.inside s outer)
        ⟨visited ++ [⟨item, s.context, .failed⟩], entries ++ answer.entries, .ended (.error fault)⟩
  | left {s : Stage} {outer : List Stage} {item : Item} {rest : List Item} {answer : Logged Answer}
      (hpending : s.pending = item :: rest) (hchild : item.node.isChild = true)
      (hvisit : visit env s.context item (s.frame rest :: s.frames) = answer)
      (hresult : answer.result = .ok .leave) :
      Round env visited entries (.inside s outer)
        ⟨visited ++ [⟨item, s.context, .left⟩], entries ++ answer.entries,
          .inside ({ s with pending := rest }.take (.same item.node)) outer⟩
  | entered {s t : Stage} {outer : List Stage} {item : Item} {rest : List Item} {answer : Logged Answer}
      (hpending : s.pending = item :: rest) (hchild : item.node.isChild = true)
      (hvisit : visit env s.context item (s.frame rest :: s.frames) = answer)
      (hresult : answer.result = .ok (.enter t)) :
      Round env visited entries (.inside s outer)
        ⟨visited ++ [⟨item, s.context, .entered⟩], entries ++ answer.entries,
          .inside t ({ s with pending := rest } :: outer)⟩
  | replaced {s t : Stage} {outer : List Stage} {item : Item} {rest : List Item} {run : Nat}
      {answer : Logged Answer} (hpending : s.pending = item :: rest) (hchild : item.node.isChild = true)
      (hvisit : visit env s.context item (s.frame rest :: s.frames) = answer)
      (hresult : answer.result = .ok (.replace t run)) :
      Round env visited entries (.inside s outer)
        ⟨visited ++ [⟨item, s.context, .replaced⟩], entries ++ answer.entries,
          .inside t ({ s with detached := rest.take run, pending := rest.drop run } :: outer)⟩
  | closed {s t : Stage} {outer : List Stage} (hpending : s.pending = []) :
      Round env visited entries (.inside s (t :: outer))
        ⟨visited, entries, .inside (t.take (s.close env (.same []))) outer⟩
  | finished {s : Stage} (hpending : s.pending = []) :
      Round env visited entries (.inside s [])
        ⟨visited, entries, .ended (.ok (s.close env (.same [])))⟩

theorem round_step (env : Env) (w : Walker) :
    Round env w.visited w.entries w.state (w.step env) := by
  obtain ⟨visited, entries, state⟩ := w
  unfold Walker.step
  dsimp only
  split
  next => exact .ended
  next n =>
    have hanswer := visit_none env (.parsed (.ofRoot n)) []
    split
    next hresult => rcases hanswer with h | ⟨t, h⟩ <;> rw [h] at hresult <;> cases hresult
    next hresult => exact .rootLeft rfl hresult
    next hresult => exact .rootEntered rfl hresult
    next hresult => rcases hanswer with h | ⟨t, h⟩ <;> rw [h] at hresult <;> cases hresult
  next s outer =>
    split
    next hdetached => exact .passed hdetached
    next item rest hdetached hpending =>
      cases hchild : item.node.isChild with
      | false => exact .aside hpending hchild
      | true =>
        rw [Bool.not_true, if_neg Bool.false_ne_true]
        split
        next hresult => exact .failed hpending hchild rfl hresult
        next hresult => exact .left hpending hchild rfl hresult
        next hresult => exact .entered hpending hchild rfl hresult
        next hresult => exact .replaced hpending hchild rfl hresult
    next hpending =>
      split
      · exact .finished hpending
      · exact .closed hpending

theorem Round.good {env : Env} {visited : List Visited} {entries : List Entry} {state : State} {w : Walker}
    (h : Round env visited entries state w) (hgood : state.Good env) : w.state.Good env := by
  cases h with
  | ended => trivial
  | rootLeft => trivial
  | @rootEntered n t answer hvisit hresult =>
    subst hvisit
    have hfits : Fits env none [] (.parsed (.ofRoot n)) := .parsed hgood .nil rfl
    obtain ⟨Q, hready, -⟩ := hfits.enter (Node.isChild_of_isLaid (hgood : n.Parsed).laid)
      (goes_of_visit hresult)
    exact .last hready
  | passed => exact Stacked.change hgood fun P h => h.pass _
  | aside hpending hchild => exact Stacked.change hgood fun P h => h.aside hpending hchild
  | failed => trivial
  | left hpending => exact Stacked.change hgood fun P h => h.take hpending (Item.returns_same _)
  | entered hpending hchild hvisit hresult =>
    subst hvisit
    refine Stacked.push hgood fun P h => ?_
    obtain ⟨Q, ht, hreturns⟩ := (h.fits hpending).enter hchild (goes_of_visit hresult)
    exact ⟨Q, ht, fun m hm => h.take hpending (hreturns m hm)⟩
  | replaced hpending hchild hvisit hresult =>
    subst hvisit
    exact Stacked.push hgood fun P h => h.replace hpending (goes_of_visit hresult)
  | closed hpending =>
    cases hgood with
    | above h hback => exact hback _ (h.closes hpending)
  | finished => trivial

end Pass
end Phrasebook
