import Phrasebook.Proofs.Wrap.Locality
import Phrasebook.Proofs.Wrap.Stages

/-! The walk with a stack makes what the recursive walk makes. At every moment the rest of the loop is
told by the recursive walk: what is pending is walked, each stage is closed, and the node that comes of it
is given to the stage around it. One step of the loop does not change what comes of this. -/

namespace Phrasebook

namespace Pass

section Walking

variable {env : Env} {owner : Option Text} {parent : Info} {frames : List Frame} {before rest : List Node}
  {k : Nat} {n : Node}

theorem walkItems_aside (hchild : n.isChild = false) (hjsx : Literal.isJsxText n = false) :
    walkItems env owner parent frames before k (n :: rest) =
      (fun made => { made with part := n :: made.part }) <$>
        walkItems env owner parent frames (n :: before) k rest := by
  rw [walkItems.eq_3 _ _ _ _ _ _ _ _ (by simp [hjsx]), hchild, Bool.not_false, if_pos rfl, bind_pure_comp]

theorem walkItems_node (hchild : n.isChild = true)
    (hjsx : owner.isSome = true → Literal.isJsxText n = false) :
    walkItems env owner parent frames before k (n :: rest) =
      walkNode env owner (⟨parent, before, rest⟩ :: frames) n >>= fun first =>
        (fun made => ⟨first.part :: made.part, first.components.map (·.below k) ++ made.components,
            first.touched || made.touched, first.changed || made.changed⟩) <$>
          walkItems env owner parent frames (first.part :: before) (k + 1) rest := by
  have hother : ∀ name, owner = some name → Literal.isJsxText n = true → False := by
    rintro name rfl h
    simp [h] at hjsx
  rw [walkItems.eq_3 _ _ _ _ _ _ _ _ hother, hchild, Bool.not_true, if_neg Bool.false_ne_true]
  simp only [bind_pure_comp]

theorem walkItems_run {name : Text} {more : List Node} (hchild : n.isChild = true)
    (hjsx : Literal.isJsxText n = true) (hmore : more = rest.takeWhile isRunItem) :
    walkItems env (some name) parent frames before k (n :: rest) =
      wrapRun? env name ⟨n, ⟨parent, before, rest⟩ :: frames⟩ more >>= fun
        | some new =>
          (fun made => { made with part := new :: made.part, touched := true, changed := true }) <$>
            walkItems env (some name) parent frames (new :: before) (k + 1) (rest.drop more.length)
        | none =>
          (fun made => { made with part := n :: more ++ made.part }) <$>
            walkItems env (some name) parent frames ((n :: more).reverse ++ before)
              (k + (n :: more).length) (rest.drop more.length) := by
  subst hmore
  rw [walkItems.eq_2 _ _ _ _ _ _ _ _ hjsx, hchild, Bool.not_true, if_neg Bool.false_ne_true]
  dsimp only
  congr 1

end Walking

mutual

theorem walkNode_inert {env : Env} {owner : Option Text} {frames : List Frame} :
    ∀ {n : Node}, n.isInert = true → walkNode env owner frames n = pure (.same n)
  | .text t, _ => by rw [walkNode]
  | .branch info items, h => by
    have hbelow := h
    rw [Node.isInert, Bool.and_eq_true] at hbelow
    have hskip : skippedKinds.contains info.kind = false := Node.kind_ne_of_isInert h (by decide)
    have hfn := Node.isFunction_of_isInert h
    have hresult : (walkItems env owner info frames [] 0 items >>= fun below =>
        pure (reassemble info below)) = pure (.same (.branch info items)) := by
      rw [walkItems_inert hbelow.2, pure_bind]
      simp [reassemble, Made.same]
    have hkind : ["string", "template_string"].contains info.kind = false :=
      Node.kind_ne_of_isInert h (by decide)
    rw [walkNode.eq_def]
    dsimp only
    rw [hskip, hfn]
    cases owner with
    | none => exact hresult
    | some name =>
      simp only [List.contains_cons, Bool.or_eq_false_iff] at hkind
      dsimp only
      rw [hkind.1, hkind.2.1]
      exact hresult

theorem walkItems_inert {env : Env} {owner : Option Text} {parent : Info} {frames : List Frame} :
    ∀ {items before : List Node} {k : Nat}, Node.areInert items = true →
      walkItems env owner parent frames before k items = pure (.same items)
  | [], _, _, _ => by rw [walkItems]
  | n :: rest, before, k, h => by
    rw [Node.areInert, Bool.and_eq_true] at h
    have hjsx : Literal.isJsxText n = false := Node.kind_ne_of_isInert h.1 (by decide)
    cases hchild : n.isChild with
    | false =>
      rw [walkItems_aside hchild hjsx, walkItems_inert h.2, map_pure]
      rfl
    | true =>
      rw [walkItems_node hchild fun _ => hjsx, walkNode_inert h.1, pure_bind, walkItems_inert h.2, map_pure]
      rfl

end

namespace Stage

def isMidRun (s : Stage) : Bool :=
  s.context.isSome && (s.before.filter Node.isChild).head?.any Literal.isJsxText

/-- The nodes of this run that are still pending. -/
def run (s : Stage) : List Node :=
  if s.isMidRun then (s.pending.map Item.node).takeWhile isRunItem else []

/-- What the recursive walk makes of the pending nodes. -/
def rest (env : Env) (s : Stage) : Logged (Made (List Node)) :=
  (fun made => { made with part := s.run ++ made.part }) <$>
    walkItems env (s.context.map (·.name)) s.parent s.frames (s.run.reverse ++ s.before)
      (s.count + s.run.length) ((s.pending.map Item.node).drop s.run.length)

/-- What becomes of the node that the walk is inside of. -/
def finished (env : Env) (s : Stage) : Logged (Made Node) := s.close env <$> s.rest env

end Stage

def resume (env : Env) : List Stage → Logged (Made Node) → Logged (Made Node)
  | [], made => made
  | s :: outer, made => resume env outer (made >>= fun m => (s.take m).finished env)

theorem resume_bind {α : Type} (env : Env) (outer : List Stage) (x : Logged α)
    (f : α → Logged (Made Node)) :
    resume env outer (x >>= f) = x >>= fun a => resume env outer (f a) := by
  induction outer generalizing f with
  | nil => rfl
  | cons s outer ih => rw [resume, bind_assoc, ih]; rfl

def State.meaning (env : Env) : State → Logged (Made Node)
  | .root n => walkNode env none [] n
  | .inside s outer => resume env outer (s.finished env)
  | .ended result => .of result

def Walker.meaning (env : Env) (w : Walker) : Logged (Made Node) :=
  ⟨w.entries ++ (w.state.meaning env).entries, (w.state.meaning env).result⟩

/-- What becomes of a node after a visit. -/
def Answer.finished (env : Env) (n : Node) : Answer → Logged (Made Node)
  | leave => pure (.same n)
  | enter t => t.finished env
  | replace t _ => t.finished env

section Visits

variable {env : Env} {context : Option Context} {item : Item} {frames : List Frame}

theorem Fits.map_node_below (h : Fits env context frames item) :
    item.below.map Item.node = item.node.items := by
  cases h with
  | @parsed f hparsed =>
    rw [Item.below, List.map_map]
    exact Focus.map_node_children hparsed.laid
  | @made n => simp [Item.below, Function.comp_def]

theorem Fits.map_node_kept (h : Fits env context frames item) :
    ((item.kept env.source).map (·.2)).map Item.node =
      (keptExpressions env.source item.node.items).map (·.2) := by
  cases h with
  | @parsed f hparsed =>
    rw [Item.kept, Item.node_parsed, ← map_keptFoci hparsed.laid]
    simp [Function.comp_def]
  | @made n => simp [Item.kept, Function.comp_def]

theorem finished_of_fresh {t : Stage} (hbefore : t.before = []) (hcount : t.count = 0)
    (hcomponents : t.components = []) (htouched : t.touched = false) (hchanged : t.changed = false) :
    t.finished env = t.finish.apply env t.parent <$>
      walkItems env (t.context.map (·.name)) t.parent t.frames [] 0 (t.pending.map Item.node) := by
  have hrun : t.run = [] := by simp [Stage.run, Stage.isMidRun, hbefore]
  have hclose (made : Made (List Node)) : t.close env made = t.finish.apply env t.parent made := by
    simp [Stage.close, Stage.join, hbefore, hcomponents, htouched, hchanged]
  rw [Stage.finished, Stage.rest, hrun, hbefore, hcount, ← comp_map]
  simp [Function.comp_def, hclose]

theorem finished_into (h : Fits env context frames item) (owner : Option Context) (finish : Finish) :
    (Stage.into item frames owner finish).finished env =
      finish.apply env item.node.info <$>
        walkItems env (owner.map (·.name)) item.node.info frames [] 0 item.node.items := by
  rw [finished_of_fresh rfl rfl rfl rfl rfl, ← h.map_node_below]
  rfl

theorem finished_inPlace {new : Node} (hinert : new.isInert = true) (hchild : new.isChild = true) :
    (Stage.inPlace new frames context).finished env = pure ⟨new, [], true, true⟩ := by
  cases new with
  | text t => cases hchild
  | branch i items =>
    have hbelow := hinert
    rw [Node.isInert, Bool.and_eq_true] at hbelow
    rw [Stage.inPlace, finished_into (Fits.made hinert : Fits env context frames _), Item.node_made, Node.items,
      walkItems_inert hbelow.2, map_pure]
    simp [Finish.apply, reassemble, Made.same, Node.info]

theorem finished_ofTemplate (h : Fits env context frames item) (key : Text) :
    (Stage.ofTemplate env key item frames context).finished env =
      ofTemplate env key item.node ((keptExpressions env.source item.node.items).map (·.1)) <$>
        walkItems env (context.map (·.name))
          (templateCall env key (keptExpressions env.source item.node.items) item.node).info frames [] 0
          ((keptExpressions env.source item.node.items).map (·.2)) := by
  rw [finished_of_fresh rfl rfl rfl rfl rfl, ← h.map_node_kept]
  rfl

theorem walkNode_eq_visit (h : Fits env context frames item) (hchild : item.node.isChild = true)
    (hjsx : context.isSome = true → Literal.isJsxText item.node = false) :
    walkNode env (context.map (·.name)) frames item.node =
      visit env context item frames >>= Answer.finished env item.node := by
  obtain ⟨info, items, hn⟩ : ∃ info items, item.node = .branch info items := by
    cases hn : item.node with
    | text t =>
      rw [hn] at hchild
      cases hchild
    | branch info items => exact ⟨info, items, rfl⟩
  have hentered := finished_into h
  have htemplate := finished_ofTemplate h
  have hstring {owner : Text} {new : Node} (hkind : item.node.kind = "string")
      (hwrap : (wrapString? env owner ⟨item.node, frames⟩).result = .ok (some new)) :
      (Stage.inPlace new frames context).finished env = pure ⟨new, [], true, true⟩ := by
    obtain ⟨hinert, hchild, -⟩ := h.of_string hkind hwrap
    exact finished_inPlace hinert hchild
  rw [hn] at hjsx hentered htemplate hstring ⊢
  unfold visit
  rw [walkNode.eq_def, hn]
  dsimp only
  rw [show (Node.branch info items).kind = info.kind from rfl]
  by_cases hskip : skippedKinds.contains info.kind = true
  · rw [if_pos hskip, if_pos hskip, pure_bind]
    rfl
  rw [if_neg hskip, if_neg hskip]
  by_cases hfn : Scope.isFunction (.branch info items) = true
  · rw [if_pos hfn, if_pos hfn]
    cases Scope.componentName? env.source ⟨.branch info items, frames⟩ with
    | none =>
      dsimp only
      rw [bind_pure_comp, pure_bind]
      exact (hentered _ .entered).symm
    | some name =>
      dsimp only
      rw [bind_pure_comp, pure_bind]
      exact (hentered (some ⟨name, _⟩) (.component name _)).symm
  rw [if_neg hfn, if_neg hfn]
  cases context with
  | none =>
    dsimp only [Option.map_none]
    rw [bind_pure_comp, pure_bind]
    exact (hentered none .entered).symm
  | some owner =>
    dsimp only [Option.map_some]
    by_cases hkind : (info.kind == "string") = true
    · rw [if_pos hkind, if_pos hkind, bind_assoc]
      refine Logged.bind_congr_ok fun new? hwrap => ?_
      cases new? with
      | none => rfl
      | some new => exact (hstring (beq_iff_eq.1 hkind) hwrap).symm.trans (pure_bind _ _).symm
    rw [if_neg hkind, if_neg hkind]
    by_cases hkind : (info.kind == "template_string") = true
    · rw [if_pos hkind, if_pos hkind, bind_assoc]
      refine Logged.bind_congr_ok fun key? hkey => ?_
      cases key? with
      | none =>
        dsimp only
        rw [bind_pure_comp, pure_bind]
        exact (hentered (some owner) .entered).symm
      | some key =>
        dsimp only
        rw [pure_bind]
        exact (bind_pure_comp _ _).trans (htemplate key).symm
    rw [if_neg hkind, if_neg hkind, if_neg (by simp [hjsx rfl]), bind_pure_comp, pure_bind]
    exact (hentered (some owner) .entered).symm

theorem contains_kind_of_isJsxText {n : Node} (h : Literal.isJsxText n = true) {kinds : List String}
    (hkinds : ∀ kind ∈ Literal.jsxTextKinds, kinds.contains kind = false) :
    kinds.contains n.kind = false :=
  hkinds n.kind (List.contains_iff_mem.1 h)

theorem visit_jsxText {owner : Context} (hjsx : Literal.isJsxText item.node = true) {more : List Node}
    (hmore : more = (Focus.mk item.node frames).siblingsAfter.takeWhile Literal.isJsxText) :
    visit env (some owner) item frames =
      if (Focus.mk item.node frames).siblingsBefore.head?.any Literal.isJsxText then pure .leave
      else wrapRun? env owner.name ⟨item.node, frames⟩ more >>= fun
        | none => pure .leave
        | some new => pure (.replace (.inPlace new frames (some owner)) more.length) := by
  have hskip : skippedKinds.contains item.node.kind = false := contains_kind_of_isJsxText hjsx (by decide)
  have hfn : Scope.isFunction item.node = false := by
    rw [Scope.isFunction, contains_kind_of_isJsxText hjsx (by decide), Bool.and_false]
  have hkind : ["string", "template_string"].contains item.node.kind = false :=
    contains_kind_of_isJsxText hjsx (by decide)
  simp only [List.contains_cons, Bool.or_eq_false_iff] at hkind
  subst hmore
  unfold visit
  dsimp only
  rw [hskip, hfn, hkind.1, hkind.2.1, if_neg Bool.false_ne_true, if_neg Bool.false_ne_true,
    if_neg Bool.false_ne_true, if_neg Bool.false_ne_true]
  exact if_pos hjsx

theorem closed_of_finished {t : Stage} {m : Made Node} (h : (t.finished env).result = .ok m) :
    ∃ made, t.close env made = m := by
  rw [Stage.finished, Logged.result_map] at h
  obtain ⟨made, -, hmade⟩ := except_map_eq_ok.1 h
  exact ⟨made, hmade⟩

theorem Goes.part {answer : Answer} (hgoes : Goes env context item frames answer)
    (h : Fits env context frames item) (hchild : item.node.isChild = true)
    (hjsx : Literal.isJsxText item.node = false) {m : Made Node}
    (hm : (answer.finished env item.node).result = .ok m) :
    m.part.isChild = true ∧ Literal.isJsxText m.part = false := by
  have hstanding : (item.node.info.standing != .printedOnly) = true := by
    cases hn : item.node with
    | text t =>
      rw [hn] at hchild
      cases hchild
    | branch i items =>
      rw [hn] at hchild
      exact hchild
  cases hgoes with
  | left =>
    cases hm
    exact ⟨hchild, hjsx⟩
  | entered =>
    obtain ⟨made, rfl⟩ := closed_of_finished hm
    exact ⟨hstanding, hjsx⟩
  | component =>
    obtain ⟨made, rfl⟩ := closed_of_finished hm
    exact ⟨hstanding, hjsx⟩
  | string hkind hwrap =>
    obtain ⟨hinert, hchild, -⟩ := h.of_string hkind hwrap
    rw [Answer.finished, finished_inPlace hinert hchild] at hm
    cases hm
    exact ⟨hchild, Node.kind_ne_of_isInert hinert (by decide)⟩
  | template hfn hkind =>
    obtain ⟨f, rfl, hsees, -⟩ := h.parsed_of_kind ["template_string"] (by simp [hkind]) (by decide)
    obtain ⟨made, rfl⟩ := closed_of_finished hm
    refine ⟨(stays_ofTemplate hsees.parsed.laid hkind).isChild.trans hchild, ?_⟩
    rw [Literal.isJsxText, show Node.kind _ = "call_expression" from kind_inPlaceOf _ _]
    decide
  | run hjsx' =>
    rw [hjsx] at hjsx'
    cases hjsx'

end Visits

section Rounds

variable {env : Env} {s : Stage} {P : Made Node → Prop} {item : Item} {rest : List Item}

/-- What becomes of the node that the walk is inside of, after a visit. -/
def Stage.after (env : Env) (s : Stage) (item : Item) (rest : List Item) : Answer → Logged (Made Node)
  | .leave => ({ s with pending := rest }.take (.same item.node)).finished env
  | .enter t => t.finished env >>= fun m => ({ s with pending := rest }.take m).finished env
  | .replace t run => t.finished env >>= fun m =>
    ({ s with detached := rest.take run, pending := rest.drop run }.take m).finished env

theorem Stage.close_take (s : Stage) (m : Made Node) (made : Made (List Node)) :
    (s.take m).close env made =
      s.close env ⟨m.part :: made.part, m.components.map (·.below s.count) ++ made.components,
        m.touched || made.touched, m.changed || made.changed⟩ := by
  simp [close, join, take, Bool.or_assoc]

theorem Stage.close_aside (s : Stage) (n : Node) (pending : List Item) (made : Made (List Node)) :
    { s with pending, before := n :: s.before }.close env made =
      s.close env { made with part := n :: made.part } := by
  simp [close, join]

theorem finished_of_run_nil {s : Stage} (h : s.run = []) :
    s.finished env = s.close env <$> walkItems env (s.context.map (·.name)) s.parent s.frames s.before
      s.count (s.pending.map Item.node) := by
  rw [Stage.finished, Stage.rest, h, ← comp_map]
  rfl

theorem run_of_not_midRun (h : s.isMidRun = false) : s.run = [] := by
  rw [Stage.run, h, if_neg Bool.false_ne_true]

theorem finished_take {s : Stage} {m : Made Node}
    (h : s.context.isSome = true → m.part.isChild = true ∧ Literal.isJsxText m.part = false) :
    (s.take m).finished env =
      (fun made => s.close env ⟨m.part :: made.part, m.components.map (·.below s.count) ++ made.components,
          m.touched || made.touched, m.changed || made.changed⟩) <$>
        walkItems env (s.context.map (·.name)) s.parent s.frames (m.part :: s.before) (s.count + 1)
          (s.pending.map Item.node) := by
  have hmidRun : (s.take m).isMidRun = false := by
    rw [Stage.isMidRun, Bool.and_eq_false_iff]
    cases hcontext : s.context with
    | none => exact .inl (by rw [Stage.take, hcontext]; rfl)
    | some owner =>
      obtain ⟨hchild, hjsx⟩ := h (by rw [hcontext]; rfl)
      refine .inr ?_
      rw [Stage.take, List.filter_cons_of_pos hchild, List.head?_cons, Option.any_some, hjsx]
  rw [finished_of_run_nil (run_of_not_midRun hmidRun)]
  congr 1
  funext made
  exact s.close_take m made

theorem finished_take_jsxText {s : Stage} {n : Node} {more : List Node}
    (hcontext : s.context.isSome = true) (hchild : n.isChild = true) (hjsx : Literal.isJsxText n = true)
    (hmore : more = (s.pending.map Item.node).takeWhile isRunItem) :
    (s.take (.same n)).finished env =
      (fun made => s.close env { made with part := n :: more ++ made.part }) <$>
        walkItems env (s.context.map (·.name)) s.parent s.frames ((n :: more).reverse ++ s.before)
          (s.count + (n :: more).length) ((s.pending.map Item.node).drop more.length) := by
  have hmidRun : (s.take (.same n)).isMidRun = true := by
    rw [Stage.isMidRun, Stage.take, hcontext, Bool.true_and, Made.same, List.filter_cons_of_pos hchild,
      List.head?_cons, Option.any_some, hjsx]
  have hrun : (s.take (.same n)).run = more := by
    rw [Stage.run, hmidRun, if_pos rfl, hmore]
    rfl
  have hcount : s.count + 1 + more.length = s.count + (n :: more).length := by
    rw [List.length_cons]
    omega
  rw [Stage.finished, Stage.rest, hrun, List.reverse_cons, List.append_assoc, List.singleton_append,
    ← hcount, ← comp_map]
  congr 1
  funext made
  exact s.close_take _ _

theorem run_eq_zero_of_visit {context : Option Context} {frames : List Frame} {t : Stage} {run : Nat}
    (hjsx : context.isSome = true → Literal.isJsxText item.node = false)
    (hvisit : (visit env context item frames).result = .ok (.replace t run)) : run = 0 := by
  cases context with
  | none => rcases visit_none env item frames with h | ⟨t, h⟩ <;> rw [h] at hvisit <;> cases hvisit
  | some owner =>
    cases goes_of_visit hvisit with
    | string => rfl
    | template => rfl
    | run hjsx' =>
      rw [hjsx rfl] at hjsx'
      cases hjsx'

theorem finished_of_visit_other (h : Ready env s P) (hpending : s.pending = item :: rest)
    (hchild : item.node.isChild = true)
    (hjsx : s.context.isSome = true → Literal.isJsxText item.node = false) :
    s.finished env =
      visit env s.context item (s.frame rest :: s.frames) >>= s.after env item rest := by
  have hfits := h.fits hpending
  have hrun : s.run = [] := by
    rw [Stage.run, hpending, List.map_cons]
    split
    next hmidRun =>
      rw [Stage.isMidRun, Bool.and_eq_true] at hmidRun
      rw [List.takeWhile_cons, isRunItem, hjsx hmidRun.1, Bool.and_false, if_neg Bool.false_ne_true]
    next => rfl
  have hvisit := walkNode_eq_visit hfits hchild hjsx
  rw [finished_of_run_nil hrun, hpending, List.map_cons, walkItems_node hchild (by simpa using hjsx),
    show (⟨s.parent, s.before, rest.map Item.node⟩ : Frame) = s.frame rest from rfl, hvisit, map_bind,
    bind_assoc]
  -- Both sides visit the node, and it is enough to compare them for what the visit can answer.
  refine Logged.bind_congr_ok fun answer hanswer => ?_
  have hgoes := goes_of_visit hanswer
  have htake (m : Made Node) (detached : List Item)
      (hm : (answer.finished env item.node).result = .ok m) :
      ({ s with detached, pending := rest }.take m).finished env = _ :=
    finished_take fun hsome => hgoes.part hfits hchild (hjsx hsome) hm
  cases answer with
  | leave =>
    rw [Answer.finished, pure_bind, ← comp_map]
    exact (htake _ s.detached rfl).symm
  | enter t =>
    refine Logged.bind_congr_ok fun m hm => ?_
    rw [← comp_map]
    exact (htake m s.detached hm).symm
  | replace t run =>
    rw [run_eq_zero_of_visit hjsx hanswer]
    refine Logged.bind_congr_ok fun m hm => ?_
    rw [← comp_map]
    exact (htake m [] hm).symm

/-- A visit of a JSX text does what the recursive walk does with the run that the text starts, or leaves
the text when it is in the middle of a run. -/
theorem finished_of_visit_jsxText (h : Ready env s P) (hpending : s.pending = item :: rest)
    (hchild : item.node.isChild = true) {owner : Context} (hcontext : s.context = some owner)
    (hjsx : Literal.isJsxText item.node = true) :
    s.finished env =
      visit env s.context item (s.frame rest :: s.frames) >>= s.after env item rest := by
  have hfits := h.fits hpending
  have hlaid := h.laid_of_jsxText hpending hjsx
  obtain ⟨more, hmore⟩ : ∃ more, more = (rest.map Item.node).takeWhile isRunItem := ⟨_, rfl⟩
  have hsiblings : more = (Focus.mk item.node (s.frame rest :: s.frames)).siblingsAfter.takeWhile
      Literal.isJsxText := by
    rw [Stage.siblingsAfter_frame, Node.filter_isChild hlaid, hmore, takeWhile_isRunItem hlaid]
  have hsome : s.context.isSome = true := by rw [hcontext]; rfl
  have hleft : ({ s with pending := rest }.take (.same item.node)).finished env = _ :=
    finished_take_jsxText hsome hchild hjsx hmore
  have hmidRun : s.isMidRun = (Focus.mk item.node (s.frame rest :: s.frames)).siblingsBefore.head?.any
      Literal.isJsxText := by
    rw [Stage.isMidRun, hsome, Bool.true_and, Stage.siblingsBefore_frame]
  rw [hcontext, visit_jsxText hjsx hsiblings, ← hmidRun]
  cases hmid : s.isMidRun with
  | true =>
    -- The recursive walk has left the whole run already, and the loop leaves one node more of it.
    have hrun : s.run = item.node :: more := by
      rw [Stage.run, hmid, if_pos rfl, hpending, List.map_cons, List.takeWhile_cons, isRunItem, hchild,
        hjsx, ← hmore]
      rfl
    rw [if_pos rfl, pure_bind, Stage.finished, Stage.rest, hrun, ← comp_map, hpending]
    exact hleft.symm
  | false =>
    have hname : s.context.map (·.name) = some owner.name := by rw [hcontext]; rfl
    rw [finished_of_run_nil (run_of_not_midRun hmid), hpending, List.map_cons, hname,
      walkItems_run hchild hjsx hmore, if_neg Bool.false_ne_true, ← hname,
      show (⟨s.parent, s.before, rest.map Item.node⟩ : Frame) = s.frame rest from rfl, map_bind, bind_assoc]
    refine Logged.bind_congr_ok fun new? hwrap => ?_
    cases new? with
    | none =>
      dsimp only
      rw [← comp_map, pure_bind]
      exact hleft.symm
    | some new =>
      obtain ⟨hinert, hchild, -⟩ := hfits.of_run hjsx hwrap
      -- What was put in is no JSX text, so the node after the run does not go on with it.
      have htake : ({ s with detached := rest.take more.length, pending := rest.drop more.length }.take
          ⟨new, [], true, true⟩).finished env = _ :=
        finished_take fun _ => ⟨hchild, Node.kind_ne_of_isInert hinert (by decide)⟩
      dsimp only
      rw [← comp_map, pure_bind, Stage.after, finished_inPlace hinert hchild, pure_bind, htake, List.map_drop]
      rfl

theorem finished_of_visit (h : Ready env s P) (hpending : s.pending = item :: rest)
    (hchild : item.node.isChild = true) :
    s.finished env =
      visit env s.context item (s.frame rest :: s.frames) >>= s.after env item rest := by
  cases hcontext : s.context with
  | none =>
    rw [← hcontext]
    exact finished_of_visit_other h hpending hchild (by simp [hcontext])
  | some owner =>
    rw [← hcontext]
    cases hjsx : Literal.isJsxText item.node with
    | false => exact finished_of_visit_other h hpending hchild fun _ => hjsx
    | true => exact finished_of_visit_jsxText h hpending hchild hcontext hjsx

theorem finished_of_pending_nil (hpending : s.pending = []) :
    s.finished env = pure (s.close env (.same [])) := by
  have hrun : s.run = [] := by
    rw [Stage.run, hpending]
    split <;> rfl
  rw [finished_of_run_nil hrun, hpending, List.map_nil, walkItems, map_pure]

theorem finished_of_aside (h : Ready env s P) (hpending : s.pending = item :: rest)
    (hchild : item.node.isChild = false) :
    s.finished env = { s with pending := rest, before := item.node :: s.before }.finished env := by
  obtain ⟨hinert, hbefore⟩ := h.inert_of_text hpending hchild
  have hjsx : Literal.isJsxText item.node = false := Node.kind_ne_of_isInert hinert (by decide)
  have hmidRun : s.isMidRun = false := by
    rw [Stage.isMidRun, Bool.and_eq_false_iff]
    refine .inr ((Option.any_eq_false _ _).2 fun n hn => ?_)
    exact Node.kind_ne_of_isInert (hbefore n (List.mem_filter.1 (List.mem_of_mem_head? hn)).1) (by decide)
  have hmidRun' : { s with pending := rest, before := item.node :: s.before }.isMidRun = false := by
    rw [← hmidRun, Stage.isMidRun, Stage.isMidRun, List.filter_cons_of_neg (by simp [hchild])]
  rw [finished_of_run_nil (run_of_not_midRun hmidRun), finished_of_run_nil (run_of_not_midRun hmidRun'),
    hpending, List.map_cons, walkItems_aside hchild hjsx, ← comp_map]
  congr 1
  funext made
  exact (s.close_aside item.node rest made).symm

theorem meaning_of_visit {outer : List Stage} (h : Ready env s P) (hpending : s.pending = item :: rest)
    (hchild : item.node.isChild = true) :
    State.meaning env (.inside s outer) =
      visit env s.context item (s.frame rest :: s.frames) >>= fun answer =>
        resume env outer (s.after env item rest answer) := by
  rw [State.meaning, finished_of_visit h hpending hchild, resume_bind]

theorem Round.meaning {visited : List Visited} {entries : List Entry} {state : State} {w : Walker}
    (h : Round env visited entries state w) (hgood : state.Good env) :
    w.meaning env = Walker.meaning env ⟨visited, entries, state⟩ := by
  have hroot {n : Node} (hn : n.Parsed) : walkNode env none [] n = _ :=
    walkNode_eq_visit (.parsed hn .nil rfl : Fits env none [] (.parsed (.ofRoot n)))
      (Node.isChild_of_isLaid hn.laid) (fun h => nomatch h)
  -- What a visit logs moves from the front of what is to be logged to the end of what was.
  have hlog {visited' : List Visited} {answer : Logged Answer} {a : Answer} {state' : State}
      {f : Answer → Logged (Made Node)} (hstate : state.meaning env = answer >>= f)
      (hresult : answer.result = .ok a) (ha : f a = state'.meaning env) :
      Walker.meaning env ⟨visited', entries ++ answer.entries, state'⟩ =
        Walker.meaning env ⟨visited, entries, state⟩ := by
    rw [Walker.meaning, Walker.meaning, hstate, Logged.bind_of_ok hresult, ha, List.append_assoc]
  cases h with
  | ended => rfl
  | rootLeft hvisit hresult => exact hlog ((hroot hgood).trans (by rw [hvisit])) hresult rfl
  | rootEntered hvisit hresult => exact hlog ((hroot hgood).trans (by rw [hvisit])) hresult rfl
  | passed => rfl
  | aside hpending hchild =>
    obtain ⟨P, h⟩ := Stacked.ready hgood
    rw [Walker.meaning, Walker.meaning, State.meaning, State.meaning, finished_of_aside h hpending hchild]
  | failed hpending hchild hvisit hresult =>
    obtain ⟨P, h⟩ := Stacked.ready hgood
    rw [Walker.meaning, Walker.meaning, meaning_of_visit h hpending hchild, hvisit,
      Logged.bind_of_error hresult]
    simp [State.meaning, Logged.of]
  | left hpending hchild hvisit hresult =>
    obtain ⟨P, h⟩ := Stacked.ready hgood
    exact hlog (hvisit ▸ meaning_of_visit h hpending hchild) hresult rfl
  | entered hpending hchild hvisit hresult =>
    obtain ⟨P, h⟩ := Stacked.ready hgood
    exact hlog (hvisit ▸ meaning_of_visit h hpending hchild) hresult rfl
  | replaced hpending hchild hvisit hresult =>
    obtain ⟨P, h⟩ := Stacked.ready hgood
    exact hlog (hvisit ▸ meaning_of_visit h hpending hchild) hresult rfl
  | closed hpending =>
    rw [Walker.meaning, Walker.meaning, State.meaning, State.meaning, finished_of_pending_nil hpending,
      resume, pure_bind]
  | finished hpending =>
    rw [Walker.meaning, Walker.meaning, State.meaning, State.meaning, finished_of_pending_nil hpending]
    rfl

end Rounds

end Pass
end Phrasebook
