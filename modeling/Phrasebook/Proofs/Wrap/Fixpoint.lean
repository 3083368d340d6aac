import Phrasebook.Proofs.Wrap.Exclusion

/-! Texts that a pass leaves as they are. A pass changes nothing exactly when no literal of the tree as
parsed, inside a component and where the walk comes to it, is a phrase that nothing excludes. So the
text of a pass is left alone by the next one exactly when this holds of the tree it is parsed to. -/

namespace Phrasebook

open Node

namespace Pass

/-- The places that the walk comes to from a place as long as nothing is wrapped. Comments, imports,
types and patterns are not entered, and inside a component neither are strings and JSX text. -/
inductive Reaches (env : Env) : Focus → Focus → Prop
  | here (f : Focus) : Reaches env f f
  | step {f c g : Focus} (hskip : skippedKinds.contains f.node.kind = false)
      (hliteral : Scope.inComponent env.source f = true →
        f.node.kind ≠ "string" ∧ Literal.isJsxText f.node = false)
      (hc : c ∈ f.children) (h : Reaches env c g) : Reaches env f g

/-- A literal that is left alone: its texts are known, and they are no phrase or it is excluded. -/
def Settled (env : Env) (focus : Focus) (more : List Focus) : Prop :=
  ∃ texts phrase, shown env.source focus more = .ok texts ∧
    Literal.isPhrase env.script texts = .ok phrase ∧ (phrase && !env.isExcluded focus) = false

def Rests (env : Env) (g : Focus) : Prop :=
  Scope.inComponent env.source g = true → ∀ more, Wrapped.IsWhole g more → Settled env g more

/-- A tree in which the walk comes to no literal that it wraps. -/
def IsSettled (env : Env) (root : Node) : Prop :=
  ∀ g, Reaches env (Focus.ofRoot root) g → Rests env g

section Literals

variable {env : Env} {f : Focus} (name : Text)

theorem settled_string (hkind : f.node.kind = "string") :
    Settled env f [] ↔ (wrapString? env name f).result = .ok none := by
  have hshown : shown env.source f [] = (Literal.stringValue env.source f).map ([·]) := by
    rw [shown, hkind, beq_self_eq_true, if_pos rfl]
  constructor
  · rintro ⟨texts, phrase, htexts, hphrase, h⟩
    obtain ⟨value, hvalue, rfl⟩ := except_map_eq_ok.1 (hshown ▸ htexts)
    exact wrapString?_of_value hvalue hphrase h
  · intro h
    obtain ⟨value, phrase, hvalue, hphrase, hnone⟩ := wrapString?_eq_ok h
    refine ⟨[value], phrase, by rw [hshown, hvalue]; rfl, hphrase, ?_⟩
    split at hnone
    next => cases hnone
    next h => exact Bool.eq_false_iff.2 h

theorem settled_template (hkind : f.node.kind = "template_string") :
    Settled env f [] ↔ (templateKey? env name f).result = .ok none := by
  have hshown : shown env.source f [] =
      (Literal.templateParts env.source f.node).map (·.quasis) := by
    rw [shown, hkind, if_neg (by decide), beq_self_eq_true, if_pos rfl]
  constructor
  · rintro ⟨texts, phrase, htexts, hphrase, h⟩
    obtain ⟨parts, hparts, rfl⟩ := except_map_eq_ok.1 (hshown ▸ htexts)
    exact templateKey?_of_parts hparts hphrase h
  · intro h
    obtain ⟨parts, phrase, hparts, hphrase, hnone⟩ := templateKey?_eq_ok h
    refine ⟨parts.quasis, phrase, by rw [hshown, hparts]; rfl, hphrase, ?_⟩
    split at hnone
    next =>
      obtain ⟨-, -, ⟨⟩⟩ := hnone
    next h => exact Bool.eq_false_iff.2 h

theorem settled_run {more : List Focus} (hjsx : Literal.isJsxText f.node = true) :
    Settled env f more ↔ (wrapRun? env name f (more.map (·.node))).result = .ok none := by
  obtain ⟨hstring, htemplate⟩ := kind_of_isJsxText hjsx
  have hshown : shown env.source f more = (Literal.jsxValue
      (Literal.runSource env.source (f.node :: more.map (·.node)))).map ([·]) := by
    rw [shown, if_neg (by simpa using hstring), if_neg (by simpa using htemplate)]
  constructor
  · rintro ⟨texts, phrase, htexts, hphrase, h⟩
    obtain ⟨value, hvalue, rfl⟩ := except_map_eq_ok.1 (hshown ▸ htexts)
    exact wrapRun?_of_value hvalue hphrase h
  · intro h
    obtain ⟨value, phrase, hvalue, hphrase, hnone⟩ := wrapRun?_eq_ok h
    refine ⟨[value], phrase, by rw [hshown, hvalue]; rfl, hphrase, ?_⟩
    split at hnone
    next => cases hnone
    next h => exact Bool.eq_false_iff.2 h

end Literals

theorem not_isWhole {kinds : List String} {g : Focus} {more : List Focus}
    (hkind : kinds.contains g.node.kind = true)
    (hkinds : ["string", "template_string", "jsx_text", "html_character_reference"].all
      fun k => !kinds.contains k) : ¬ Wrapped.IsWhole g more := by
  simp only [List.all_cons, List.all_nil, Bool.and_true, Bool.and_eq_true, Bool.not_eq_true'] at hkinds
  rintro (⟨h, -⟩ | ⟨h, -⟩ | ⟨h, -, -⟩)
  · rw [h, hkinds.1] at hkind
    cases hkind
  · rw [h, hkinds.2.1] at hkind
    cases hkind
  · simp only [Literal.isJsxText, Literal.jsxTextKinds, List.contains_cons, List.contains_nil,
      Bool.or_false, Bool.or_eq_true, beq_iff_eq] at h
    rcases h with h | h
    · rw [h, hkinds.2.2.1] at hkind
      cases hkind
    · rw [h, hkinds.2.2.2] at hkind
      cases hkind

theorem rests_of_skipped {env : Env} {g : Focus} (h : skippedKinds.contains g.node.kind = true) :
    Rests env g := fun _ _ hwhole => (not_isWhole h (by decide) hwhole).elim

theorem rests_of_isFunction {env : Env} {g : Focus} (h : Scope.isFunction g.node = true) :
    Rests env g := fun _ _ hwhole =>
  (not_isWhole (Bool.and_eq_true_iff.1 h).2 (by decide) hwhole).elim

theorem rests_of_template {env : Env} {g : Focus}
    (hstring : Scope.inComponent env.source g = true → g.node.kind ≠ "string")
    (hjsx : Scope.inComponent env.source g = true → Literal.isJsxText g.node = false)
    (htemplate : Scope.inComponent env.source g = true → g.node.kind = "template_string" →
      Settled env g []) : Rests env g := by
  rintro hin more (⟨hkind, -⟩ | ⟨hkind, rfl⟩ | ⟨hkind, -, -⟩)
  · exact (hstring hin hkind).elim
  · exact htemplate hin hkind
  · rw [hjsx hin] at hkind
    cases hkind

theorem inComponent_child {source : Bytes} {f c : Focus} (hc : c ∈ f.children) :
    Scope.inComponent source c = ((Scope.isFunction f.node &&
      (Scope.componentName? source f).isSome) || Scope.inComponent source f) := by
  rw [Scope.inComponent, Focus.above_of_mem_children hc, List.any_cons]
  rfl

/-- Children of one parent in the frames they were parsed in, from some child on. -/
structure AsParsed (env : Env) (owner : Option Text) (parent : Info) (frames : List Frame)
    (before items : List Node) : Prop where
  parsed : ∀ n ∈ before.reverse ++ items, n.Parsed
  first : owner.isSome = true → before.head?.any Literal.isJsxText = true →
    items.head?.any Literal.isJsxText = false
  within : ∀ p ∈ Focus.ofItems parent frames before items,
    Scope.inComponent env.source p = owner.isSome

namespace AsParsed

variable {env : Env} {owner : Option Text} {parent : Info} {frames : List Frame}
  {before items : List Node} {n : Node}

theorem laid_tail (h : AsParsed env owner parent frames before (n :: items)) :
    ∀ m ∈ items, m.isLaid = true := fun m hm =>
  (h.parsed m (List.mem_append_right _ (List.mem_cons_of_mem _ hm))).laid

theorem laid_head (h : AsParsed env owner parent frames before (n :: items)) :
    ∀ m ∈ n :: before, m.isLaid = true := by
  intro m hm
  rcases List.mem_cons.1 hm with rfl | hm
  · exact (h.parsed m (List.mem_append_right _ List.mem_cons_self)).laid
  · exact (h.parsed m (List.mem_append_left _ (List.mem_reverse.2 hm))).laid

theorem ofItems_cons (h : AsParsed env owner parent frames before (n :: items)) :
    Focus.ofItems parent frames before (n :: items) =
      ⟨n, ⟨parent, before, items⟩ :: frames⟩ :: Focus.ofItems parent frames (n :: before) items :=
  Focus.ofItems_cons (isChild_of_isLaid
    (h.parsed n (List.mem_append_right _ List.mem_cons_self)).laid)

theorem tail (h : AsParsed env owner parent frames before (n :: items))
    (hn : owner.isSome = true → Literal.isJsxText n = false) :
    AsParsed env owner parent frames (n :: before) items where
  parsed := by simpa using h.parsed
  first howner hjsx := by
    rw [List.head?_cons, Option.any_some, hn howner] at hjsx
    cases hjsx
  within p hp := h.within p (by rw [h.ofItems_cons]; exact List.mem_cons_of_mem _ hp)

theorem run (h : AsParsed env owner parent frames before (n :: items)) :
    ∃ more rest, items = more ++ rest ∧ more = items.takeWhile isRunItem ∧
      (Focus.ofItems parent frames (n :: before) items).drop more.length =
        Focus.ofItems parent frames ((n :: more).reverse ++ before) rest ∧
      AsParsed env owner parent frames ((n :: more).reverse ++ before) rest := by
  have hlaid := h.laid_tail
  have hsplit : items = items.takeWhile isRunItem ++ items.dropWhile isRunItem :=
    List.takeWhile_append_dropWhile.symm
  have hchild : ∀ m ∈ items.takeWhile isRunItem, m.isChild = true := fun m hm =>
    isChild_of_isLaid (hlaid m ((List.takeWhile_sublist _).subset hm))
  have hdrop : (Focus.ofItems parent frames (n :: before)
      (items.takeWhile isRunItem ++ items.dropWhile isRunItem)).drop
        (items.takeWhile isRunItem).length = Focus.ofItems parent frames
          ((items.takeWhile isRunItem).reverse ++ n :: before) (items.dropWhile isRunItem) :=
    Focus.drop_ofItems hchild
  rw [List.takeWhile_append_dropWhile, List.append_cons, ← List.reverse_cons] at hdrop
  refine ⟨_, _, hsplit, rfl, hdrop, ?_, fun _ _ => Lined.head?_dropWhile_isRunItem hlaid,
    fun p hp => ?_⟩
  · intro m hm
    refine h.parsed m ?_
    rw [hsplit]
    simpa using hm
  · refine h.within p ?_
    rw [h.ofItems_cons]
    rw [← hdrop] at hp
    exact List.mem_cons_of_mem _ (List.mem_of_mem_drop hp)

end AsParsed

theorem asParsed_children {env : Env} {owner : Option Text} {f : Focus} (hf : f.node.Parsed)
    (howner : ∀ c ∈ f.children, Scope.inComponent env.source c = owner.isSome) :
    AsParsed env owner f.node.info f.frames [] f.node.items :=
  ⟨fun _ hn => hf.of_mem_items hn, fun _ hnone => (by cases hnone), howner⟩

theorem jsxText_before {parent : Info} {frames : List Frame} {before items : List Node}
    (hlaid : ∀ n ∈ before, n.isLaid = true) (hitems : ∀ n ∈ items, n.isLaid = true)
    (hbefore : before.head?.any Literal.isJsxText = true) :
    ∀ p ∈ (Focus.ofItems parent frames before items).takeWhile fun p => isRunItem p.node,
      Literal.isJsxText p.node = true ∧
        p.siblingsBefore.head?.any Literal.isJsxText = true := by
  induction items generalizing before with
  | nil => simp [Focus.ofItems]
  | cons n items ih =>
    rw [List.forall_mem_cons] at hitems
    rw [Focus.ofItems_cons (isChild_of_isLaid hitems.1), List.takeWhile_cons]
    split
    next hn =>
      have hjsx : Literal.isJsxText n = true := (Bool.and_eq_true_iff.1 hn).2
      refine List.forall_mem_cons.2 ⟨⟨hjsx, ?_⟩, ih ?_ hitems.2 hjsx⟩
      · rw [show Focus.siblingsBefore ⟨n, ⟨parent, before, items⟩ :: frames⟩ = before from
          filter_isChild hlaid]
        exact hbefore
      · exact List.forall_mem_cons.2 ⟨hitems.1, hlaid⟩
    next => simp

theorem Reaches.eq_of_jsxText {env : Env} {f g : Focus} (h : Reaches env f g)
    (hin : Scope.inComponent env.source f = true) (hjsx : Literal.isJsxText f.node = true) :
    g = f := by
  cases h with
  | here => rfl
  | step _ hliteral _ _ =>
    rw [(hliteral hin).2] at hjsx
    cases hjsx

theorem rests_of_run {env : Env} {f : Focus} {more : List Focus}
    (hjsx : Literal.isJsxText f.node = true) (hsettled : Settled env f more)
    (hmore : more.map (·.node) = f.siblingsAfter.takeWhile Literal.isJsxText) : Rests env f := by
  obtain ⟨hstring, htemplate⟩ := kind_of_isJsxText hjsx
  rintro - more' (⟨hkind, -⟩ | ⟨hkind, -⟩ | ⟨-, hmore', -⟩)
  · exact (hstring hkind).elim
  · exact (htemplate hkind).elim
  · have hsame := hmore'.trans hmore.symm
    obtain ⟨texts, phrase, htexts, hphrase, h⟩ := hsettled
    refine ⟨texts, phrase, ?_, hphrase, h⟩
    rw [← htexts, shown, hsame, shown]

theorem rests_inside_run {env : Env} {f : Focus} (hjsx : Literal.isJsxText f.node = true)
    (hbefore : f.siblingsBefore.head?.any Literal.isJsxText = true) : Rests env f := by
  obtain ⟨hstring, htemplate⟩ := kind_of_isJsxText hjsx
  rintro - more (⟨hkind, -⟩ | ⟨hkind, -⟩ | ⟨-, -, hfirst⟩)
  · exact (hstring hkind).elim
  · exact (htemplate hkind).elim
  · rw [hbefore] at hfirst
    cases hfirst

theorem rests_of_enters {env : Env} {owner : Option Text} {f : Focus}
    (henter : Enters env owner f.frames f.node)
    (hin : Scope.inComponent env.source f = owner.isSome)
    (hjsx : owner.isSome = true → Literal.isJsxText f.node = false) : Rests env f := by
  rcases henter.2 with ⟨hfn, -⟩ | ⟨-, hliteral⟩
  · exact rests_of_isFunction hfn
  refine rests_of_template (fun h => ?_) (fun h => hjsx (hin ▸ h)) fun h hkind => ?_
  · obtain ⟨name, rfl⟩ := Option.isSome_iff_exists.1 (hin ▸ h)
    exact (hliteral name rfl).1
  · obtain ⟨name, rfl⟩ := Option.isSome_iff_exists.1 (hin ▸ h)
    exact (settled_template _ hkind).2 ((hliteral name rfl).2 hkind)

section Unwrapped

variable {env : Env}

mutual

theorem Visit.rests {owner : Option Text} {frames : List Frame} {f : Focus} {made : Made Node}
    {ws : List Wrapped} : Visit env owner frames f made ws → frames = f.frames → ws = [] →
      Scope.inComponent env.source f = owner.isSome →
      (owner.isSome = true → Literal.isJsxText f.node = false) →
      ∀ g, Reaches env f g → Rests env g
  | .skipped _ hskip, _, _, _, _, g, hg => by
    cases hg with
    | here => exact rests_of_skipped hskip
    | step hskip' _ _ _ =>
      rw [hskip] at hskip'
      cases hskip'
  | .component hsees _ hfn hname hbelow, hframes, hws, _, _, g, hg => by
    have hrests := hbelow.rests f.node.items (by rw [hframes]; rfl)
    have hwithin : ∀ c ∈ f.children, Scope.inComponent env.source c = true := by
      intro c hc
      rw [hframes] at hname
      rw [inComponent_child hc, hfn, hname]
      rfl
    cases hg with
    | here => exact rests_of_isFunction hfn
    | step _ _ hc h =>
      exact hrests (hframes ▸ asParsed_children hsees.parsed hwithin) (List.map_eq_nil_iff.1 hws)
        _ hc g h
  | .entered hsees henter hbelow, hframes, hws, hin, hjsx, g, hg => by
    have hrests := hbelow.rests f.node.items (by rw [hframes]; rfl)
    rw [hframes] at henter
    have hwithin : ∀ c ∈ f.children, Scope.inComponent env.source c = owner.isSome := by
      intro c hc
      rw [inComponent_child hc, hin]
      rcases henter.2 with ⟨hfn, hname⟩ | ⟨hfn, -⟩
      · rw [hname]
        simp
      · rw [hfn, Bool.false_and, Bool.false_or]
    cases hg with
    | here => exact rests_of_enters henter hin hjsx
    | step _ _ hc h =>
      exact hrests (hframes ▸ asParsed_children hsees.parsed hwithin) hws _ hc g h
  | .otherString _ _ _ hkind hwrap, hframes, _, hin, hjsx, g, hg => by
    rw [hframes] at hwrap
    cases hg with
    | here =>
      rintro - more (⟨-, rfl⟩ | ⟨hkind', -⟩ | ⟨hjsx', -, -⟩)
      · exact (settled_string _ hkind).2 hwrap
      · rw [hkind] at hkind'
        exact absurd hkind' (by decide)
      · rw [hjsx rfl] at hjsx'
        cases hjsx'
    | step _ hliteral _ _ => exact ((hliteral hin).1 hkind).elim
  | .string _ _ _ _ _, _, hws, _, _, _, _ => by cases hws
  | .template _ _ _ _ _ _, _, hws, _, _, _, _ => by cases hws

theorem Visits.rests {owner : Option Text} {parent : Info} {frames : List Frame}
    {before : List Node} {k : Nat} {places : List Focus} {made : Made (List Node)}
    {ws : List Wrapped} : Visits env owner parent frames before k places made ws →
      ∀ items, places = Focus.ofItems parent frames before items →
      AsParsed env owner parent frames before items → ws = [] →
      ∀ p ∈ places, ∀ g, Reaches env p g → Rests env g
  | .nil, _, _, _, _, p, hp, _, _ => by cases hp
  | .run _ _ _ _ _ _, _, _, _, hws, _, _, _, _ => by cases hws
  | .node hjsx hfirst hrest, [], hplaces, _, _, _, _, _, _ => by cases hplaces
  | .node hjsx hfirst hrest, n :: items, hplaces, hparsed, hws, p, hp, g, hg => by
    obtain ⟨hus, hws⟩ := List.append_eq_nil_iff.1 hws
    replace hus := List.map_eq_nil_iff.1 hus
    -- Nothing is wrapped in the first node, so the frames of the others are still those as parsed.
    have hpart := (hfirst.isSame hus).part_eq
    have hfirst' := hfirst.rests
    have hrest' := hrest.rests items
    rw [hpart] at hrest'
    rw [hparsed.ofItems_cons] at hplaces
    obtain ⟨rfl, rfl⟩ := List.cons.inj hplaces
    rcases List.mem_cons.1 hp with rfl | hp
    · refine hfirst' ?_ hus (hparsed.within _ ?_) hjsx g hg
      · rw [Focus.map_node_ofItems, filter_isChild hparsed.laid_tail]
      · rw [hparsed.ofItems_cons]
        exact List.mem_cons_self
    · exact hrest' rfl (hparsed.tail hjsx) hws p hp g hg
  | .otherRun hjsx hmore hwrap hrest, [], hplaces, _, _, _, _, _, _ => by cases hplaces
  | .otherRun hjsx hmore hwrap hrest, n :: items, hplaces, hparsed, hws, p, hp, g, hg => by
    have hrest' := fun items => hrest.rests items
    have hwithin := hparsed.within
    rw [hparsed.ofItems_cons] at hplaces hwithin
    obtain ⟨rfl, rfl⟩ := List.cons.inj hplaces
    obtain ⟨nodes, rest, -, hnodes, hdrop, hparsed'⟩ := hparsed.run
    have hlaid := hparsed.laid_tail
    have hmap := map_node_takeWhile hmore
    rw [Focus.map_node_ofItems, filter_isChild hlaid] at hwrap hmap
    rw [← hnodes] at hmap
    have hlength := congrArg List.length hmap
    rw [List.length_map] at hlength
    rcases List.mem_cons.1 hp with rfl | hp
    · rw [hg.eq_of_jsxText (hwithin _ List.mem_cons_self) hjsx]
      refine rests_of_run hjsx ((settled_run _ hjsx).2 hwrap) ?_
      rw [hmap, hnodes, takeWhile_isRunItem hlaid]
      exact congrArg (List.takeWhile Literal.isJsxText) (filter_isChild hlaid).symm
    -- The other nodes of the run are no whole literals; what comes after them is walked on its own.
    · have hp' := hp
      rw [← append_drop_takeWhile hmore] at hp'
      rcases List.mem_append.1 hp' with hp' | hp'
      · obtain ⟨hjsx', hfirst⟩ := jsxText_before hparsed.laid_head hlaid hjsx p (hmore ▸ hp')
        rw [hg.eq_of_jsxText (hwithin _ (List.mem_cons_of_mem _ hp)) hjsx']
        exact rests_inside_run hjsx' hfirst
      · rw [hmap] at hrest'
        exact hrest' rest (by rw [hlength, hdrop]) hparsed' hws p hp' g hg

end

def GivesBack {α : Type} (walk : Logged (Made α)) (part : α) : Prop :=
  ∃ made, walk.result = .ok made ∧ made.part = part ∧ made.changed = false

theorem GivesBack.reassemble {info : Info} {items : List Node} {walk : Logged (Made (List Node))}
    (h : GivesBack walk items) :
    GivesBack (do return Pass.reassemble info (← walk)) (.branch info items) := by
  obtain ⟨below, hwalk, hpart, hchanged⟩ := h
  refine ⟨Pass.reassemble info below, Logged.result_bind_eq_ok.2 ⟨below, hwalk, rfl⟩, ?_, hchanged⟩
  simp only [Pass.reassemble, hpart, hchanged, Bool.or_false]

theorem AsParsed.isWhole {owner : Option Text} {parent : Info} {frames : List Frame}
    {before items : List Node} {n : Node}
    (h : AsParsed env owner parent frames before (n :: items)) (howner : owner.isSome = true)
    (hjsx : Literal.isJsxText n = true) :
    ∃ more : List Focus, more.map (·.node) = items.takeWhile isRunItem ∧
      Wrapped.IsWhole ⟨n, ⟨parent, before, items⟩ :: frames⟩ more := by
  have hlaid := h.laid_tail
  have hmap := map_node_takeWhile (Eq.refl
    ((Focus.ofItems parent frames (n :: before) items).takeWhile fun p => isRunItem p.node))
  rw [Focus.map_node_ofItems, filter_isChild hlaid] at hmap
  refine ⟨_, hmap, .inr (.inr ⟨hjsx, ?_, ?_⟩)⟩
  · rw [hmap, takeWhile_isRunItem hlaid]
    exact congrArg (List.takeWhile Literal.isJsxText) (filter_isChild hlaid).symm
  · rw [show Focus.siblingsBefore ⟨n, ⟨parent, before, items⟩ :: frames⟩ = before from
      filter_isChild fun m hm => h.laid_head m (List.mem_cons_of_mem _ hm)]
    cases hhead : before.head?.any Literal.isJsxText with
    | false => rfl
    | true =>
      have hfirst := h.first howner hhead
      rw [List.head?_cons, Option.any_some, hjsx] at hfirst
      cases hfirst

mutual

theorem walkNode_of_rests {owner : Option Text} : ∀ {f : Focus}, f.node.Parsed →
    Scope.inComponent env.source f = owner.isSome →
    (owner.isSome = true → Literal.isJsxText f.node = false) →
    (∀ g, Reaches env f g → Rests env g) → GivesBack (walkNode env owner f.frames f.node) f.node
  | ⟨.text t, frames⟩, hf, _, _, _ => by simpa [isLaid] using hf.laid
  | ⟨.branch info items, frames⟩, hf, hin, hjsx, hrests => by
    by_cases hskip : skippedKinds.contains info.kind = true
    · refine ⟨.same (.branch info items), ?_, rfl, rfl⟩
      cases owner <;> rw [walkNode, if_pos hskip] <;> rfl
    have hskip' : skippedKinds.contains info.kind = false := by simpa using hskip
    -- A component is walked for itself and any other node for its owner; the children are given back
    -- for either.
    have hchildren (owner' : Option Text)
        (hwithin : ∀ c ∈ (Focus.mk (.branch info items) frames).children,
          Scope.inComponent env.source c = owner'.isSome)
        (hliteral : Scope.inComponent env.source ⟨.branch info items, frames⟩ = true →
          info.kind ≠ "string") :
        GivesBack (walkItems env owner' info frames [] 0 items) items :=
      walkItems_of_rests (asParsed_children (f := ⟨.branch info items, frames⟩) hf hwithin)
        fun p hp g hg => hrests g (.step hskip' (fun h => ⟨hliteral h, hjsx (hin ▸ h)⟩) hp hg)
    have hchild (c : Focus) (hc : c ∈ (Focus.mk (.branch info items) frames).children) :
        Scope.inComponent env.source c = ((Scope.isFunction (.branch info items) &&
          (Scope.componentName? env.source ⟨.branch info items, frames⟩).isSome) ||
          owner.isSome) := by
      rw [inComponent_child hc, hin]
    by_cases hfn : Scope.isFunction (.branch info items) = true
    · have hkind : info.kind ≠ "string" := fun h => by
        have := (Bool.and_eq_true_iff.1 hfn).2
        rw [Node.kind, Node.info, h] at this
        exact absurd this (by decide)
      cases hname : Scope.componentName? env.source ⟨.branch info items, frames⟩ with
      | none =>
        have hback := hchildren owner (fun c hc => by simp [hchild c hc, hname]) fun _ => hkind
        cases owner <;> rw [walkNode, if_neg hskip, if_pos hfn, hname] <;> exact hback.reassemble
      | some name =>
        obtain ⟨below, hwalk, hpart, hchanged⟩ :=
          hchildren (some name) (fun c hc => by simp [hchild c hc, hname, hfn]) fun _ => hkind
        refine ⟨ofComponent env (.branch info items) name below, ?_, ?_, hchanged⟩
        · cases owner <;> rw [walkNode, if_neg hskip, if_pos hfn, hname] <;>
            exact Logged.result_bind_eq_ok.2 ⟨below, hwalk, rfl⟩
        · simp only [ofComponent, reassemble, hpart, hchanged, Bool.or_false, Node.info]
    have hback (hliteral : owner.isSome = true → info.kind ≠ "string") :=
      hchildren owner (fun c hc => by simp [hchild c hc, hfn]) fun h => hliteral (hin ▸ h)
    cases owner with
    | none =>
      rw [walkNode, if_neg hskip, if_neg hfn]
      exact (hback fun h => by cases h).reassemble
    | some name =>
      have hrest := hrests _ (.here _) hin
      rw [walkNode, if_neg hskip, if_neg hfn]
      dsimp only
      split
      next hkind =>
        have hkind' : info.kind = "string" := by simpa using hkind
        have hwrap := (settled_string (f := ⟨.branch info items, frames⟩) name hkind').1
          (hrest [] (.inl ⟨hkind', rfl⟩))
        exact ⟨_, Logged.result_bind_eq_ok.2 ⟨none, hwrap, rfl⟩, rfl, rfl⟩
      next hkind =>
      have hback' := hback fun _ => by simpa using hkind
      split
      next htemplate =>
        have htemplate' : info.kind = "template_string" := by simpa using htemplate
        have hkey := (settled_template (f := ⟨.branch info items, frames⟩) name htemplate').1
          (hrest [] (.inr (.inl ⟨htemplate', rfl⟩)))
        obtain ⟨made, hmade, hpart, hchanged⟩ := hback'.reassemble
        exact ⟨made, Logged.result_bind_eq_ok.2 ⟨none, hkey, hmade⟩, hpart, hchanged⟩
      next => exact hback'.reassemble
termination_by f => f.node.weight
decreasing_by
  all_goals
    simp only [weight]
    omega

theorem walkItems_of_rests {owner : Option Text} {parent : Info} {frames : List Frame} :
    ∀ {before : List Node} {k : Nat} {items : List Node},
      AsParsed env owner parent frames before items →
      (∀ p ∈ Focus.ofItems parent frames before items, ∀ g, Reaches env p g → Rests env g) →
      GivesBack (walkItems env owner parent frames before k items) items
  | _, _, [], _, _ => ⟨_, by rw [walkItems]; rfl, rfl, rfl⟩
  | before, k, n :: rest, hparsed, hrests => by
    have hchild : ¬ ((!n.isChild) = true) := by
      simp [isChild_of_isLaid (hparsed.laid_head n List.mem_cons_self)]
    have hhead := hparsed.within
    rw [hparsed.ofItems_cons] at hhead hrests
    obtain ⟨hfirst, hrests⟩ := List.forall_mem_cons.1 hrests
    by_cases hjsx : owner.isSome = true → Literal.isJsxText n = false
    · obtain ⟨first, hwalk, hpart, hchanged⟩ :=
        walkNode_of_rests (f := ⟨n, ⟨parent, before, rest⟩ :: frames⟩)
          (hparsed.parsed n (List.mem_append_right _ List.mem_cons_self))
          (hhead _ List.mem_cons_self) hjsx hfirst
      obtain ⟨made, hmade, hpart', hchanged'⟩ := walkItems_of_rests (k := k + 1)
        (hparsed.tail hjsx) hrests
      rw [walkItems.eq_3, if_neg hchild]
      · rw [← show first.part = n from hpart] at hmade
        refine ⟨_, Logged.result_bind_eq_ok.2 ⟨first, hwalk,
          Logged.result_bind_eq_ok.2 ⟨made, hmade, rfl⟩⟩, ?_, ?_⟩
        · simp only [hpart, hpart']
        · simp only [hchanged, hchanged', Bool.or_false]
      · rintro name rfl hj
        simp [hj] at hjsx
    · obtain ⟨howner, hj⟩ := Classical.not_imp.1 hjsx
      obtain ⟨name, rfl⟩ := Option.isSome_iff_exists.1 howner
      have hj' : Literal.isJsxText n = true := by simpa using hj
      obtain ⟨foci, hnodes, hwhole⟩ := hparsed.isWhole rfl hj'
      have hwrap := (settled_run name hj').1
        (hfirst _ (.here _) (hhead _ List.mem_cons_self) foci hwhole)
      obtain ⟨more, after, hsplit, hmore, hdrop, hparsed'⟩ := hparsed.run
      rw [hnodes] at hwrap
      have hafter : rest.drop more.length = after := by
        rw [hsplit, List.drop_left]
      have hrests' : ∀ p ∈ Focus.ofItems parent frames ((n :: more).reverse ++ before) after,
          ∀ g, Reaches env p g → Rests env g := fun p hp =>
        hrests p (List.mem_of_mem_drop (hdrop ▸ hp))
      obtain ⟨made, hmade, hpart, hchanged⟩ := walkItems_of_rests (k := k + (n :: more).length)
        hparsed' hrests'
      rw [walkItems.eq_2 _ _ _ _ _ _ _ _ hj', if_neg hchild]
      dsimp only
      rw [← hmore] at hwrap ⊢
      rw [← hafter] at hmade
      refine ⟨{ made with part := n :: more ++ made.part }, ?_, ?_, hchanged⟩
      · exact Logged.result_bind_eq_ok.2 ⟨none, hwrap, Logged.result_bind_eq_ok.2 ⟨made, hmade, rfl⟩⟩
      · rw [hpart, hsplit]
        rfl
termination_by _ _ items => weightItems items
decreasing_by
  all_goals
    simp only [weightItems]
    try have := weightItems_drop_le more.length rest
    try rw [hafter] at this
    omega

end

end Unwrapped

end Pass
end Phrasebook
