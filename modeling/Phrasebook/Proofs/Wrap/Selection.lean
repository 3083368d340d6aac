import Mathlib.Data.List.Pairwise
import Phrasebook.Proofs.Wrap.Around
import Phrasebook.Proofs.Wrap.Fixpoint

/-! What becomes of the literals that the tests select on the tree as parsed. One that the walk comes
to is wrapped, unless it is a template right below a call that the walk put in. One that it does not
come to is in a substitution of which the call keeps nothing. -/

namespace Phrasebook

open Node

namespace Focus

/-- A place at or below another. -/
def Below (f g : Focus) : Prop := ∃ path, at? path f = some g

theorem Below.refl (f : Focus) : Below f f := ⟨[], rfl⟩

theorem Below.cases {f g : Focus} (h : Below f g) : g = f ∨ ∃ c ∈ f.children, Below c g := by
  obtain ⟨path, hpath⟩ := h
  cases path with
  | nil =>
    cases hpath
    exact .inl rfl
  | cons k path =>
    obtain ⟨c, hc, hpath⟩ := Option.bind_eq_some_iff.1 hpath
    exact .inr ⟨c, List.mem_of_getElem? hc, path, hpath⟩

theorem Below.prefix_path {f g : Focus} (h : Below f g) : f.path <+: g.path := by
  obtain ⟨path, hpath⟩ := h
  induction path generalizing f with
  | nil =>
    cases hpath
    exact List.prefix_rfl
  | cons k path ih =>
    obtain ⟨c, hc, hpath⟩ := Option.bind_eq_some_iff.1 hpath
    exact (prefix_path_of_mem_children (List.mem_of_getElem? hc)).1.trans (ih hpath)

theorem Below.kind_mem_ancestorKinds {f c g : Focus} (hc : c ∈ f.children) (h : Below c g) :
    f.node.kind ∈ g.ancestorKinds := by
  have hkinds {f g : Focus} (h : Below f g) : f.ancestorKinds ⊆ g.ancestorKinds := by
    obtain ⟨path, hpath⟩ := h
    induction path generalizing f with
    | nil =>
      cases hpath
      exact List.Subset.refl _
    | cons k path ih =>
      obtain ⟨d, hd, hpath⟩ := Option.bind_eq_some_iff.1 hpath
      obtain ⟨past, after, hframes⟩ := frames_of_mem_children (List.mem_of_getElem? hd)
      refine List.Subset.trans ?_ (ih hpath)
      rw [ancestorKinds, ancestorKinds, hframes]
      exact List.subset_cons_self _ _
  obtain ⟨past, after, hframes⟩ := frames_of_mem_children hc
  refine hkinds h ?_
  rw [ancestorKinds, hframes]
  exact List.mem_cons_self

theorem eq_of_pairwise_apart {places : List Focus} (h : places.Pairwise Apart) {p q g : Focus}
    (hp : p ∈ places) (hq : q ∈ places) (hpg : p.path <+: g.path) (hqg : q.path <+: g.path) :
    p = q := by
  by_contra hne
  have hsymm : Std.Symm Apart := ⟨fun _ _ h => ⟨h.2, h.1⟩⟩
  have hapart := h.forall hp hq hne
  exact (hapart.below hpg hqg).ne rfl

theorem Below.of_le {f c g : Focus} (h : Below f g) (hc : c ∈ f.children)
    (hle : c.path <+: g.path) : Below c g := by
  rcases h.cases with rfl | ⟨d, hd, hdg⟩
  · obtain ⟨hup, hne⟩ := prefix_path_of_mem_children hc
    exact (hne (hle.eq_of_length_le hup.length_le)).elim
  · rw [eq_of_pairwise_apart (pairwise_apart_ofItems _ _ _ _) hc hd hle hdg.prefix_path]
    exact hdg

theorem Below.of_child {f c g : Focus} (hc : c ∈ f.children) (h : Below c g) : Below f g := by
  obtain ⟨path, hpath⟩ := h
  obtain ⟨k, hk⟩ := List.getElem?_of_mem hc
  refine ⟨k :: path, ?_⟩
  rw [at?, hk, Option.bind_some, hpath]

theorem Below.of_path {f u g : Focus} (hu : Below f u) (hg : Below f g) (hle : u.path <+: g.path) :
    Below u g := by
  obtain ⟨path, hpath⟩ := hu
  induction path generalizing f with
  | nil =>
    cases hpath
    exact hg
  | cons k path ih =>
    obtain ⟨c, hc, hpath⟩ := Option.bind_eq_some_iff.1 hpath
    have hcu : Below c u := ⟨path, hpath⟩
    exact ih (hg.of_le (List.mem_of_getElem? hc) (hcu.prefix_path.trans hle)) hpath

end Focus

namespace Pass

/-- A literal that the tests select on the tree as parsed: a whole one, under nothing that the walk
skips and no part of a string, in a component, a phrase, and not excluded. -/
structure Selected (env : Env) (g : Focus) (more : List Focus) : Prop where
  whole : Wrapped.IsWhole g more
  outside : ∀ kind ∈ g.ancestorKinds, skippedKinds.contains kind = false ∧ kind ≠ "string"
  component : Scope.inComponent env.source g = true
  phrase : ∃ texts, shown env.source g more = .ok texts ∧ Literal.isPhrase env.script texts = .ok true
  admitted : env.isExcluded g = false

/-- A template that is itself an expression which the call of a wrapped template keeps. -/
def Nested (source : Bytes) (wrapped : List Focus) (g : Focus) : Prop :=
  g.node.kind = "template_string" ∧ ∃ u ∈ wrapped, u.node.kind = "template_string" ∧
    g ∈ (keptFoci source u).map (·.2)

/-- A place in a wrapped template that is in no expression which its call keeps. -/
def PassedOver (source : Bytes) (wrapped : List Focus) (g : Focus) : Prop :=
  ∃ u ∈ wrapped, u.node.kind = "template_string" ∧ u.path <+: g.path ∧ g.path ≠ u.path ∧
    ∀ p ∈ (keptFoci source u).map (·.2), ¬ p.path <+: g.path

section Judging

variable {env : Env} {us : List Focus} {g : Focus} {more : List Focus} {frames : List Frame}

theorem shown_walk {source : Bytes} (h : Matches g.frames frames) (more : List Focus) :
    shown source ⟨g.node, frames⟩ more = shown source g more := by
  rw [shown, shown, Literal.stringValue, Literal.stringValue, h.inAttribute]

theorem Around.nested (h : Around env.source us g frames) (hg : Selected env g more)
    (hsettled : Settled env ⟨g.node, frames⟩ more) (vs : List Focus) :
    Nested env.source (us ++ vs) g := by
  have hexcluded : env.isExcluded ⟨g.node, frames⟩ = true := by
    obtain ⟨texts, phrase, htexts, hphrase, hsettled⟩ := hsettled
    obtain ⟨texts', htexts', hphrase'⟩ := hg.phrase
    rw [shown_walk h.matches, htexts'] at htexts
    cases htexts
    rw [hphrase'] at hphrase
    cases hphrase
    simpa using hsettled
  rcases h.isExcluded_or hexcluded with hparsed | ⟨hkind, u, hu, hkept⟩
  · rw [hg.admitted] at hparsed
    cases hparsed
  · exact ⟨hkind, u, List.mem_append_left _ hu, h.kind u hu, hkept⟩

theorem Selected.not_skipped (hg : Selected env g more) :
    skippedKinds.contains g.node.kind = false := by
  by_contra hskip
  exact not_isWhole (by simpa using hskip) (by decide) hg.whole

theorem Selected.not_function (hg : Selected env g more) : Scope.isFunction g.node = false := by
  by_contra hfn
  rw [Bool.not_eq_false, Scope.isFunction, Bool.and_eq_true] at hfn
  exact not_isWhole hfn.2 (by decide) hg.whole

end Judging

/-- Nodes to be walked under one parent, as they stood when parsed: children after those already
walked, or expressions that the call of a wrapped template keeps. -/
inductive Queued (source : Bytes) : List Focus → Info → List Frame → List Node → List Focus → Prop
  | children {us : List Focus} {f : Focus} {frames : List Frame} {past before items : List Node}
      (h : Around source us f frames) (hitems : f.node.items = past.reverse ++ items)
      (hremains : Remains source past before) :
      Queued source us f.node.info frames before (Focus.ofItems f.node.info f.frames past items)
  | kept {us : List Focus} {u : Focus} {frames : List Frame} {call : Info} {before : List Node}
      {places : List Focus} (h : Around source us u frames) (hkind : u.node.kind = "template_string")
      (hplaces : ∀ p ∈ places, p ∈ (keptFoci source u).map (·.2))
      (hcall : call.kind = "call_expression") (hstops : ∀ n ∈ before, Literal.Stops source n) :
      Queued source (u :: us) call frames before places

namespace Queued

variable {source : Bytes} {us : List Focus} {parent : Info} {frames : List Frame}
  {before : List Node} {f : Focus} {rest : List Focus}

theorem of_children (h : Around source us f frames) :
    Queued source us f.node.info frames [] f.children :=
  .children h rfl (.nil source)

theorem of_kept (h : Around source us f frames) (hkind : f.node.kind = "template_string")
    {call : Info} (hcall : call.kind = "call_expression") :
    Queued source (f :: us) call frames [] ((keptFoci source f).map (·.2)) :=
  .kept h hkind (fun _ hp => hp) hcall (by simp)

theorem cons_cases (h : Queued source us parent frames before (f :: rest)) :
    (∃ g past n items, parent = g.node.info ∧ Around source us g frames ∧
      g.node.items = past.reverse ++ n :: items ∧ Remains source past before ∧
      f = ⟨n, ⟨g.node.info, past, items⟩ :: g.frames⟩ ∧
      rest = Focus.ofItems g.node.info g.frames (n :: past) items) ∨
    (∃ us' u, us = u :: us' ∧ Around source us' u frames ∧ u.node.kind = "template_string" ∧
      (∀ p ∈ f :: rest, p ∈ (keptFoci source u).map (·.2)) ∧ parent.kind = "call_expression" ∧
      ∀ n ∈ before, Literal.Stops source n) := by
  generalize hplaces : f :: rest = places at h
  cases h with
  | @kept us' u _ _ _ _ h hkind hkept hcall hstops =>
    exact .inr ⟨us', u, rfl, h, hkind, hkept, hcall, hstops⟩
  | @children _ g _ past _ items h hitems hremains =>
    cases items with
    | nil => cases hplaces
    | cons n items =>
      have hn : n ∈ g.node.items := by
        rw [hitems]
        exact List.mem_append_right _ List.mem_cons_self
      rw [Focus.ofItems_cons (isChild_of_isLaid (isLaid_of_mem_items h.sound.1.laid hn))] at hplaces
      cases hplaces
      exact .inl ⟨g, past, n, items, rfl, h, hitems, hremains, rfl, rfl⟩

theorem laid_of_items {g : Focus} {past items : List Node} {n : Node}
    (h : Around source us g frames) (hitems : g.node.items = past.reverse ++ n :: items) :
    (∀ m ∈ items, m.isLaid = true) ∧ ∀ m ∈ n :: past, m.isLaid = true := by
  have hlaid : ∀ m ∈ past.reverse ++ n :: items, m.isLaid = true := fun m hm =>
    isLaid_of_mem_items h.sound.1.laid (hitems ▸ hm)
  constructor
  · intro m hm
    exact hlaid m (List.mem_append_right _ (List.mem_cons_of_mem _ hm))
  · intro m hm
    rcases List.mem_cons.1 hm with rfl | hm
    · exact hlaid m (List.mem_append_right _ List.mem_cons_self)
    · exact hlaid m (List.mem_append_left _ (List.mem_reverse.2 hm))

theorem head (h : Queued source us parent frames before (f :: rest)) :
    Around source us f (⟨parent, before, rest.map (·.node)⟩ :: frames) := by
  rcases h.cons_cases with ⟨g, past, n, items, rfl, hg, hitems, hremains, rfl, rfl⟩ |
    ⟨us', u, rfl, hu, hkind, hkept, hcall, hstops⟩
  · obtain ⟨hafter, hbefore⟩ := laid_of_items hg hitems
    rw [Focus.map_node_ofItems, filter_isChild hafter]
    exact .child hg (Focus.mem_children_of_items hitems
      (isChild_of_isLaid (hbefore n List.mem_cons_self))) rfl hremains
  · exact .kept hu hkind (hkept f List.mem_cons_self) hcall hstops

theorem isJsxText_kept {u : Focus} {us' : List Focus} (h : Around source us' u frames)
    {p : Focus} (hp : p ∈ (keptFoci source u).map (·.2)) : Literal.isJsxText p.node = false := by
  obtain ⟨s, hs, hsubst, hp | rfl⟩ := keptFoci_cases hp
  · have hsound := sound_child h.sound hs
    refine hsound.1.substitution_items hsubst ?_
    rw [← Focus.map_node_children hsound.1.laid]
    exact List.mem_map_of_mem hp
  · rw [Literal.isJsxText, hsubst]
    decide

theorem tail (h : Queued source us parent frames before (f :: rest)) {n' : Node}
    (hstays : Stays f.node n') (hbecame : Became source f.node n') :
    Queued source us parent frames (n' :: before) rest := by
  rcases h.cons_cases with ⟨g, past, n, items, rfl, hg, hitems, hremains, rfl, rfl⟩ |
    ⟨us', u, rfl, hu, hkind, hkept, hcall, hstops⟩
  · exact .children hg (by simpa using hitems) (hremains.cons hstays hbecame)
  · refine .kept hu hkind (fun p hp => hkept p (List.mem_cons_of_mem _ hp)) hcall ?_
    have hf := hkept f List.mem_cons_self
    exact List.forall_mem_cons.2
      ⟨stops_of_became_kept hu.sound hf (isJsxText_kept hu hf) hbecame, hstops⟩

theorem siblings_of_run (h : Queued source us parent frames before (f :: rest))
    (hjsx : Literal.isJsxText f.node = true) {more : List Focus}
    (hmore : more = rest.takeWhile fun p => isRunItem p.node) :
    more.map (·.node) = f.siblingsAfter.takeWhile Literal.isJsxText ∧
      ∀ p ∈ more, Literal.isJsxText p.node = true ∧
        p.siblingsBefore.head?.any Literal.isJsxText = true := by
  rcases h.cons_cases with ⟨g, past, n, items, rfl, hg, hitems, -, rfl, rfl⟩ |
    ⟨us', u, rfl, hu, -, hkept, -, -⟩
  · obtain ⟨hafter, hbefore⟩ := laid_of_items hg hitems
    constructor
    · rw [map_node_takeWhile hmore, Focus.map_node_ofItems, filter_isChild hafter]
      show _ = (items.filter isChild).takeWhile Literal.isJsxText
      rw [filter_isChild hafter, takeWhile_isRunItem hafter]
    · rw [hmore]
      exact jsxText_before hbefore hafter hjsx
  · rw [isJsxText_kept hu (hkept f List.mem_cons_self)] at hjsx
    cases hjsx

theorem drop (h : Queued source us parent frames before (f :: rest))
    (hjsx : Literal.isJsxText f.node = true) {more : List Focus}
    (hmore : more = rest.takeWhile fun p => isRunItem p.node) {before' : List Node}
    (hleft : ∀ past, Remains source past before →
      noTextPairs (f.node :: more.map (·.node)) = true →
      (∀ n ∈ f.node :: more.map (·.node), n.field = none) →
      Remains source ((f.node :: more.map (·.node)).reverse ++ past) before') :
    Queued source us parent frames before' (rest.drop more.length) := by
  rcases h.cons_cases with ⟨g, past, n, items, rfl, hg, hitems, hremains, rfl, rfl⟩ |
    ⟨us', u, rfl, hu, -, hkept, -, -⟩
  · obtain ⟨hafter, -⟩ := laid_of_items hg hitems
    have hnodes : more.map (·.node) = items.takeWhile isRunItem := by
      rw [map_node_takeWhile hmore, Focus.map_node_ofItems, filter_isChild hafter]
    have hsplit : more.map (·.node) ++ items.dropWhile isRunItem = items := by
      rw [hnodes, List.takeWhile_append_dropWhile]
    have hitems' : g.node.items =
        past.reverse ++ (n :: more.map (·.node) ++ items.dropWhile isRunItem) := by
      rw [hitems, List.cons_append, hsplit]
    have hpairs : noTextPairs (n :: more.map (·.node)) = true := by
      have htidy := isTidy_iff.1 (isTidy_of_areTidy hg.sound.2 hg.sound.1.laid)
      rw [hitems'] at htidy
      exact noTextPairs_append_left (noTextPairs_append_right htidy.2.1)
    have hfields : ∀ m ∈ n :: more.map (·.node), m.field = none := by
      intro m hm
      have hparsed : m.Parsed := hg.sound.1.of_mem_items (by
        rw [hitems']
        exact List.mem_append_right _ (List.mem_append_left _ hm))
      exact hparsed.field_of_jsxText (isJsxText_of_run hjsx hmore m hm)
    have hchild : ∀ m ∈ more.map (·.node), m.isChild = true := fun m hm =>
      isChild_of_isLaid (hafter m (hsplit ▸ List.mem_append_left _ hm))
    have hrest : (Focus.ofItems g.node.info g.frames (n :: past) items).drop more.length =
        Focus.ofItems g.node.info g.frames ((n :: more.map (·.node)).reverse ++ past)
          (items.dropWhile isRunItem) := by
      conv_lhs => rw [← hsplit]
      rw [← List.length_map (f := (·.node)), Focus.drop_ofItems hchild, List.reverse_cons,
        List.append_assoc]
      rfl
    rw [hrest]
    exact .children hg (by simpa using hitems') (hleft past hremains hpairs hfields)
  · rw [isJsxText_kept hu (hkept f List.mem_cons_self)] at hjsx
    cases hjsx

end Queued

theorem Queued.sound {source : Bytes} {us : List Focus} {parent : Info} {frames : List Frame}
    {before : List Node} {places : List Focus} (h : Queued source us parent frames before places) :
    ∀ p ∈ places, p.node.Parsed ∧ p.node.areTidy = true := by
  intro p hp
  cases h with
  | @children _ f _ past _ items h hitems _ =>
    obtain ⟨beside, n, after, rfl, rfl⟩ := Focus.mem_ofItems hp
    have hn : n ∈ f.node.items := by
      rw [hitems]
      simp
    exact ⟨h.sound.1.of_mem_items hn, areTidy_of_mem_items h.sound.2 hn⟩
  | kept h _ hplaces _ _ => exact sound_kept h.sound (hplaces p hp)

theorem below_kept {source : Bytes} {f p g : Focus} (hp : p ∈ (keptFoci source f).map (·.2))
    (h : p.Below g) : f.Below g := by
  obtain ⟨s, hs, -, hps | rfl⟩ := keptFoci_cases hp
  · exact .of_child hs (.of_child hps h)
  · exact .of_child hs h

def Judged (env : Env) (us wrapped : List Focus) (g : Focus) : Prop :=
  ∃ vs frames, Around env.source vs g frames ∧ env.isExcluded ⟨g.node, frames⟩ = false ∧
    vs ⊆ us ++ wrapped

def Decided (env : Env) (us wrapped : List Focus) (g : Focus) : Prop :=
  g ∈ wrapped ∨ Nested env.source (us ++ wrapped) g ∨ PassedOver env.source wrapped g

/-- What the walk did at some places: whatever it wrapped is at or below one of them and was not
excluded, and whatever the tests select there is decided. -/
structure Account (env : Env) (us wrapped places : List Focus) : Prop where
  below : ∀ g ∈ wrapped, ∃ p ∈ places, p.Below g
  judged : ∀ g ∈ wrapped, Judged env us wrapped g
  decided : ∀ p ∈ places, ∀ g more, p.Below g → Selected env g more → Decided env us wrapped g

section Accounts

variable {env : Env} {us us' vs vs' : List Focus} {f g : Focus} {frames : List Frame}

theorem Judged.mono (h : Judged env us vs g) (hsub : us ++ vs ⊆ us' ++ vs') :
    Judged env us' vs' g := by
  obtain ⟨above, frames, haround, hexcluded, habove⟩ := h
  exact ⟨above, frames, haround, hexcluded, List.Subset.trans habove hsub⟩

theorem Decided.mono (h : Decided env us vs g) (hvs : vs ⊆ vs') (hsub : us ++ vs ⊆ us' ++ vs') :
    Decided env us' vs' g := by
  rcases h with hv | ⟨hkind, u, hu, hkept⟩ | ⟨u, hu, hpassed⟩
  · exact .inl (hvs hv)
  · exact .inr (.inl ⟨hkind, u, hsub hu, hkept⟩)
  · exact .inr (.inr ⟨u, hvs hu, hpassed⟩)

theorem Account.nil (env : Env) (us : List Focus) : Account env us [] [] := ⟨by simp, by simp, by simp⟩

theorem Account.append {places places' : List Focus} (h : Account env us vs places)
    (h' : Account env us vs' places') : Account env us (vs ++ vs') (places ++ places') where
  below g hg := by
    rcases List.mem_append.1 hg with hg | hg
    · obtain ⟨p, hp, hpg⟩ := h.below g hg
      exact ⟨p, List.mem_append_left _ hp, hpg⟩
    · obtain ⟨p, hp, hpg⟩ := h'.below g hg
      exact ⟨p, List.mem_append_right _ hp, hpg⟩
  judged g hg := by
    rcases List.mem_append.1 hg with hg | hg
    · exact (h.judged g hg).mono (by simp)
    · exact (h'.judged g hg).mono (by simp)
  decided p hp g more hbelow hg := by
    rcases List.mem_append.1 hp with hp | hp
    · exact (h.decided p hp g more hbelow hg).mono (by simp) (by simp)
    · exact (h'.decided p hp g more hbelow hg).mono (by simp) (by simp)

theorem Account.of_children (h : Account env us vs f.children)
    (hself : ∀ more, Selected env f more → Decided env us vs f) : Account env us vs [f] where
  below g hg := by
    obtain ⟨c, hc, hcg⟩ := h.below g hg
    exact ⟨f, List.mem_cons_self, .of_child hc hcg⟩
  judged := h.judged
  decided p hp g more hbelow hg := by
    rw [List.mem_singleton.1 hp] at hbelow
    rcases hbelow.cases with rfl | ⟨c, hc, hbelow⟩
    · exact hself more hg
    · exact h.decided c hc g more hbelow hg

theorem Account.of_barrier (hjudged : ∀ g ∈ vs, g = f ∧ Judged env us vs g)
    (hbarrier : skippedKinds.contains f.node.kind = true ∨ f.node.kind = "string")
    (hself : ∀ more, Selected env f more → Decided env us vs f) : Account env us vs [f] where
  below g hg := ⟨f, List.mem_cons_self, (hjudged g hg).1 ▸ .refl f⟩
  judged g hg := (hjudged g hg).2
  decided p hp g more hbelow hg := by
    rw [List.mem_singleton.1 hp] at hbelow
    rcases hbelow.cases with rfl | ⟨c, hc, hbelow⟩
    · exact hself more hg
    · obtain ⟨hskip, hstring⟩ := hg.outside _ (Focus.Below.kind_mem_ancestorKinds hc hbelow)
      rcases hbarrier with hbarrier | hbarrier
      · rw [hskip] at hbarrier
        cases hbarrier
      · exact (hstring hbarrier).elim

theorem Account.of_template (haround : Around env.source us f frames)
    (hkind : f.node.kind = "template_string")
    (hexcluded : env.isExcluded ⟨f.node, frames⟩ = false)
    (h : Account env (f :: us) vs ((keptFoci env.source f).map (·.2))) :
    Account env us (f :: vs) [f] where
  below := by
    refine List.forall_mem_cons.2 ⟨⟨f, List.mem_cons_self, .refl f⟩, fun g hg => ?_⟩
    obtain ⟨p, hp, hpg⟩ := h.below g hg
    exact ⟨f, List.mem_cons_self, below_kept hp hpg⟩
  judged := by
    refine List.forall_mem_cons.2 ⟨⟨us, frames, haround, hexcluded, by simp⟩, fun g hg => ?_⟩
    refine (h.judged g hg).mono ?_
    intro u hu
    simp only [List.cons_append, List.mem_cons, List.mem_append] at hu ⊢
    tauto
  decided p hp g more hbelow hg := by
    rw [List.mem_singleton.1 hp] at hbelow
    rcases hbelow.cases with rfl | ⟨c, hc, hcg⟩
    · exact .inl List.mem_cons_self
    by_cases hkept : ∃ q ∈ (keptFoci env.source f).map (·.2), q.path <+: g.path
    · obtain ⟨q, hq, hle⟩ := hkept
      have hqg : q.Below g := by
        obtain ⟨s, hs, -, hqs | rfl⟩ := keptFoci_cases hq
        · have hsq := (Focus.prefix_path_of_mem_children hqs).1
          exact (hbelow.of_le hs (hsq.trans hle)).of_le hqs hle
        · exact hbelow.of_le hs hle
      refine (h.decided q hq g more hqg hg).mono (List.subset_cons_self _ _) ?_
      intro u hu
      simp only [List.cons_append, List.mem_cons, List.mem_append] at hu ⊢
      tauto
    · have hpath := Focus.prefix_path_of_mem_children hc
      have hle := hcg.prefix_path
      refine .inr (.inr ⟨f, List.mem_cons_self, hkind, hpath.1.trans hle, fun heq => ?_,
        fun q hq hqg => hkept ⟨q, hq, hqg⟩⟩)
      exact hpath.2 ((heq ▸ hle).eq_of_length_le hpath.1.length_le)

theorem Account.of_run {more : List Focus} (hjudged : ∀ g ∈ vs, g = f ∧ Judged env us vs g)
    (hsound : ∀ p ∈ f :: more, p.node.Parsed ∧ p.node.areTidy = true)
    (hjsx : Literal.isJsxText f.node = true)
    (hmore : ∀ p ∈ more, Literal.isJsxText p.node = true ∧
      p.siblingsBefore.head?.any Literal.isJsxText = true)
    (hself : ∀ more, Selected env f more → Decided env us vs f) :
    Account env us vs (f :: more) where
  below g hg := ⟨f, List.mem_cons_self, (hjudged g hg).1 ▸ .refl f⟩
  judged g hg := (hjudged g hg).2
  decided p hp g others hbelow hg := by
    have hpjsx : Literal.isJsxText p.node = true := by
      rcases List.mem_cons.1 hp with rfl | hp
      · exact hjsx
      · exact (hmore p hp).1
    obtain ⟨hparsed, htidy⟩ := hsound p hp
    have hitems := (isTidy_iff.1 (isTidy_of_areTidy htidy hparsed.laid)).1 hpjsx
    have hchildren : p.children = [] := by
      rw [← List.map_eq_nil_iff, Focus.map_node_children hparsed.laid, hitems]
    rcases hbelow.cases with rfl | ⟨c, hc, -⟩
    · rcases List.mem_cons.1 hp with rfl | hp
      · exact hself others hg
      · obtain ⟨hstring, htemplate⟩ := kind_of_isJsxText hpjsx
        rcases hg.whole with ⟨hkind, -⟩ | ⟨hkind, -⟩ | ⟨-, -, hfirst⟩
        · exact (hstring hkind).elim
        · exact (htemplate hkind).elim
        · rw [(hmore g hp).2] at hfirst
          cases hfirst
    · rw [hchildren] at hc
      cases hc

theorem Around.decided (h : Around env.source us g frames)
    (hsettled : ∀ more, Selected env g more → Settled env ⟨g.node, frames⟩ more)
    {more : List Focus} (hg : Selected env g more) : Decided env us vs g :=
  .inr (.inl (h.nested hg (hsettled more hg) vs))

theorem Around.judged (haround : Around env.source us f frames)
    (hexcluded : env.isExcluded ⟨f.node, frames⟩ = false) :
    ∀ g ∈ [f], g = f ∧ Judged env us [f] g := by
  intro g hg
  rw [List.mem_singleton.1 hg]
  exact ⟨rfl, us, frames, haround, hexcluded, by simp⟩

end Accounts

section Run

variable {env : Env}

theorem Selected.more_eq_nil {g : Focus} {more : List Focus} (hg : Selected env g more)
    (hjsx : Literal.isJsxText g.node = false) : more = [] := by
  rcases hg.whole with ⟨-, hmore⟩ | ⟨-, hmore⟩ | ⟨hkind, -, -⟩
  · exact hmore
  · exact hmore
  · rw [hjsx] at hkind
    cases hkind

theorem Enters.settled {owner : Option Text} {frames : List Frame} {f : Focus} {more : List Focus}
    (henter : Enters env owner frames f.node)
    (hin : Scope.inComponent env.source f = true → owner.isSome = true)
    (hjsx : owner.isSome = true → Literal.isJsxText f.node = false) (hf : Selected env f more) :
    Settled env ⟨f.node, frames⟩ more := by
  have howner := hin hf.component
  obtain ⟨name, rfl⟩ := Option.isSome_iff_exists.1 howner
  rcases henter.2 with ⟨hfn, -⟩ | ⟨-, hliteral⟩
  · rw [hf.not_function] at hfn
    cases hfn
  obtain ⟨hstring, htemplate⟩ := hliteral name rfl
  rw [hf.more_eq_nil (hjsx rfl)]
  rcases hf.whole with ⟨hkind, -⟩ | ⟨hkind, -⟩ | ⟨hkind, -, -⟩
  · exact (hstring hkind).elim
  · exact (settled_template (f := ⟨f.node, frames⟩) name hkind).2 (htemplate hkind)
  · rw [hjsx rfl] at hkind
    cases hkind

theorem Enters.inComponent {us : List Focus} {owner : Option Text} {frames : List Frame} {f c : Focus}
    (henter : Enters env owner frames f.node) (haround : Around env.source us f frames)
    (hin : Scope.inComponent env.source f = true → owner.isSome = true) (hc : c ∈ f.children)
    (h : Scope.inComponent env.source c = true) : owner.isSome = true := by
  rw [inComponent_child hc, Bool.or_eq_true, Bool.and_eq_true] at h
  rcases h with ⟨hfn, hname⟩ | h
  · obtain ⟨name, hname⟩ := Option.isSome_iff_exists.1 hname
    have hwalk := haround.matches.componentName?.trans hname
    rcases henter.2 with ⟨-, hnone⟩ | ⟨hfn', -⟩
    · rw [hnone] at hwalk
      cases hwalk
    · rw [hfn] at hfn'
      cases hfn'
  · exact hin h

theorem Selected.settled_run {name : Text} {frames : List Frame} {f : Focus} {more others : List Focus}
    (hf : Selected env f others) (hjsx : Literal.isJsxText f.node = true)
    (hmore : more.map (·.node) = f.siblingsAfter.takeWhile Literal.isJsxText)
    (hwrap : (wrapRun? env name ⟨f.node, frames⟩ (more.map (·.node))).result = .ok none) :
    Settled env ⟨f.node, frames⟩ others := by
  obtain ⟨hstring, htemplate⟩ := kind_of_isJsxText hjsx
  rcases hf.whole with ⟨hkind, -⟩ | ⟨hkind, -⟩ | ⟨-, hothers, -⟩
  · exact (hstring hkind).elim
  · exact (htemplate hkind).elim
  · rw [hmore, ← hothers] at hwrap
    exact (Pass.settled_run (f := ⟨f.node, frames⟩) name hjsx).2 hwrap

theorem mem_of_mem_run {f p : Focus} {more rest : List Focus}
    (hsplit : more ++ rest.drop more.length = rest) (hp : p ∈ f :: more) : p ∈ f :: rest := by
  rw [← hsplit]
  exact List.mem_append_left _ hp

mutual

theorem Visit.account {env : Env} {us : List Focus} {owner : Option Text} {frames : List Frame}
    {f : Focus} {made : Made Node} {ws : List Wrapped} : Visit env owner frames f made ws →
      Around env.source us f frames →
      (Scope.inComponent env.source f = true → owner.isSome = true) →
      (owner.isSome = true → Literal.isJsxText f.node = false) →
      Account env us (ws.map (·.focus)) [f]
  | .skipped _ hskip, _, _, _ => by
    refine .of_barrier (by simp) (.inl hskip) fun more hf => ?_
    rw [hf.not_skipped] at hskip
    cases hskip
  | .component _ _ hfn _ hbelow, haround, _, _ => by
    have hchildren := hbelow.account (.of_children haround) fun _ _ _ => rfl
    rw [List.map_map]
    refine hchildren.of_children fun more hf => ?_
    rw [hf.not_function] at hfn
    cases hfn
  | .entered _ henter hbelow, haround, hin, hjsx => by
    have hchildren := hbelow.account (.of_children haround) fun c hc =>
      henter.inComponent haround hin hc
    exact hchildren.of_children fun more hf => haround.decided (fun _ => henter.settled hin hjsx) hf
  | .string _ _ _ hkind hwrap, haround, _, _ => by
    obtain ⟨-, -, -, hexcluded, -⟩ := wrapString?_eq_some hwrap
    exact .of_barrier (haround.judged hexcluded) (.inr hkind) fun _ _ =>
      .inl List.mem_cons_self
  | .otherString _ _ _ hkind hwrap, haround, _, hjsx => by
    refine .of_barrier (by simp) (.inr hkind) fun more hf => haround.decided (fun more hf => ?_) hf
    rw [hf.more_eq_nil (hjsx rfl)]
    exact (settled_string (f := ⟨f.node, frames⟩) _ hkind).2 hwrap
  | .template _ _ _ hkind hkey hbelow, haround, _, _ => by
    obtain ⟨-, -, -, hexcluded, -⟩ := templateKey?_eq_some hkey
    have hkept := hbelow.account (.of_kept haround hkind rfl) fun _ _ _ => rfl
    exact .of_template haround hkind hexcluded hkept

theorem Visits.account {env : Env} {us : List Focus} {owner : Option Text} {parent : Info}
    {frames : List Frame} {before : List Node} {k : Nat} {places : List Focus}
    {made : Made (List Node)} {ws : List Wrapped} :
    Visits env owner parent frames before k places made ws →
      Queued env.source us parent frames before places →
      (∀ p ∈ places, Scope.inComponent env.source p = true → owner.isSome = true) →
      Account env us (ws.map (·.focus)) places
  | .nil, _, _ => .nil _ _
  | .run hsees _ hjsx hmore hwrap hrest, hqueued, hin => by
    obtain ⟨-, -, -, hexcluded, -⟩ := wrapRun?_eq_some hwrap
    have hsplit := append_drop_takeWhile hmore
    have hlaid := hsees.parsed.laid
    have hrun := Account.of_run (hqueued.head.judged hexcluded)
      (fun p hp => hqueued.sound p (mem_of_mem_run hsplit hp)) hjsx
      (hqueued.siblings_of_run hjsx hmore).2 fun _ _ => .inl List.mem_cons_self
    have hdrop := hrest.account (hqueued.drop hjsx hmore fun past hpast hpairs hfields =>
      hpast.of_wrapRun? hwrap hlaid (isJsxText_of_run hjsx hmore) hpairs hfields)
      fun _ _ _ => rfl
    rw [← hsplit]
    exact hrun.append hdrop
  | .otherRun hjsx hmore hwrap hrest, hqueued, _ => by
    have hsplit := append_drop_takeWhile hmore
    obtain ⟨hsiblings, hinside⟩ := hqueued.siblings_of_run hjsx hmore
    have hrun : Account env us [] _ := .of_run (by simp)
      (fun p hp => hqueued.sound p (mem_of_mem_run hsplit hp)) hjsx hinside fun _ hf =>
        hqueued.head.decided (fun _ hf => hf.settled_run hjsx hsiblings hwrap) hf
    have hdrop := hrest.account (hqueued.drop hjsx hmore fun past hpast _ _ => hpast.append_same _)
      fun _ _ _ => rfl
    rw [← hsplit]
    exact hrun.append hdrop
  | .node hjsx hfirst hrest, hqueued, hin => by
    rw [List.forall_mem_cons] at hin
    have hhead := hfirst.account hqueued.head hin.1 hjsx
    have htidy := (hqueued.sound _ List.mem_cons_self).2
    have htail := hrest.account (hqueued.tail hfirst.stays (hfirst.became htidy)) hin.2
    rw [List.map_append, List.map_map]
    exact hhead.append htail

end

end Run

end Pass
end Phrasebook
