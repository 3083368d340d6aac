import Phrasebook.Proofs.Wrap.Orderly
import Phrasebook.Proofs.Wrap.Receiving
import Phrasebook.Proofs.Wrap.Totality

/-! The trees that a component can be bound in: the one that the walk left, and what becomes of it when
components are bound, in whatever order and for whatever side. Outside the components that got a
statement every node is what the walk left, with the items it left. -/

namespace Phrasebook

open Node

namespace Binding

variable {source : Bytes} {lines : List Text} {v : Vocabulary} {mode : Option Side} {injected : List Path}
  {root root' fn fn' : Node} {target : Target} {outcome : Outcome} {side : Side} {statement : Text}

theorem Readied.edits {k k₁ : Nat} {fn₁ : Node} (h : Readied side fn k fn₁ k₁) (hfn : Edits fn₁ fn') :
    Edits fn fn' := by
  cases h with
  | already => exact hfn
  | async _ _ h => exact (edits_of_editAt h).trans hfn

theorem Takes.edits (h : Takes side statement fn fn') : Edits fn fn' := by
  obtain ⟨k, body, fn₁, k₁, body', -, -, hready, -, hexchanged⟩ := h
  exact hready.edits hexchanged.child.1

theorem eq_of_not_injected
    (h : (inject source lines v mode injected root target).result = .ok (root', outcome))
    (hside : outcome.side? = none) : root' = root := by
  cases injects_of_inject h with
  | bound => rfl
  | absent => rfl
  | unplaced => rfl
  | filled => cases hside

theorem Outcome.side?_cases (outcome : Outcome) :
    outcome.side? = Option.none ∨ ∃ side, outcome = .injected side := by
  cases outcome with
  | bound => exact .inl rfl
  | none => exact .inl rfl
  | injected side => exact .inr ⟨side, rfl⟩

end Binding

/-- The trees of a pass, with the components that got a statement so far. -/
inductive Reached (settings : Settings) (tree : Tree) (made : Pass.Made Node) : Bindings → Prop
  | walked : Reached settings tree made ⟨made.part, []⟩
  | bound {b : Bindings} {c : Pass.Component} {mode : Option Side} {root : Node} {outcome : Binding.Outcome}
      (h : Reached settings tree made b) (hc : c ∈ made.components)
      (hinject : (Binding.inject tree.source tree.lines settings.vocabulary mode b.injected b.root
        ⟨c.name, c.path, c.serverBound⟩).result = .ok (root, outcome)) :
      Reached settings tree made ⟨root, b.injectedWith c.path outcome⟩

namespace Reached

variable {settings : Settings} {tree : Tree} {made : Pass.Made Node} {b b' : Bindings}
  {components : List Pass.Component} {reports : List Report} {ws : List Pass.Wrapped} {path place : Path}
  {n fn : Node}

theorem of_bindComponents (h : (bindComponents tree settings b components).result = .ok (b', reports))
    (hb : Reached settings tree made b) (hcomponents : components ⊆ made.components) :
    Reached settings tree made b' := by
  induction components generalizing b reports with
  | nil =>
    cases h
    exact hb
  | cons c rest ih =>
    obtain ⟨hc, hrest⟩ := List.cons_subset.1 hcomponents
    obtain ⟨b₁, outcome, reports', rfl, hlater, ⟨-, rfl, rfl⟩ | ⟨-, root, hinject, rfl⟩⟩ :=
      bindComponents_cons h
    · exact ih hlater hb hrest
    · exact ih hlater (hb.bound hc hinject) hrest

theorem grows (h : Reached settings tree made b) : Grows made.part b.root := by
  induction h with
  | walked => exact .refl _
  | bound _ _ hinject ih => exact ih.trans (Binding.injects_of_inject hinject).grows

theorem sturdy (hv : settings.vocabulary.IsScalar) (hmade : made.part.isSturdy = true)
    (h : Reached settings tree made b) : b.root.isSturdy = true := by
  induction h with
  | walked => exact hmade
  | bound _ _ hinject ih =>
    obtain ⟨root, outcome, h, hroot⟩ := Binding.exists_inject tree.source tree.lines hv _ _ ih _
    cases hinject.symm.trans h
    exact hroot

theorem step {c : Pass.Component} {mode : Option Side} {root : Node} {outcome : Binding.Outcome}
    (h : (Binding.inject tree.source tree.lines settings.vocabulary mode b.injected b.root
      ⟨c.name, c.path, c.serverBound⟩).result = .ok (root, outcome)) :
    (root = b.root ∧ b.injectedWith c.path outcome = b.injected) ∨
      ∃ fn fn', b.injectedWith c.path outcome = b.injected ++ [c.path] ∧ Edits fn fn' ∧
        Exchanged fn fn' c.path b.root root := by
  rcases outcome.side?_cases with hside | ⟨side, rfl⟩
  · exact .inl ⟨Binding.eq_of_not_injected h hside, by rw [Bindings.injectedWith, hside]; rfl⟩
  · obtain ⟨-, -, fn, fn', -, htakes, hexchanged⟩ := Binding.takes_of_inject h
    exact .inr ⟨fn, fn', rfl, htakes.edits, hexchanged⟩

theorem built (h : Reached settings tree made b) : b.root.info.built = made.part.info.built := by
  induction h with
  | walked => rfl
  | bound _ _ hinject ih =>
    rcases step hinject with ⟨rfl, -⟩ | ⟨fn, fn', -, hedits, hexchanged⟩
    · exact ih
    · exact (hexchanged.edits hedits).built.trans ih

theorem exists_component (h : Reached settings tree made b) (hpath : path ∈ b.injected) :
    ∃ c ∈ made.components, c.path = path := by
  induction h with
  | walked => cases hpath
  | @bound b c mode root outcome _ hc hinject ih =>
    rcases step hinject with ⟨-, hsame⟩ | ⟨fn, fn', hmore, -, -⟩
    · exact ih (hsame ▸ hpath)
    · rcases List.mem_append.1 (hmore ▸ hpath) with hpath | hpath
      · exact ih hpath
      · exact ⟨c, hc, (List.mem_singleton.1 hpath).symm⟩

theorem shape_eq (h : Reached settings tree made b) (hplace : ∀ p ∈ b.injected, ¬ p <+: place) :
    (b.root.at? place).map shape = (made.part.at? place).map shape := by
  induction h with
  | walked => rfl
  | @bound b c mode root outcome _ _ hinject ih =>
    rcases step hinject with ⟨rfl, hsame⟩ | ⟨fn, fn', hmore, hedits, hexchanged⟩
    · exact ih (hsame ▸ hplace)
    · obtain ⟨hbefore, hlast⟩ := List.forall_mem_append.1 (hmore ▸ hplace)
      exact (hexchanged.shape_eq hedits (hlast _ List.mem_cons_self)).trans (ih hbefore)

section Walked

variable (hvisit : Pass.Visit (settings.env tree) none [] (Focus.ofRoot tree.root) made ws)
  (horderly : Throughout IsOrderly tree.root)

include hvisit horderly

theorem orderly (h : Reached settings tree made b) (hplace : ∀ p ∈ b.injected, ¬ p <+: place)
    (hat : b.root.at? place = some n) : IsOrderly n := by
  have hshape := h.shape_eq hplace
  rw [hat, Option.map_some] at hshape
  obtain ⟨m, hm, hsame⟩ := Option.map_eq_some_iff.1 hshape.symm
  exact ((hvisit.orderly horderly).at? hm).here.of_shape hsame.symm

theorem isPrintedAlong (h : Reached settings tree made b) (hpath : ∀ p ∈ b.injected, ¬ p <+: path) :
    IsPrintedAlong path b.root :=
  isPrintedAlong_of fun _ _ hle hat =>
    (h.orderly hvisit horderly (fun p hp hle' => hpath p hp (hle'.trans hle)) hat).printed

omit horderly

theorem isFunction {c : Pass.Component} (h : Reached settings tree made b) (hc : c ∈ made.components)
    (hpath : ∀ p ∈ b.injected, ¬ p <+: c.path) :
    ∃ fn, b.root.at? c.path = some fn ∧ Scope.isFunction fn = true := by
  obtain ⟨m, hm, hfn⟩ := (hvisit.placed.routes c hc).function
  have hshape := h.shape_eq hpath
  rw [hm, Option.map_some] at hshape
  obtain ⟨fn, hat, hsame⟩ := Option.map_eq_some_iff.1 hshape
  exact ⟨fn, hat, by rw [← isFunction_shape, hsame, isFunction_shape, hfn]⟩

theorem body_apart {k : Nat} {body : Node} (h : Reached settings tree made b)
    (hpath : ∀ p ∈ b.injected, ¬ p <+: path) (hat : b.root.at? path = some fn)
    (hbody : fn.children[k]? = some body) (hblock : body.kind = "statement_block") :
    ∀ p ∈ b.injected, ¬ p <+: path ++ [k] := by
  intro p hp hle
  rcases List.prefix_concat_iff.1 hle with rfl | hle
  · obtain ⟨c, hc, hpath'⟩ := h.exists_component hp
    obtain ⟨m, hm, hfn⟩ := (hvisit.placed.routes c hc).function
    have hshape := h.shape_eq hpath
    rw [hpath', at?_append] at hm
    obtain ⟨fn₀, hfn₀, hm⟩ := Option.bind_eq_some_iff.1 hm
    obtain ⟨m', hm', hm⟩ := Option.bind_eq_some_iff.1 hm
    cases hm
    rw [hat, hfn₀, Option.map_some, Option.map_some, Option.some.injEq] at hshape
    have hchildren := congrArg (fun n => n.children[k]?.map kind) hshape
    simp only [children_shape, List.getElem?_map, hbody, hm', Option.map_some, kind_bare,
      Option.some.injEq] at hchildren
    rw [Scope.isFunction, ← hchildren, hblock, Bool.and_eq_true] at hfn
    exact absurd hfn.2 (by decide)
  · exact hpath p hp hle

include horderly

theorem body_orderly {body : Node} (h : Reached settings tree made b)
    (hpath : ∀ p ∈ b.injected, ¬ p <+: path) (hat : b.root.at? path = some fn)
    (hbody : fn.childByField? "body" = some body) (hblock : body.kind = "statement_block") :
    IsOrderly body := by
  obtain ⟨k, hk⟩ := List.mem_iff_getElem?.1 (List.mem_of_find?_eq_some hbody)
  have hplace := h.body_apart hvisit hpath hat hk hblock
  refine h.orderly hvisit horderly hplace ?_
  rw [at?_append, hat, Option.bind_some, at?, hk]
  rfl

end Walked

end Reached

end Phrasebook
