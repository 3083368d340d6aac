import Phrasebook.Proofs.Wrap.Binding
import Phrasebook.Wrap.Module

/-! A pass over a module, stage by stage: the walk, the bindings one after the other, the head of the
module, and the text of what came of it. After the walk nothing but text is put in. -/

namespace Phrasebook

open Node

namespace Header

variable {source : Bytes} {v : Vocabulary} {needs : Needs} {root root' : Node}

theorem grows_apply (i : Insertion) (root : Node) : Grows root (i.apply root) := by
  unfold Insertion.apply
  cases h : root.insertAt i.path i.index (.leaf i.text) with
  | none => exact .refl root
  | some root' => exact grows_insertAt h

theorem grows_ensureImport {name module : Word} {added : Bool}
    (h : (ensureImport source name module root).result = .ok (root', added)) :
    Grows root root' := by
  unfold ensureImport at h
  obtain ⟨insertion, -, h⟩ := Logged.result_bind_eq_ok.1 h
  cases insertion with
  | none =>
    cases h
    exact .refl root
  | some insertion =>
    obtain ⟨-, -, h⟩ := Logged.result_bind_eq_ok.1 h
    cases h
    exact grows_apply insertion root

theorem grows_ensureDirective {directive : Word} {added : Bool}
    (h : ensureDirective source directive root = .ok (root', added)) : Grows root root' := by
  unfold ensureDirective at h
  obtain ⟨values, -, h⟩ := except_bind_eq_ok.1 h
  split at h
  next =>
    cases h
    exact .refl root
  next =>
    cases h
    exact grows_apply _ root

theorem grows_finalize {changes : List Text}
    (h : (finalize source v needs root).result = .ok (root', changes)) : Grows root root' := by
  unfold finalize at h
  obtain ⟨⟨root₁, _⟩, h₁, h⟩ := Logged.result_ite_bind_eq_ok.1 h
  obtain ⟨⟨root₂, _⟩, h₂, h⟩ := Logged.result_ite_bind_eq_ok.1 h
  obtain ⟨⟨root₃, _⟩, h₃, h⟩ := Logged.result_ite_bind_eq_ok.1 h
  cases h
  have hclient : Grows root root₁ := by
    split at h₁
    · exact grows_ensureImport h₁
    · cases h₁
      exact .refl root
  have hserver : Grows root₁ root₂ := by
    split at h₂
    · exact grows_ensureImport h₂
    · cases h₂
      exact .refl root₁
  have hdirective : Grows root₂ root' := by
    split at h₃
    · exact grows_ensureDirective h₃
    · cases h₃
      exact .refl root'
  exact (hclient.trans hserver).trans hdirective

end Header

def Bindings.injectedWith (b : Bindings) (path : Path) (outcome : Binding.Outcome) : List Path :=
  if outcome.side?.isSome then b.injected ++ [path] else b.injected

/-- Components bound one after the other: what becomes of the tree, and of each of them. -/
inductive Binds (source : Bytes) (v : Vocabulary) (mode : Option Side) :
    Bindings → List Pass.Component → Bindings → List Report → Prop
  | nil {b : Bindings} : Binds source v mode b [] b []
  | untouched {b b' : Bindings} {c : Pass.Component} {rest : List Pass.Component}
      {reports : List Report} (hc : c.modified = false)
      (h : Binds source v mode b rest b' reports) :
      Binds source v mode b (c :: rest) b' (⟨c, .none⟩ :: reports)
  | modified {b b' : Bindings} {c : Pass.Component} {rest : List Pass.Component}
      {reports : List Report} {root : Node} {outcome : Binding.Outcome} (hc : c.modified = true)
      (hinject : Binding.Injects source v mode b.injected b.root ⟨c.name, c.path, c.serverBound⟩
        root outcome)
      (h : Binds source v mode ⟨root, b.injectedWith c.path outcome⟩ rest b' reports) :
      Binds source v mode b (c :: rest) b' (⟨c, outcome⟩ :: reports)

theorem bindComponents_cons {tree : Tree} {settings : Settings} {b b' : Bindings} {c : Pass.Component}
    {rest : List Pass.Component} {reports : List Report}
    (h : (bindComponents tree settings b (c :: rest)).result = .ok (b', reports)) :
    ∃ b₁ outcome reports', reports = ⟨c, outcome⟩ :: reports' ∧
      (bindComponents tree settings b₁ rest).result = .ok (b', reports') ∧
      ((c.modified = false ∧ b₁ = b ∧ outcome = .none) ∨ (c.modified = true ∧ ∃ root,
        (Binding.inject tree.source tree.lines settings.vocabulary settings.mode b.injected b.root
          ⟨c.name, c.path, c.serverBound⟩).result = .ok (root, outcome) ∧
        b₁ = ⟨root, b.injectedWith c.path outcome⟩)) := by
  rw [bindComponents] at h
  split at h
  next hc =>
    obtain ⟨⟨root, outcome⟩, hinject, h⟩ := Logged.result_bind_eq_ok.1 h
    obtain ⟨⟨b₁, outcome'⟩, h₁, h⟩ := Logged.result_bind_eq_ok.1 h
    cases h₁
    obtain ⟨⟨b₂, reports'⟩, hrest, h⟩ := Logged.result_bind_eq_ok.1 h
    cases h
    exact ⟨_, outcome, reports', rfl, hrest, .inr ⟨hc, root, hinject, rfl⟩⟩
  next hc =>
    obtain ⟨⟨b₁, outcome⟩, h₁, h⟩ := Logged.result_bind_eq_ok.1 h
    cases h₁
    obtain ⟨⟨b₂, reports'⟩, hrest, h⟩ := Logged.result_bind_eq_ok.1 h
    cases h
    exact ⟨b, .none, reports', rfl, hrest, .inl ⟨by simpa using hc, rfl, rfl⟩⟩

theorem binds_of_bindComponents {tree : Tree} {settings : Settings} {b b' : Bindings}
    {components : List Pass.Component} {reports : List Report}
    (h : (bindComponents tree settings b components).result = .ok (b', reports)) :
    Binds tree.source settings.vocabulary settings.mode b components b' reports := by
  induction components generalizing b b' reports with
  | nil =>
    cases h
    exact .nil
  | cons c rest ih =>
    obtain ⟨b₁, outcome, reports', rfl, hrest, ⟨hc, rfl, rfl⟩ | ⟨hc, root, hinject, rfl⟩⟩ :=
      bindComponents_cons h
    · exact .untouched hc (ih hrest)
    · exact .modified hc (Binding.injects_of_inject hinject) (ih hrest)

theorem Binds.grows {source : Bytes} {v : Vocabulary} {mode : Option Side} {b b' : Bindings}
    {components : List Pass.Component} {reports : List Report}
    (h : Binds source v mode b components b' reports) : Grows b.root b'.root := by
  induction h with
  | nil => exact .refl _
  | untouched _ _ ih => exact ih
  | modified _ hinject _ ih => exact hinject.grows.trans ih

theorem Binds.of_unmodified {source : Bytes} {v : Vocabulary} {mode : Option Side} {b b' : Bindings}
    {components : List Pass.Component} {reports : List Report}
    (h : Binds source v mode b components b' reports)
    (hc : ∀ c ∈ components, c.modified = false) : b' = b ∧ ∀ r ∈ reports, r.outcome = .none := by
  induction h with
  | nil => exact ⟨rfl, by simp⟩
  | untouched _ _ ih =>
    obtain ⟨hb, hreports⟩ := ih fun c hc' => hc c (List.mem_cons_of_mem _ hc')
    exact ⟨hb, List.forall_mem_cons.2 ⟨rfl, hreports⟩⟩
  | modified hmodified _ _ _ => exact absurd (hc _ List.mem_cons_self) (by simp [hmodified])

/-- What the walk over a module looks at. -/
def Settings.env (settings : Settings) (tree : Tree) : Pass.Env :=
  ⟨tree.source, tree.lines, settings.vocabulary.function, settings.vocabulary.serverFunction,
    settings.script⟩

/-- A pass over a module, stage by stage. -/
structure Passes (settings : Settings) (tree : Tree) (out : Transformed) (made : Pass.Made Node)
    (b : Bindings) (root : Node) : Prop where
  walk : (Pass.walk (settings.env tree) tree.root).result = .ok made
  binds : Binds tree.source settings.vocabulary settings.mode ⟨made.part, []⟩ made.components b
    out.reports
  grows : Grows b.root root
  unchanged : made.changed = false → root = b.root ∧ out.changes = []
  print : Tree.print { tree with root } = .ok out.code
  modified : out.modified = made.changed

def Finalizes (settings : Settings) (tree : Tree) (out : Transformed) (b : Bindings)
    (root : Node) : Prop :=
  (Header.finalize tree.source settings.vocabulary ⟨out.usedClient, out.usedServer,
    needsClientDirective settings.mode settings.framework⟩ b.root).result = .ok (root, out.changes)

theorem stages_of_transform {settings : Settings} {tree : Tree} {out : Transformed}
    (h : (transform settings tree).result = .ok out) :
    ∃ made b root, Passes settings tree out made b root ∧
      (bindComponents tree settings ⟨made.part, []⟩ made.components).result = .ok (b, out.reports) ∧
      (made.changed = true → Finalizes settings tree out b root) ∧
      out.usedClient = (out.reports.any fun r => r.outcome == .injected .client) ∧
      out.usedServer = (out.reports.any fun r => r.outcome == .injected .server) := by
  unfold transform at h
  obtain ⟨made, hwalk, h⟩ := Logged.result_bind_eq_ok.1 h
  obtain ⟨⟨b, reports⟩, hbinds, h⟩ := Logged.result_bind_eq_ok.1 h
  obtain ⟨⟨root, changes⟩, hroot, h⟩ := Logged.result_ite_bind_eq_ok.1 h
  obtain ⟨code, hprint, h⟩ := Logged.result_bind_eq_ok.1 h
  cases h
  refine ⟨made, b, root, ⟨hwalk, binds_of_bindComponents hbinds, ?_, ?_, hprint, rfl⟩, hbinds, ?_, rfl,
    rfl⟩
  · split at hroot
    · exact Header.grows_finalize hroot
    · cases hroot
      exact .refl _
  · intro hchanged
    rw [hchanged] at hroot
    cases hroot
    exact ⟨rfl, rfl⟩
  · intro hchanged
    rw [hchanged] at hroot
    exact hroot

theorem passes_of_transform {settings : Settings} {tree : Tree} {out : Transformed}
    (h : (transform settings tree).result = .ok out) :
    ∃ made b root, Passes settings tree out made b root := by
  obtain ⟨made, b, root, hpass, -⟩ := stages_of_transform h
  exact ⟨made, b, root, hpass⟩

end Phrasebook
