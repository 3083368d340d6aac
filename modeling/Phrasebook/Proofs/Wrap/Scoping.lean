import Mathlib.Data.List.Infix
import Phrasebook.Proofs.Wrap.Injection
import Phrasebook.Proofs.Wrap.Locality
import Phrasebook.Proofs.Wrap.Places

/-! Calls in the scope of a binding. The components that were modified are bound one after the other in
a tree that changes on the way; what each of them comes to can be told from the tree that the walk
left, since a binding changes no scope outside the function it goes into. -/

namespace Phrasebook

open Node

namespace Scope

variable {source : Bytes} {name : Word}

theorem boundWithin_eq (n : Node) (frames : List Frame) :
    boundWithin source name n frames = (scopeBinds source name n ||
      (Focus.above n frames).any fun g => scopeBinds source name g.node) := by
  induction frames generalizing n with
  | nil => simp [boundWithin, Focus.above]
  | cons frame frames ih => rw [boundWithin, Focus.above, List.any_cons, ih]

theorem exists_scope_below {f g : Focus} {path : Path} (hat : g.at? path = some f)
    (h : isBound source name f = true) :
    (∃ place n, place <+: path ∧ g.node.at? place = some n ∧ scopeBinds source name n = true) ∨
      ((Focus.above g.node g.frames).any fun g => scopeBinds source name g.node) = true := by
  induction path generalizing g with
  | nil =>
    cases hat
    rw [isBound, boundWithin_eq, Bool.or_eq_true] at h
    rcases h with h | h
    · exact .inl ⟨[], f.node, List.prefix_rfl, rfl, h⟩
    · exact .inr h
  | cons k path ih =>
    obtain ⟨c, hc, hat⟩ := Option.bind_eq_some_iff.1 hat
    have hchild : g.node.children[k]? = some c.node := by
      rw [← show g.children.map (·.node) = g.node.children from Focus.map_node_ofItems _ _ _ _,
        List.getElem?_map, hc]
      rfl
    rcases ih hat with ⟨place, n, hle, hn, hbinds⟩ | habove
    · refine .inl ⟨k :: place, n, List.cons_prefix_cons.2 ⟨rfl, hle⟩, ?_, hbinds⟩
      rw [at?, hchild]
      exact hn
    · rw [Focus.above_of_mem_children (List.mem_of_getElem? hc), List.any_cons, Bool.or_eq_true]
        at habove
      rcases habove with h | h
      · exact .inl ⟨[], g.node, List.nil_prefix, rfl, h⟩
      · exact .inr h

theorem exists_scope {root : Node} {f : Focus} {path : Path}
    (hat : (Focus.ofRoot root).at? path = some f) (h : isBound source name f = true) :
    ∃ place n, place <+: path ∧ root.at? place = some n ∧ scopeBinds source name n = true := by
  rcases exists_scope_below hat h with h | h
  · exact h
  · cases h

end Scope

/-- What is known of a tree in which some components were bound: at and around the places where none
was, it is the tree that the walk left. -/
structure Tracks (source : Bytes) (walked : Node) (b : Bindings) : Prop where
  routes : ∀ place, (∀ p ∈ b.injected, ¬ p <+: place) → Scope.Route place walked →
    Scope.Route place b.root
  apart : ∀ place, (∀ p ∈ b.injected, ¬ p <+: place) → (∀ p ∈ b.injected, ¬ place <+: p) →
    b.root.at? place = walked.at? place
  scopes : ∀ place, (∀ p ∈ b.injected, ¬ p <+: place) → ∀ name,
    (b.root.at? place).map (Scope.scopeBinds source name) =
      (walked.at? place).map (Scope.scopeBinds source name)

theorem Tracks.start (source : Bytes) (walked : Node) : Tracks source walked ⟨walked, []⟩ :=
  ⟨fun _ _ h => h, fun _ _ _ => rfl, fun _ _ _ => rfl⟩

theorem Tracks.bind {source : Bytes} {walked root : Node} {b : Bindings} {path : Path}
    (h : Tracks source walked b) (hleaves : Scope.Leaves source path b.root root) :
    Tracks source walked ⟨root, b.injected ++ [path]⟩ := by
  have hsplit {P : Path → Prop} (hp : ∀ p ∈ b.injected ++ [path], P p) :
      (∀ p ∈ b.injected, P p) ∧ P path := by simpa [or_imp, forall_and] using hp
  refine ⟨fun place hp hroute => ?_, fun place hp hp' => ?_, fun place hp name => ?_⟩
  · exact hleaves.route place (hsplit hp).2 (h.routes place (hsplit hp).1 hroute)
  · exact (hleaves.apart place (hsplit hp).2 (hsplit hp').2).trans
      (h.apart place (hsplit hp).1 (hsplit hp').1)
  · exact (hleaves.scopes place (hsplit hp).2 name).trans (h.scopes place (hsplit hp).1 name)

/-- What can become of a component that was modified, told on the tree that the walk left and on the
tree in the end: a scope around it binds the name, the statement went into it or into a component
around it, or there was no place for it. -/
inductive Fate (source : Bytes) (v : Vocabulary) (mode : Option Side) (walked : Node)
    (injected : List Path) (final : Node) (reports : List Report) (c : Pass.Component) : Prop
  | earlier {p : Path} (hp : p ∈ injected) (hle : p <+: c.path) : Fate source v mode walked injected
      final reports c
  | declared {place : Path} {n : Node} (hle : place <+: c.path) (hat : walked.at? place = some n)
      (hbinds : Scope.scopeBinds source v.function n = true) :
      Fate source v mode walked injected final reports c
  | bound {r : Report} {side : Side} {fn : Node} (hr : r ∈ reports)
      (hside : r.outcome = .injected side) (hle : r.component.path <+: c.path)
      (hat : final.at? r.component.path = some fn)
      (hholds : Binding.Holds (Binding.statement v side) fn) :
      Fate source v mode walked injected final reports c
  | unplaced {fn : Node} (hat : walked.at? c.path = some fn)
      (hplace : Binding.HasNoPlace source v mode ⟨c.name, c.path, c.serverBound⟩ fn) :
      Fate source v mode walked injected final reports c

theorem Fate.cons {source : Bytes} {v : Vocabulary} {mode : Option Side} {walked final : Node}
    {injected : List Path} {reports : List Report} {c : Pass.Component} (r : Report)
    (h : Fate source v mode walked injected final reports c) :
    Fate source v mode walked injected final (r :: reports) c := by
  cases h with
  | earlier hp hle => exact .earlier hp hle
  | declared hle hat hbinds => exact .declared hle hat hbinds
  | bound hr hside hle hat hholds => exact .bound (List.mem_cons_of_mem _ hr) hside hle hat hholds
  | unplaced hat hplace => exact .unplaced hat hplace

section Running

variable {source : Bytes} {v : Vocabulary} {mode : Option Side} {walked : Node} {b : Bindings}
  {c : Pass.Component} {root : Node} {outcome : Binding.Outcome}

theorem fate_of_isBound {final : Node} {reports : List Report} (htracks : Tracks source walked b)
    (h : Binding.IsBound source v b.injected b.root ⟨c.name, c.path, c.serverBound⟩) :
    Fate source v mode walked b.injected final reports c := by
  by_cases hunder : ∃ p ∈ b.injected, p <+: c.path
  · obtain ⟨p, hp, hle⟩ := hunder
    exact .earlier hp hle
  rcases h with h | ⟨f, hat, hbound⟩
  · exact (hunder h).elim
  -- The scope that binds the name lies outside all components bound so far, so it is the walk's.
  obtain ⟨place, n, hle, hn, hbinds⟩ := Scope.exists_scope hat hbound
  have hscopes := htracks.scopes place (fun p hp hle' => hunder ⟨p, hp, hle'.trans hle⟩) v.function
  rw [hn, Option.map_some] at hscopes
  obtain ⟨m, hm, hsame⟩ := Option.map_eq_some_iff.1 hscopes.symm
  exact .declared hle hm (hsame.trans hbinds)

/-- Binding one component either leaves the tree as it is, for a reason that tells what becomes of the
component, or puts the statement into it. -/
theorem fate_of_injects (htracks : Tracks source walked b) (hroute : Scope.Route c.path walked)
    (hahead : ∀ p ∈ b.injected, ¬ c.path <+: p)
    (h : Binding.Injects source v mode b.injected b.root ⟨c.name, c.path, c.serverBound⟩ root outcome) :
    (root = b.root ∧ outcome.side? = none ∧ ∀ final reports,
      Fate source v mode walked b.injected final reports c) ∨
    ∃ side fn, outcome = .injected side ∧ (∀ p ∈ b.injected, ¬ p <+: c.path) ∧
      Scope.Leaves source c.path b.root root ∧ root.at? c.path = some fn ∧
      Binding.Holds (Binding.statement v side) fn := by
  have hclear (hbound : ¬ Binding.IsBound source v b.injected b.root ⟨c.name, c.path, c.serverBound⟩) :
      ∀ p ∈ b.injected, ¬ p <+: c.path := fun p hp hle => hbound (.inl ⟨p, hp, hle⟩)
  cases h with
  | bound hbound => exact .inl ⟨rfl, rfl, fun _ _ => fate_of_isBound htracks hbound⟩
  | absent hbound hat =>
    obtain ⟨fn, hfn, -⟩ := (htracks.routes c.path (hclear hbound) hroute).function
    cases hat.symm.trans hfn
  | unplaced hbound hat hplace =>
    rw [htracks.apart c.path (hclear hbound) hahead] at hat
    exact .inl ⟨rfl, rfl, fun _ _ => .unplaced hat hplace⟩
  | filled hbound hat hk hbody hasync hfilled =>
    have hroute' := htracks.routes c.path (hclear hbound) hroute
    obtain ⟨-, hleaves, fn, hfn, hholds⟩ := Binding.Injects.holds hroute'
      (.filled hbound hat hk hbody hasync hfilled)
    exact .inr ⟨_, fn, rfl, hclear hbound, hleaves, hfn, hholds⟩

theorem Binds.fates {b' : Bindings} {components : List Pass.Component} {reports : List Report}
    (h : Binds source v mode b components b' reports) (htracks : Tracks source walked b)
    (hroutes : ∀ c ∈ components, Scope.Route c.path walked) (horder : Pass.InPreorder components)
    (hahead : ∀ p ∈ b.injected, ∀ c ∈ components, ¬ c.path <+: p) :
    (∀ p ∈ b.injected, b'.root.at? p = b.root.at? p) ∧
      ∀ c ∈ components, c.modified = true →
        Fate source v mode walked b.injected b'.root reports c := by
  -- The components come in preorder, so none is around one that was bound before it (`hahead`), and
  -- the places of those bound are not touched again.
  induction h with
  | nil => exact ⟨fun _ _ => rfl, by simp⟩
  | @untouched b b' c rest reports hc _ ih =>
    obtain ⟨-, hroutes⟩ := List.forall_mem_cons.1 hroutes
    obtain ⟨hkept, hfates⟩ := ih htracks hroutes (List.pairwise_cons.1 horder).2
      fun p hp d hd => hahead p hp d (List.mem_cons_of_mem _ hd)
    refine ⟨hkept, List.forall_mem_cons.2 ⟨fun hmodified => ?_, fun d hd hmodified => ?_⟩⟩
    · rw [hc] at hmodified
      cases hmodified
    · exact (hfates d hd hmodified).cons _
  | @modified b b' c rest reports root outcome hc hinject _ ih =>
    obtain ⟨hroute, hroutes⟩ := List.forall_mem_cons.1 hroutes
    obtain ⟨hfirst, horder⟩ := List.pairwise_cons.1 horder
    have hahead' : ∀ p ∈ b.injected, ∀ d ∈ rest, ¬ d.path <+: p :=
      fun p hp d hd => hahead p hp d (List.mem_cons_of_mem _ hd)
    have hc' : ∀ p ∈ b.injected, ¬ c.path <+: p := fun p hp => hahead p hp c List.mem_cons_self
    rcases fate_of_injects htracks hroute hc' hinject with
      ⟨rfl, hside, hfate⟩ | ⟨side, fn, rfl, hclear, hleaves, hfn, hholds⟩
    · have hinjected : b.injectedWith c.path outcome = b.injected := by
        rw [Bindings.injectedWith, hside]
        rfl
      rw [hinjected] at ih
      obtain ⟨hkept, hfates⟩ := ih htracks hroutes horder hahead'
      exact ⟨hkept, List.forall_mem_cons.2
        ⟨fun _ => hfate _ _, fun d hd hmodified => (hfates d hd hmodified).cons _⟩⟩
    · have hinjected : b.injectedWith c.path (.injected side) = b.injected ++ [c.path] := rfl
      rw [hinjected] at ih
      have hahead₁ : ∀ p ∈ b.injected ++ [c.path], ∀ d ∈ rest, ¬ d.path <+: p :=
        List.forall_mem_append.2 ⟨hahead', List.forall_mem_singleton.2 hfirst⟩
      obtain ⟨hkept, hfates⟩ := ih (htracks.bind hleaves) hroutes horder hahead₁
      obtain ⟨hkept, hlast⟩ := List.forall_mem_append.1 hkept
      have hat : b'.root.at? c.path = some fn := (List.forall_mem_singleton.1 hlast).trans hfn
      refine ⟨fun p hp => (hkept p hp).trans (hleaves.apart p (hc' p hp) (hclear p hp)),
        List.forall_mem_cons.2 ⟨fun _ => ?_, fun d hd hmodified => ?_⟩⟩
      · exact .bound List.mem_cons_self rfl List.prefix_rfl hat hholds
      · cases hfates d hd hmodified with
        | earlier hp hle =>
          -- A component inside one bound before, or inside this one, which holds the statement.
          rcases List.mem_append.1 hp with hp | hp
          · exact .earlier hp hle
          · rw [List.mem_singleton.1 hp] at hle
            exact .bound List.mem_cons_self rfl hle hat hholds
        | declared hle hat hbinds => exact .declared hle hat hbinds
        | bound hr hside hle hat hholds =>
          exact .bound (List.mem_cons_of_mem _ hr) hside hle hat hholds
        | unplaced hat hplace => exact .unplaced hat hplace

end Running

/-- Where what the function at a place binds can be used: in its body and, when a parameter binds the
name, in its parameters. Any other scope is one throughout. -/
def ShowsAt (source : Bytes) (name : Word) (root : Node) (place path : Path) : Prop :=
  ∀ fn, root.at? place = some fn → Scope.isFunction fn = true → ∃ k, place ++ [k] <+: path ∧
    (Binding.bodyIndex? fn = some k ∨ (Scope.parameterNames source fn).any name.names = true ∧
      (fn.children[k]?.bind Node.field = some "parameter" ∨
        fn.children[k]?.bind Node.field = some "parameters"))

theorem exists_isPrefix_iff {place path : Path} {P : Nat → Prop} :
    (∃ k, place ++ [k] <+: path ∧ P k) ↔ ∃ k ∈ path[place.length]?, place <+: path ∧ P k := by
  have hsplit (k : Nat) : place ++ [k] <+: path ↔ path[place.length]? = some k ∧ place <+: path := by
    constructor
    · rintro ⟨rest, rfl⟩
      exact ⟨by simp, by simp⟩
    · rintro ⟨hk, rest, rfl⟩
      cases rest with
      | nil => simp at hk
      | cons j rest =>
        obtain rfl : j = k := by simpa using hk
        exact ⟨rest, by simp⟩
  simp only [hsplit, and_assoc, Option.mem_def]

instance (source : Bytes) (name : Word) (root : Node) (place path : Path) :
    Decidable (ShowsAt source name root place path) :=
  decidable_of_iff ((root.at? place).all (fun fn => !Scope.isFunction fn || (path[place.length]?).any
    fun k => decide (place <+: path ∧ (Binding.bodyIndex? fn = some k ∨
      (Scope.parameterNames source fn).any name.names = true ∧
        (fn.children[k]?.bind Node.field = some "parameter" ∨
          fn.children[k]?.bind Node.field = some "parameters")))) = true) (by
    simp only [ShowsAt, exists_isPrefix_iff]
    cases root.at? place with
    | none => simp
    | some fn => cases hfn : Scope.isFunction fn <;> simp [hfn, Option.any_eq_true])

/-- A place whose scope has a binding of the name: one that binds it by a parameter or a declaration,
or a component that the statement was put into. -/
inductive Provides (settings : Settings) (source : Bytes) (walked bound : Node) (reports : List Report)
    (place : Path) : Prop
  | declared {n : Node} (hat : walked.at? place = some n)
      (hbinds : Scope.scopeBinds source settings.vocabulary.function n = true) :
      Provides settings source walked bound reports place
  | injected {r : Report} {side : Side} {fn : Node} (hr : r ∈ reports)
      (hside : r.outcome = .injected side) (hplace : r.component.path = place)
      (hat : bound.at? place = some fn)
      (hholds : Binding.Holds (Binding.statement settings.vocabulary side) fn) :
      Provides settings source walked bound reports place

/-- How a call at a path is in the scope of the name it calls: a scope around it binds the name by a
parameter or a declaration, or the statement that binds it is in the body of a component around it. -/
inductive InScope (settings : Settings) (source : Bytes) (walked bound : Node) (reports : List Report)
    (path : Path) : Prop
  | declared {place : Path} {n : Node} (hat : walked.at? place = some n) (hle : place <+: path)
      (hshows : ShowsAt source settings.vocabulary.function walked place path)
      (hbinds : Scope.scopeBinds source settings.vocabulary.function n = true) :
      InScope settings source walked bound reports path
  | injected {r : Report} {side : Side} {fn fn' : Node} {k : Nat} (hr : r ∈ reports)
      (hside : r.outcome = .injected side) (hat : walked.at? r.component.path = some fn)
      (hk : Binding.bodyIndex? fn = some k) (hle : r.component.path ++ [k] <+: path)
      (hat' : bound.at? r.component.path = some fn')
      (hholds : Binding.Holds (Binding.statement settings.vocabulary side) fn') :
      InScope settings source walked bound reports path

instance (source : Bytes) (v : Vocabulary) (mode : Option Side) (target : Binding.Target) (fn : Node) :
    Decidable (Binding.HasNoPlace source v mode target fn) :=
  decidable_of_iff (Binding.bodyIndex? fn = none ∨ (fn.childByField? "body").any (fun body => decide
    (Binding.chooseSide mode target.serverBound = .client ∧ (body.kind ≠ "statement_block" ∨
      Scope.callsFunction source v.hook body = true))) = true) (by
    rw [Binding.HasNoPlace]
    cases fn.childByField? "body" <;> simp)

/-- A component that has no place for a statement. -/
def LeftUnbound (settings : Settings) (source : Bytes) (walked : Node) (c : Pass.Component) : Prop :=
  ∃ fn, walked.at? c.path = some fn ∧
    Binding.HasNoPlace source settings.vocabulary settings.mode ⟨c.name, c.path, c.serverBound⟩ fn

instance (settings : Settings) (source : Bytes) (walked : Node) (c : Pass.Component) :
    Decidable (LeftUnbound settings source walked c) :=
  decidable_of_iff ((walked.at? c.path).any (fun fn => decide (Binding.HasNoPlace source
    settings.vocabulary settings.mode ⟨c.name, c.path, c.serverBound⟩ fn)) = true) (by
    rw [LeftUnbound]
    cases walked.at? c.path <;> simp)

theorem Binds.component_mem {source : Bytes} {v : Vocabulary} {mode : Option Side} {b b' : Bindings}
    {components : List Pass.Component} {reports : List Report}
    (h : Binds source v mode b components b' reports) : ∀ r ∈ reports, r.component ∈ components := by
  induction h with
  | nil => simp
  | untouched _ _ ih =>
    exact List.forall_mem_cons.2 ⟨List.mem_cons_self, fun r hr => List.mem_cons_of_mem _ (ih r hr)⟩
  | modified _ _ _ ih =>
    exact List.forall_mem_cons.2 ⟨List.mem_cons_self, fun r hr => List.mem_cons_of_mem _ (ih r hr)⟩

theorem Fate.provides {settings : Settings} {source : Bytes} {walked bound : Node}
    {reports : List Report} {c : Pass.Component}
    (h : Fate source settings.vocabulary settings.mode walked [] bound reports c) :
    LeftUnbound settings source walked c ∨
      ∃ place, place <+: c.path ∧ Provides settings source walked bound reports place := by
  cases h with
  | earlier hp => cases hp
  | declared hle hat hbinds => exact .inr ⟨_, hle, .declared hat hbinds⟩
  | bound hr hside hle hat hholds => exact .inr ⟨_, hle, .injected hr hside rfl hat hholds⟩
  | unplaced hat hplace => exact .inl ⟨_, hat, hplace⟩

theorem Provides.inScope {settings : Settings} {source : Bytes} {walked bound : Node}
    {reports : List Report} {place path : Path}
    (h : Provides settings source walked bound reports place)
    (hroutes : ∀ r ∈ reports, Scope.Route r.component.path walked) (hle : place <+: path)
    (hshows : ShowsAt source settings.vocabulary.function walked place path) :
    InScope settings source walked bound reports path := by
  cases h with
  | declared hat hbinds => exact .declared hat hle hshows hbinds
  | injected hr hside hplace hat hholds =>
    subst hplace
    obtain ⟨fn, hfn, hfunction⟩ := (hroutes _ hr).function
    obtain ⟨k, hk, hbody | ⟨hparameter, -⟩⟩ := hshows fn hfn hfunction
    · exact .injected hr hside hfn hbody hk hat hholds
    · exact .declared hfn hle hshows (by rw [Scope.scopeBinds, if_pos hfunction, hparameter]; rfl)

namespace Sample

/-- A component with another one in its body, which has a string for the default of a parameter. -/
def defaulting : Tree where
  source := (Utf8.encode?
    "function A()\x7b function B(x = \"가\")\x7b return \"나\"; \x7d return \"다\"; \x7d").getD []
  root := node "program" true 0 68 [node "function_declaration" true 0 68 [
    token "function" 0 8, inField "name" (node "identifier" true 9 10 []),
    inField "parameters" (node "formal_parameters" true 10 12 [token "(" 10 11, token ")" 11 12]),
    inField "body" (node "statement_block" true 12 68 [token "\x7b" 12 13,
      node "function_declaration" true 14 52 [token "function" 14 22,
        inField "name" (node "identifier" true 23 24 []),
        inField "parameters" (node "formal_parameters" true 24 35 [token "(" 24 25,
          node "required_parameter" true 25 34 [inField "pattern" (node "identifier" true 25 26 []),
            token "=" 27 28, inField "value" (node "string" true 29 34 [])],
          token ")" 34 35]),
        inField "body" (node "statement_block" true 35 52 [token "\x7b" 35 36,
          node "return_statement" true 37 50 [token "return" 37 43, node "string" true 44 49 [],
            token ";" 49 50],
          token "\x7d" 51 52])],
      node "return_statement" true 53 66 [token "return" 53 59, node "string" true 60 65 [],
        token ";" 65 66],
      token "\x7d" 67 68])]]

theorem defaulting_parsed : defaulting.Parsed := by decide +kernel

end Sample

/-- Whether what a place binds can be used at all calls that the walk leaves, while no other scope around a component has a
binding and no component is without a place for one. -/
def Pass.Made.showsAllAt (made : Pass.Made Node) (settings : Settings) (source : Bytes) (place : Path) :
    Bool :=
  ((made.part.pathsTo (fun n => newKinds.contains n.kind) []).all fun path =>
    decide (ShowsAt source settings.vocabulary.function made.part place path)) &&
  made.components.all fun c => decide (¬ LeftUnbound settings source made.part c) &&
    c.path.inits.all fun place => (made.part.at? place).all fun n =>
      !Scope.scopeBinds source settings.vocabulary.function n

namespace Sample

def concise : Tree where
  source := (Utf8.encode? "const A = () => \"가\";").getD []
  root := node "program" true 0 22 [node "lexical_declaration" true 0 22 [
    inField "kind" (token "const" 0 5), node "variable_declarator" true 6 21 [
      inField "name" (node "identifier" true 6 7 []), token "=" 8 9,
      inField "value" (node "arrow_function" true 10 21 [
        inField "parameters" (node "formal_parameters" true 10 12 [token "(" 10 11, token ")" 11 12]),
        token "=>" 13 15,
        inField "body" (node "string" true 16 21 [token "\"" 16 17,
          node "string_fragment" true 17 20 [], token "\"" 20 21])])],
    token ";" 21 22]]

end Sample

end Phrasebook
