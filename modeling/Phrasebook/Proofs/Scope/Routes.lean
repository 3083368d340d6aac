import Phrasebook.Proofs.Scope.Names

/-! Ways to a function. What is put into a function at the end of such a way changes no name that the
scopes along the way bind, and leads all other ways to where they led. -/

namespace Phrasebook.Scope

open Node

def Route : Path → Node → Prop
  | [], n => isFunction n = true ∧ n.field ≠ some "parameters"
  | k :: path, n => IsOpen n ∧ ∃ c, n.children[k]? = some c ∧ Route path c

/-- Items of a function and what they became, the names shown being the same. -/
structure SameNames (source : Bytes) (items items' : List Node) : Prop where
  patterns : patternNamesIn source [] items' = patternNamesIn source [] items
  name : items'.find? (isIn "name") = items.find? (isIn "name")

def KeepsNames (source : Bytes) (f : Info → List Node → Option (List Node)) (path : Path)
    (n : Node) : Prop :=
  ∀ i items items', n.at? path = some (.branch i items) → f i items = some items' →
    SameNames source items items'

section

variable {source : Bytes} {f : Info → List Node → Option (List Node)} {path : Path} {n n' : Node}

theorem Route.function (h : Route path n) : ∃ fn, n.at? path = some fn ∧ isFunction fn = true := by
  induction path generalizing n with
  | nil => exact ⟨n, rfl, h.1⟩
  | cons k path ih =>
    obtain ⟨-, c, hc, h⟩ := h
    obtain ⟨fn, hat, hfn⟩ := ih h
    exact ⟨fn, by rw [at?, hc]; exact hat, hfn⟩

theorem Route.drop {place : Path} {c : Node} (h : Route (place ++ path) n)
    (hc : n.at? place = some c) : Route path c := by
  induction place generalizing n with
  | nil =>
    cases hc
    exact h
  | cons k place ih =>
    obtain ⟨-, d, hd, h⟩ := h
    rw [at?, hd] at hc
    exact ih h hc

theorem Route.step {k : Nat} (hroute : Route (k :: path) n) (h : editAt f (k :: path) n = some n')
    (hf : KeepsNames source f (k :: path) n) :
    ∃ i before c c' after, n = .branch i (before ++ c :: after) ∧
      n' = .branch { i with dirty := true } (before ++ c' :: after) ∧ IsOpen n ∧ Route path c ∧
      editAt f path c = some c' ∧ KeepsNames source f path c := by
  obtain ⟨i, before, c, c', after, rfl, rfl, rfl, hc, hc', h⟩ := editAt_cons h
  obtain ⟨hopen, d, hd, hroute⟩ := hroute
  rw [children, items, getElem?_filter_isChild hc] at hd
  cases hd
  refine ⟨i, before, c, c', after, rfl, rfl, hopen, hroute, h, fun j items items' hat => ?_⟩
  refine hf j items items' ?_
  rw [at?, children, Node.items, getElem?_filter_isChild hc]
  exact hat

theorem agrees_of_editAt (hroute : Route path n) (h : editAt f path n = some n')
    (hf : KeepsNames source f path n) : Agrees source n n' := by
  induction path generalizing n n' with
  | nil =>
    obtain ⟨i, items, items', hn, hitems, hn'⟩ := at?_of_editAt h
    cases hn
    cases hn'
    obtain ⟨hpatterns, hname⟩ := hf i items items' rfl hitems
    exact .function (Bool.and_eq_true_iff.1 hroute.1).2 hroute.2 hpatterns hname
  | cons k path ih =>
    obtain ⟨i, before, c, c', after, rfl, rfl, hopen, hroute, h, hf⟩ := hroute.step h hf
    exact .inside hopen (ih hroute h hf)

theorem scopeBinds_of_editAt {k : Nat} (hroute : Route (k :: path) n)
    (h : editAt f (k :: path) n = some n') (hf : KeepsNames source f (k :: path) n) (name : Word) :
    scopeBinds source name n' = scopeBinds source name n := by
  obtain ⟨i, before, c, c', after, rfl, rfl, hopen, hroute, h, hf⟩ := hroute.step h hf
  exact scopeBinds_of_agrees (agrees_of_editAt hroute h hf) hopen name

theorem IsOpen.of_replaced {i : Info} {before after items items' : List Node} {j : Info}
    (h : IsOpen (.branch i (before ++ .branch j items :: after))) :
    IsOpen (.branch { i with dirty := true }
      (before ++ .branch { j with dirty := true } items' :: after)) := by
  refine ⟨h.token, h.statement, fun hkind d hd => ?_⟩
  have hin : isIn "name" (.branch { j with dirty := true } items') = isIn "name" (.branch j items) := rfl
  have hname := h.name hkind
  rw [childByField?_eq, Node.items] at hd hname
  rcases find?_replaced before after hin with hsame | ⟨hc, hc'⟩
  · exact hname d (hsame ▸ hd)
  · rw [hc'] at hd
    cases hd
    exact hname (.branch j items) hc

theorem Route.of_editAt {place : Path} (hroute : Route place n) (h : editAt f path n = some n')
    (hplace : ¬ path <+: place) : Route place n' := by
  induction place generalizing path n n' with
  | nil =>
    obtain ⟨i, items, items', rfl, rfl⟩ := branch_of_editAt h
    exact hroute
  | cons j place ih =>
    cases path with
    | nil => exact (hplace List.nil_prefix).elim
    | cons k path =>
      obtain ⟨hopen, d, hd, hroute⟩ := hroute
      obtain ⟨i, before, c, c', after, rfl, rfl, rfl, hc, hc', h⟩ := editAt_cons h
      obtain ⟨l, items, items', rfl, rfl⟩ := branch_of_editAt h
      refine ⟨hopen.of_replaced, ?_⟩
      rw [children, Node.items] at hd ⊢
      by_cases hj : j = before.countP isChild
      · subst hj
        rw [getElem?_filter_isChild hc] at hd
        cases hd
        refine ⟨_, getElem?_filter_isChild hc', ih hroute h fun hle => hplace ?_⟩
        exact List.cons_prefix_cons.2 ⟨rfl, hle⟩
      · rw [getElem?_filter_replaced hc hc' hj]
        exact ⟨d, hd, hroute⟩

theorem Route.of_editAt_end (hroute : Route path n) (h : editAt f path n = some n') :
    Route path n' := by
  induction path generalizing n n' with
  | nil =>
    obtain ⟨i, items, items', rfl, rfl⟩ := branch_of_editAt h
    exact hroute
  | cons k path ih =>
    obtain ⟨i, before, c, c', after, rfl, rfl, rfl, hc, hc', h⟩ := editAt_cons h
    obtain ⟨hopen, d, hd, hroute⟩ := hroute
    rw [children, items, getElem?_filter_isChild hc] at hd
    cases hd
    have hroute' := ih hroute h
    obtain ⟨l, items, items', rfl, rfl⟩ := branch_of_editAt h
    exact ⟨hopen.of_replaced, _, getElem?_filter_isChild hc', hroute'⟩

/-- What is left as it was when a function at the end of a path is edited. -/
structure Leaves (source : Bytes) (path : Path) (n n' : Node) : Prop where
  route : ∀ place, ¬ path <+: place → Route place n → Route place n'
  target : Route path n → Route path n'
  apart : ∀ place, ¬ path <+: place → ¬ place <+: path → n'.at? place = n.at? place
  scopes : ∀ place, ¬ path <+: place → ∀ name,
    (n'.at? place).map (scopeBinds source name) = (n.at? place).map (scopeBinds source name)

theorem Leaves.refl (source : Bytes) (path : Path) (n : Node) : Leaves source path n n :=
  ⟨fun _ _ h => h, fun h => h, fun _ _ _ => rfl, fun _ _ _ => rfl⟩

theorem Leaves.trans {n'' : Node} (h : Leaves source path n n') (h' : Leaves source path n' n'') :
    Leaves source path n n'' where
  route place hplace hroute := h'.route place hplace (h.route place hplace hroute)
  target hroute := h'.target (h.target hroute)
  apart place hplace hpath := (h'.apart place hplace hpath).trans (h.apart place hplace hpath)
  scopes place hplace name := (h'.scopes place hplace name).trans (h.scopes place hplace name)

theorem leaves_of_editAt (hroute : Route path n) (h : editAt f path n = some n')
    (hf : KeepsNames source f path n) : Leaves source path n n' where
  route place hplace hroute := hroute.of_editAt h hplace
  target hroute := hroute.of_editAt_end h
  apart place hplace hpath := at?_of_editAt_apart h hplace hpath
  scopes place hplace name := by
    rcases at?_of_editAt_elsewhere h hplace with hsame | ⟨k, rest, c, c', rfl, hc, hc', hedit⟩
    · rw [hsame]
    -- A scope on the way to the function: the edit is an edit below it.
    · rw [hc, hc', Option.map_some, Option.map_some]
      refine congrArg some (scopeBinds_of_editAt (hroute.drop hc) hedit ?_ name)
      intro i items items' hat
      refine hf i items items' ?_
      rw [at?_append, hc]
      exact hat

end

end Phrasebook.Scope
