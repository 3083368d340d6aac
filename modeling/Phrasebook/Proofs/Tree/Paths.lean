import Phrasebook.Proofs.Tree.Parsed
import Phrasebook.Tree.Focus

/-! Nodes and foci at the end of a path, and what an edit at the end of a path changes there. -/

namespace Phrasebook.Node

theorem updateChild_eq_some {f : Node → Option Node} {k : Nat} {items items' : List Node}
    (h : updateChild f k items = some items') :
    ∃ before c c' after, items = before ++ c :: after ∧ items' = before ++ c' :: after ∧
      before.countP isChild = k ∧ c.isChild = true ∧ f c = some c' := by
  induction items generalizing k items' with
  | nil => simp [updateChild] at h
  | cons n rest ih =>
    rw [updateChild.eq_def] at h
    dsimp only at h
    split at h
    next hn =>
      cases k with
      | zero =>
        obtain ⟨n', hn', rfl⟩ := Option.map_eq_some_iff.1 h
        exact ⟨[], n, n', rest, rfl, rfl, rfl, hn, hn'⟩
      | succ k =>
        obtain ⟨rest', hrest, rfl⟩ := Option.map_eq_some_iff.1 h
        obtain ⟨before, c, c', after, rfl, rfl, hk, hc, hc'⟩ := ih hrest
        exact ⟨n :: before, c, c', after, rfl, rfl, by simp [hn, hk], hc, hc'⟩
    next hn =>
      obtain ⟨rest', hrest, rfl⟩ := Option.map_eq_some_iff.1 h
      obtain ⟨before, c, c', after, rfl, rfl, hk, hc, hc'⟩ := ih hrest
      exact ⟨n :: before, c, c', after, rfl, rfl, by simp [hn, hk], hc, hc'⟩

theorem insertItem_eq (new : Node) (k : Nat) (items : List Node) :
    ∃ before after, items = before ++ after ∧ insertItem new k items = before ++ new :: after := by
  induction items generalizing k with
  | nil => exact ⟨[], [], rfl, rfl⟩
  | cons n rest ih =>
    rw [insertItem.eq_def]
    dsimp only
    split
    · cases k with
      | zero => exact ⟨[], n :: rest, rfl, rfl⟩
      | succ k =>
        obtain ⟨before, after, hitems, hnew⟩ := ih k
        exact ⟨n :: before, after, by rw [hitems]; rfl, congrArg (n :: ·) hnew⟩
    · obtain ⟨before, after, hitems, hnew⟩ := ih k
      exact ⟨n :: before, after, by rw [hitems]; rfl, congrArg (n :: ·) hnew⟩

theorem filter_insertItem_zero {new : Node} (hnew : new.isChild = true) (items : List Node) :
    (insertItem new 0 items).filter isChild = new :: items.filter isChild := by
  induction items with
  | nil => simp [insertItem, hnew]
  | cons n rest ih =>
    rw [insertItem]
    by_cases hn : n.isChild = true
    · rw [if_pos hn, List.filter_cons_of_pos hnew]
    · rw [if_neg hn, List.filter_cons_of_neg hn, ih, List.filter_cons_of_neg hn]

theorem getElem?_filter_insertItem {new : Node} (hnew : new.isChild = true) {k : Nat}
    {items : List Node} (hk : k ≤ items.countP isChild) :
    ((insertItem new k items).filter isChild)[k]? = some new := by
  induction items generalizing k with
  | nil =>
    obtain rfl : k = 0 := by simpa using hk
    simp [insertItem, hnew]
  | cons n rest ih =>
    rw [insertItem.eq_def]
    dsimp only
    by_cases hn : n.isChild = true
    · rw [if_pos hn]
      cases k with
      | zero => simp [hnew]
      | succ k =>
        dsimp only
        rw [List.filter_cons_of_pos hn, List.getElem?_cons_succ]
        exact ih (by simpa [hn] using hk)
    · rw [if_neg hn, List.filter_cons_of_neg hn]
      exact ih (by simpa [hn] using hk)

theorem isChild_inserted (t : Text) (i : Info) :
    ((leaf t).mapInfo fun n => { n with standing := sideStanding i }).isChild = true := by
  cases hbuilt : i.built <;> simp [leaf, build, mapInfo, sideStanding, hbuilt, isChild]

theorem getElem?_filter_isChild {before after : List Node} {c : Node} (hc : c.isChild = true) :
    ((before ++ c :: after).filter isChild)[before.countP isChild]? = some c := by
  rw [List.filter_append, List.filter_cons_of_pos hc, List.countP_eq_length_filter]
  simp

theorem getElem?_filter_replaced {before after : List Node} {c c' : Node} {j : Nat}
    (hc : c.isChild = true) (hc' : c'.isChild = true) (hj : j ≠ before.countP isChild) :
    ((before ++ c' :: after).filter isChild)[j]? = ((before ++ c :: after).filter isChild)[j]? := by
  simp only [List.filter_append, List.filter_cons_of_pos hc, List.filter_cons_of_pos hc']
  rw [List.countP_eq_length_filter] at hj
  rw [List.getElem?_append, List.getElem?_append]
  split
  · rfl
  · obtain ⟨m, hm⟩ : ∃ m, j - (before.filter isChild).length = m + 1 :=
      ⟨j - (before.filter isChild).length - 1, by omega⟩
    rw [hm, List.getElem?_cons_succ, List.getElem?_cons_succ]

theorem updateChild_isSome {f : Node → Option Node} {k : Nat} {items : List Node} {c c' : Node}
    (hk : (items.filter isChild)[k]? = some c) (hc : f c = some c') :
    ∃ items', updateChild f k items = some items' := by
  induction items generalizing k with
  | nil => simp at hk
  | cons n rest ih =>
    rw [updateChild.eq_def]
    dsimp only
    by_cases hn : n.isChild = true
    · rw [List.filter_cons_of_pos hn] at hk
      rw [if_pos hn]
      cases k with
      | zero =>
        obtain rfl : n = c := by simpa using hk
        exact ⟨c' :: rest, by rw [hc]; rfl⟩
      | succ k =>
        obtain ⟨rest', hrest⟩ := ih (by simpa using hk)
        exact ⟨n :: rest', by dsimp only; rw [hrest]; rfl⟩
    · rw [List.filter_cons_of_neg hn] at hk
      obtain ⟨rest', hrest⟩ := ih hk
      exact ⟨n :: rest', by rw [if_neg hn, hrest]; rfl⟩

theorem at?_append (path more : Path) (n : Node) :
    n.at? (path ++ more) = (n.at? path).bind (at? more) := by
  induction path generalizing n with
  | nil => rfl
  | cons k path ih =>
    rw [List.cons_append, at?, at?]
    cases n.children[k]? with
    | none => rfl
    | some c => exact ih c

theorem pathsTo_subset {p : Node → Bool} (here : Path) (k : Nat) {items : List Node} {j : Nat}
    {c : Node} (h : (items.filter isChild)[j]? = some c) :
    pathsTo p (here ++ [k + j]) c ⊆ pathsToItems p here k items := by
  induction items generalizing j k with
  | nil => simp at h
  | cons n rest ih =>
    rw [pathsToItems]
    by_cases hn : n.isChild = true
    · rw [if_pos hn]
      rw [List.filter_cons_of_pos hn] at h
      cases j with
      | zero =>
        obtain rfl : n = c := by simpa using h
        exact List.subset_append_left _ _
      | succ j =>
        rw [← Nat.add_assoc, Nat.add_right_comm]
        exact List.subset_append_of_subset_right _ (ih (k + 1) (by simpa using h))
    · rw [if_neg hn]
      rw [List.filter_cons_of_neg hn] at h
      exact ih k h

theorem mem_pathsTo {p : Node → Bool} (here : Path) {path : Path} {n m : Node}
    (hn : n.isChild = true) (hat : n.at? path = some m) (hm : p m = true) :
    here ++ path ∈ pathsTo p here n := by
  induction path generalizing here n with
  | nil =>
    cases hat
    cases m with
    | text t => simp [isChild] at hn
    | branch i items =>
      rw [pathsTo, if_pos hm, List.append_nil]
      exact List.mem_cons_self
  | cons k path ih =>
    cases n with
    | text t => simp [isChild] at hn
    | branch i items =>
      obtain ⟨c, hc, hat⟩ := Option.bind_eq_some_iff.1 hat
      have hchild := (List.mem_filter.1 (List.mem_of_getElem? hc)).2
      have hbelow := pathsTo_subset here 0 hc (ih (here ++ [0 + k]) hchild hat)
      rw [List.append_assoc, Nat.zero_add] at hbelow
      rw [pathsTo]
      split
      · exact List.mem_cons_of_mem _ hbelow
      · exact hbelow

section Editing

variable {f : Info → List Node → Option (List Node)} {path : Path} {n n' : Node}

theorem branch_of_editAt (h : editAt f path n = some n') :
    ∃ i items items', n = branch i items ∧ n' = branch { i with dirty := true } items' := by
  cases n with
  | text t => cases path <;> simp [editAt] at h
  | branch i items =>
    cases path with
    | nil =>
      obtain ⟨items', -, rfl⟩ := Option.map_eq_some_iff.1 (show (f i items).map _ = _ from h)
      exact ⟨i, items, items', rfl, rfl⟩
    | cons k path =>
      rw [editAt] at h
      obtain ⟨items', -, rfl⟩ := Option.map_eq_some_iff.1 h
      exact ⟨i, items, items', rfl, rfl⟩

theorem isChild_of_editAt (h : editAt f path n = some n') : n'.isChild = n.isChild := by
  obtain ⟨i, items, items', rfl, rfl⟩ := branch_of_editAt h
  rfl

theorem at?_of_editAt (h : editAt f path n = some n') :
    ∃ i items items', n.at? path = some (branch i items) ∧ f i items = some items' ∧
      n'.at? path = some (branch { i with dirty := true } items') := by
  induction path generalizing n n' with
  | nil =>
    cases n with
    | text t => simp [editAt] at h
    | branch i items =>
      obtain ⟨items', hitems, rfl⟩ := Option.map_eq_some_iff.1 (show (f i items).map _ = _ from h)
      exact ⟨i, items, items', rfl, hitems, rfl⟩
  | cons k path ih =>
    cases n with
    | text t => simp [editAt] at h
    | branch i items =>
      rw [editAt] at h
      obtain ⟨items', hitems, rfl⟩ := Option.map_eq_some_iff.1 h
      obtain ⟨before, c, c', after, rfl, rfl, rfl, hc, hc'⟩ := updateChild_eq_some hitems
      obtain ⟨j, js, js', hj, hjs, hj'⟩ := ih hc'
      have hchild : c'.isChild = true := by rw [isChild_of_editAt hc', hc]
      refine ⟨j, js, js', ?_, hjs, ?_⟩
      · rw [at?, children, Node.items, getElem?_filter_isChild hc]
        exact hj
      · rw [at?, children, Node.items, getElem?_filter_isChild hchild]
        exact hj'

theorem editAt_isSome {i : Info} {items items' : List Node} (hat : n.at? path = some (branch i items))
    (hf : f i items = some items') : ∃ n', editAt f path n = some n' := by
  induction path generalizing n with
  | nil =>
    cases hat
    exact ⟨_, by rw [editAt, hf]; rfl⟩
  | cons k path ih =>
    obtain ⟨c, hk, hc⟩ := Option.bind_eq_some_iff.1 hat
    obtain ⟨c', hc'⟩ := ih hc
    cases n with
    | text t => simp [children, Node.items] at hk
    | branch j js =>
      obtain ⟨js', hjs⟩ := updateChild_isSome (show (js.filter isChild)[k]? = some c from hk) hc'
      exact ⟨_, by rw [editAt, hjs]; rfl⟩

theorem editAt_append_singleton (k : Nat) (n : Node) :
    editAt f (path ++ [k]) n = editAt (fun _ => updateChild (editAt f []) k) path n := by
  induction path generalizing n with
  | nil => cases n <;> rfl
  | cons j path ih =>
    cases n with
    | text t => rfl
    | branch i items =>
      rw [List.cons_append, editAt, editAt]
      congr 2
      funext c
      exact ih c

theorem editAt_cons {k : Nat} (h : editAt f (k :: path) n = some n') :
    ∃ i before c c' after, n = branch i (before ++ c :: after) ∧
      n' = branch { i with dirty := true } (before ++ c' :: after) ∧ before.countP isChild = k ∧
      c.isChild = true ∧ c'.isChild = true ∧ editAt f path c = some c' := by
  cases n with
  | text t => simp [editAt] at h
  | branch i items =>
    rw [editAt] at h
    obtain ⟨items', hitems, rfl⟩ := Option.map_eq_some_iff.1 h
    obtain ⟨before, c, c', after, rfl, rfl, hk, hc, hc'⟩ := updateChild_eq_some hitems
    exact ⟨i, before, c, c', after, rfl, rfl, hk, hc, (isChild_of_editAt hc').trans hc, hc'⟩

theorem at?_of_editAt_elsewhere {place : Path} (h : editAt f path n = some n')
    (hplace : ¬ path <+: place) :
    n'.at? place = n.at? place ∨ ∃ k rest c c', path = place ++ k :: rest ∧
      n.at? place = some c ∧ n'.at? place = some c' ∧ editAt f (k :: rest) c = some c' := by
  induction place generalizing path n n' with
  | nil =>
    cases path with
    | nil => exact (hplace List.prefix_rfl).elim
    | cons k rest => exact .inr ⟨k, rest, n, n', rfl, rfl, rfl, h⟩
  | cons j place ih =>
    cases path with
    | nil => exact (hplace List.nil_prefix).elim
    | cons k path =>
      obtain ⟨i, before, c, c', after, rfl, rfl, rfl, hc, hc', h⟩ := editAt_cons h
      rw [at?, at?, children, children, items, items]
      -- The place is in the child that the edit goes through, or in another one, which is untouched.
      by_cases hj : j = before.countP isChild
      · subst hj
        rw [getElem?_filter_isChild hc, getElem?_filter_isChild hc', Option.bind_some, Option.bind_some]
        rcases ih h fun hle => hplace (List.cons_prefix_cons.2 ⟨rfl, hle⟩) with
          hsame | ⟨k, rest, d, d', rfl, hd, hd', hedit⟩
        · exact .inl hsame
        · exact .inr ⟨k, rest, d, d', rfl, hd, hd', hedit⟩
      · left
        rw [getElem?_filter_replaced hc hc' hj]

theorem at?_of_editAt_apart {place : Path} (h : editAt f path n = some n')
    (hplace : ¬ path <+: place) (hpath : ¬ place <+: path) : n'.at? place = n.at? place := by
  rcases at?_of_editAt_elsewhere h hplace with hsame | ⟨k, rest, c, c', rfl, -, -, -⟩
  · exact hsame
  · exact (hpath (List.prefix_append _ _)).elim

end Editing

end Phrasebook.Node

namespace Phrasebook.Focus

theorem map_node_at? (f : Focus) (path : Path) : (f.at? path).map (·.node) = f.node.at? path := by
  induction path generalizing f with
  | nil => rfl
  | cons k path ih =>
    have hchildren : f.children.map (·.node) = f.node.children := map_node_ofItems _ _ _ _
    rw [at?, Node.at?, ← hchildren, List.getElem?_map]
    cases f.children[k]? with
    | none => rfl
    | some c => exact ih c

end Phrasebook.Focus
