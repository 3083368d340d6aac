import Mathlib.Tactic.Common
import Phrasebook.Proofs.Tree.Paths

/-! A text put in among the children of a node somewhere in a tree, told by the lists of children on
the way there. -/

namespace Phrasebook.Node

theorem filter_insertItem {new : Node} (hnew : new.isChild = true) {k : Nat} {items : List Node}
    (hk : k ≤ items.countP isChild) :
    (insertItem new k items).filter isChild =
      (items.filter isChild).take k ++ new :: (items.filter isChild).drop k := by
  induction items generalizing k with
  | nil => simp [insertItem, hnew]
  | cons n rest ih =>
    rw [insertItem.eq_def]
    dsimp only
    by_cases hn : n.isChild = true
    · rw [if_pos hn, List.filter_cons_of_pos hn]
      cases k with
      | zero => simp [hnew, hn]
      | succ k =>
        dsimp only
        rw [List.filter_cons_of_pos hn, ih (by simpa [hn] using hk), List.take_succ_cons,
          List.drop_succ_cons, List.cons_append]
    · rw [if_neg hn, List.filter_cons_of_neg hn, List.filter_cons_of_neg hn]
      exact ih (by simpa [hn] using hk)

theorem filter_replaced {before after : List Node} {c c' : Node} (hc : c.isChild = true)
    (hc' : c'.isChild = true) : (before ++ c' :: after).filter isChild =
      ((before ++ c :: after).filter isChild).set (before.countP isChild) c' := by
  simp only [List.filter_append, List.filter_cons_of_pos hc, List.filter_cons_of_pos hc']
  rw [List.countP_eq_length_filter, List.set_append_right _ _ (Nat.le_refl _), Nat.sub_self]
  rfl

/-- A node that differs from another in its children only, and that it was edited. -/
def Edits (n n' : Node) : Prop :=
  ∃ i items items', n = branch i items ∧ n' = branch { i with dirty := true } items'

section

variable {n n' : Node}

theorem Edits.kind (h : Edits n n') : n'.kind = n.kind := by
  obtain ⟨i, items, items', rfl, rfl⟩ := h
  rfl

theorem Edits.field (h : Edits n n') : n'.field = n.field := by
  obtain ⟨i, items, items', rfl, rfl⟩ := h
  rfl

theorem Edits.named (h : Edits n n') : n'.named = n.named := by
  obtain ⟨i, items, items', rfl, rfl⟩ := h
  rfl

theorem Edits.built (h : Edits n n') : n'.info.built = n.info.built := by
  obtain ⟨i, items, items', rfl, rfl⟩ := h
  rfl

theorem Edits.trans {n'' : Node} (h : Edits n n') (h' : Edits n' n'') : Edits n n'' := by
  obtain ⟨i, items, items', rfl, rfl⟩ := h
  obtain ⟨j, js, js', hj, rfl⟩ := h'
  cases hj
  exact ⟨i, items, js', rfl, rfl⟩

theorem Edits.isChild (h : Edits n n') : n'.isChild = n.isChild := by
  obtain ⟨i, items, items', rfl, rfl⟩ := h
  rfl

end

/-- A node of which one child, the `k`-th, was changed as the relation says. -/
structure Within (k : Nat) (R : Node → Node → Prop) (n n' : Node) : Prop where
  edits : Edits n n'
  child : ∃ c c', n.children[k]? = some c ∧ R c c' ∧ n'.children = n.children.set k c'

theorem edits_of_editAt {f : Info → List Node → Option (List Node)} {path : Path} {n n' : Node}
    (h : editAt f path n = some n') : Edits n n' := branch_of_editAt h

theorem within_of_editAt {f : Info → List Node → Option (List Node)} {k : Nat} {path : Path}
    {n n' : Node} (h : editAt f (k :: path) n = some n') :
    Within k (fun c c' => editAt f path c = some c') n n' := by
  refine ⟨edits_of_editAt h, ?_⟩
  obtain ⟨i, before, c, c', after, rfl, rfl, rfl, hc, hc', h⟩ := editAt_cons h
  exact ⟨c, c', getElem?_filter_isChild hc, h, filter_replaced hc hc'⟩

theorem Within.of_child {k : Nat} {R R' : Node → Node → Prop} {n n' c : Node} (h : Within k R n n')
    (hc : n.children[k]? = some c) (hR : ∀ c', R c c' → R' c c') : Within k R' n n' := by
  obtain ⟨d, d', hd, hrel, hchildren⟩ := h.child
  obtain rfl : d = c := Option.some.inj (hd.symm.trans hc)
  exact ⟨h.edits, d, d', hd, hR d' hrel, hchildren⟩

/-- A node that has one more child, a text, before what was its `k`-th. -/
structure Gains (k : Nat) (t : Text) (n n' : Node) : Prop where
  edits : Edits n n'
  children : n'.children = n.children.take k ++ leaf t :: n.children.drop k

namespace Gains

variable {k : Nat} {t : Text} {n n' c : Node}

theorem children_of_append (h : Gains k t n n') (past : List Node) {after : List Node}
    (hn : n.children = past ++ after) (hk : past.length = k) :
    n'.children = past ++ leaf t :: after := by
  rw [h.children, hn, List.take_left' hk, List.drop_left' hk]

theorem mem (h : Gains k t n n') (hc : c ∈ n.children) : c ∈ n'.children := by
  rw [h.children]
  rw [← List.take_append_drop k n.children] at hc
  rcases List.mem_append.1 hc with hc | hc
  · exact List.mem_append_left _ hc
  · exact List.mem_append_right _ (List.mem_cons_of_mem _ hc)

theorem eq_or_mem (h : Gains k t n n') (hc : c ∈ n'.children) : c = leaf t ∨ c ∈ n.children := by
  rw [h.children] at hc
  rcases List.mem_append.1 hc with hc | hc
  · exact .inr (List.mem_of_mem_take hc)
  · exact (List.mem_cons.1 hc).imp id List.mem_of_mem_drop

theorem leaf_mem (h : Gains k t n n') : leaf t ∈ n'.children := by
  rw [h.children]
  exact List.mem_append_right _ List.mem_cons_self

end Gains

def GainsAt (k : Nat) (t : Text) : Path → Node → Node → Prop
  | [] => Gains k t
  | j :: path => Within j (GainsAt k t path)

theorem gainsAt_of_editAt {k : Nat} {t : Text} {path : Path} {n n' m : Node}
    (hat : n.at? path = some m) (hbuilt : m.info.built = false) (hk : k ≤ m.children.length)
    (h : n.insertAt path k (leaf t) = some n') : GainsAt k t path n n' := by
  induction path generalizing n n' with
  | nil =>
    cases hat
    obtain ⟨i, items, items', hn, hitems, hn'⟩ := at?_of_editAt h
    cases hn
    cases hn'
    cases hitems
    have hcount : (branch i items).children.length = items.countP isChild :=
      List.countP_eq_length_filter.symm
    have hclamp : clampIndex k (items.countP isChild) = k := by
      rw [clampIndex, if_neg (by omega)]
      omega
    have hleaf : ((leaf t).mapInfo fun j => { j with standing := sideStanding i }) = leaf t := by
      have hside : sideStanding i = .full := by
        rw [sideStanding, if_neg (by simpa [info] using hbuilt)]
      rw [hside]
      rfl
    refine ⟨edits_of_editAt h, ?_⟩
    rw [hclamp, hleaf]
    exact filter_insertItem rfl (hcount ▸ hk)
  | cons j path ih =>
    obtain ⟨c, hc, hat⟩ := Option.bind_eq_some_iff.1 hat
    exact (within_of_editAt h).of_child hc fun c' h => ih hat h

theorem gainsAt_of_at? {k : Nat} (t : Text) {path : Path} {n m : Node}
    (hat : n.at? path = some m) (hchild : m.isChild = true) (hbuilt : m.info.built = false)
    (hk : k ≤ m.children.length) :
    ∃ n', n.insertAt path k (leaf t) = some n' ∧ GainsAt k t path n n' := by
  cases m with
  | text t => simp [isChild] at hchild
  | branch i items =>
    obtain ⟨n', hn'⟩ := editAt_isSome (f := fun i items => some (insertItem ((leaf t).mapInfo
      fun n => { n with standing := sideStanding i }) (clampIndex k (items.countP isChild)) items))
      hat rfl
    exact ⟨n', hn', gainsAt_of_editAt hat hbuilt hk hn'⟩

end Phrasebook.Node
