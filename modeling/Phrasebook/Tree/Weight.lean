import Phrasebook.Tree.Node

/-!
The weight of a tree, which bounds walks over it: every node below another one weighs less.
-/

namespace Phrasebook.Node

mutual

def weight : Node → Nat
  | text _ => 0
  | branch _ items => 1 + weightItems items

def weightItems : List Node → Nat
  | [] => 0
  | n :: rest => 1 + weight n + weightItems rest

end

theorem weightItems_drop_le (k : Nat) (items : List Node) :
    weightItems (items.drop k) ≤ weightItems items := by
  induction items generalizing k with
  | nil => simp
  | cons n rest ih =>
    cases k with
    | zero => simp
    | succ k =>
      have := ih k
      simp only [List.drop_succ_cons, weightItems]
      omega

theorem weightItems_sublist {xs ys : List Node} (h : xs.Sublist ys) :
    weightItems xs ≤ weightItems ys := by
  induction h with
  | slnil => simp
  | cons a _ ih => simp only [weightItems]; omega
  | cons_cons a _ ih => simp only [weightItems]; omega

theorem weight_lt_of_mem {n : Node} {items : List Node} (h : n ∈ items) :
    n.weight < weightItems items := by
  induction items with
  | nil => simp at h
  | cons m rest ih =>
    simp only [weightItems]
    rcases List.mem_cons.1 h with rfl | h
    · omega
    · have := ih h
      omega

theorem weightItems_map_le {f : Node → Node} (hf : ∀ n, (f n).weight ≤ n.weight)
    (items : List Node) : weightItems (items.map f) ≤ weightItems items := by
  induction items with
  | nil => simp
  | cons n rest ih =>
    have := hf n
    simp only [List.map_cons, weightItems]
    omega

theorem weightItems_items_le (n : Node) : weightItems n.items ≤ n.weight := by
  cases n <;> simp [items, weight, weightItems]

end Phrasebook.Node
