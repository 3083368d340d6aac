import Phrasebook.Tree.Editing

/-! The cells of an arena after an update of one of them, of several of them, or after a new one. -/

namespace Phrasebook.Arena

variable {a : Arena} {i j : NodeId} {f : Cell → Cell}

@[simp] theorem size_update (a : Arena) (i : NodeId) (f : Cell → Cell) :
    (a.update i f).cells.size = a.cells.size := by
  simp [update]

@[simp] theorem source_update (a : Arena) (i : NodeId) (f : Cell → Cell) :
    (a.update i f).source = a.source := rfl

theorem cell_update_self (h : i < a.cells.size) : (a.update i f).cell i = f (a.cell i) := by
  simp only [update, cell, Array.getD_eq_getD_getElem?, Array.getElem?_modify, if_true]
  simp [h]

theorem cell_update_of_ne (h : j ≠ i) : (a.update i f).cell j = a.cell j := by
  simp only [update, cell, Array.getD_eq_getD_getElem?, Array.getElem?_modify, if_neg (Ne.symm h)]

def push (a : Arena) (c : Cell) : Arena := { a with cells := a.cells.push c }

@[simp] theorem size_push (a : Arena) (c : Cell) : (a.push c).cells.size = a.cells.size + 1 := by
  simp [push]

@[simp] theorem cell_push_size (a : Arena) (c : Cell) : (a.push c).cell a.cells.size = c := by
  simp [push, cell, Array.getD]

theorem cell_push_of_ne {c : Cell} (h : i ≠ a.cells.size) : (a.push c).cell i = a.cell i := by
  simp only [push, cell, Array.getD_eq_getD_getElem?, Array.getElem?_push, if_neg h]

def updateAll (a : Arena) (is : List NodeId) (f : Cell → Cell) : Arena :=
  is.foldl (fun a i => a.update i f) a

@[simp] theorem size_updateAll (a : Arena) (is : List NodeId) (f : Cell → Cell) :
    (a.updateAll is f).cells.size = a.cells.size := by
  induction is generalizing a with
  | nil => rfl
  | cons i is ih => rw [updateAll, List.foldl_cons, ← updateAll, ih, size_update]

@[simp] theorem source_updateAll (a : Arena) (is : List NodeId) (f : Cell → Cell) :
    (a.updateAll is f).source = a.source := by
  induction is generalizing a with
  | nil => rfl
  | cons i is ih => rw [updateAll, List.foldl_cons, ← updateAll, ih, source_update]

theorem cell_updateAll_of_notMem {is : List NodeId} (h : j ∉ is) :
    (a.updateAll is f).cell j = a.cell j := by
  induction is generalizing a with
  | nil => rfl
  | cons i is ih =>
    rw [List.mem_cons, not_or] at h
    rw [updateAll, List.foldl_cons, ← updateAll, ih h.2, cell_update_of_ne h.1]

theorem cell_updateAll_of_mem {is : List NodeId} (hf : ∀ c, f (f c) = f c) (h : j ∈ is)
    (hj : j < a.cells.size) : (a.updateAll is f).cell j = f (a.cell j) := by
  induction is generalizing a with
  | nil => simp at h
  | cons i is ih =>
    rw [updateAll, List.foldl_cons, ← updateAll]
    by_cases hmem : j ∈ is
    · rw [ih hmem (by rwa [size_update])]
      by_cases hij : j = i
      · rw [hij, cell_update_self (hij ▸ hj), hf]
      · rw [cell_update_of_ne hij]
    · obtain rfl : j = i := (List.mem_cons.1 h).resolve_right hmem
      rw [cell_updateAll_of_notMem hmem, cell_update_self hj]

/-- The arena with a node and its ancestors marked dirty. -/
def mark (a : Arena) (i : NodeId) : Arena :=
  a.updateAll (i :: a.ancestors i) fun c => { c with dirty := true }

theorem cell_mark_of_mem (h : j ∈ i :: a.ancestors i) (hj : j < a.cells.size) :
    (a.mark i).cell j = { a.cell j with dirty := true } :=
  cell_updateAll_of_mem (fun _ => rfl) h hj

theorem cell_mark_of_notMem (h : j ∉ i :: a.ancestors i) : (a.mark i).cell j = a.cell j :=
  cell_updateAll_of_notMem h

@[simp] theorem size_mark (a : Arena) (i : NodeId) : (a.mark i).cells.size = a.cells.size :=
  size_updateAll _ _ _

@[simp] theorem source_mark (a : Arena) (i : NodeId) : (a.mark i).source = a.source :=
  source_updateAll _ _ _

end Phrasebook.Arena
