import Phrasebook.Proofs.Tree.Cells
import Phrasebook.Tree.Edit

/-! What the edits of an arena do to its cells, for nodes that are where the edits expect them. Each
edit gives the new node, changes the cells of the nodes it is about and of the parent, and marks the
parent and its ancestors. -/

namespace Phrasebook

def Part.exchange (old new : NodeId) : Part → Part
  | .text t => .text t
  | .node i => .node (if i = old then new else i)

namespace Editing

variable {α β : Type} {a : Arena}

theorem bind_apply {x : Editing α} {f : α → Editing β} {v : α} {b : Arena} (h : x a = (.ok v, b)) :
    (x >>= f) a = f v b := by
  show (match x a with | (r, s) => ExceptT.bindCont f r s) = f v b
  rw [h]
  rfl

theorem cell_apply (i : NodeId) : cell i a = (.ok (a.cell i), a) := rfl

theorem update_apply (i : NodeId) (f : Cell → Cell) : update i f a = (.ok (), a.update i f) := rfl

theorem add_apply (c : Cell) : add c a = (.ok a.cells.size, a.push c) := rfl

theorem get_apply : (get : Editing Arena) a = (.ok a, a) := rfl

theorem inherit_apply (new old : NodeId) : inherit new old a = (.ok (), a.update new fun n =>
    if n.start.isNone then { n with start := (a.cell old).start, stop := (a.cell old).stop }
    else n) := rfl

theorem lift_apply {x : Except Fault α} {v : α} (h : x = .ok v) :
    (liftM x : Editing α) a = (.ok v, a) := by
  rw [h]
  rfl

theorem forIn_update (is : List NodeId) (f : Cell → Cell) :
    (forIn is PUnit.unit fun i _ => do
      update i f
      pure (ForInStep.yield PUnit.unit) : Editing PUnit) a = (.ok ⟨⟩, a.updateAll is f) := by
  induction is generalizing a with
  | nil => rfl
  | cons i is ih =>
    rw [List.forIn_cons]
    exact ih

theorem markDirty_apply (i : NodeId) : markDirty i a = (.ok (), a.mark i) := by
  unfold markDirty
  rw [bind_apply get_apply, bind_apply (forIn_update _ _)]
  rfl

def leafCell (kind : Text) (texts : List Text) : Cell :=
  { kind, parts := some (texts.map .text) }

theorem build_apply (kind : Text) (texts : List Text) :
    build kind (texts.map .text) a = (.ok a.cells.size, a.push (leafCell kind texts)) := by
  have hnodes : nodesIn (texts.map .text) = [] := by
    induction texts with
    | nil => rfl
    | cons t rest ih => exact ih
  unfold build
  rw [hnodes, bind_apply (add_apply _)]
  rfl

section Placing

variable {p old new : NodeId} {l r : List NodeId}

theorem findIdx?_append_cons (h : old ∉ l) :
    (l ++ old :: r).findIdx? (· == old) = some l.length := by
  induction l with
  | nil => rw [List.nil_append, List.findIdx?_cons, beq_self_eq_true]; rfl
  | cons i l ih =>
    rw [List.mem_cons, not_or] at h
    have hi : (i == old) = false := by simpa using Ne.symm h.1
    rw [List.cons_append, List.findIdx?_cons, hi, ih h.2]
    rfl

theorem indexOf_eq (hkids : (a.cell p).children = l ++ old :: r) (hl : old ∉ l)
    (hparent : (a.cell old).parent = some p) : a.indexOf old = l.length := by
  rw [Arena.indexOf, Arena.index?, hparent, Option.bind_some, hkids, findIdx?_append_cons hl]

theorem setAt_eq : setAt (l ++ old :: r) (l.length : Int) new = .ok (l ++ new :: r) := by
  have hnonneg : ¬ (l.length : Int) < 0 := by omega
  have hbound : (0 : Int) ≤ l.length ∧ (l.length : Int) < (l ++ old :: r).length := by
    rw [List.length_append, List.length_cons]
    omega
  unfold setAt
  simp only [if_neg hnonneg, if_pos hbound, Int.toNat_natCast]
  rw [List.set_append_right _ _ (Nat.le_refl _), Nat.sub_self, List.set_cons_zero]

/-- The cell of a new node where another one was: parent, field and span are the other one's. -/
def placedCell (p : NodeId) (c old : Cell) : Cell :=
  { c with parent := some p, field := old.field, start := old.start, stop := old.stop }

theorem putInPlace_apply (hkids : (a.cell p).children = l ++ old :: r) (hl : old ∉ l)
    (hparent : (a.cell old).parent = some p) (hp : p < a.cells.size) (hnew : new < a.cells.size)
    (hnp : new ≠ p) (hop : old ≠ p) (hon : old ≠ new) (hspan : (a.cell new).start = none) :
    ∃ b, putInPlace p old new a = (.ok (), b) ∧ b.cells.size = a.cells.size ∧
      b.source = a.source ∧
      b.cell p = { a.cell p with
        children := l ++ new :: r
        parts := (a.cell p).parts.map (·.map (Part.exchange old new)) } ∧
      b.cell new = placedCell p (a.cell new) (a.cell old) ∧
      ∀ j, j ≠ p → j ≠ new → b.cell j = a.cell j := by
  have hset : setAt (a.cell p).children (a.indexOf old) new = .ok (l ++ new :: r) := by
    rw [hkids, indexOf_eq hkids hl hparent, setAt_eq]
  unfold putInPlace
  rw [bind_apply (cell_apply _), bind_apply get_apply, bind_apply (lift_apply hset)]
  dsimp only
  rw [bind_apply (update_apply _ _), bind_apply (cell_apply _), bind_apply (update_apply _ _),
    inherit_apply]
  refine ⟨_, rfl, by simp only [Arena.size_update], rfl, ?_, ?_, fun j hjp hjn => ?_⟩
  · rw [Arena.cell_update_of_ne hnp.symm, Arena.cell_update_of_ne hnp.symm,
      Arena.cell_update_self hp]
    congr 2
    funext parts
    congr 1
    funext q
    cases q <;> rfl
  · rw [Arena.cell_update_self (by simpa only [Arena.size_update] using hnew),
      Arena.cell_update_self (by simpa only [Arena.size_update] using hnew),
      Arena.cell_update_of_ne hnp, Arena.cell_update_of_ne hon, Arena.cell_update_of_ne hop]
    simp only [hspan, Option.isNone_none, if_true, placedCell]
  · rw [Arena.cell_update_of_ne hjn, Arena.cell_update_of_ne hjn, Arena.cell_update_of_ne hjp]

/-- What an edit that adds one node does before it marks the parent `p`: the parent has other
children and parts, the new node has its cell, and apart from the nodes that `moved` all others are
as they were. -/
structure Puts (a b : Arena) (p : NodeId) (kids : List NodeId) (parts : Option (List Part))
    (new : Cell) (moved : List NodeId) : Prop where
  source : b.source = a.source
  size : b.cells.size = a.cells.size + 1
  parent : b.cell p = { a.cell p with children := kids, parts }
  new : b.cell a.cells.size = new
  others : ∀ j, j ≠ p → j ≠ a.cells.size → j ∉ moved → b.cell j = a.cell j

theorem putInPlace_push {c : Cell} (hkids : (a.cell p).children = l ++ old :: r) (hl : old ∉ l)
    (hparent : (a.cell old).parent = some p) (hp : p < a.cells.size) (hold : old < a.cells.size)
    (hop : old ≠ p) (hc : c.start = none) :
    ∃ b, putInPlace p old a.cells.size (a.push c) = (.ok (), b) ∧
      Puts a b p (l ++ a.cells.size :: r)
        ((a.cell p).parts.map (·.map (Part.exchange old a.cells.size)))
        (placedCell p c (a.cell old)) [] := by
  have hcellp : (a.push c).cell p = a.cell p := Arena.cell_push_of_ne (Nat.ne_of_lt hp)
  have hcello : (a.push c).cell old = a.cell old := Arena.cell_push_of_ne (Nat.ne_of_lt hold)
  have hcelln : (a.push c).cell a.cells.size = c := Arena.cell_push_size a c
  have hplt : p < (a.push c).cells.size := by
    rw [Arena.size_push]
    exact Nat.lt_succ_of_lt hp
  have hnlt : a.cells.size < (a.push c).cells.size := by
    rw [Arena.size_push]
    exact Nat.lt_succ_self _
  obtain ⟨b, hrun, hsize, hsource, hbp, hbn, hothers⟩ :=
    putInPlace_apply (hcellp ▸ hkids) hl (hcello ▸ hparent) hplt hnlt (Nat.ne_of_gt hp) hop
      (Nat.ne_of_lt hold) (by rw [hcelln, hc])
  rw [hcellp] at hbp
  rw [hcelln, hcello] at hbn
  refine ⟨b, hrun, hsource, by rw [hsize, Arena.size_push], hbp, hbn, fun j hjp hjn _ => ?_⟩
  rw [hothers j hjp hjn, Arena.cell_push_of_ne hjn]

theorem replaceWith_apply (kind : Text) (texts : List Text)
    (hkids : (a.cell p).children = l ++ old :: r) (hl : old ∉ l)
    (hparent : (a.cell old).parent = some p) (hp : p < a.cells.size) (hold : old < a.cells.size)
    (hop : old ≠ p) :
    ∃ b, replaceWith old a.cells.size (a.push (leafCell kind texts)) =
        (.ok a.cells.size, b.mark p) ∧
      Puts a b p (l ++ a.cells.size :: r)
        ((a.cell p).parts.map (·.map (Part.exchange old a.cells.size)))
        (placedCell p (leafCell kind texts) (a.cell old)) [old] := by
  obtain ⟨b, hrun, hputs⟩ := putInPlace_push (c := leafCell kind texts) hkids hl hparent hp hold hop
    rfl
  have hcello : (a.push (leafCell kind texts)).cell old = a.cell old :=
    Arena.cell_push_of_ne (Nat.ne_of_lt hold)
  unfold replaceWith
  rw [bind_apply (cell_apply _), hcello, hparent]
  dsimp only
  rw [bind_apply hrun, bind_apply (update_apply _ _), bind_apply (markDirty_apply _)]
  refine ⟨_, rfl, hputs.source, ?_, ?_, ?_, fun j hjp hjn hjo => ?_⟩
  · rw [Arena.size_update, hputs.size]
  · rw [Arena.cell_update_of_ne hop.symm, hputs.parent]
  · rw [Arena.cell_update_of_ne (Nat.ne_of_gt hold), hputs.new]
  · rw [Arena.cell_update_of_ne (by simpa using hjo), hputs.others j hjp hjn (by simp)]

def aroundCell (kind : Text) (old : NodeId) (before after : List Text) : Cell :=
  { kind, parts := some (before.map .text ++ .node old :: after.map .text), children := [old] }

theorem wrap_apply (kind : Text) (before after : List Text)
    (hkids : (a.cell p).children = l ++ old :: r) (hl : old ∉ l)
    (hparent : (a.cell old).parent = some p) (hp : p < a.cells.size) (hold : old < a.cells.size)
    (hop : old ≠ p) :
    ∃ b, wrap old kind (before.map .text) (after.map .text) a = (.ok a.cells.size, b.mark p) ∧
      Puts a b p (l ++ a.cells.size :: r)
        ((a.cell p).parts.map (·.map (Part.exchange old a.cells.size)))
        (placedCell p (aroundCell kind old before after) (a.cell old)) [old] ∧
      b.cell old = { a.cell old with parent := some a.cells.size } := by
  obtain ⟨b, hrun, hputs⟩ := putInPlace_push (c := aroundCell kind old before after) hkids hl
    hparent hp hold hop rfl
  have hboldSize : old < b.cells.size := by
    rw [hputs.size]
    exact Nat.lt_succ_of_lt hold
  rw [aroundCell] at hrun
  unfold wrap
  rw [bind_apply (cell_apply _), hparent]
  dsimp only
  rw [bind_apply (add_apply _), bind_apply hrun, bind_apply (update_apply _ _), bind_apply (markDirty_apply _)]
  refine ⟨_, rfl, ⟨hputs.source, ?_, ?_, ?_, fun j hjp hjn hjo => ?_⟩, ?_⟩
  · rw [Arena.size_update, hputs.size]
  · rw [Arena.cell_update_of_ne hop.symm, hputs.parent]
  · rw [Arena.cell_update_of_ne (Nat.ne_of_gt hold), hputs.new]
  · rw [Arena.cell_update_of_ne (by simpa using hjo), hputs.others j hjp hjn (by simp)]
  · rw [Arena.cell_update_self hboldSize, hputs.others old hop (Nat.ne_of_lt hold) (by simp)]

theorem replaceSlice_same (xs : List NodeId) (index : Int) (x : NodeId) :
    replaceSlice xs index index x = xs.take (Node.clampIndex index xs.length) ++
      x :: xs.drop (Node.clampIndex index xs.length) := by
  simp only [replaceSlice, sliceBounds, Node.clampIndex, Nat.max_self]

theorem clampIndex_natCast {k n : Nat} (h : k ≤ n) : Node.clampIndex k n = k := by
  have hk : ¬ (k : Int) < 0 := by omega
  rw [Node.clampIndex, if_neg hk, Int.toNat_natCast, Nat.min_eq_left h]

theorem replaceSlice_run {run : List NodeId} (x : NodeId) :
    replaceSlice (l ++ (run ++ r)) (l.length : Int) ((l.length : Int) + (run.length : Int)) x =
      l ++ x :: r := by
  have hlength : (l ++ (run ++ r)).length = l.length + run.length + r.length := by
    simp only [List.length_append]
    omega
  have hstart := clampIndex_natCast (k := l.length) (n := (l ++ (run ++ r)).length) (by omega)
  have hstop := clampIndex_natCast (k := l.length + run.length) (n := (l ++ (run ++ r)).length)
    (by omega)
  have hbounds : sliceBounds (l ++ (run ++ r)).length (l.length : Int)
      ((l.length : Int) + (run.length : Int)) = (l.length, l.length + run.length) := by
    rw [Node.clampIndex] at hstart hstop
    push_cast at hstop
    simp only [sliceBounds, hstart, hstop]
    rw [Nat.max_eq_right (Nat.le_add_right _ _)]
  unfold replaceSlice
  rw [hbounds]
  simp

theorem insertChild_apply (kind : Text) (texts : List Text) {index : Int} {k : Nat}
    (hk : Node.clampIndex index (a.cell p).children.length = k) (hp : p < a.cells.size) :
    ∃ b, insertChild p index a.cells.size (a.push (leafCell kind texts)) =
        (.ok a.cells.size, b.mark p) ∧
      Puts a b p ((a.cell p).children.take k ++ a.cells.size :: (a.cell p).children.drop k)
        (a.cell p).parts { leafCell kind texts with parent := some p } [] := by
  have hcellp : (a.push (leafCell kind texts)).cell p = a.cell p :=
    Arena.cell_push_of_ne (Nat.ne_of_lt hp)
  have hpn : p ≠ a.cells.size := Nat.ne_of_lt hp
  unfold insertChild
  rw [bind_apply (update_apply _ _), bind_apply (update_apply _ _), bind_apply (markDirty_apply _)]
  refine ⟨_, rfl, rfl, ?_, ?_, ?_, fun j hjp hjn _ => ?_⟩
  · simp only [Arena.size_update, Arena.size_push]
  · have hlt : p < ((a.push (leafCell kind texts)).update a.cells.size fun c =>
        { c with parent := some p }).cells.size := by
      rw [Arena.size_update, Arena.size_push]
      exact Nat.lt_succ_of_lt hp
    rw [Arena.cell_update_self hlt, Arena.cell_update_of_ne hpn, hcellp, replaceSlice_same, hk]
  · rw [Arena.cell_update_of_ne hpn.symm, Arena.cell_update_self (by simp), Arena.cell_push_size]
  · rw [Arena.cell_update_of_ne hjp, Arena.cell_update_of_ne hjn, Arena.cell_push_of_ne hjn]

theorem insertAfter_apply (kind : Text) (texts : List Text)
    (hkids : (a.cell p).children = l ++ old :: r) (hl : old ∉ l)
    (hparent : (a.cell old).parent = some p) (hp : p < a.cells.size) (hold : old < a.cells.size) :
    ∃ b, insertAfter old a.cells.size (a.push (leafCell kind texts)) =
        (.ok a.cells.size, b.mark p) ∧
      Puts a b p (l ++ old :: a.cells.size :: r) (a.cell p).parts
        { leafCell kind texts with parent := some p } [] := by
  have hcellp : (a.push (leafCell kind texts)).cell p = a.cell p :=
    Arena.cell_push_of_ne (Nat.ne_of_lt hp)
  have hcello : (a.push (leafCell kind texts)).cell old = a.cell old :=
    Arena.cell_push_of_ne (Nat.ne_of_lt hold)
  have hindex : (a.push (leafCell kind texts)).indexOf old = l.length :=
    indexOf_eq (by rw [hcellp, hkids]) hl (by rw [hcello, hparent])
  have hk : Node.clampIndex ((l.length : Int) + 1) (a.cell p).children.length = l.length + 1 := by
    have hle : l.length + 1 ≤ (a.cell p).children.length := by
      rw [hkids, List.length_append, List.length_cons]
      omega
    exact clampIndex_natCast hle
  obtain ⟨b, hrun, hputs⟩ := insertChild_apply kind texts hk hp
  unfold insertAfter
  rw [bind_apply (cell_apply _), hcello, hparent]
  dsimp only
  rw [bind_apply get_apply, hindex, hrun]
  refine ⟨b, rfl, ?_⟩
  have htake : (l ++ old :: r).take (l.length + 1) = l ++ [old] := by
    rw [List.take_length_add_append]
    rfl
  have hdrop : (l ++ old :: r).drop (l.length + 1) = r := by
    rw [List.drop_length_add_append]
    rfl
  rwa [hkids, htake, hdrop, List.append_assoc, List.singleton_append] at hputs

/-- The cell of a new node where a run of nodes was: the field and the start of the first, the end
of the last. -/
def runCell (p : NodeId) (c first last : Cell) : Cell :=
  { c with parent := some p, field := first.field, start := first.start, stop := last.stop }

theorem replaceRun_apply (kind : Text) (texts : List Text) {run : List NodeId} {first last : NodeId}
    (hkids : (a.cell p).children = l ++ (run ++ r)) (hfirst : run.head? = some first)
    (hlast : run.getLast? = some last) (hl : first ∉ l)
    (hparent : (a.cell first).parent = some p) (hp : p < a.cells.size)
    (hrun : ∀ i ∈ run, i < a.cells.size) (hpr : p ∉ run) :
    ∃ b, replaceRun p run a.cells.size (a.push (leafCell kind texts)) =
        (.ok a.cells.size, b.mark p) ∧
      Puts a b p (l ++ a.cells.size :: r) (a.cell p).parts
        (runCell p (leafCell kind texts) (a.cell first) (a.cell last)) run := by
  have hfirstMem : first ∈ run := List.mem_of_mem_head? hfirst
  have hlastMem : last ∈ run := List.mem_of_getLast? hlast
  have hnew : a.cells.size ∉ run := fun h => Nat.lt_irrefl _ (hrun _ h)
  have hpn : p ≠ a.cells.size := Nat.ne_of_lt hp
  have hcell {j : NodeId} (hj : j ≠ a.cells.size) :
      (a.push (leafCell kind texts)).cell j = a.cell j := Arena.cell_push_of_ne hj
  have hcellFirst := hcell (Nat.ne_of_lt (hrun first hfirstMem))
  have hcellLast := hcell (Nat.ne_of_lt (hrun last hlastMem))
  have hfp : first ≠ p := fun h => hpr (h ▸ hfirstMem)
  have hlp : last ≠ p := fun h => hpr (h ▸ hlastMem)
  have hfn : first ≠ a.cells.size := Nat.ne_of_lt (hrun first hfirstMem)
  have hln : last ≠ a.cells.size := Nat.ne_of_lt (hrun last hlastMem)
  obtain ⟨more, rfl⟩ : ∃ more, run = first :: more := by
    cases run with
    | nil => simp at hfirst
    | cons i more => exact ⟨more, by simpa using hfirst⟩
  have hindex : (a.push (leafCell kind texts)).indexOf first = l.length :=
    indexOf_eq (by rw [hcell hpn, hkids, List.cons_append]) hl (by rw [hcellFirst, hparent])
  unfold replaceRun
  rw [List.head?_cons, hlast]
  dsimp only
  rw [bind_apply get_apply, hindex, bind_apply (update_apply _ _), bind_apply (cell_apply _),
    bind_apply (update_apply _ _), bind_apply (inherit_apply _ _), bind_apply (cell_apply _),
    bind_apply (update_apply _ _), bind_apply (forIn_update _ _), bind_apply (markDirty_apply _)]
  refine ⟨_, rfl, by simp only [Arena.source_updateAll]; rfl, ?_, ?_, ?_, fun j hjp hjn hjr => ?_⟩
  · simp only [Arena.size_updateAll, Arena.size_update, Arena.size_push]
  · rw [Arena.cell_updateAll_of_notMem hpr, Arena.cell_update_of_ne hpn,
      Arena.cell_update_of_ne hpn, Arena.cell_update_of_ne hpn, Arena.cell_update_self, hcell hpn,
      hkids, replaceSlice_run]
    rw [Arena.size_push]
    exact Nat.lt_succ_of_lt hp
  · rw [Arena.cell_updateAll_of_notMem hnew, Arena.cell_update_self (by simp),
      Arena.cell_update_self (by simp), Arena.cell_update_self (by simp),
      Arena.cell_update_of_ne hpn.symm, Arena.cell_push_size, Arena.cell_update_of_ne hln,
      Arena.cell_update_of_ne hln, Arena.cell_update_of_ne hlp, hcellLast,
      Arena.cell_update_of_ne hfn, Arena.cell_update_of_ne hfp, hcellFirst]
    rfl
  · rw [Arena.cell_updateAll_of_notMem hjr, Arena.cell_update_of_ne hjn,
      Arena.cell_update_of_ne hjn, Arena.cell_update_of_ne hjn, Arena.cell_update_of_ne hjp,
      hcell hjn]

end Placing

end Editing
end Phrasebook
