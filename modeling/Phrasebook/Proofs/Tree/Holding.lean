import Phrasebook.Proofs.Tree.Frames

/-! An arena that holds regions. The cells of the nodes of a region say what the region says: span,
children, parts and parent. A node that is not marked dirty has nothing but parsed nodes below it.
Then the printer gives the octets of the region's pieces. -/

namespace Phrasebook

namespace Form

def parts (children : List NodeId) : Form → Option (List Part)
  | source _ _ => none
  | text _ texts => some (texts.map .text)
  | around _ before after =>
    some (before.map .text ++ (children.map .node ++ after.map .text))

/-- Whether a cell is that of a node of a form with the given children. -/
structure Fills (form : Form) (kids : List NodeId) (c : Cell) : Prop where
  start : c.start.map (·.offset) = form.span.map Prod.fst
  stop : c.stop = form.span.map Prod.snd
  children : c.children = kids
  parts : c.parts = form.parts kids

end Form

def Cell.Agrees (c c' : Cell) : Prop := c' = { c with dirty := c'.dirty }

theorem Form.Fills.agrees {form : Form} {kids : List NodeId} {c c' : Cell}
    (h : form.Fills kids c) (hc : c.Agrees c') : form.Fills kids c' := by
  rw [hc]
  exact ⟨h.start, h.stop, h.children, h.parts⟩

namespace Region

open Piece

mutual

def Holds (a : Arena) (parent : Option NodeId) : Region → Prop
  | node i form inner =>
    i < a.cells.size ∧ (a.cell i).parent = parent ∧ form.Fills (inner.map id) (a.cell i) ∧
      HoldsIn a (some i) inner

def HoldsIn (a : Arena) (parent : Option NodeId) : List Region → Prop
  | [] => True
  | r :: rest => Holds a parent r ∧ HoldsIn a parent rest

end

mutual

/-- Whether a region is as it was parsed. -/
def IsPlain : Region → Prop
  | node _ form inner => form.isSource = true ∧ ArePlain inner

def ArePlain : List Region → Prop
  | [] => True
  | r :: rest => IsPlain r ∧ ArePlain rest

end

mutual

def Marked (a : Arena) : Region → Prop
  | node i form inner =>
    (form.isSource = true → (a.cell i).dirty = false → ArePlain inner) ∧ MarkedIn a inner

def MarkedIn (a : Arena) : List Region → Prop
  | [] => True
  | r :: rest => Marked a r ∧ MarkedIn a rest

end

variable {a a' : Arena} {parent : Option NodeId} {r r' : Region} {rs ss : List Region}
  {fs : List Frame}

theorem holdsIn_iff : HoldsIn a parent rs ↔ ∀ r ∈ rs, Holds a parent r := by
  induction rs with
  | nil => simp [HoldsIn]
  | cons r rest ih => rw [HoldsIn, ih, List.forall_mem_cons]

theorem markedIn_iff : MarkedIn a rs ↔ ∀ r ∈ rs, Marked a r := by
  induction rs with
  | nil => simp [MarkedIn]
  | cons r rest ih => rw [MarkedIn, ih, List.forall_mem_cons]

theorem Holds.parent_eq (h : Holds a parent r) : (a.cell r.id).parent = parent := by
  cases r with
  | node i form inner => exact h.2.1

theorem Holds.fills (h : Holds a parent r) : r.form.Fills (r.inner.map id) (a.cell r.id) := by
  cases r with
  | node i form inner => exact h.2.2.1

theorem Holds.inner (h : Holds a parent r) : ∀ s ∈ r.inner, Holds a (some r.id) s := by
  cases r with
  | node i form inner => exact holdsIn_iff.1 h.2.2.2

mutual

theorem Holds.lt_size : ∀ {r : Region} {parent : Option NodeId}, Holds a parent r →
    ∀ i ∈ r.ids, i < a.cells.size
  | node i form inner, parent, h => by
    rw [Holds] at h
    rw [ids_node, List.forall_mem_cons]
    exact ⟨h.1, HoldsIn.lt_size h.2.2.2⟩

theorem HoldsIn.lt_size : ∀ {rs : List Region} {parent : Option NodeId}, HoldsIn a parent rs →
    ∀ i ∈ idsIn rs, i < a.cells.size
  | [], _, _ => by simp
  | r :: rest, parent, h => by
    rw [HoldsIn] at h
    rw [idsIn_cons, List.forall_mem_append]
    exact ⟨Holds.lt_size h.1, HoldsIn.lt_size h.2⟩

end

mutual

theorem Holds.agrees (hsize : a.cells.size ≤ a'.cells.size) :
    ∀ {r : Region} {parent : Option NodeId}, Holds a parent r →
      (∀ i ∈ r.ids, (a.cell i).Agrees (a'.cell i)) → Holds a' parent r
  | node i form inner, parent, h, hcell => by
    rw [Holds] at h ⊢
    rw [ids_node, List.forall_mem_cons] at hcell
    refine ⟨Nat.lt_of_lt_of_le h.1 hsize, ?_, h.2.2.1.agrees hcell.1,
      HoldsIn.agrees hsize h.2.2.2 hcell.2⟩
    rw [hcell.1]
    exact h.2.1

theorem HoldsIn.agrees (hsize : a.cells.size ≤ a'.cells.size) :
    ∀ {rs : List Region} {parent : Option NodeId}, HoldsIn a parent rs →
      (∀ i ∈ idsIn rs, (a.cell i).Agrees (a'.cell i)) → HoldsIn a' parent rs
  | [], _, _, _ => trivial
  | r :: rest, parent, h, hcell => by
    rw [HoldsIn] at h ⊢
    rw [idsIn_cons, List.forall_mem_append] at hcell
    exact ⟨Holds.agrees hsize h.1 hcell.1, HoldsIn.agrees hsize h.2 hcell.2⟩

end

mutual

theorem Marked.of_dirty : ∀ {r : Region}, Marked a r →
    (∀ i ∈ r.ids, (a.cell i).dirty = true → (a'.cell i).dirty = true) → Marked a' r
  | node i form inner, h, hdirty => by
    rw [Marked] at h ⊢
    rw [ids_node, List.forall_mem_cons] at hdirty
    refine ⟨fun hform hclean => h.1 hform ?_, MarkedIn.of_dirty h.2 hdirty.2⟩
    cases hd : (a.cell i).dirty with
    | false => rfl
    | true => rw [hdirty.1 hd] at hclean; cases hclean

theorem MarkedIn.of_dirty : ∀ {rs : List Region}, MarkedIn a rs →
    (∀ i ∈ idsIn rs, (a.cell i).dirty = true → (a'.cell i).dirty = true) → MarkedIn a' rs
  | [], _, _ => trivial
  | r :: rest, h, hdirty => by
    rw [MarkedIn] at h ⊢
    rw [idsIn_cons, List.forall_mem_append] at hdirty
    exact ⟨Marked.of_dirty h.1 hdirty.1, MarkedIn.of_dirty h.2 hdirty.2⟩

end

theorem Holds.plug (hsize : a.cells.size ≤ a'.cells.size) (h : Holds a parent (plug fs r))
    (hframes : ∀ i ∈ fs.flatMap Frame.ids, (a.cell i).Agrees (a'.cell i))
    (hr : ∀ parent, Holds a parent r → Holds a' parent r') (hid : r'.id = r.id) :
    Holds a' parent (Region.plug fs r') := by
  induction fs generalizing r r' with
  | nil => exact hr parent h
  | cons f fs ih =>
    rw [List.flatMap_cons, List.forall_mem_append, Frame.ids, List.forall_mem_cons,
      List.forall_mem_append] at hframes
    obtain ⟨⟨hf, hleft, hright⟩, hrest⟩ := hframes
    refine ih h hrest (fun q hq => ?_) rfl
    rw [Frame.fill, Holds, holdsIn_iff, List.forall_mem_append, List.forall_mem_cons] at hq ⊢
    obtain ⟨hlt, hparent, hfills, hl, hmid, hrt⟩ := hq
    refine ⟨Nat.lt_of_lt_of_le hlt hsize, ?_, ?_, ?_, hr _ hmid, ?_⟩
    · rw [hf]
      exact hparent
    · have hfills := hfills.agrees hf
      simpa only [List.map_append, List.map_cons, hid] using hfills
    · exact holdsIn_iff.1 (HoldsIn.agrees hsize (holdsIn_iff.2 hl) hleft)
    · exact holdsIn_iff.1 (HoldsIn.agrees hsize (holdsIn_iff.2 hrt) hright)

theorem Marked.plug (h : Marked a (plug fs r))
    (hdirty : ∀ i ∈ fs.flatMap Frame.ids, (a.cell i).dirty = true → (a'.cell i).dirty = true)
    (hframes : ∀ f ∈ fs, (a'.cell f.id).dirty = true) (hr : Marked a r → Marked a' r') :
    Marked a' (Region.plug fs r') := by
  induction fs generalizing r r' with
  | nil => exact hr h
  | cons f fs ih =>
    rw [List.flatMap_cons, List.forall_mem_append, Frame.ids, List.forall_mem_cons,
      List.forall_mem_append] at hdirty
    rw [List.forall_mem_cons] at hframes
    obtain ⟨⟨-, hleft, hright⟩, hrest⟩ := hdirty
    refine ih h hrest hframes.2 (fun hq => ?_)
    rw [Frame.fill, Marked, markedIn_iff, List.forall_mem_append, List.forall_mem_cons] at hq ⊢
    obtain ⟨-, hl, hmid, hrt⟩ := hq
    refine ⟨fun _ hclean => ?_, ?_, hr hmid, ?_⟩
    · rw [hframes.1] at hclean
      cases hclean
    · exact markedIn_iff.1 (MarkedIn.of_dirty (markedIn_iff.2 hl) hleft)
    · exact markedIn_iff.1 (MarkedIn.of_dirty (markedIn_iff.2 hrt) hright)

theorem Holds.middle (h : Holds a none (Region.plug fs r)) :
    Holds a (fs.head?.map Frame.id) r := by
  cases fs with
  | nil => exact h
  | cons f fs =>
    have hfill : ∃ q, Holds a q (f.fill r) := by
      induction fs generalizing f r with
      | nil => exact ⟨none, h⟩
      | cons g fs ih =>
        obtain ⟨q, hq⟩ := ih (f := g) h
        exact ⟨some g.id, hq.inner _ (by simp [Frame.fill])⟩
    obtain ⟨q, hq⟩ := hfill
    exact hq.inner _ (by simp [Frame.fill])

theorem Marked.middle (h : Marked a (Region.plug fs r)) : Marked a r := by
  induction fs generalizing r with
  | nil => exact h
  | cons f fs ih =>
    have hfill := ih h
    rw [Frame.fill, Marked, markedIn_iff] at hfill
    exact hfill.2 r (by simp)

theorem Holds.ancestorsFrom {n : Nat} (h : Holds a none (Region.plug fs r)) (hn : fs.length ≤ n) :
    a.ancestorsFrom n (a.cell r.id).parent = fs.map Frame.id := by
  induction fs generalizing r n with
  | nil =>
    rw [h.middle.parent_eq]
    cases n <;> rfl
  | cons f fs ih =>
    rw [h.middle.parent_eq]
    cases n with
    | zero => simp at hn
    | succ n =>
      have hrest := ih (r := f.fill r) h (Nat.le_of_succ_le_succ hn)
      rw [List.head?_cons, Option.map_some, Arena.ancestorsFrom, List.map_cons, ← hrest]
      rfl

theorem length_le_size (h : Holds a parent r) (hnodup : r.ids.Nodup) :
    r.ids.length ≤ a.cells.size := by
  have hsubset : r.ids ⊆ List.range a.cells.size :=
    fun i hi => List.mem_range.2 (h.lt_size i hi)
  simpa using (List.subperm_of_subset hnodup hsubset).length_le

theorem length_frames_le (fs : List Frame) (r : Region) : fs.length ≤ (Region.plug fs r).ids.length := by
  rw [(ids_plug fs r).length_eq, List.length_append]
  have hframes : fs.length ≤ (fs.flatMap Frame.ids).length := by
    induction fs with
    | nil => simp
    | cons f fs ih =>
      rw [List.flatMap_cons, List.length_append, Frame.ids, List.length_cons, List.length_cons]
      omega
  omega

theorem Holds.ancestors (h : Holds a none (Region.plug fs r)) (hnodup : (Region.plug fs r).ids.Nodup) :
    a.ancestors r.id = fs.map Frame.id :=
  h.ancestorsFrom (Nat.le_trans (length_frames_le fs r) (length_le_size h hnodup))

end Region
end Phrasebook
