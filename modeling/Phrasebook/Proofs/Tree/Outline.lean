import Phrasebook.Proofs.Tree.Cells
import Phrasebook.Proofs.Tree.Parsed
import Phrasebook.Proofs.Tree.Printing

/-! The arena of a parsed tree. Its nodes are numbered in the order of the text, each before those
below it, and it shows the file of which every region is as parsed. -/

namespace Phrasebook

namespace Node

mutual

/-- How many nodes there are at and below a node. -/
def count : Node → Nat
  | text _ => 1
  | branch _ items => 1 + countIn items

def countIn : List Node → Nat
  | [] => 0
  | n :: rest => count n + countIn rest

end

def stretch (i : Info) : Form :=
  match i.start, i.stop with
  | some m, some b => .source m.offset b
  | _, _ => .text none []

mutual

/-- The region of a node, its nodes numbered from `next` on. -/
def outline (next : NodeId) : Node → Region
  | text _ => .node next (.text none []) []
  | branch i items => .node next (stretch i) (outlineIn (next + 1) items)

def outlineIn (next : NodeId) : List Node → List Region
  | [] => []
  | n :: rest => outline next n :: outlineIn (next + count n) rest

end

mutual

def isReadable (source : Bytes) : Node → Bool
  | text _ => true
  | branch i items =>
    i.start.all (fun m => Utf8.isCut source m.offset) && i.stop.all (Utf8.isCut source) &&
      areReadable source items

def areReadable (source : Bytes) : List Node → Bool
  | [] => true
  | n :: rest => isReadable source n && areReadable source rest

end

end Node

/-- A tree over a text in UTF-8 as a parser delivers it: the nodes lie in order, inside the source
and between its characters. -/
structure Tree.Readable (t : Tree) : Prop where
  laid : t.root.isLaid = true
  stop_le : ∀ b ∈ t.root.info.stop, b ≤ t.source.length
  isText : Utf8.isCut t.source t.source.length = true
  readable : t.root.isReadable t.source = true

namespace Region

mutual

theorem ids_outline : ∀ (n : Node) (next : NodeId), (n.outline next).ids = List.range' next n.count
  | .text _, next => rfl
  | .branch i items, next => by
    rw [Node.outline, ids_node, ids_outlineIn, Node.count, Nat.add_comm 1, List.range'_succ]

theorem ids_outlineIn : ∀ (items : List Node) (next : NodeId),
    idsIn (Node.outlineIn next items) = List.range' next (Node.countIn items)
  | [], next => rfl
  | n :: rest, next => by
    rw [Node.outlineIn, idsIn_cons, ids_outline n, ids_outlineIn rest, Node.countIn,
      List.range'_append_1]

end

theorem stretch_of_isLaid {i : Info} {items : List Node} (h : (Node.branch i items).isLaid = true) :
    ∃ m b, i.start = some m ∧ i.stop = some b ∧ Node.stretch i = .source m.offset b ∧
      Node.areLaid m.offset b items = true := by
  obtain ⟨-, -, -, m, b, hm, hb, hitems⟩ := Node.isLaid_branch.1 h
  exact ⟨m, b, hm, hb, by rw [Node.stretch, hm, hb], hitems⟩

mutual

theorem isPlain_outline : ∀ {n : Node} {next : NodeId}, n.isLaid = true → IsPlain (n.outline next)
  | .text _, _, h => by simp [Node.isLaid] at h
  | .branch i items, next, h => by
    obtain ⟨m, b, -, -, hform, hitems⟩ := stretch_of_isLaid h
    rw [Node.outline, IsPlain, hform]
    exact ⟨rfl, arePlain_outlineIn hitems⟩

theorem arePlain_outlineIn : ∀ {items : List Node} {next : NodeId} {c d : Nat},
    Node.areLaid c d items = true → ArePlain (Node.outlineIn next items)
  | [], _, _, _, _ => trivial
  | n :: rest, next, c, d, h => by
    obtain ⟨_, _, hn, -, hrest⟩ := Node.areLaid_cons.1 h
    rw [Node.outlineIn, ArePlain]
    exact ⟨isPlain_outline hn.1, arePlain_outlineIn hrest⟩

end

mutual

theorem IsPlain.marked {a : Arena} : ∀ {r : Region}, IsPlain r → Marked a r
  | node i form inner, h => by
    rw [IsPlain] at h
    rw [Marked]
    exact ⟨fun _ _ => h.2, ArePlain.marked h.2⟩

theorem ArePlain.marked {a : Arena} : ∀ {rs : List Region}, ArePlain rs → MarkedIn a rs
  | [], _ => trivial
  | r :: rest, h => by
    rw [ArePlain] at h
    rw [MarkedIn]
    exact ⟨IsPlain.marked h.1, ArePlain.marked h.2⟩

end

mutual

theorem laid_outline {source : Bytes} : ∀ {n : Node} {next : NodeId}, n.isLaid = true →
    n.isReadable source = true → Laid source (n.outline next)
  | .text _, _, h, _ => by simp [Node.isLaid] at h
  | .branch i items, next, h, hread => by
    obtain ⟨m, b, hm, hb, hform, hitems⟩ := stretch_of_isLaid h
    simp only [Node.isReadable, hm, hb, Option.all_some, Bool.and_eq_true] at hread
    rw [Node.outline, hform, Laid]
    exact fits_outlineIn hread.1.1 hread.1.2 hitems hread.2

theorem fits_outlineIn {source : Bytes} : ∀ {items : List Node} {next : NodeId} {c d : Nat},
    Utf8.isCut source c = true → Utf8.isCut source d = true → Node.areLaid c d items = true →
      Node.areReadable source items = true → Fits source c d (Node.outlineIn next items)
  | [], _, c, d, hc, hd, h, _ => by
    rw [Node.outlineIn, Fits]
    exact ⟨hc, hd, Node.areLaid_nil.1 h⟩
  | n :: rest, next, c, d, hc, hd, h, hread => by
    obtain ⟨x, y, hn, hle, hrest⟩ := Node.areLaid_cons.1 h
    simp only [Node.areReadable, Bool.and_eq_true] at hread
    have hlaid : Laid source (n.outline next) := laid_outline hn.1 hread.1
    have hspan : (n.outline next).span = some (x, y) := by
      cases n with
      | text t => simp [Node.LaidAt, Node.isLaid] at hn
      | branch i items =>
        obtain ⟨m, b, hm, hb, hform, -⟩ := stretch_of_isLaid hn.1
        obtain ⟨-, hx, hy⟩ := hn
        simp only [Node.info, hm, hb, Option.map_some, Option.some.injEq] at hx hy
        rw [Node.outline, span_node, hform, hx, hy]
        rfl
    have hcuts := Laid.cuts hlaid hspan
    rw [Node.outlineIn, fits_spanned hspan]
    exact ⟨hlaid, ⟨hc, hcuts.1, hle⟩, fits_outlineIn hcuts.2.1 hd hrest hread.2⟩

end

end Region

namespace Arena

def cellOf (parent : Option NodeId) (i : Info) : Cell :=
  { kind := i.kind, named := i.named, field := i.field.map Text.ofString, start := i.start
    stop := i.stop, dirty := i.dirty, parent }

/-- What adding nodes below a parent changes: the parent has more children, the cells that were
there are as before, and the new ones hold the regions of the nodes. -/
structure Grown (a a' : Arena) (parent : Nat) (rs : List Region) : Prop where
  source : a'.source = a.source
  size : a'.cells.size = a.cells.size + (Region.idsIn rs).length
  others : ∀ j < a.cells.size, j ≠ parent → a'.cell j = a.cell j
  kids : a'.cell parent =
    { a.cell parent with children := (a.cell parent).children ++ rs.map Region.id }
  holds : Region.HoldsIn a' (some parent) rs

theorem Grown.trans {a b c : Arena} {parent : Nat} {rs ss : List Region}
    (hparent : parent < a.cells.size) (h : Grown a b parent rs) (h' : Grown b c parent ss)
    (hrs : Region.idsIn rs = List.range' a.cells.size (Region.idsIn rs).length) :
    Grown a c parent (rs ++ ss) where
  source := h'.source.trans h.source
  size := by rw [h'.size, h.size, Region.idsIn_append, List.length_append, Nat.add_assoc]
  others j hj hne := by
    rw [h'.others j (by rw [h.size]; omega) hne, h.others j hj hne]
  kids := by
    rw [h'.kids, h.kids, List.map_append, List.append_assoc]
  holds := by
    rw [Region.holdsIn_iff, List.forall_mem_append, ← Region.holdsIn_iff, ← Region.holdsIn_iff]
    refine ⟨Region.HoldsIn.agrees (by rw [h'.size]; omega) h.holds fun i hi => ?_, h'.holds⟩
    rw [hrs, List.mem_range'_1] at hi
    have hcell := h'.others i (by rw [h.size]; omega) (by omega)
    rw [Cell.Agrees, hcell]

theorem Grown.holds_branch {a a' : Arena} {parent : Option NodeId} {i : Info} {items : List Node}
    {k : Nat} {rs : List Region} (hi : (Node.branch i items).isLaid = true)
    (hk : k < a.cells.size) (hcell : a.cell k = cellOf parent i) (h : Grown a a' k rs) :
    Region.Holds a' parent (.node k (Node.stretch i) rs) := by
  obtain ⟨m, b, hm, hb, hform, -⟩ := Region.stretch_of_isLaid hi
  have hkids := h.kids
  rw [hcell] at hkids
  rw [Region.Holds, hkids, hform, h.size]
  refine ⟨Nat.lt_of_lt_of_le hk (Nat.le_add_right _ _), rfl, ⟨?_, hb, rfl, rfl⟩, h.holds⟩
  simp [cellOf, hm, Form.span]

mutual

theorem grown_addNode : ∀ {n : Node} {a : Arena} {parent : Nat}, n.isLaid = true →
    parent < a.cells.size → Grown a (a.addNode (some parent) n) parent [n.outline a.cells.size]
  | .text _, _, _, h, _ => by simp [Node.isLaid] at h
  | .branch i items, a, parent, h, hparent => by
    obtain ⟨m, b, hm, hb, hform, hitems⟩ := Region.stretch_of_isLaid h
    have hlt (j : Nat) (hj : j < a.cells.size) : j ≠ a.cells.size := Nat.ne_of_lt hj
    let listed := a.update parent fun c => { c with children := c.children ++ [a.cells.size] }
    let added := listed.push (cellOf (some parent) i)
    have hsize : added.cells.size = a.cells.size + 1 := by simp [added, listed]
    have hadded : a.cells.size < added.cells.size := by omega
    have hbelow := grown_addNodes hitems hadded
    have hcell : added.cell a.cells.size = cellOf (some parent) i := by
      simpa [listed] using cell_push_size listed (cellOf (some parent) i)
    rw [hsize] at hbelow
    have hholds := hbelow.holds_branch h (by omega) hcell
    have hsizes : (added.addNodes a.cells.size items).cells.size =
        a.cells.size + (Region.idsIn [(Node.branch i items).outline a.cells.size]).length := by
      rw [hbelow.size, hsize, Region.idsIn_cons, Region.idsIn_nil, List.append_nil, Node.outline,
        Region.ids_node, List.length_cons]
      omega
    refine ⟨hbelow.source, hsizes, fun j hj hne => ?_, ?_, ⟨hholds, trivial⟩⟩
    · refine (hbelow.others j (by omega) (hlt j hj)).trans ?_
      rw [cell_push_of_ne (by simpa [listed] using hlt j hj), cell_update_of_ne hne]
    · refine (hbelow.others parent (by omega) (hlt parent hparent)).trans ?_
      rw [cell_push_of_ne (by simpa [listed] using hlt parent hparent), cell_update_self hparent]
      rfl

theorem grown_addNodes : ∀ {items : List Node} {a : Arena} {parent : Nat} {c d : Nat},
    Node.areLaid c d items = true → parent < a.cells.size →
      Grown a (a.addNodes parent items) parent (Node.outlineIn a.cells.size items)
  | [], a, parent, _, _, _, _ => by
    rw [addNodes, Node.outlineIn]
    exact ⟨rfl, rfl, fun _ _ _ => rfl, by simp, trivial⟩
  | n :: rest, a, parent, c, d, h, hparent => by
    obtain ⟨_, _, hn, -, hrest⟩ := Node.areLaid_cons.1 h
    have hfirst := grown_addNode hn.1 hparent
    have hsize := hfirst.size
    have hids : Region.idsIn [n.outline a.cells.size] = List.range' a.cells.size n.count := by
      rw [Region.idsIn_cons, Region.idsIn_nil, List.append_nil, Region.ids_outline]
    rw [hids, List.length_range'] at hsize
    have hlt : parent < (a.addNode (some parent) n).cells.size := by omega
    have hmore := grown_addNodes hrest hlt
    rw [hsize] at hmore
    rw [addNodes, Node.outlineIn]
    exact Grown.trans hparent hfirst hmore (by rw [hids, List.length_range'])

end

end Arena

theorem Tree.Readable.shows {t : Tree} (h : t.Readable) :
    (Arena.ofTree t).Shows (t.root.outline 0) ∧
      (Arena.ofTree t).cells.size = t.root.count ∧ (Arena.ofTree t).source = t.source := by
  obtain ⟨source, root⟩ := t
  have hlaid : root.isLaid = true := h.laid
  have hreads : Region.Laid source (root.outline 0) := Region.laid_outline h.laid h.readable
  have hnodup : (root.outline 0).ids.Nodup := by
    rw [Region.ids_outline]
    exact List.nodup_range'
  cases root with
  | text t => simp [Node.isLaid] at hlaid
  | branch i items =>
    obtain ⟨m, b, hm, hb, hform, hitems⟩ := Region.stretch_of_isLaid hlaid
    let first := (Arena.mk source #[]).push (Arena.cellOf none i)
    have hzero : 0 < first.cells.size := by simp [first]
    have hgrown := Arena.grown_addNodes hitems hzero
    have hcell : first.cell 0 = Arena.cellOf none i := Arena.cell_push_size ⟨source, #[]⟩ _
    have hholds := hgrown.holds_branch hlaid hzero hcell
    have hspan : ((Node.branch i items).outline 0).span = some (m.offset, b) := by
      rw [Node.outline, Region.span_node, hform]
      rfl
    have hcuts := Region.Laid.cuts hreads hspan
    have hstop : b ≤ source.length := h.stop_le b hb
    refine ⟨⟨hholds, (Region.isPlain_outline hlaid).marked, hnodup, rfl, ?_, ?_⟩, ?_, hgrown.source⟩
    · rw [Node.outline, Region.form_node, hform]
      rfl
    · rw [show (Arena.ofTree ⟨source, .branch i items⟩).source = source from hgrown.source,
        Region.fits_spanned hspan, Region.Fits]
      exact ⟨hreads, ⟨Utf8.isCut_zero, hcuts.1, Nat.zero_le _⟩, hcuts.2.1, h.isText, hstop⟩
    · refine hgrown.size.trans ?_
      rw [Region.ids_outlineIn, List.length_range', Node.count]
      simp [first]

end Phrasebook
