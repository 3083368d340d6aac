import Phrasebook.Proofs.Tree.Pieces
import Phrasebook.Tree.Edit
import Phrasebook.Tree.Editing

/-! What a file consists of while it is edited. A region is what one node prints: a stretch of the
source with other regions at their places in it, or new text, which may stand for a stretch of the
source, or texts around one other region. An edit rewrites the regions at the nodes it is about and
leaves all others as they are. -/

namespace Phrasebook

inductive Form
  /-- The source from one offset to another, with the inner regions at their places. -/
  | source (start stop : Nat)
  | text (span : Option (Nat × Nat)) (texts : List Text)
  | around (span : Option (Nat × Nat)) (before after : List Text)
deriving DecidableEq

namespace Form

def span : Form → Option (Nat × Nat)
  | source a b => some (a, b)
  | text s _ => s
  | around s _ _ => s

def isSource : Form → Bool
  | source _ _ => true
  | _ => false

end Form

/-- The region of a node: its number, its form, and the regions of its children. -/
inductive Region
  | node (id : NodeId) (form : Form) (inner : List Region)

namespace Region

def id : Region → NodeId
  | node id _ _ => id

def form : Region → Form
  | node _ form _ => form

def inner : Region → List Region
  | node _ _ inner => inner

def span (r : Region) : Option (Nat × Nat) := r.form.span

mutual

/-- A region and all regions in it. -/
def regions : Region → List Region
  | node id form inner => node id form inner :: regionsIn inner

def regionsIn : List Region → List Region
  | [] => []
  | r :: rest => regions r ++ regionsIn rest

end

def ids (r : Region) : List NodeId := r.regions.map id

def idsIn (rs : List Region) : List NodeId := (regionsIn rs).map id

def spanOf (r : Region) (i : NodeId) : Option (Nat × Nat) :=
  (r.regions.find? fun s => s.id = i).bind span

mutual

/-- The pieces that a region prints. -/
def pieces : Region → List Piece
  | node _ (.source a b) inner => splice a b inner
  | node _ (.text (some (a, b)) texts) _ => [.replaced a b (texts.map .inserted)]
  | node _ (.text none texts) _ => texts.map .inserted
  | node _ (.around _ before after) inner =>
    before.map .inserted ++ (piecesIn inner ++ after.map .inserted)

def piecesIn : List Region → List Piece
  | [] => []
  | r :: rest => pieces r ++ piecesIn rest

/-- The source from `cursor` to `stop` with regions in it: a region that stands for a span is there,
any other is where the one before it ends. -/
def splice (cursor stop : Nat) : List Region → List Piece
  | [] => [.kept cursor stop]
  | r :: rest =>
    match r.span with
    | some (a, b) => .kept cursor a :: (pieces r ++ splice b stop rest)
    | none => pieces r ++ splice cursor stop rest

end

mutual

def rewrite (f : Region → List Region) : Region → List Region
  | node id form inner => f (node id form (rewriteIn f inner))

def rewriteIn (f : Region → List Region) : List Region → List Region
  | [] => []
  | r :: rest => rewrite f r ++ rewriteIn f rest

end

def insert : Region → Int → Region → Region
  | node id form inner, index, new =>
    let k := Node.clampIndex index inner.length
    node id form (inner.take k ++ new :: inner.drop k)

end Region

/-- An edit by which one new node of texts comes into a file. -/
inductive Edit
  | replace (old : NodeId) (kind : Text) (texts : List Text)
  | wrap (old : NodeId) (kind : Text) (before after : List Text)
  | replaceRun (parent : NodeId) (run : List NodeId) (kind : Text) (texts : List Text)
  | insertChild (parent : NodeId) (index : Int) (kind : Text) (texts : List Text)
  | insertAfter (anchor : NodeId) (kind : Text) (texts : List Text)

namespace Edit

def sites : Edit → List NodeId
  | replace old _ _ => [old]
  | wrap old _ _ _ => [old]
  | replaceRun _ run _ _ => run
  | insertChild parent _ _ _ => [parent]
  | insertAfter anchor _ _ => [anchor]

/-- The texts that an edit brings. -/
def texts : Edit → List Text
  | replace _ _ texts => texts
  | wrap _ _ before after => before ++ after
  | replaceRun _ _ _ texts => texts
  | insertChild _ _ _ texts => texts
  | insertAfter _ _ texts => texts

/-- The edit of an arena: the new node is made and put where it belongs. -/
def run : Edit → Editing NodeId
  | replace old kind texts => do Editing.replaceWith old (← Editing.build kind (texts.map .text))
  | wrap old kind before after => Editing.wrap old kind (before.map .text) (after.map .text)
  | replaceRun parent run kind texts => do
    Editing.replaceRun parent run (← Editing.build kind (texts.map .text))
  | insertChild parent index kind texts => do
    Editing.insertChild parent index (← Editing.build kind (texts.map .text))
  | insertAfter anchor kind texts => do
    Editing.insertAfter anchor (← Editing.build kind (texts.map .text))

/-- Edits one after the other. -/
def runAll : List Edit → Editing Unit
  | [] => pure ()
  | e :: es => do
    let _ ← e.run
    runAll es

def runSpan (z : Region) (run : List NodeId) : Option (Nat × Nat) :=
  (run.head?.bind z.spanOf).bind fun p => (run.getLast?.bind z.spanOf).map fun q => (p.1, q.2)

/-- What becomes of a region: the new node has the number `new`, and stands for `span` if it takes
the place of a run. -/
def expand (new : NodeId) (span : Option (Nat × Nat)) (r : Region) : Edit → List Region
  | replace old _ texts => if r.id = old then [.node new (.text r.span texts) []] else [r]
  | wrap old _ before after =>
    if r.id = old then [.node new (.around r.span before after) [r]] else [r]
  | replaceRun _ run _ texts =>
    if run.head? = some r.id then [.node new (.text span texts) []]
    else if r.id ∈ run then [] else [r]
  | insertChild parent index _ texts =>
    if r.id = parent then [r.insert index (.node new (.text none texts) [])] else [r]
  | insertAfter anchor _ texts =>
    if r.id = anchor then [r, .node new (.text none texts) []] else [r]

def span (z : Region) : Edit → Option (Nat × Nat)
  | replaceRun _ run _ _ => runSpan z run
  | _ => none

/-- The file after an edit whose new node has the number `new`. -/
def apply (new : NodeId) (z : Region) (e : Edit) : Region :=
  (z.rewrite fun r => e.expand new (e.span z) r).headD z

/-- The file after some edits whose new nodes are numbered from `new` on. -/
def applyAll (new : NodeId) (z : Region) : List Edit → Region
  | [] => z
  | e :: es => applyAll (new + 1) (e.apply new z) es

/-- Whether regions next to each other can give way to one node: either the first and the last of
them stand for spans of the source, or none does. -/
def Spanned (run : List Region) : Prop :=
  (∀ r ∈ run, r.span = none) ∨
    ((run.head?.bind Region.span).isSome ∧ (run.getLast?.bind Region.span).isSome)

/-- Whether the nodes that an edit is about are attached to a file as the edit needs it: a node that
is replaced or wrapped has a parent, and the parent that gets or loses children was parsed. -/
def Attached (z : Region) : Edit → Prop
  | replace old _ _ => ∃ s ∈ z.regions, ∃ c ∈ s.inner, c.id = old
  | wrap old _ _ _ => ∃ s ∈ z.regions, ∃ c ∈ s.inner, c.id = old
  | replaceRun parent run _ _ => ∃ s ∈ z.regions, s.id = parent ∧ s.form.isSource = true ∧
      ∃ before rs after, s.inner = before ++ (rs ++ after) ∧ rs.map Region.id = run ∧ run ≠ [] ∧
        Spanned rs
  | insertChild parent _ _ _ => ∃ s ∈ z.regions, s.id = parent ∧ s.form.isSource = true
  | insertAfter anchor _ _ => ∃ s ∈ z.regions, s.form.isSource = true ∧ ∃ c ∈ s.inner, c.id = anchor

/-- Whether an edit can be made: its nodes are attached and its texts can be written. -/
def Ready (z : Region) (e : Edit) : Prop :=
  e.Attached z ∧ ∀ t ∈ e.texts, (Utf8.encode? t).isSome = true

/-- Whether edits can be made one after the other. -/
def AllReady (new : NodeId) (z : Region) : List Edit → Prop
  | [] => True
  | e :: es => e.Ready z ∧ AllReady (new + 1) (e.apply new z) es

end Edit

namespace Region

variable {r s : Region} {rs ss : List Region}

@[simp] theorem id_node (i : NodeId) (form : Form) (inner : List Region) :
    (node i form inner).id = i := rfl

@[simp] theorem form_node (i : NodeId) (form : Form) (inner : List Region) :
    (node i form inner).form = form := rfl

@[simp] theorem inner_node (i : NodeId) (form : Form) (inner : List Region) :
    (node i form inner).inner = inner := rfl

@[simp] theorem span_node (i : NodeId) (form : Form) (inner : List Region) :
    (node i form inner).span = form.span := rfl

theorem regionsIn_eq (rs : List Region) : regionsIn rs = rs.flatMap regions := by
  induction rs with
  | nil => rfl
  | cons r rest ih => rw [regionsIn, ih, List.flatMap_cons]

@[simp] theorem regionsIn_append (rs ss : List Region) :
    regionsIn (rs ++ ss) = regionsIn rs ++ regionsIn ss := by
  simp [regionsIn_eq]

theorem mem_regions_self (r : Region) : r ∈ r.regions := by
  cases r with
  | node i form inner => simp [regions]

theorem mem_regionsIn : s ∈ regionsIn rs ↔ ∃ r ∈ rs, s ∈ r.regions := by
  rw [regionsIn_eq, List.mem_flatMap]

@[simp] theorem ids_node (i : NodeId) (form : Form) (inner : List Region) :
    (node i form inner).ids = i :: idsIn inner := by
  simp [ids, idsIn, regions]

@[simp] theorem idsIn_nil : idsIn [] = [] := rfl

@[simp] theorem idsIn_cons (r : Region) (rs : List Region) : idsIn (r :: rs) = r.ids ++ idsIn rs := by
  simp [ids, idsIn, regionsIn]

@[simp] theorem idsIn_append (rs ss : List Region) : idsIn (rs ++ ss) = idsIn rs ++ idsIn ss := by
  simp [idsIn, regionsIn_eq]

theorem id_mem_ids (r : Region) : r.id ∈ r.ids := List.mem_map_of_mem (mem_regions_self r)

theorem ids_subset (h : r ∈ rs) : r.ids ⊆ idsIn rs := by
  intro i hi
  obtain ⟨s, hs, rfl⟩ := List.mem_map.1 hi
  exact List.mem_map_of_mem (mem_regionsIn.2 ⟨r, h, hs⟩)

theorem map_id_sublist (rs : List Region) : List.Sublist (rs.map id) (idsIn rs) := by
  induction rs with
  | nil => exact List.Sublist.refl []
  | cons r rest ih =>
    cases r with
    | node i form inner =>
      rw [List.map_cons, idsIn_cons, ids_node]
      exact (ih.trans (List.sublist_append_right _ _)).cons_cons i

theorem map_id_subset (rs : List Region) : rs.map id ⊆ idsIn rs := (map_id_sublist rs).subset

theorem rewriteIn_eq (f : Region → List Region) (rs : List Region) :
    rewriteIn f rs = rs.flatMap (rewrite f) := by
  induction rs with
  | nil => rfl
  | cons r rest ih => rw [rewriteIn, ih, List.flatMap_cons]

@[simp] theorem rewriteIn_append (f : Region → List Region) (rs ss : List Region) :
    rewriteIn f (rs ++ ss) = rewriteIn f rs ++ rewriteIn f ss := by
  simp [rewriteIn_eq]

end Region
end Phrasebook
