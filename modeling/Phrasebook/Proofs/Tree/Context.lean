import Phrasebook.Proofs.Text.Cuts
import Phrasebook.Proofs.Tree.Edits
import Phrasebook.Proofs.Tree.Gaining

/-! A node inside the text around it. What a tree prints is the text of any node that is printed in it
between a text before and a text behind, and neither of these changes when that node does. A text that
is put in among the children of such a node is put in in the text of the tree. -/

namespace Phrasebook.Node

def gapBefore (source : Bytes) (cursor : Option Nat) (n : Node) : Bytes :=
  match n.info.start with
  | some m => source.slice cursor (some m.offset)
  | none => []

def cursorAfter (cursor : Option Nat) (n : Node) : Option Nat :=
  match n.info.start with
  | some _ => n.info.stop
  | none => cursor

/-- The octets of nodes inside a node of the source, from a cursor on, and where the source goes on behind
them. -/
def renderFront (source : Bytes) (cursor : Option Nat) : List Node → Except Fault (Bytes × Option Nat)
  | [] => .ok ([], cursor)
  | n :: rest => do
    let bytes ← n.render source
    let (more, last) ← renderFront source (n.cursorAfter cursor) rest
    return (n.gapBefore source cursor ++ (bytes ++ more), last)

section Fronts

variable {source : Bytes} {cursor stop last : Option Nat} {n : Node} {items before after : List Node}
  {x : Bytes}

theorem renderSpliced_cons : renderSpliced source cursor stop (n :: items) = .ok x ↔
    ∃ y z, n.render source = .ok y ∧ renderSpliced source (n.cursorAfter cursor) stop items = .ok z ∧
      x = n.gapBefore source cursor ++ (y ++ z) := by
  rw [renderSpliced, gapBefore, cursorAfter]
  cases n.info.start with
  | some m =>
    simp only [except_bind_eq_ok]
    constructor
    · rintro ⟨y, hy, z, hz, ⟨⟩⟩
      exact ⟨y, z, hy, hz, rfl⟩
    · rintro ⟨y, z, hy, hz, rfl⟩
      exact ⟨y, hy, z, hz, rfl⟩
  | none =>
    simp only [except_bind_eq_ok]
    constructor
    · rintro ⟨y, hy, z, hz, ⟨⟩⟩
      exact ⟨y, z, hy, hz, rfl⟩
    · rintro ⟨y, z, hy, hz, rfl⟩
      exact ⟨y, hy, z, hz, rfl⟩

theorem renderFront_cons : renderFront source cursor (n :: items) = .ok (x, last) ↔
    ∃ y z, n.render source = .ok y ∧ renderFront source (n.cursorAfter cursor) items = .ok (z, last) ∧
      x = n.gapBefore source cursor ++ (y ++ z) := by
  rw [renderFront]
  simp only [except_bind_eq_ok]
  constructor
  · rintro ⟨y, hy, ⟨z, _⟩, hz, ⟨⟩⟩
    exact ⟨y, z, hy, hz, rfl⟩
  · rintro ⟨y, z, hy, hz, rfl⟩
    exact ⟨y, hy, (z, last), hz, rfl⟩

theorem renderItems_cons_iff : renderItems source (n :: items) = .ok x ↔
    ∃ y z, (if n.isPrinted then n.render source else .ok []) = .ok y ∧ renderItems source items = .ok z ∧
      x = y ++ z := by
  refine ⟨renderItems_cons, ?_⟩
  rintro ⟨y, z, hy, hz, rfl⟩
  rw [renderItems, hz]
  by_cases hn : n.isPrinted = true
  · rw [if_pos hn] at hy ⊢
    rw [hy]
    rfl
  · rw [if_neg hn] at hy ⊢
    cases hy
    rfl

theorem renderSpliced_append : renderSpliced source cursor stop (before ++ after) = .ok x ↔
    ∃ y mid z, renderFront source cursor before = .ok (y, mid) ∧
      renderSpliced source mid stop after = .ok z ∧ x = y ++ z := by
  induction before generalizing cursor x with
  | nil =>
    constructor
    · intro h
      exact ⟨[], cursor, x, rfl, h, rfl⟩
    · rintro ⟨_, _, z, ⟨⟩, hz, rfl⟩
      exact hz
  | cons n before ih =>
    rw [List.cons_append, renderSpliced_cons]
    constructor
    · rintro ⟨y, z, hy, hz, rfl⟩
      obtain ⟨y', mid, z', hy', hz', rfl⟩ := ih.1 hz
      exact ⟨_, mid, z', renderFront_cons.2 ⟨y, y', hy, hy', rfl⟩, hz', by simp only [List.append_assoc]⟩
    · rintro ⟨_, mid, z', hfront, hz', rfl⟩
      obtain ⟨y, y', hy, hy', rfl⟩ := renderFront_cons.1 hfront
      exact ⟨y, y' ++ z', hy, ih.2 ⟨y', mid, z', hy', hz', rfl⟩, by simp only [List.append_assoc]⟩

theorem renderItems_append : renderItems source (before ++ after) = .ok x ↔
    ∃ y z, renderItems source before = .ok y ∧ renderItems source after = .ok z ∧ x = y ++ z := by
  induction before generalizing x with
  | nil =>
    constructor
    · intro h
      exact ⟨[], x, rfl, h, rfl⟩
    · rintro ⟨_, z, ⟨⟩, hz, rfl⟩
      exact hz
  | cons n before ih =>
    rw [List.cons_append, renderItems_cons_iff]
    constructor
    · rintro ⟨y, z, hy, hz, rfl⟩
      obtain ⟨y', z', hy', hz', rfl⟩ := ih.1 hz
      exact ⟨_, z', renderItems_cons_iff.2 ⟨y, y', hy, hy', rfl⟩, hz', by rw [List.append_assoc]⟩
    · rintro ⟨_, z', hitems, hz', rfl⟩
      obtain ⟨y, y', hy, hy', rfl⟩ := renderItems_cons_iff.1 hitems
      exact ⟨y, y' ++ z', hy, ih.2 ⟨y', z', hy', hz', rfl⟩, by rw [List.append_assoc]⟩

theorem render_leaf (t : Text) : (leaf t).render source = .ok x ↔ Utf8.encode? t = some x := by
  rw [leaf, build, render_built rfl, List.map_cons, List.map_nil, renderItems_cons_iff, ← Utf8.encode_eq_ok]
  constructor
  · rintro ⟨y, z, hy, ⟨⟩, rfl⟩
    rw [List.append_nil]
    exact hy
  · intro h
    exact ⟨x, [], h, rfl, (List.append_nil x).symm⟩

theorem renderSpliced_leaf (t : Text) : renderSpliced source cursor stop (leaf t :: items) = .ok x ↔
    ∃ y z, Utf8.encode? t = some y ∧ renderSpliced source cursor stop items = .ok z ∧ x = y ++ z := by
  rw [renderSpliced_cons]
  simp only [render_leaf]
  exact Iff.rfl

theorem renderSpliced_leaves {ts : List Text}
    (h : renderSpliced source cursor stop (ts.map leaf ++ items) = .ok x) :
    ∃ y z, Utf8.encode? ts.flatten = some y ∧ renderSpliced source cursor stop items = .ok z ∧
      x = y ++ z := by
  induction ts generalizing x with
  | nil => exact ⟨[], x, rfl, h, rfl⟩
  | cons t ts ih =>
    obtain ⟨y, z, hy, hz, rfl⟩ := (renderSpliced_leaf t).1 h
    obtain ⟨y', z', hy', hz', rfl⟩ := ih hz
    exact ⟨y ++ y', z', Utf8.encode?_append hy hy', hz', (List.append_assoc _ _ _).symm⟩

theorem renderSpliced_of_areLaid {a b : Nat} (h : areLaid a b items = true) :
    renderSpliced source (some a) (some b) items = .ok (source.slice (some a) (some b)) := by
  induction items generalizing a with
  | nil => rfl
  | cons n items ih =>
    obtain ⟨c, d, hn, hac, hitems⟩ := areLaid_cons.1 h
    obtain ⟨m, hm, rfl⟩ := Option.map_eq_some_iff.1 hn.2.1
    have hrest : renderSpliced source (n.cursorAfter (some a)) (some b) items =
        .ok (source.slice (some d) (some b)) := by
      rw [cursorAfter, hm, hn.2.2]
      exact ih hitems
    have hcd := le_of_laidAt hn
    have hdb := le_of_areLaid hitems
    refine renderSpliced_cons.2 ⟨_, _, render_clean hn, hrest, ?_⟩
    rw [gapBefore, hm, Utf8.slice_append hcd hdb, Utf8.slice_append hac (Nat.le_trans hcd hdb)]

end Fronts

def IsShown (n : Node) : Prop :=
  (∃ a b ps, Prints n a b ps) ∨ n.info.built = true ∧ ∃ es, Emits n.items es

def IsPrintedAlong : Path → Node → Prop
  | [], _ => True
  | k :: path, n => ∀ c, n.children[k]? = some c →
    (n.info.built = true → c.isPrinted = true) ∧ IsPrintedAlong path c

section Showing

variable {source : Bytes} {n c : Node} {x : Bytes}

theorem Prints.isShown {a b : Nat} {ps : List Piece} (h : Prints n a b ps) : n.IsShown := .inl ⟨a, b, ps, h⟩

theorem PrintsItems.isShown {a b : Nat} {items : List Node} {ps : List Piece} (h : PrintsItems a b items ps)
    (hc : c ∈ items) : c.IsShown := by
  induction items generalizing a ps with
  | nil => cases hc
  | cons n items ih =>
    cases h with
    | child _ hn hrest =>
      obtain rfl | hc := List.mem_cons.1 hc
      · exact hn.isShown
      · exact ih hrest hc
    | added hbuilt _ _ he _ hrest =>
      obtain rfl | hc := List.mem_cons.1 hc
      · exact .inr ⟨hbuilt, _, he⟩
      · exact ih hrest hc

theorem Emits.isShown {items : List Node} {es : List Piece} (h : Emits items es) (hc : c ∈ items)
    (hchild : c.isChild = true) (hprinted : c.isPrinted = true) : c.IsShown := by
  induction items generalizing es with
  | nil => cases hc
  | cons n items ih =>
    cases h with
    | text hrest =>
      obtain rfl | hc := List.mem_cons.1 hc
      · cases hchild
      · exact ih hrest hc
    | hidden hn hrest =>
      obtain rfl | hc := List.mem_cons.1 hc
      · rw [hn] at hprinted
        cases hprinted
      · exact ih hrest hc
    | built _ hbuilt _ hi hrest =>
      obtain rfl | hc := List.mem_cons.1 hc
      · exact .inr ⟨hbuilt, _, hi⟩
      · exact ih hrest hc
    | expression _ hn hrest =>
      obtain rfl | hc := List.mem_cons.1 hc
      · exact hn.isShown
      · exact ih hrest hc

theorem IsShown.of_mem_items (h : n.IsShown) (hc : c ∈ n.items) (hchild : c.isChild = true)
    (hprinted : n.info.built = true → c.isPrinted = true) : c.IsShown := by
  rcases h with ⟨a, b, ps, h⟩ | ⟨hbuilt, es, h⟩
  · cases h with
    | clean hn =>
      obtain ⟨d, e, hlaid⟩ := exists_laidAt (isLaid_of_mem_items hn.1 hc)
      exact (Prints.clean hlaid).isShown
    | spliced _ _ _ h => exact h.isShown hc
    | literal hbuilt _ _ h => exact h.isShown hc hchild (hprinted hbuilt)
    | around hbuilt _ h _ _ => exact h.isShown hc hchild (hprinted hbuilt)
  · exact h.isShown hc hchild (hprinted hbuilt)

theorem IsShown.render_eq (h : n.IsShown) (hbuilt : n.info.built = false) : n.render source =
    renderSpliced source (n.info.start.map (·.offset)) n.info.stop n.items := by
  rcases h with ⟨a, b, ps, h⟩ | ⟨hbuilt', -⟩
  · cases h with
    | clean hn =>
      cases n with
      | text t => cases hn.1
      | branch i items =>
        obtain ⟨-, -, -, m, e, hm, he, hitems⟩ := isLaid_branch.1 hn.1
        obtain rfl : m.offset = a := by simpa [info, hm] using hn.2.1
        obtain rfl : e = b := by simpa [info, he] using hn.2.2
        rw [render_clean hn, hn.2.1, hn.2.2]
        exact (renderSpliced_of_areLaid hitems).symm
    | spliced hbuilt hdirty hspan _ =>
      rw [hspan.1, hspan.2]
      exact render_spliced hbuilt hdirty hspan
    | literal hbuilt' _ _ _ => exact absurd (hbuilt.symm.trans hbuilt') Bool.false_ne_true
    | around hbuilt' _ _ _ _ => exact absurd (hbuilt.symm.trans hbuilt') Bool.false_ne_true
  · exact absurd (hbuilt.symm.trans hbuilt') Bool.false_ne_true

end Showing

theorem IsShown.at? {path : Path} {n m : Node} (h : n.IsShown) (hpath : IsPrintedAlong path n)
    (hm : n.at? path = some m) : m.IsShown := by
  induction path generalizing n with
  | nil =>
    cases hm
    exact h
  | cons k path ih =>
    obtain ⟨c, hc, hm⟩ := Option.bind_eq_some_iff.1 hm
    obtain ⟨hprinted, hpath⟩ := hpath c hc
    obtain ⟨hmem, hchild⟩ := List.mem_filter.1 (List.mem_of_getElem? hc)
    exact ih (h.of_mem_items hmem hchild hprinted) hpath hm

structure TakesPlace (n n' : Node) : Prop where
  isChild : n'.isChild = n.isChild
  isPrinted : n'.isPrinted = n.isPrinted
  start : n'.info.start = n.info.start
  stop : n'.info.stop = n.info.stop

theorem TakesPlace.trans {n n' n'' : Node} (h : TakesPlace n n') (h' : TakesPlace n' n'') :
    TakesPlace n n'' :=
  ⟨h'.isChild.trans h.isChild, h'.isPrinted.trans h.isPrinted, h'.start.trans h.start,
    h'.stop.trans h.stop⟩

theorem Edits.takesPlace {n n' : Node} (h : Edits n n') : TakesPlace n n' := by
  obtain ⟨i, items, items', rfl, rfl⟩ := h
  exact ⟨rfl, rfl, rfl, rfl⟩

theorem takesPlace_surround (kind : String) (before after : List Node) {n : Node} (hn : n.isChild = true) :
    TakesPlace n ((surround kind before after n).inPlaceOf n) := by
  cases n with
  | text t => cases hn
  | branch i items => exact ⟨rfl, rfl, rfl, rfl⟩

/-- A tree in which another node was put in the place of the one at the end of a path, and nothing else was
changed. -/
inductive Exchanged (m m' : Node) : Path → Node → Node → Prop
  | here (h : TakesPlace m m') : Exchanged m m' [] m m'
  | inside {i : Info} {before after : List Node} {c c' : Node} {path : Path} (hc : c.isChild = true)
      (h : Exchanged m m' path c c') : Exchanged m m' (before.countP isChild :: path)
        (branch i (before ++ c :: after)) (branch { i with dirty := true } (before ++ c' :: after))

section Exchanging

variable {n n' m m' : Node} {path more : Path}

theorem Exchanged.takesPlace (h : Exchanged m m' path n n') : TakesPlace n n' := by
  cases h with
  | here h => exact h
  | inside hc h => exact Edits.takesPlace ⟨_, _, _, rfl, rfl⟩

theorem Exchanged.at? (h : Exchanged m m' path n n') : n.at? path = some m ∧ n'.at? path = some m' := by
  induction h with
  | here => exact ⟨rfl, rfl⟩
  | inside hc h ih =>
    have hc' := h.takesPlace.isChild.trans hc
    rw [Node.at?, Node.at?, children, children, items, items, getElem?_filter_isChild hc,
      getElem?_filter_isChild hc']
    exact ih

theorem exchanged_of_editAt {f : Info → List Node → Option (List Node)}
    (h : editAt f path n = some n') : ∃ i items items', n.at? path = some (branch i items) ∧
      f i items = some items' ∧
      Exchanged (branch i items) (branch { i with dirty := true } items') path n n' := by
  induction path generalizing n n' with
  | nil =>
    obtain ⟨i, items, items', hn, hitems, hn'⟩ := at?_of_editAt h
    cases hn
    cases hn'
    exact ⟨i, items, items', rfl, hitems, .here (Edits.takesPlace ⟨_, _, _, rfl, rfl⟩)⟩
  | cons k path ih =>
    obtain ⟨j, before, c, c', after, rfl, rfl, rfl, hc, hc', hedit⟩ := editAt_cons h
    obtain ⟨i, items, items', hat, hitems, hexchanged⟩ := ih hedit
    exact ⟨i, items, items', (Exchanged.inside hc hexchanged).at?.1, hitems, .inside hc hexchanged⟩

theorem Exchanged.within {c : Node} (h : Exchanged m m' (path ++ more) n n') (hat : n.at? path = some c) :
    ∃ c', Exchanged m m' more c c' ∧ Exchanged c c' path n n' := by
  induction path generalizing n n' with
  | nil =>
    cases hat
    exact ⟨n', h, .here h.takesPlace⟩
  | cons k path ih =>
    generalize hplace : k :: path ++ more = place at h
    cases h with
    | here => cases hplace
    | @inside i before after d d' place hd h =>
      obtain ⟨rfl, rfl⟩ := List.cons.inj hplace
      rw [Node.at?, children, items, getElem?_filter_isChild hd] at hat
      obtain ⟨c', hmore, hc'⟩ := ih h hat
      exact ⟨c', hmore, .inside hd hc'⟩

theorem Exchanged.append {c c' : Node} (h : Exchanged c c' path n n') (hmore : Exchanged m m' more c c') :
    Exchanged m m' (path ++ more) n n' := by
  induction h with
  | here => exact hmore
  | inside hc _ ih => exact .inside hc ih

theorem exchanged_of_wrapAt {k : Nat} {kind : String} {before after : List Node}
    (h : n.wrapAt (path ++ [k]) kind before after = .ok n') :
    ∃ c, Exchanged c ((surround kind before after c).inPlaceOf c) (path ++ [k]) n n' := by
  rw [wrapAt, splitPath, List.getLast?_concat, List.dropLast_concat] at h
  dsimp only [Option.map_some] at h
  split at h
  next root hroot =>
    cases h
    obtain ⟨i, items, items', -, hitems, hexchanged⟩ := exchanged_of_editAt hroot
    obtain ⟨past, c, c', rest, rfl, rfl, rfl, hc, hc'⟩ := updateChild_eq_some hitems
    cases hc'
    exact ⟨c, hexchanged.append (.inside hc (.here (takesPlace_surround kind before after hc)))⟩
  next => cases h

theorem Exchanged.split {k : Nat} (h : Exchanged m m' [k] n n') :
    ∃ i before after, n = branch i (before ++ m :: after) ∧
      n' = branch { i with dirty := true } (before ++ m' :: after) ∧ before.countP isChild = k ∧
      m.isChild = true ∧ TakesPlace m m' := by
  generalize hplace : [k] = place at h
  cases h with
  | here => cases hplace
  | @inside i before after _ _ _ hc h =>
    obtain ⟨rfl, rfl⟩ := List.cons.inj hplace
    cases h with
    | here h => exact ⟨i, before, after, rfl, rfl, rfl, hc, h⟩

theorem Exchanged.child {k : Nat} (h : Exchanged m m' [k] n n') :
    Within k (fun c c' => c = m ∧ c' = m') n n' := by
  obtain ⟨i, before, after, rfl, rfl, rfl, hc, hplace⟩ := h.split
  exact ⟨⟨_, _, _, rfl, rfl⟩, m, m', getElem?_filter_isChild hc, ⟨rfl, rfl⟩,
    filter_replaced hc (hplace.isChild.trans hc)⟩

theorem eq_of_position {before before' after after' : List Node} {c c' : Node}
    (h : before ++ c :: after = before' ++ c' :: after') (hc : c.isChild = true) (hc' : c'.isChild = true)
    (hposition : before.countP isChild = before'.countP isChild) :
    before = before' ∧ c = c' ∧ after = after' := by
  rcases List.append_eq_append_iff.1 h with ⟨ds, rfl, hrest⟩ | ⟨ds, rfl, hrest⟩
  · cases ds with
    | nil =>
      obtain ⟨rfl, rfl⟩ := List.cons.inj hrest
      exact ⟨(List.append_nil _).symm, rfl, rfl⟩
    | cons d ds =>
      obtain ⟨rfl, -⟩ := List.cons.inj hrest
      rw [List.countP_append, List.countP_cons_of_pos hc] at hposition
      omega
  · cases ds with
    | nil =>
      obtain ⟨rfl, rfl⟩ := List.cons.inj hrest
      exact ⟨List.append_nil _, rfl, rfl⟩
    | cons d ds =>
      obtain ⟨rfl, -⟩ := List.cons.inj hrest
      rw [List.countP_append, List.countP_cons_of_pos hc'] at hposition
      omega

theorem Exchanged.trans {n'' m'' : Node} (h : Exchanged m m' path n n')
    (h' : Exchanged m' m'' path n' n'') : Exchanged m m'' path n n'' := by
  induction h generalizing n'' with
  | here h =>
    cases h' with
    | here h' => exact .here (h.trans h')
  | @inside i before after c c' path hc h ih =>
    have hc' : c'.isChild = true := h.takesPlace.isChild.trans hc
    generalize hpath : before.countP isChild :: path = place at h'
    generalize hnode : branch { i with dirty := true } (before ++ c' :: after) = node at h'
    cases h' with
    | here => cases hpath
    | @inside j past rest d d' path' hd h' =>
      obtain ⟨hposition, rfl⟩ := List.cons.inj hpath
      obtain ⟨rfl, hitems⟩ := branch.inj hnode
      obtain ⟨rfl, rfl, rfl⟩ := eq_of_position hitems hc' hd hposition
      exact .inside hc (ih h')

end Exchanging

def Framed (R : Bytes → Bytes → Prop) (x x' : Bytes) : Prop :=
  ∃ front y y' back, R y y' ∧ x = front ++ (y ++ back) ∧ x' = front ++ (y' ++ back)

/-- Whenever the second node can be printed, so can the first, and their octets are related. -/
def Relates (source : Bytes) (R : Bytes → Bytes → Prop) (n n' : Node) : Prop :=
  ∀ x', n'.render source = .ok x' → ∃ x, n.render source = .ok x ∧ R x x'

def Puts (t : Text) (x x' : Bytes) : Prop := x = [] ∧ Utf8.encode? t = some x'

/-- Octets that texts were put into, one after the other, the last one first. -/
inductive PutIn : List Text → Bytes → Bytes → Prop
  | nil (x : Bytes) : PutIn [] x x
  | cons {t : Text} {ts : List Text} {x y z : Bytes} (h : PutIn ts x y) (ht : Framed (Puts t) y z) :
      PutIn (t :: ts) x z

namespace Framed

variable {R : Bytes → Bytes → Prop} {x x' : Bytes}

theorem of_rel (h : R x x') : Framed R x x' := ⟨[], x, x', [], h, by simp, by simp⟩

theorem join (h : Framed (Framed R) x x') : Framed R x x' := by
  obtain ⟨front, _, _, back, ⟨inner, y, y', outer, hy, rfl, rfl⟩, rfl, rfl⟩ := h
  exact ⟨front ++ inner, y, y', outer ++ back, hy, by simp only [List.append_assoc],
    by simp only [List.append_assoc]⟩

theorem around (h : Framed R x x') (before after : Bytes) :
    Framed R (before ++ (x ++ after)) (before ++ (x' ++ after)) := by
  obtain ⟨front, y, y', back, hy, rfl, rfl⟩ := h
  exact ⟨before ++ front, y, y', back ++ after, hy, by simp only [List.append_assoc],
    by simp only [List.append_assoc]⟩

end Framed

section Frames

variable {source : Bytes} {R : Bytes → Bytes → Prop} {n n' m m' c c' : Node} {x' : Bytes}

theorem renderSpliced_around {cursor stop : Option Nat} {before after : List Node} (hc : TakesPlace c c')
    (h : renderSpliced source cursor stop (before ++ c' :: after) = .ok x') :
    ∃ front y' back, c'.render source = .ok y' ∧ x' = front ++ (y' ++ back) ∧
      ∀ y, c.render source = .ok y →
        renderSpliced source cursor stop (before ++ c :: after) = .ok (front ++ (y ++ back)) := by
  obtain ⟨x, mid, z, hx, hz, rfl⟩ := renderSpliced_append.1 h
  obtain ⟨y', w, hy', hw, rfl⟩ := renderSpliced_cons.1 hz
  have hafter : c'.cursorAfter mid = c.cursorAfter mid := by
    rw [cursorAfter, cursorAfter, hc.start, hc.stop]
  have hgap : c'.gapBefore source mid = c.gapBefore source mid := by rw [gapBefore, gapBefore, hc.start]
  rw [hafter] at hw
  rw [hgap]
  refine ⟨x ++ c.gapBefore source mid, y', w, hy', by rw [List.append_assoc], fun y hy => ?_⟩
  rw [List.append_assoc]
  exact renderSpliced_append.2 ⟨x, mid, _, hx, renderSpliced_cons.2 ⟨y, w, hy, hw, rfl⟩, rfl⟩

theorem framed_of_renderSpliced {cursor stop : Option Nat} {before after : List Node}
    (hplace : TakesPlace c c') (hc : Relates source R c c')
    (h : renderSpliced source cursor stop (before ++ c' :: after) = .ok x') :
    ∃ x, renderSpliced source cursor stop (before ++ c :: after) = .ok x ∧ Framed R x x' := by
  obtain ⟨front, y', back, hy', rfl, hbefore⟩ := renderSpliced_around hplace h
  obtain ⟨y, hy, hR⟩ := hc y' hy'
  exact ⟨_, hbefore y hy, front, y, y', back, hR, rfl, rfl⟩

theorem framed_of_renderItems {before after : List Node} (hprinted : c.isPrinted = true)
    (hprinted' : c'.isPrinted = true) (hc : Relates source R c c')
    (h : renderItems source (before ++ c' :: after) = .ok x') :
    ∃ x, renderItems source (before ++ c :: after) = .ok x ∧ Framed R x x' := by
  obtain ⟨y, z, hy, hz, rfl⟩ := renderItems_append.1 h
  obtain ⟨v', w, hv', hw, rfl⟩ := renderItems_cons_iff.1 hz
  rw [if_pos hprinted'] at hv'
  obtain ⟨v, hv, hR⟩ := hc v' hv'
  have hv : (if c.isPrinted then c.render source else .ok []) = .ok v := (if_pos hprinted).trans hv
  exact ⟨_, renderItems_append.2 ⟨y, _, hy, renderItems_cons_iff.2 ⟨v, w, hv, hw, rfl⟩, rfl⟩,
    y, v, v', w, hR, rfl, rfl⟩

theorem render_edited {i : Info} {items : List Node} (hbuilt : i.built = false) :
    (branch { i with dirty := true } items).render source =
      renderSpliced source (i.start.map (·.offset)) i.stop items := by
  rw [render, if_neg (by rw [hbuilt]; exact Bool.false_ne_true), if_pos rfl]

theorem framed_of_child {i : Info} {before after : List Node}
    (hn : (branch i (before ++ c :: after)).IsShown) (hplace : TakesPlace c c')
    (hprinted : i.built = true → c.isPrinted = true) (hc : Relates source R c c') :
    Relates source (Framed R) (branch i (before ++ c :: after))
      (branch { i with dirty := true } (before ++ c' :: after)) := by
  intro x' h
  cases hbuilt : i.built with
  | true =>
    rw [render_built (i := { i with dirty := true }) hbuilt] at h
    rw [render_built hbuilt]
    exact framed_of_renderItems (hprinted hbuilt) (hplace.isPrinted.trans (hprinted hbuilt)) hc h
  | false =>
    rw [render_edited hbuilt] at h
    rw [hn.render_eq hbuilt]
    exact framed_of_renderSpliced hplace hc h

theorem framed_of_exchanged {path : Path} (hn : n.IsShown) (hpath : IsPrintedAlong path n)
    (h : Exchanged m m' path n n') (hR : Relates source R m m') : Relates source (Framed R) n n' := by
  induction h with
  | here =>
    intro x' hx'
    obtain ⟨x, hx, hR⟩ := hR x' hx'
    exact ⟨x, hx, .of_rel hR⟩
  | @inside i before after c c' path hc h ih =>
    obtain ⟨hprinted, hpath⟩ := hpath c (getElem?_filter_isChild hc)
    have hshown : c.IsShown := hn.of_mem_items (by simp [Node.items]) hc hprinted
    have hbelow : Relates source (Framed R) c c' := ih hshown hpath
    intro x' hx'
    obtain ⟨x, hx, hframed⟩ := framed_of_child hn h.takesPlace hprinted hbelow x' hx'
    exact ⟨x, hx, hframed.join⟩

theorem insertItem_append (new : Node) {before after : List Node} (hbefore : ∀ n ∈ before, n.isChild = true)
    (hafter : ∀ n ∈ after, n.isChild = true) :
    insertItem new before.length (before ++ after) = before ++ new :: after := by
  induction before with
  | nil =>
    cases after with
    | nil => rfl
    | cons n after =>
      show insertItem new 0 (n :: after) = _
      rw [insertItem, if_pos (List.forall_mem_cons.1 hafter).1]
      rfl
  | cons m before ih =>
    obtain ⟨hm, hbefore⟩ := List.forall_mem_cons.1 hbefore
    rw [List.length_cons, List.cons_append, insertItem, if_pos hm]
    show m :: insertItem new before.length (before ++ after) = _
    rw [ih hbefore]
    rfl

theorem leaf_beside {i : Info} (t : Text) (hbuilt : i.built = false) :
    ((leaf t).mapInfo fun j => { j with standing := sideStanding i }) = leaf t := by
  have hside : sideStanding i = .full := if_neg (by rw [hbuilt]; exact Bool.false_ne_true)
  rw [hside]
  rfl

theorem insertAt_beside {i : Info} {before after : List Node} (t : Text) (hbuilt : i.built = false)
    (hitems : ∀ n ∈ before ++ after, n.isChild = true) :
    (branch i (before ++ after)).insertAt [] before.length (leaf t) =
      some (branch { i with dirty := true } (before ++ leaf t :: after)) := by
  have hcount : (before ++ after).countP isChild = before.length + after.length := by
    rw [← List.length_append]
    exact List.countP_eq_length.2 hitems
  have hclamp : clampIndex before.length ((before ++ after).countP isChild) = before.length := by
    rw [clampIndex, if_neg (by omega), hcount]
    omega
  obtain ⟨hbefore, hafter⟩ := List.forall_mem_append.1 hitems
  rw [insertAt, editAt, Option.map_some, hclamp, leaf_beside t hbuilt,
    insertItem_append (leaf t) hbefore hafter]

theorem relates_insertItem {i : Info} {items : List Node} (k : Nat) {t : Text}
    (hn : (branch i items).IsShown) (hbuilt : i.built = false) :
    Relates source (Framed (Puts t)) (branch i items)
      (branch { i with dirty := true } (insertItem (leaf t) k items)) := by
  intro x' h
  obtain ⟨before, after, rfl, hnew⟩ := insertItem_eq (leaf t) k items
  rw [hnew, render_edited hbuilt] at h
  obtain ⟨y, mid, z, hy, hz, rfl⟩ := renderSpliced_append.1 h
  obtain ⟨v, w, hv, hw, rfl⟩ := (renderSpliced_leaf t).1 hz
  rw [hn.render_eq hbuilt]
  exact ⟨_, renderSpliced_append.2 ⟨y, mid, w, hy, hw, rfl⟩, y, [], v, w, ⟨rfl, hv⟩, rfl, rfl⟩

theorem relates_insertAt {path : Path} {k : Int} {t : Text} (hn : n.IsShown)
    (hpath : IsPrintedAlong path n) (h : n.insertAt path k (leaf t) = some n')
    (hm : n.at? path = some m) (hbuilt : m.info.built = false) :
    Relates source (Framed (Puts t)) n n' := by
  obtain ⟨i, items, items', hat, hitems, hexchanged⟩ := exchanged_of_editAt h
  cases hm.symm.trans hat
  cases hitems
  have hput : Relates source (Framed (Puts t)) (branch i items) (branch { i with dirty := true }
      (insertItem (leaf t) (clampIndex k (items.countP isChild)) items)) :=
    relates_insertItem _ (hn.at? hpath hm) hbuilt
  rw [← leaf_beside t hbuilt] at hput
  intro x' hx'
  obtain ⟨x, hx, hframed⟩ := framed_of_exchanged hn hpath hexchanged hput x' hx'
  exact ⟨x, hx, hframed.join⟩

end Frames

end Phrasebook.Node
