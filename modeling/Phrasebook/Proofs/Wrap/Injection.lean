import Phrasebook.Proofs.Scope.Routes
import Phrasebook.Proofs.Wrap.Binding

/-! What a binding does to the function it goes into, and to the scopes around that: the body opens
with the statement, and no name is shown that was not shown before. -/

namespace Phrasebook.Binding

open Node

/-- A block that opens with a statement: as a part of the text after its brace, or as one of the texts
that the block was made of. -/
def OpensWith (statement : Text) (block : Node) : Prop :=
  (∃ t standing, block.children[1]? = some ((leaf t).mapInfo fun i => { i with standing }) ∧
    statement <:+: t) ∨
  ∃ (fs gs : List Text) (n : Node), block.items = fs.map .text ++ n :: gs.map .text ∧ statement ∈ fs

structure Fills (statement : Text) (body body' : Node) : Prop where
  field : body'.field = body.field
  isChild : body'.isChild = body.isChild
  names : ∀ source, Scope.patternNames source body' = Scope.patternNames source body
  opens : OpensWith statement body'

theorem patternNames_leaf (source : Bytes) (t : Text) (standing : Standing) :
    Scope.patternNames source ((leaf t).mapInfo fun i => { i with standing }) = [] := by
  simp [leaf, build, mapInfo, Scope.patternNames, Scope.patternNamesIn, Scope.unboundFields, isChild]

theorem textD_full (source : Bytes) (i : Info) (items : List Node) :
    (branch { i with standing := .full } items).textD source = (branch i items).textD source := by
  simp only [textD, text?, render]

theorem patternNames_full (source : Bytes) (n : Node) :
    Scope.patternNames source (n.mapInfo fun i => { i with standing := .full }) =
      Scope.patternNames source n := by
  cases n with
  | text t => rfl
  | branch i items => simp only [mapInfo, Scope.patternNames, textD_full]

theorem patternNames_block (source : Bytes) {n : Node} (hblock : n.kind = "statement_block") :
    Scope.patternNames source n = Scope.patternNamesIn source [] n.items := by
  cases n with
  | text t => rfl
  | branch i items =>
    change i.kind = "statement_block" at hblock
    simp [Scope.patternNames, hblock, Scope.unboundFields, Node.items]

theorem patternNamesIn_cons {source : Bytes} {n : Node} {rest : List Node} (hn : n.isChild = true) :
    Scope.patternNamesIn source [] (n :: rest) =
      Scope.patternNames source n ++ Scope.patternNamesIn source [] rest := by
  rw [Scope.patternNamesIn]
  cases n.field <;> simp [hn]

theorem patternNamesIn_texts (source : Bytes) (skipped : List String) (ts : List Text) :
    Scope.patternNamesIn source skipped (ts.map .text) = [] := by
  induction ts with
  | nil => rfl
  | cons t ts ih => simp [Scope.patternNamesIn, isChild, ih]

theorem fills_insert {body body' : Node} {t statement : Text} (hblock : body.kind = "statement_block")
    (hbrace : body.children ≠ []) (ht : statement <:+: t)
    (h : body.insertAt [] 1 (leaf t) = some body') : Fills statement body body' := by
  obtain ⟨i, items, items', hbody, hitems, hbody'⟩ := at?_of_editAt h
  cases hbody
  cases hbody'
  cases hitems
  refine ⟨rfl, rfl, fun source => ?_, .inl ⟨t, sideStanding i, ?_, ht⟩⟩
  · obtain ⟨before, after, hsplit, hnew⟩ := insertItem_eq
      ((leaf t).mapInfo fun n => { n with standing := sideStanding i })
      (clampIndex 1 (items.countP Node.isChild)) items
    have hblock' : (branch { i with dirty := true } (before ++ (leaf t).mapInfo
      (fun n => { n with standing := sideStanding i }) :: after)).kind = "statement_block" := hblock
    rw [hnew, patternNames_block source hblock, patternNames_block source hblock', Node.items,
      Scope.patternNamesIn_inserted (patternNames_leaf source t _), ← hsplit]
    rfl
  · have hcount : 1 ≤ items.countP Node.isChild := by
      rw [List.countP_eq_length_filter]
      exact List.length_pos_iff.2 hbrace
    have hone : clampIndex 1 (items.countP Node.isChild) = 1 := Nat.min_eq_left hcount
    rw [hone]
    exact getElem?_filter_insertItem (isChild_inserted t i) hcount

theorem fills_surround {body : Node} {fs gs : List Text} {statement : Text}
    (hchild : body.isChild = true) (hfs : statement ∈ fs) :
    Fills statement body
      ((surround "statement_block" (fs.map .text) (gs.map .text) body).inPlaceOf body) := by
  have hfull : (body.mapInfo fun i => { i with standing := .full }).isChild = true := by
    cases body with
    | text t => simp [Node.isChild] at hchild
    | branch i items => rfl
  have hitems : ((surround "statement_block" (fs.map .text) (gs.map .text) body).inPlaceOf body).items =
      fs.map .text ++ body.mapInfo (fun i => { i with standing := .full }) :: gs.map .text := by
    rw [surround, inPlaceOf, mapInfo, map_printedOnly, map_printedOnly]
    rfl
  refine ⟨rfl, ?_, fun source => ?_, .inr ⟨fs, gs, _, hitems, hfs⟩⟩
  · cases body with
    | text t => simp [Node.isChild] at hchild
    | branch i items => rfl
  · rw [patternNames_block source rfl, hitems, Scope.patternNamesIn_append,
      patternNamesIn_texts, patternNamesIn_cons hfull, patternNamesIn_texts, patternNames_full,
      List.nil_append, List.append_nil]

section Editing

variable {root root' fn body : Node} {path : Path} {k : Nat}

theorem BodyFilled.exists_edit {statement : Text}
    (h : BodyFilled root path k body statement root') (hat : root.at? path = some fn)
    (hbody : fn.children[k]? = some body) :
    ∃ fill, root.editAt (fun _ => updateChild fill k) path = some root' ∧
      ∀ body', fill body = some body' → Fills statement body body' := by
  cases h with
  | first hblock hbrace ht h =>
    rw [at?_append, hat, Option.bind_some, at?, hbody, Option.bind_some, at?] at hbrace
    rw [insertAt, editAt_append_singleton] at h
    refine ⟨_, h, fun body' hbody' => fills_insert hblock ?_ ht hbody'⟩
    simpa using hbrace
  | expanded hblock hfs h =>
    rw [wrapAt, splitPath, List.getLast?_concat, List.dropLast_concat] at h
    dsimp only [Option.map_some] at h
    split at h
    next root'' hroot =>
      cases h
      refine ⟨_, hroot, fun body' hbody' => ?_⟩
      cases hbody'
      exact fills_surround (List.mem_filter.1 (List.mem_of_getElem? hbody)).2 hfs
    next => cases h

theorem keepsNames_insert (source : Bytes) (t : Text) :
    Scope.KeepsNames source (fun i items => some (insertItem
      ((leaf t).mapInfo fun n => { n with standing := sideStanding i })
      (clampIndex 0 (items.countP Node.isChild)) items)) path root := by
  rintro i items items' - ⟨⟩
  obtain ⟨before, after, hsplit, hnew⟩ := insertItem_eq
    ((leaf t).mapInfo fun n => { n with standing := sideStanding i })
    (clampIndex 0 (items.countP Node.isChild)) items
  have hfield : isIn "name" ((leaf t).mapInfo fun n => { n with standing := sideStanding i }) = false :=
    isIn_of_field_none rfl
  rw [hnew]
  refine ⟨?_, ?_⟩
  · rw [Scope.patternNamesIn_inserted (patternNames_leaf source t _), ← hsplit]
  · rw [List.find?_append, List.find?_cons_of_neg (by rw [hfield]; exact Bool.false_ne_true),
      ← List.find?_append, ← hsplit]

theorem keepsNames_fill {fill : Node → Option Node} {statement : Text} (source : Bytes)
    (hat : root.at? path = some fn) (hbody : fn.children[k]? = some body)
    (hfield : body.field = some "body")
    (hfill : ∀ body', fill body = some body' → Fills statement body body') :
    Scope.KeepsNames source (fun _ => updateChild fill k) path root := by
  intro i items items' hat' hitems
  obtain ⟨before, c, c', after, rfl, rfl, rfl, hc, hc'⟩ := updateChild_eq_some hitems
  cases hat.symm.trans hat'
  rw [children, Node.items, getElem?_filter_isChild hc] at hbody
  cases hbody
  obtain ⟨hfield', hchild, hnames, -⟩ := hfill c' hc'
  refine ⟨Scope.patternNamesIn_replaced hfield' hchild (hnames source), ?_⟩
  have hin : isIn "name" c' = isIn "name" body := by rw [isIn, isIn, hfield', hchild]
  -- The body is not in the field of the name, so the name is another child.
  rcases find?_replaced before after hin with hsame | ⟨hname, -⟩
  · exact hsame
  · have hname := List.find?_some hname
    rw [isIn, hfield] at hname
    simp at hname

theorem childByField?_fill {fill : Node → Option Node} {statement : Text} {i j : Info}
    {items items' : List Node} (hk : bodyIndex? (.branch i items) = some k)
    (hbody : (Node.branch i items).children[k]? = some body) (hfield : body.field = some "body")
    (hfill : ∀ body', fill body = some body' → Fills statement body body')
    (h : updateChild fill k items = some items') :
    ∃ body', (Node.branch j items').childByField? "body" = some body' ∧
      OpensWith statement body' := by
  obtain ⟨before, c, c', after, rfl, rfl, rfl, hc, hc'⟩ := updateChild_eq_some h
  rw [children, Node.items, getElem?_filter_isChild hc] at hbody
  cases hbody
  obtain ⟨hfield', hchild, -, hopens⟩ := hfill c' hc'
  have hin : isIn "body" c' = true := by simp [isIn, hfield', hchild, hfield, hc]
  -- The position of the body is that of the first child in its field: none before it is in the field.
  have hbefore : before.find? (isIn "body") = none := by
    obtain ⟨hlt, hp, hfirst⟩ := List.findIdx?_eq_some_iff_getElem.1 hk
    refine List.find?_eq_none.2 fun m hm hin => ?_
    obtain ⟨hchild, hfield⟩ := Bool.and_eq_true_iff.1 hin
    obtain ⟨l, hl, hlm⟩ := List.getElem_of_mem (List.mem_filter.2 ⟨hm, hchild⟩)
    refine hfirst l (by rwa [List.countP_eq_length_filter]) ?_
    simp only [children, Node.items, List.filter_append, List.getElem_append_left hl, hlm]
    exact hfield
  refine ⟨c', ?_, hopens⟩
  rw [childByField?_eq, Node.items, List.find?_append, hbefore, Option.none_or,
    List.find?_cons_of_pos hin]

end Editing

variable {source : Bytes} {v : Vocabulary} {mode : Option Side} {injected : List Path}
  {root root' : Node} {target : Target}

def Holds (statement : Text) (fn : Node) : Prop :=
  ∃ body, fn.childByField? "body" = some body ∧ OpensWith statement body

theorem Injects.holds {side : Side} (hroute : Scope.Route target.path root)
    (h : Injects source v mode injected root target root' (.injected side)) :
    side = chooseSide mode target.serverBound ∧ Scope.Leaves source target.path root root' ∧
      ∃ fn, root'.at? target.path = some fn ∧ Holds (statement v side) fn := by
  cases h with
  | @filled fn body root₁ _ k k₁ _ hat hk hbody hasync hfilled =>
    -- Two edits at one place: the function may be made async, which moves its body by one, and then
    -- the body is filled.
    obtain ⟨fn₁, hat₁, hk₁, hchild⟩ := hasync.body hat hk
    obtain ⟨body', hat', hbody', hfield⟩ := body_of_bodyIndex? hk
    cases hbody.symm.trans hbody'
    rw [hat'] at hchild
    have hleaves : Scope.Leaves source target.path root root₁ := by
      cases hasync with
      | already => exact .refl source _ root
      | now h => exact Scope.leaves_of_editAt hroute h (keepsNames_insert source _)
    obtain ⟨fill, hedit, hfill⟩ := hfilled.exists_edit hat₁ hchild
    refine ⟨rfl, hleaves.trans (Scope.leaves_of_editAt (hleaves.target hroute) hedit
      (keepsNames_fill source hat₁ hchild hfield hfill)), ?_⟩
    obtain ⟨i, items, items', hat₁', hitems, hat₂⟩ := at?_of_editAt hedit
    cases hat₁.symm.trans hat₁'
    exact ⟨_, hat₂, childByField?_fill hk₁ hchild hfield hfill hitems⟩

end Phrasebook.Binding
