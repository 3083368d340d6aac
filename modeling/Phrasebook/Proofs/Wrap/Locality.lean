import Phrasebook.Proofs.Wrap.Naming
import Phrasebook.Proofs.Wrap.Splice

/-! The text that a pass gives, octet by octet. Octets of the source outside the literals that were
wrapped are kept in order, each of these literals is replaced as a whole by what it is rewritten to,
and everything else is put in. A pass that wraps nothing gives the source back. -/

namespace Phrasebook

open Node Piece

namespace Pass

/-- A whole string, a whole template, or a run of JSX text that ends on neither side at more of it. -/
def Wrapped.IsWhole (focus : Focus) (more : List Focus) : Prop :=
  (focus.node.kind = "string" ∧ more = []) ∨ (focus.node.kind = "template_string" ∧ more = []) ∨
    (Literal.isJsxText focus.node = true ∧
      more.map (·.node) = focus.siblingsAfter.takeWhile Literal.isJsxText ∧
      focus.siblingsBefore.head?.any Literal.isJsxText = false)

theorem takeWhile_isRunItem {items : List Node} (h : ∀ n ∈ items, n.isLaid = true) :
    items.takeWhile isRunItem = items.takeWhile Literal.isJsxText := by
  induction items with
  | nil => rfl
  | cons n items ih =>
    rw [List.forall_mem_cons] at h
    rw [List.takeWhile_cons, List.takeWhile_cons, ih h.2, isRunItem, isChild_of_isLaid h.1,
      Bool.true_and]

theorem siblings_of_run {inside : Bool} {parent : Info} {frames : List Frame} {before : List Node}
    {f : Focus} {more rest : List Focus} (hlined : Lined inside parent frames before (f :: rest))
    (hjsx : Literal.isJsxText f.node = true)
    (hmore : more = rest.takeWhile fun p => isRunItem p.node) :
    more.map (·.node) = f.siblingsAfter.takeWhile Literal.isJsxText := by
  rcases hlined.cons_cases with ⟨was, past, n, items, -, -, hitems, -, rfl, rfl⟩ | ⟨-, h⟩
  · have hlaid : ∀ m ∈ items, m.isLaid = true := fun m hm =>
      (hitems m (List.mem_append_right _ (List.mem_cons_of_mem _ hm))).laid
    rw [map_node_takeWhile hmore, Focus.map_node_ofItems, filter_isChild hlaid]
    show _ = (items.filter isChild).takeWhile Literal.isJsxText
    rw [filter_isChild hlaid, takeWhile_isRunItem hlaid]
  · rw [h f List.mem_cons_self] at hjsx
    cases hjsx

theorem isWhole_whenWrapped (env : Env) : WhenWrapped env Wrapped.IsWhole where
  string _ hkind _ := .inl ⟨hkind, rfl⟩
  template _ hkind _ := .inr (.inl ⟨hkind, rfl⟩)
  run _ hlined hjsx hmore _ :=
    .inr (.inr ⟨hjsx, siblings_of_run hlined hjsx hmore, hlined.first_of_run hjsx⟩)

/-- Spans of the expressions that are the first of their names, in the order of the names. -/
structure FirstUsed (source : Bytes) (expressions : List Node) (spans : List (Nat × Nat)) : Prop where
  length : (Placeholder.names source expressions).length = expressions.length
  first : List.Forall₂ (fun name span => ∃ e, ((Placeholder.names source expressions).zip
    expressions).find? (fun p => p.1 == name) = some (name, e) ∧ e.HasSpan span.1 span.2)
    (Placeholder.names source expressions).eraseDups spans

/-- The new text of a template takes up the expressions that its placeholders name first, in this
order; that of any other literal takes up nothing. -/
def Wrapped.Reemits (source : Bytes) (w : Wrapped) (edit : Nat × Nat × List Slot) : Prop :=
  if w.focus.node.kind = "template_string" then
    ∃ t, Literal.templateParts source w.focus.node = .ok t ∧
      FirstUsed source t.expressions (Slot.spans edit.2.2)
  else Slot.spans edit.2.2 = []

theorem firstUsed_of_spans {source : Bytes} {n : Node} {t : Literal.Template}
    {spans : List (Nat × Nat)} (ht : Literal.templateParts source n = .ok t)
    (h : Wrap.OptionsSpan (keptExpressions source n.items) spans) :
    FirstUsed source t.expressions spans := by
  have hlength := Placeholder.length_names source t.expressions
  have honce : (Placeholder.names source t.expressions).eraseDups =
      (keptExpressions source n.items).map (·.1) := by
    rw [keptExpressions_eq ht, Placeholder.map_firstUses_nil, List.map_fst_zip (Nat.le_of_eq hlength)]
  refine ⟨hlength, ?_⟩
  rw [honce, List.forall₂_map_left_iff]
  have hfirst : ∀ o ∈ keptExpressions source n.items, ((Placeholder.names source t.expressions).zip
      t.expressions).find? (fun p => p.1 == o.1) = some o := by
    rw [keptExpressions_eq ht]
    exact fun o ho => Placeholder.find?_of_mem_firstUses ho
  refine ((List.forall₂_and_left _ _).2 ⟨hfirst, h⟩).imp fun o span ho => ?_
  exact ⟨o.2, ho.1, ho.2⟩

theorem exists_spans {options : List (Text × Node)} (h : ∀ o ∈ options, o.2.isLaid = true) :
    ∃ spans, Wrap.OptionsSpan options spans := by
  induction options with
  | nil => exact ⟨[], .nil⟩
  | cons o options ih =>
    rw [List.forall_mem_cons] at h
    obtain ⟨a, b, ho⟩ := exists_laidAt h.1
    obtain ⟨spans, hspans⟩ := ih h.2
    exact ⟨(a, b) :: spans, .cons ho.2 hspans⟩

theorem Sees.exists_spans_kept {env : Env} {owner : Option Text} {frames : List Frame} {f : Focus}
    (h : Sees env owner frames f) :
    ∃ spans, Wrap.OptionsSpan (keptExpressions env.source f.node.items) spans := by
  refine exists_spans fun o ho => ?_
  rw [← map_keptFoci h.parsed.laid] at ho
  obtain ⟨p, hp, rfl⟩ := List.mem_map.1 ho
  exact (h.parsed_kept p.2 (List.mem_map_of_mem hp)).laid

theorem hasSpans_whenWrapped (env : Env) : WhenWrapped env fun f _ =>
    f.node.kind = "template_string" →
      ∃ spans, Wrap.OptionsSpan (keptExpressions env.source f.node.items) spans where
  string hsees _ _ _ := hsees.exists_spans_kept
  template hsees _ _ _ := hsees.exists_spans_kept
  run hsees _ _ _ _ _ := hsees.exists_spans_kept

theorem Wrapped.Edits.reemits {env : Env} {w : Wrapped} {edit : Nat × Nat × List Slot}
    (h : w.Edits env edit) (hspans : w.focus.node.kind = "template_string" →
      ∃ spans, Wrap.OptionsSpan (keptExpressions env.source w.focus.node.items) spans) : w.Reemits env.source edit := by
  obtain ⟨-, -, new, hnew, hslots⟩ := h
  unfold Wrapped.Reemits
  unfold Wrapped.rewriting at hnew
  rw [hslots]
  split at hnew
  next hstring =>
    obtain ⟨value, -, rfl⟩ := except_map_eq_ok.1 hnew
    rw [if_neg (by rw [beq_iff_eq.1 hstring]; decide)]
    exact spans_isFresh (Wrap.isFresh_ofString _ _ _)
  next =>
  split at hnew
  next htemplate =>
    have hkind : w.focus.node.kind = "template_string" := by simpa using htemplate
    obtain ⟨spans, hspans⟩ := hspans hkind
    obtain ⟨t, ht, hnew⟩ := except_bind_eq_ok.1 hnew
    rw [if_pos hkind]
    refine ⟨t, ht, ?_⟩
    obtain ⟨key, -, hnew⟩ := except_bind_eq_ok.1 hnew
    cases hnew
    rw [← keptExpressions_eq ht, Wrap.spans_lookupCall env.function.spelling key hspans]
    exact firstUsed_of_spans ht hspans
  next htemplate =>
    obtain ⟨value, -, rfl⟩ := except_map_eq_ok.1 hnew
    rw [if_neg (by simpa using htemplate)]
    exact spans_isFresh (Wrap.isFresh_ofJsxText _ _ _)

theorem Visit.reemits {env : Env} {owner : Option Text} {frames : List Frame} {f : Focus}
    {made : Made Node} {ws : List Wrapped} {edits : List (Nat × Nat × List Slot)}
    (h : Visit env owner frames f made ws) (hedits : List.Forall₂ (Wrapped.Edits env) ws edits) :
    List.Forall₂ (Wrapped.Reemits env.source) ws edits :=
  ((List.forall₂_and_left _ _).2 ⟨h.forall_wrapped (hasSpans_whenWrapped env), hedits⟩).imp
    fun _ _ hw => hw.2.reemits hw.1

theorem Visit.dirty {env : Env} {frames : List Frame} {f : Focus} {made : Made Node}
    {ws : List Wrapped} (h : Visit env none frames f made ws) (hchanged : made.changed = true) :
    made.part.info.dirty = true := by
  cases h with
  | skipped _ _ => cases hchanged
  | component _ _ _ _ _ => exact Bool.or_eq_true_iff.2 (.inr hchanged)
  | entered _ _ _ => exact Bool.or_eq_true_iff.2 (.inr hchanged)

end Pass

/-- An account of a pass: the literals it wrapped, and the pieces of its text. -/
structure Splices (settings : Settings) (tree : Tree) (out : Transformed) (ws : List Pass.Wrapped)
    (pieces : List Piece) : Prop where
  visit : ∃ made, Pass.Visit (settings.env tree) none [] (Focus.ofRoot tree.root) made ws
  /-- What is kept of the source and what is replaced in it account for all of it. -/
  tiles : Tiles 0 tree.source.length pieces
  octets : ∃ bytes, octetsOf tree.source pieces = some bytes ∧ Utf8.encode? out.code = some bytes
  /-- Each literal is replaced by what it is rewritten to, and nothing else is replaced. -/
  literals : List.Forall₂ (Pass.Wrapped.Edits (settings.env tree)) ws (literalsOf pieces)
  whole : ∀ w ∈ ws, Pass.Wrapped.IsWhole w.focus w.more

theorem Tree.print_modified {tree : Tree} {code : Text} {a b : Nat}
    (hspan : tree.root.HasSpan a b) (hmodified : tree.root.info.dirty = true)
    (h : tree.print = .ok code) :
    ∃ bytes, tree.root.render tree.source = .ok bytes ∧ Utf8.encode? code =
      some (tree.source.slice none (some a) ++ bytes ++ tree.source.slice (some b) none) := by
  rw [print, isModified, if_pos hmodified, hspan.1, hspan.2] at h
  obtain ⟨before, hbefore, h⟩ := except_bind_eq_ok.1 h
  obtain ⟨middle, hmiddle, h⟩ := except_bind_eq_ok.1 h
  obtain ⟨after, hafter, h⟩ := except_bind_eq_ok.1 h
  cases h
  obtain ⟨bytes, hbytes, hmiddle⟩ := except_bind_eq_ok.1 hmiddle
  rw [Utf8.decodeFault_eq_ok] at hbefore hmiddle hafter
  exact ⟨bytes, hbytes, Utf8.encode?_append (Utf8.encode?_append hbefore hmiddle) hafter⟩

theorem Tree.print_unmodified {tree : Tree} {code : Text} (hmodified : tree.root.info.dirty = false)
    (h : tree.print = .ok code) : Utf8.encode? code = some tree.source := by
  rw [print, isModified, hmodified] at h
  exact Utf8.decodeFault_eq_ok.1 h

theorem Tree.print_around {source : Bytes} {root : Node} {code : Text} {a b : Nat} {ps : List Piece}
    (hroot : Prints root a b ps) (hbuilt : root.info.built = false)
    (h : Tree.print ⟨source, root⟩ = .ok code) : ∃ inside, root.render source = .ok inside ∧
      Utf8.encode? code = some (source.take a ++ (inside ++ source.drop b)) := by
  cases hdirty : root.info.dirty with
  | true =>
    obtain ⟨inside, hinside, hcode⟩ := Tree.print_modified hroot.hasSpan hdirty h
    refine ⟨inside, hinside, ?_⟩
    rw [hcode, List.append_assoc]
    rfl
  | false =>
    have hlaid : root.LaidAt a b := by
      cases hroot with
      | clean hlaid => exact hlaid
      | spliced _ hdirty' _ _ => exact absurd (hdirty.symm.trans hdirty') Bool.false_ne_true
      | literal hbuilt' _ _ _ => exact absurd (hbuilt.symm.trans hbuilt') Bool.false_ne_true
      | around hbuilt' _ _ _ _ => exact absurd (hbuilt.symm.trans hbuilt') Bool.false_ne_true
    refine ⟨source.slice (some a) (some b), render_clean hlaid, ?_⟩
    rw [Tree.print_unmodified hdirty h, ← List.append_assoc, take_append_slice (le_of_laidAt hlaid),
      List.take_append_drop]

theorem octets_of_print {t : Tree} {code : Text} {a b : Nat} {ps : List Piece}
    (hroot : Prints t.root a b ps) (hmodified : t.root.info.dirty = true)
    (hstop : b ≤ t.source.length) (h : t.print = .ok code) :
    Tiles 0 t.source.length (.kept 0 a :: (ps ++ [.kept b t.source.length])) ∧
      ∃ bytes, octetsOf t.source (.kept 0 a :: (ps ++ [.kept b t.source.length])) =
        some bytes ∧ Utf8.encode? code = some bytes := by
  obtain ⟨bytes, hbytes, hcode⟩ := t.print_modified hroot.hasSpan hmodified h
  refine ⟨tiles_kept.2 ⟨rfl, Nat.zero_le a, tiles_append hroot.tiles
    (tiles_kept.2 ⟨rfl, hstop, tiles_nil.2 rfl⟩)⟩, _, ?_, hcode⟩
  rw [List.append_assoc]
  refine octetsOf_cons_eq rfl (octetsOf_append_eq (hroot.octets hbytes) ?_)
  rw [octetsOf_singleton, octets]
  simp [Bytes.slice]

section Passing

variable {settings : Settings} {tree : Tree} {out : Transformed} {made : Pass.Made Node}
  {b : Bindings} {root : Node} {ws : List Pass.Wrapped}

theorem Passes.unwrapped (htree : tree.Parsed) (hpass : Passes settings tree out made b root)
    (hvisit : Pass.Visit (settings.env tree) none [] (Focus.ofRoot tree.root) made []) :
    Utf8.encode? out.code = some tree.source ∧ out.modified = false ∧ out.changes = [] ∧
      ∀ r ∈ out.reports, r.outcome.side? = none := by
  have hsame := hvisit.isSame rfl
  have hchanged : made.changed = false := hvisit.changed
  obtain ⟨hb, hreports⟩ := hpass.binds.of_unmodified hsame.components
  obtain ⟨hroot, hchanges⟩ := hpass.unchanged hchanged
  have hprint := hpass.print
  rw [hroot, hb, hsame.part_eq] at hprint
  refine ⟨Tree.print_unmodified (dirty_of_isLaid htree.root.laid) hprint,
    hpass.modified.trans hchanged, hchanges, fun r hr => ?_⟩
  rw [hreports r hr]
  rfl

theorem Passes.exists_pieces (htree : tree.Parsed) (hpass : Passes settings tree out made b root)
    (hvisit : Pass.Visit (settings.env tree) none [] (Focus.ofRoot tree.root) made ws) :
    ∃ pieces, Splices settings tree out ws pieces ∧ (pieces = [.kept 0 tree.source.length] ∨
      made.changed = true ∧ ∃ c d ps, Prints root c d ps ∧ d ≤ tree.source.length ∧
        pieces = .kept 0 c :: (ps ++ [.kept d tree.source.length])) := by
  have hwhole := hvisit.forall_wrapped (Pass.isWhole_whenWrapped _)
  cases hws : ws with
  | nil =>
    rw [hws] at hvisit
    refine ⟨[.kept 0 tree.source.length], ⟨⟨made, hvisit⟩, ?_, ?_, .nil, by simp⟩, .inl rfl⟩
    · exact tiles_kept.2 ⟨rfl, Nat.zero_le _, tiles_nil.2 rfl⟩
    · refine ⟨_, ?_, (hpass.unwrapped htree hvisit).1⟩
      rw [octetsOf_singleton, octets]
      simp [Bytes.slice]
  | cons w us =>
    obtain ⟨a, c, hlaid⟩ := exists_laidAt htree.root.laid
    obtain ⟨ps, hps, hlit⟩ := hvisit.prints hlaid
    -- The bindings and the head of the module add to the pieces of the walk, and replace nothing.
    have hgrows := hpass.binds.grows.trans hpass.grows
    obtain ⟨qs, hqs, hsame⟩ := hgrows.alters.prints hps
    have hchanged : made.changed = true := by
      rw [hvisit.changed, hws]
      rfl
    have hstop := htree.stop_le c hlaid.2.2
    obtain ⟨htiles, hoctets⟩ := octets_of_print (t := { tree with root }) hqs
      (hgrows.dirty (hvisit.dirty hchanged)) hstop hpass.print
    rw [← hws]
    refine ⟨_, ⟨⟨made, hvisit⟩, htiles, hoctets, ?_, hwhole⟩, .inr ⟨hchanged, a, c, qs, hqs, hstop, rfl⟩⟩
    rw [literalsOf, literalsOf_append, show literalsOf qs = literalsOf ps from hsame]
    simpa [literalsOf, literals] using hlit

theorem Passes.exists_splices (htree : tree.Parsed) (hpass : Passes settings tree out made b root)
    (hvisit : Pass.Visit (settings.env tree) none [] (Focus.ofRoot tree.root) made ws) :
    ∃ pieces, Splices settings tree out ws pieces := by
  obtain ⟨pieces, hsplices, -⟩ := hpass.exists_pieces htree hvisit
  exact ⟨pieces, hsplices⟩

end Passing

/-- **Locality of a pass.** The text of a pass is the source with the literals replaced that it
wrapped, and with texts put in. The new text of a template takes up the first expression of each of its
placeholders, and nothing else of the source; that of any other literal takes up nothing. A pass that wraps nothing gives the source, says so, and neither adds
to the module nor binds a component. -/
theorem transform_splices {settings : Settings} {tree : Tree} {out : Transformed}
    (htree : tree.Parsed) (h : (transform settings tree).result = .ok out) :
    ∃ ws pieces, Splices settings tree out ws pieces ∧
      List.Forall₂ (Pass.Wrapped.Reemits tree.source) ws (literalsOf pieces) ∧
      (ws = [] → Utf8.encode? out.code = some tree.source ∧ out.modified = false ∧
        out.changes = [] ∧ ∀ r ∈ out.reports, r.outcome.side? = none) := by
  obtain ⟨made, b, root, hpass⟩ := passes_of_transform h
  obtain ⟨ws, hvisit⟩ := Pass.visit_of_walk htree.root hpass.walk
  obtain ⟨pieces, hsplices⟩ := hpass.exists_splices htree hvisit
  refine ⟨ws, pieces, hsplices, hvisit.reemits hsplices.literals, ?_⟩
  rintro rfl
  exact hpass.unwrapped htree hvisit

namespace Sample

/-- A clean node on the first row, without a field. -/
def node (kind : String) (named : Bool) (a b : Nat) (items : List Node) : Node :=
  .branch { kind, named, start := some ⟨a, 0, a⟩, stop := some b } items

def token (kind : String) (a b : Nat) : Node := node kind false a b []

def inField (name : String) (n : Node) : Node := n.mapInfo fun i => { i with field := some name }

def template : Tree where
  source := (Utf8.encode? "function A()\x7b return `가 $\x7bf(\"나\")\x7d`; \x7d").getD []
  root := node "program" true 0 41 [node "function_declaration" true 0 41 [
    token "function" 0 8, inField "name" (node "identifier" true 9 10 []),
    inField "parameters" (node "formal_parameters" true 10 12 [token "(" 10 11, token ")" 11 12]),
    inField "body" (node "statement_block" true 12 41 [token "\x7b" 12 13,
      node "return_statement" true 14 39 [token "return" 14 20,
        node "template_string" true 21 38 [token "`" 21 22, node "string_fragment" true 22 26 [],
          node "template_substitution" true 26 37 [token "$\x7b" 26 28,
            node "call_expression" true 28 36 [inField "function" (node "identifier" true 28 29 []),
              inField "arguments" (node "arguments" true 29 36 [token "(" 29 30,
                node "string" true 30 35 [], token ")" 35 36])],
            token "\x7d" 36 37],
          token "`" 37 38],
        token ";" 38 39],
      token "\x7d" 40 41])]]

theorem template_parsed : template.Parsed := by decide +kernel

theorem modified_template : ∃ out, (transform { sourcePattern := .null } template).result = .ok out ∧
    out.modified = true :=
  Logged.exists_of_any (by decide +kernel)

end Sample

theorem transform_splices_template :
    ∃ out, (transform { sourcePattern := .null } Sample.template).result = .ok out ∧
      out.modified = true ∧
      ∃ ws pieces, Splices { sourcePattern := .null } Sample.template out ws pieces ∧
        List.Forall₂ (Pass.Wrapped.Reemits Sample.template.source) ws (literalsOf pieces) := by
  obtain ⟨out, hout, hmodified⟩ := Sample.modified_template
  obtain ⟨ws, pieces, hsplices, hreemits, -⟩ := transform_splices Sample.template_parsed hout
  exact ⟨out, hout, hmodified, ws, pieces, hsplices, hreemits⟩

end Phrasebook
