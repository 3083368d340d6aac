import Phrasebook.Proofs.Tree.Order
import Phrasebook.Proofs.Tree.Outline

/-! What a file prints after edits. The text is that of the source with the new texts spliced in:
each edit changes the pieces at the one place where it lands, and all others stay. -/

namespace Phrasebook

open Region Piece

namespace Region

variable {source : Bytes} {r : Region} {rs rest : List Region} {fs : List Region.Frame} {a b c d : Nat}

/-- What regions print from `cursor` to where they end. -/
def lead (cursor : Nat) : List Region → List Piece
  | [] => []
  | r :: rest =>
    match r.span with
    | some (a, b) => .kept cursor a :: (pieces r ++ lead b rest)
    | none => pieces r ++ lead cursor rest

theorem lead_spanned (hr : r.span = some (a, b)) :
    lead c (r :: rest) = .kept c a :: (pieces r ++ lead b rest) := by
  rw [lead, hr]

theorem lead_unspanned (hr : r.span = none) : lead c (r :: rest) = pieces r ++ lead c rest := by
  rw [lead, hr]

theorem splice_append : splice c d (rs ++ rest) = lead c rs ++ splice (ends c rs) d rest := by
  induction rs generalizing c with
  | nil => rfl
  | cons r rs ih =>
    cases hr : r.span with
    | none =>
      rw [List.cons_append, splice_unspanned hr, ends_unspanned hr, lead_unspanned hr, ih,
        List.append_assoc]
    | some p =>
      rw [List.cons_append, splice_spanned hr, ends_spanned hr, lead_spanned hr, ih,
        List.cons_append, List.append_assoc]

theorem tiles_lead (h : Fits source c d rs) : Tiles c (ends c rs) (lead c rs) := by
  induction rs generalizing c with
  | nil => exact tiles_nil.2 rfl
  | cons r rs ih =>
    cases hr : r.span with
    | none =>
      obtain ⟨hlaid, hrest⟩ := (fits_unspanned hr).1 h
      have haccounts := Laid.accounts hlaid
      rw [hr] at haccounts
      rw [lead_unspanned hr, ends_unspanned hr]
      exact tiles_of_texts haccounts (ih hrest)
    | some p =>
      obtain ⟨hlaid, hbefore, hrest⟩ := (fits_spanned hr).1 h
      have haccounts := Laid.accounts hlaid
      rw [hr] at haccounts
      rw [lead_spanned hr, ends_spanned hr]
      exact tiles_kept.2 ⟨rfl, hbefore.2.2, tiles_append haccounts (ih hrest)⟩

theorem isText_lead (h : Fits source c d rs) (hspan : ∀ r ∈ rs, r.span = none) :
    ∀ p ∈ lead c rs, p.isText = true := by
  induction rs with
  | nil => simp [lead]
  | cons r rs ih =>
    rw [List.forall_mem_cons] at hspan
    obtain ⟨hlaid, hrest⟩ := (fits_unspanned hspan.1).1 h
    have haccounts := Laid.accounts hlaid
    rw [hspan.1] at haccounts
    rw [lead_unspanned hspan.1]
    exact List.forall_mem_append.2 ⟨haccounts, ih hrest hspan.2⟩

theorem pieces_fill {f : Region.Frame} (h : Laid source (f.fill r)) :
    ∃ before after, ∀ r' : Region, r'.span = r.span →
      (f.fill r').pieces = before ++ (r'.pieces ++ after) := by
  obtain ⟨i, form, left, right⟩ := f
  cases form with
  | text span texts => simp [Frame.fill, Laid] at h
  | source a b =>
    cases hr : r.span with
    | none =>
      refine ⟨lead a left, splice (ends a left) b right, fun r' hspan => ?_⟩
      rw [Frame.fill, pieces, splice_append, splice_unspanned hspan]
    | some p =>
      refine ⟨lead a left ++ [.kept (ends a left) p.1], splice p.2 b right, fun r' hspan => ?_⟩
      rw [Frame.fill, pieces, splice_append, splice_spanned hspan, List.append_assoc,
        List.singleton_append]
  | around span before after =>
    obtain ⟨rfl, rfl⟩ := eq_nil_of_around h
    refine ⟨before.map .inserted, after.map .inserted, fun r' _ => ?_⟩
    simp only [Frame.fill, pieces, piecesIn, List.nil_append, List.append_nil]

theorem pieces_plug (h : Laid source (plug fs r)) :
    ∃ before after, ∀ r' : Region, r'.span = r.span →
      (plug fs r').pieces = before ++ (r'.pieces ++ after) := by
  induction fs generalizing r with
  | nil => exact ⟨[], [], fun r' _ => by simp [plug]⟩
  | cons f fs ih =>
    have hfill := (laid_plug (r := f.fill r) h).1
    obtain ⟨before, after, hplug⟩ := ih h
    obtain ⟨before', after', hfill'⟩ := pieces_fill hfill
    refine ⟨before ++ before', after' ++ after, fun r' hspan => ?_⟩
    rw [plug, hplug (f.fill r') rfl, hfill' r' hspan]
    simp only [List.append_assoc]

theorem span_plug {r' : Region} (h : r'.span = r.span) : (plug fs r').span = (plug fs r).span := by
  cases fs with
  | nil => exact h
  | cons f fs =>
    have hform : (plug fs (f.fill r')).form = (plug fs (f.fill r)).form := form_plug rfl
    exact congrArg Form.span hform

theorem laid_of_fits (h : Fits source c d (r :: rest)) : Laid source r := by
  rw [Fits] at h
  exact h.1

theorem filePieces_plug (h : Fits source 0 source.length [plug fs r]) :
    ∃ before after, ∀ r' : Region, r'.span = r.span →
      (plug fs r').filePieces source = before ++ (r'.pieces ++ after) := by
  obtain ⟨before, after, hplug⟩ := pieces_plug (laid_of_fits h)
  cases hspan : (plug fs r).span with
  | none =>
    refine ⟨before, after ++ splice 0 source.length [], fun r' hr' => ?_⟩
    rw [filePieces, splice_unspanned ((span_plug hr').trans hspan), hplug r' hr']
    simp only [List.append_assoc]
  | some p =>
    refine ⟨.kept 0 p.1 :: before, after ++ splice p.2 source.length [], fun r' hr' => ?_⟩
    rw [filePieces, splice_spanned ((span_plug hr').trans hspan), hplug r' hr']
    simp only [List.append_assoc, List.cons_append]

end Region

namespace Edit

variable {a : Arena} {z : Region} {e : Edit} {new : NodeId}

def stand (span : Option (Nat × Nat)) (texts : List Text) : List Piece :=
  (Region.node 0 (.text span texts) []).pieces

theorem pieces_text (i : NodeId) (span : Option (Nat × Nat)) (texts : List Text) :
    (Region.node i (.text span texts) []).pieces = stand span texts := by
  cases span <;> rfl

/-- What an edit makes of the pieces where it lands. Where a node or a run is replaced these give way
to the new text, a wrapped node keeps them between its texts, and a new child stands at the end of
the last node before it that has a span. -/
def Turns (z : Region) (ps qs : List Piece) : Edit → Prop
  | replace old _ texts => ∃ c ∈ z.regions, c.id = old ∧ ps = c.pieces ∧ qs = stand c.span texts
  | wrap old _ before after => ∃ c ∈ z.regions, c.id = old ∧ ps = c.pieces ∧
      qs = before.map .inserted ++ (ps ++ after.map .inserted)
  | replaceRun _ run _ texts => Accounts (runSpan z run) ps ∧ qs = stand (runSpan z run) texts
  | insertChild parent index _ texts => ∃ s ∈ z.regions, s.id = parent ∧ ∃ p ∈ s.span,
      ∃ before after, s.inner = before ++ after ∧
        before.length = Node.clampIndex index s.inner.length ∧
        ps = splice (ends p.1 before) p.2 after ∧ qs = texts.map .inserted ++ ps
  | insertAfter anchor _ texts => ∃ c ∈ z.regions, c.id = anchor ∧ ps = c.pieces ∧
      qs = ps ++ texts.map .inserted

theorem exists_accounts {source : Bytes} {cs : List Region} {c d : Nat} (hcs : cs ≠ [])
    (hspanned : Spanned cs) (hfits : Fits source c d cs) :
    ∃ before ps, Accounts (across cs) ps ∧ ∀ (b : Nat) (rest : List Region),
      splice c b (cs ++ rest) = before ++ (ps ++ splice (ends c cs) b rest) ∧
      ∀ i texts, splice c b (.node i (.text (across cs) texts) [] :: rest) =
        before ++ (stand (across cs) texts ++ splice (ends c cs) b rest) := by
  rcases hspanned with hnone | ⟨hfirst, hlast⟩
  · rw [across_of_unspanned hnone, ends_of_unspanned hnone]
    refine ⟨[], lead c cs, isText_lead hfits hnone, fun b rest => ⟨?_, fun i texts => ?_⟩⟩
    · rw [splice_append, ends_of_unspanned hnone]
      rfl
    · rw [splice_unspanned rfl, pieces_text]
      rfl
  · obtain ⟨first, more, rfl⟩ := List.exists_cons_of_ne_nil hcs
    obtain ⟨p, hfirst⟩ := Option.isSome_iff_exists.1 hfirst
    obtain ⟨q, hlast⟩ := Option.isSome_iff_exists.1 hlast
    have hacross : across (first :: more) = some (p.1, q.2) := by
      rw [across, hfirst, hlast]
      rfl
    obtain ⟨last, hlast, hspan⟩ := Option.bind_eq_some_iff.1 hlast
    rw [List.head?_cons, Option.bind_some] at hfirst
    have hends : ends c (first :: more) = q.2 := ends_of_getLast? hlast hspan
    obtain ⟨hlaid, -, hmore⟩ := (fits_spanned hfirst).1 hfits
    have haccounts := Laid.accounts hlaid
    rw [hfirst] at haccounts
    have htiles : Tiles p.1 q.2 (first.pieces ++ lead p.2 more) := by
      rw [← hends, ends_spanned hfirst]
      exact tiles_append haccounts (tiles_lead hmore)
    rw [hacross, hends]
    refine ⟨[.kept c p.1], first.pieces ++ lead p.2 more, htiles, fun b rest =>
      ⟨?_, fun i texts => ?_⟩⟩
    · rw [splice_append, hends, lead_spanned hfirst]
      simp only [List.cons_append, List.nil_append, List.append_assoc]
    · rw [splice_spanned rfl, pieces_text]
      rfl

/-- Whether an edit that makes `z'` of `z` changes the pieces at one place, as it should. -/
def Effect (source : Bytes) (z z' : Region) (e : Edit) : Prop :=
  ∃ before ps qs after, z.filePieces source = before ++ (ps ++ after) ∧
    z'.filePieces source = before ++ (qs ++ after) ∧ e.Turns z ps qs

section

variable {source : Bytes} {fs : List Region.Frame} {p : NodeId} {form : Form} {x y : Nat}
  {l r cs inner : List Region} {c : Region} {kind : Text} {texts : List Text}

theorem effect_inner (ps qs : List Piece) {inner' : List Region} {u v : List Piece}
    (h : Fits source 0 source.length [plug fs (.node p (.source x y) inner)])
    (hold : splice x y inner = u ++ (ps ++ v)) (hnew : splice x y inner' = u ++ (qs ++ v))
    (hturns : e.Turns (plug fs (.node p (.source x y) inner)) ps qs) :
    Effect source (plug fs (.node p (.source x y) inner)) (plug fs (.node p (.source x y) inner'))
      e := by
  obtain ⟨before, after, hplug⟩ := filePieces_plug h
  refine ⟨before ++ u, ps, qs, v ++ after, ?_, ?_, hturns⟩
  · rw [hplug _ rfl, pieces, hold]
    simp only [List.append_assoc]
  · rw [hplug (.node p (.source x y) inner') rfl, pieces, hnew]
    simp only [List.append_assoc]

theorem effect_child {c' : Region}
    (h : Fits source 0 source.length [plug fs (.node p form (l ++ c :: r))])
    (hspan : c'.span = c.span)
    (hturns : e.Turns (plug fs (.node p form (l ++ c :: r))) c.pieces c'.pieces) :
    Effect source (plug fs (.node p form (l ++ c :: r))) (plug fs (.node p form (l ++ c' :: r)))
      e := by
  change Fits source 0 source.length [plug (⟨p, form, l, r⟩ :: fs) c] at h
  obtain ⟨before, after, hplug⟩ := filePieces_plug h
  exact ⟨before, c.pieces, c'.pieces, after, hplug c rfl, hplug c' hspan, hturns⟩

theorem mem_regions_child : c ∈ (plug fs (.node p form (l ++ c :: r))).regions :=
  mem_regions_plug (mem_regions_inner (mem_regions_self _) (by simp))

theorem mem_regions_run (hc : c ∈ cs) : c ∈ (plug fs (.node p form (l ++ (cs ++ r)))).regions := by
  refine mem_regions_plug (mem_regions_inner (mem_regions_self _) ?_)
  exact List.mem_append_right _ (List.mem_append_left _ hc)

theorem effect_insertAfter
    (h : Fits source 0 source.length [plug fs (.node p (.source x y) (l ++ c :: r))]) :
    Effect source (plug fs (.node p (.source x y) (l ++ c :: r)))
      (plug fs (.node p (.source x y) (l ++ c :: .node new (.text none texts) [] :: r)))
      (insertAfter c.id kind texts) := by
  have hturns : Turns (plug fs (.node p (.source x y) (l ++ c :: r))) c.pieces
      (c.pieces ++ texts.map .inserted) (insertAfter c.id kind texts) :=
    ⟨c, mem_regions_child, rfl, rfl, rfl⟩
  cases hspan : c.span with
  | none =>
    refine effect_inner _ _ (u := lead x l) (v := splice (ends x l) y r) h ?_ ?_ hturns
    · rw [splice_append, splice_unspanned hspan]
    · rw [splice_append, splice_unspanned hspan, splice_unspanned rfl, pieces, List.append_assoc]
  | some q =>
    refine effect_inner _ _ (u := lead x l ++ [.kept (ends x l) q.1]) (v := splice q.2 y r) h ?_ ?_
      hturns
    · rw [splice_append, splice_spanned hspan, List.append_assoc, List.singleton_append]
    · rw [splice_append, splice_spanned hspan, splice_unspanned rfl, pieces]
      simp only [List.append_assoc, List.cons_append, List.nil_append]

theorem clampIndex_le (index : Int) (n : Nat) : Node.clampIndex index n ≤ n := by
  rw [Node.clampIndex]
  split <;> omega

theorem effect_insertChild {index : Int}
    (h : Fits source 0 source.length [plug fs (.node p (.source x y) inner)]) :
    Effect source (plug fs (.node p (.source x y) inner))
      (plug fs (.node p (.source x y) (inner.take (Node.clampIndex index inner.length) ++
        .node new (.text none texts) [] :: inner.drop (Node.clampIndex index inner.length))))
      (insertChild p index kind texts) := by
  generalize hk : Node.clampIndex index inner.length = k
  have hle : k ≤ inner.length := hk ▸ clampIndex_le index inner.length
  refine effect_inner (splice (ends x (inner.take k)) y (inner.drop k))
    (texts.map .inserted ++ splice (ends x (inner.take k)) y (inner.drop k))
    (u := lead x (inner.take k)) (v := []) h ?_ ?_ ?_
  · rw [List.append_nil, ← splice_append, List.take_append_drop]
  · rw [List.append_nil, splice_append, splice_unspanned rfl, pieces]
  · exact ⟨.node p (.source x y) inner, mem_regions_plug (mem_regions_self _), rfl, (x, y), rfl,
      inner.take k, inner.drop k, (List.take_append_drop k inner).symm,
      (List.length_take_of_le hle).trans hk.symm, rfl, rfl⟩

theorem effect_replaceRun (hcs : cs ≠ []) (hspanned : Spanned cs)
    (h : Fits source 0 source.length [plug fs (.node p (.source x y) (l ++ (cs ++ r)))])
    (hnodup : (plug fs (.node p (.source x y) (l ++ (cs ++ r)))).ids.Nodup) :
    Effect source (plug fs (.node p (.source x y) (l ++ (cs ++ r))))
      (plug fs (.node p (.source x y) (l ++ .node new (.text (across cs) texts) [] :: r)))
      (replaceRun p (cs.map Region.id) kind texts) := by
  have hinner := (laid_plug (laid_of_fits h)).1
  rw [Laid, fits_append, fits_append] at hinner
  obtain ⟨before, ps, haccounts, hsplice⟩ := exists_accounts hcs hspanned hinner.2.1
  refine effect_inner ps (stand (across cs) texts) (u := lead x l ++ before)
    (v := splice (ends (ends x l) cs) y r) h ?_ ?_ ?_
  · rw [splice_append, (hsplice y r).1, List.append_assoc]
  · rw [splice_append, (hsplice y r).2, List.append_assoc]
  · refine ⟨?_, ?_⟩ <;> rw [runSpan_eq hnodup fun c hc => mem_regions_run hc]
    exact haccounts

end

theorem effect_apply (h : a.Shows z) (he : e.Attached z) (new : NodeId) :
    Effect a.source z (e.apply new z) e := by
  have hfits := h.fits
  have hnodup := h.nodup
  cases e with
  | replace old kind texts =>
    obtain ⟨s, hs, c, hc, rfl⟩ := he
    obtain ⟨fs, l, r, rfl⟩ := Arena.Shows.exists_children hs hc
    rw [apply_replace hnodup]
    refine effect_child hfits rfl ⟨c, mem_regions_child, rfl, rfl, ?_⟩
    exact pieces_text new c.span texts
  | wrap old kind before after =>
    obtain ⟨s, hs, c, hc, rfl⟩ := he
    obtain ⟨fs, l, r, rfl⟩ := Arena.Shows.exists_children hs hc
    rw [apply_wrap hnodup]
    refine effect_child hfits rfl ⟨c, mem_regions_child, rfl, rfl, ?_⟩
    rw [pieces, piecesIn, piecesIn, List.append_nil]
  | insertAfter anchor kind texts =>
    obtain ⟨s, hs, hsource, c, hc, rfl⟩ := he
    obtain ⟨x, y, hform⟩ := Arena.Shows.exists_source hsource
    obtain ⟨fs, l, r, rfl⟩ := Arena.Shows.exists_children hs hc
    rw [hform] at hfits hnodup ⊢
    rw [apply_insertAfter hnodup]
    exact effect_insertAfter hfits
  | insertChild parent index kind texts =>
    obtain ⟨s, hs, rfl, hsource⟩ := he
    obtain ⟨x, y, hform⟩ := Arena.Shows.exists_source hsource
    obtain ⟨fs, rfl⟩ := exists_plug hs
    cases s with
    | node i form inner =>
      rw [form_node] at hform
      subst hform
      rw [id_node, apply_insertChild hnodup]
      exact effect_insertChild hfits
  | replaceRun parent run kind texts =>
    obtain ⟨s, hs, rfl, hsource, l, cs, r, hinner, rfl, hne, hspanned⟩ := he
    obtain ⟨x, y, hform⟩ := Arena.Shows.exists_source hsource
    obtain ⟨fs, rfl⟩ := exists_plug hs
    cases s with
    | node i form inner =>
      rw [form_node] at hform
      rw [inner_node] at hinner
      subst hform hinner
      have hcs : cs ≠ [] := fun hnil => hne (by rw [hnil]; rfl)
      rw [id_node, apply_replaceRun hcs hnodup, runSpan_eq hnodup fun c hc => mem_regions_run hc]
      exact effect_replaceRun hcs hspanned hfits hnodup

theorem applyAll_append (new : Nat) (z : Region) (es es' : List Edit) :
    applyAll new z (es ++ es') = applyAll (new + es.length) (applyAll new z es) es' := by
  induction es generalizing new z with
  | nil => rfl
  | cons e es ih =>
    rw [List.cons_append, applyAll, applyAll, ih, List.length_cons, Nat.add_right_comm, Nat.add_assoc]

theorem allReady_append {new : Nat} {es es' : List Edit} (h : AllReady new z (es ++ es')) :
    AllReady new z es ∧ AllReady (new + es.length) (applyAll new z es) es' := by
  induction es generalizing new z with
  | nil => exact ⟨trivial, h⟩
  | cons e es ih =>
    obtain ⟨hes, hes'⟩ := ih h.2
    refine ⟨⟨h.1, hes⟩, ?_⟩
    rwa [applyAll, List.length_cons, Nat.add_comm es.length, ← Nat.add_assoc]

end Edit

/-- **Printing as splicing.** Any edits that can be made one after the other on the nodes of a parsed
file are made, and the file prints the pieces of its regions, which account for every octet of the
source. The last of the edits changes the pieces at one place. Edits at nodes apart from each other
print the same text in any order. -/
theorem print_edits {t : Tree} (h : t.Readable) :
    (∀ es : List Edit, Edit.AllReady t.root.count (t.root.outline 0) es →
      ∃ a text, Edit.runAll es (Arena.ofTree t) = (.ok (), a) ∧ a.print = .ok text ∧
        Utf8.encode? text = octetsOf t.source
          ((Edit.applyAll t.root.count (t.root.outline 0) es).filePieces t.source) ∧
        Tiles 0 t.source.length
          ((Edit.applyAll t.root.count (t.root.outline 0) es).filePieces t.source)) ∧
    (∀ (es : List Edit) (e : Edit), Edit.AllReady t.root.count (t.root.outline 0) (es ++ [e]) →
      e.Effect t.source (Edit.applyAll t.root.count (t.root.outline 0) es)
        (Edit.applyAll t.root.count (t.root.outline 0) (es ++ [e]))) ∧
    ∀ es es' : List Edit, es.Perm es' → (∀ e ∈ es, e.Ready (t.root.outline 0)) →
      es.Pairwise (Edit.Apart [t.root.outline 0]) →
      ∃ a a' text, Edit.runAll es (Arena.ofTree t) = (.ok (), a) ∧ a.print = .ok text ∧
        Edit.runAll es' (Arena.ofTree t) = (.ok (), a') ∧ a'.print = .ok text := by
  obtain ⟨hshows, hsize, hsource⟩ := h.shows
  rw [← hsize, ← hsource]
  refine ⟨fun es hes => ?_, fun es e hes => ?_, fun es es' hperm hready hapart => ?_⟩
  · obtain ⟨a, hrun, hsource', hshows'⟩ := hshows.runAll hes
    obtain ⟨text, hprint, htext⟩ := hshows'.print
    rw [hsource'] at htext
    refine ⟨a, text, hrun, hprint, htext, ?_⟩
    rw [← hsource']
    exact Fits.tiles hshows'.fits
  · obtain ⟨hes, he⟩ := Edit.allReady_append hes
    obtain ⟨a, -, hsource', hshows'⟩ := hshows.runAll hes
    rw [Edit.applyAll_append, ← hsource']
    exact Edit.effect_apply hshows' he.1.1 _
  · obtain ⟨hes, hes', hpieces⟩ := hshows.runAll_perm hperm hready hapart
    obtain ⟨a, hrun, hsource', hshows'⟩ := hshows.runAll hes
    obtain ⟨a', hrun', hsource'', hshows''⟩ := hshows.runAll hes'
    obtain ⟨text, hprint, htext⟩ := hshows'.print
    obtain ⟨text', hprint', htext'⟩ := hshows''.print
    rw [hsource', hpieces, ← hsource'', ← htext'] at htext
    obtain ⟨bytes, hbytes, -⟩ := Fits.reads hshows''.fits
    have hsame : Utf8.encode? text' = some bytes := htext'.trans hbytes
    obtain rfl : text = text' := Except.ok.inj
      ((Utf8.decode_of_encode? (htext.trans hsame)).symm.trans (Utf8.decode_of_encode? hsame))
    exact ⟨a, a', text, hrun, hprint, hrun', hprint'⟩

namespace Sample

/-- A parsed node on the first row. -/
def parsed (kind : String) (a b : Nat) (items : List Node) : Node :=
  .branch { kind, start := some ⟨a, 0, a⟩, stop := some b } items

/-- The call `f(a, b);`, in which `a` is node 6 and `b` node 8. -/
def call : Tree where
  source := (Utf8.encode? "f(a, b);").getD []
  root := parsed "program" 0 8 [parsed "expression_statement" 0 8 [
    parsed "call_expression" 0 7 [parsed "identifier" 0 1 [],
      parsed "arguments" 1 7 [parsed "(" 1 2 [], parsed "identifier" 2 3 [], parsed "," 3 4 [],
        parsed "identifier" 5 6 [], parsed ")" 6 7 []]],
    parsed ";" 7 8 []]]

theorem call_readable : call.Readable :=
  ⟨by decide, by decide, by decide, by decide⟩

/-- The arguments of the call. -/
def arguments : Region := (call.root.outline 0).regions.getD 4 (.node 0 (.text none []) [])

theorem arguments_mem : arguments ∈ (call.root.outline 0).regions := by
  exact List.getElem_mem (show 4 < (call.root.outline 0).regions.length by decide)

/-- The node `a` of the call. -/
def first : Region := arguments.inner.getD 1 arguments

/-- The node `b` of the call. -/
def second : Region := arguments.inner.getD 3 arguments

theorem mem_arguments : first ∈ arguments.inner ∧ second ∈ arguments.inner :=
  ⟨List.getElem_mem (show 1 < arguments.inner.length by decide),
    List.getElem_mem (show 3 < arguments.inner.length by decide)⟩

def addition : Edit := .insertAfter 6 "synthetic" ["x"]

def wrapping : Edit := .wrap 8 "synthetic" ["g("] [")"]

end Sample

theorem print_edits_call :
    ∃ a a' text, Edit.runAll [Sample.addition, Sample.wrapping] (Arena.ofTree Sample.call) = (.ok (), a) ∧
      a.print = .ok text ∧
      Edit.runAll [Sample.wrapping, Sample.addition] (Arena.ofTree Sample.call) = (.ok (), a') ∧
      a'.print = .ok text ∧ text = "f(ax, g(b));" := by
  have haddition : Sample.addition.Ready (Sample.call.root.outline 0) :=
    ⟨⟨_, Sample.arguments_mem, rfl, _, Sample.mem_arguments.1, rfl⟩, by decide +kernel⟩
  have hwrapping : Sample.wrapping.Ready (Sample.call.root.outline 0) :=
    ⟨⟨_, Sample.arguments_mem, _, Sample.mem_arguments.2, rfl⟩, by decide +kernel⟩
  have hapart : Edit.Apart [Sample.call.root.outline 0] Sample.addition Sample.wrapping := by
    rw [Edit.Apart]
    decide +kernel
  have htext : (Edit.runAll [Sample.addition, Sample.wrapping]
      (Arena.ofTree Sample.call)).2.print.toOption = some ("f(ax, g(b));" : Text) := by decide +kernel
  obtain ⟨-, -, hany⟩ := print_edits Sample.call_readable
  obtain ⟨a, a', text, hrun, hprint, hrun', hprint'⟩ :=
    hany [Sample.addition, Sample.wrapping] [Sample.wrapping, Sample.addition] (.swap _ _ _)
      (by simp [haddition, hwrapping]) (by simp [hapart])
  rw [hrun, hprint] at htext
  exact ⟨a, a', text, hrun, hprint, hrun', hprint', Option.some.inj htext⟩

/-- A run that ends with a node that was put in is not replaced as a whole: the new node has a start
but no end, and after it the source is printed from its beginning. -/
theorem print_not_spliced_run :
    (∃ s ∈ (Sample.addition.apply 11 (Sample.call.root.outline 0)).regions, s.id = 4 ∧
      s.form.isSource = true ∧ [6, 11] <:+: s.inner.map Region.id) ∧
    (Edit.runAll [Sample.addition, .replaceRun 4 [6, 11] "synthetic" ["n"]]
      (Arena.ofTree Sample.call)).2.print.toOption = some ("f(nf(a, b);" : Text) :=
  ⟨by decide +kernel, by decide +kernel⟩

end Phrasebook
