import Phrasebook.Proofs.Tree.Landing
import Phrasebook.Proofs.Tree.Operations
import Phrasebook.Proofs.Tree.Outline

/-! Edits of an arena and edits of the regions it shows. An edit that can be made returns, and the
arena after it shows the regions after it. -/

namespace Phrasebook

open Region Editing

namespace Arena

variable {a b : Arena} {z : Region} {fs : List Region.Frame} {p : NodeId} {form : Form}
  {inner inner' : List Region}

theorem agrees_mark {i : NodeId} (hi : i < b.cells.size) :
    (b.cell i).Agrees ((b.mark p).cell i) ∧
      ((b.cell i).dirty = true → ((b.mark p).cell i).dirty = true) := by
  by_cases hmem : i ∈ p :: b.ancestors p
  · rw [cell_mark_of_mem hmem hi]
    exact ⟨rfl, fun _ => rfl⟩
  · rw [cell_mark_of_notMem hmem]
    exact ⟨rfl, fun h => h⟩

theorem Shows.puts {new : Cell} {moved : List NodeId} (h : a.Shows (plug fs (.node p form inner)))
    (hputs : Puts a b p (inner'.map Region.id) (form.parts (inner'.map Region.id)) new moved)
    (hmoved : ∀ i ∈ moved, i ∈ idsIn inner) (hinner : HoldsIn b (some p) inner')
    (hmarked : MarkedIn b inner') (hnodup : (idsIn inner').Nodup)
    (hids : ∀ i ∈ idsIn inner', i ∈ idsIn inner ∨ i = a.cells.size)
    (hlaid : Laid a.source (.node p form inner) → Laid a.source (.node p form inner')) :
    (b.mark p).Shows (plug fs (.node p form inner')) := by
  obtain ⟨hmiddle, hframes, hapart⟩ := nodup_of_plug h.nodup
  rw [ids_node, List.nodup_cons] at hmiddle
  have hlt := h.holds.lt_size
  simp only [(ids_plug _ _).mem_iff, List.mem_append, ids_node, List.mem_cons] at hlt hapart
  have hp : p < a.cells.size := hlt p (.inl (.inl rfl))
  have hcell (i : NodeId) (hi : i ∈ fs.flatMap Region.Frame.ids) : b.cell i = a.cell i := by
    refine hputs.others i ?_ (Nat.ne_of_lt (hlt i (.inr hi))) fun hm => ?_
    · rintro rfl
      exact hapart i (.inl rfl) hi
    · exact hapart i (.inr (hmoved i hm)) hi
  have hsize : a.cells.size ≤ b.cells.size := by
    rw [hputs.size]
    exact Nat.le_succ _
  have hholds : Holds b none (plug fs (.node p form inner')) := by
    refine h.holds.plug hsize (fun i hi => by rw [Cell.Agrees, hcell i hi]) (fun q hq => ?_) rfl
    rw [Holds] at hq ⊢
    rw [hputs.parent]
    exact ⟨Nat.lt_of_lt_of_le hp hsize, hq.2.1, ⟨hq.2.2.1.start, hq.2.2.1.stop, rfl, rfl⟩, hinner⟩
  have hnew : (plug fs (.node p form inner')).ids.Nodup := by
    refine nodup_plug h.nodup hnodup fun i hi => (hids i hi).imp_right ?_
    rintro rfl hmem
    exact Nat.lt_irrefl _ (h.holds.lt_size _ hmem)
  have hancestors : b.ancestors p = fs.map Region.Frame.id := hholds.ancestors hnew
  have hltb := hholds.lt_size
  obtain ⟨-, hlaidPlug⟩ := laid_plug h.laid
  have hlaid' := hlaidPlug _ (hlaid (laid_plug h.laid).1) rfl
  have hid : (plug fs (.node p form inner')).id = (plug fs (.node p form inner)).id := id_plug rfl
  have hform : (plug fs (.node p form inner')).form = (plug fs (.node p form inner)).form :=
    form_plug rfl
  have hspan : (plug fs (.node p form inner')).span = (plug fs (.node p form inner)).span :=
    congrArg Form.span hform
  refine ⟨?_, ?_, hnew, ?_, ?_, ?_⟩
  · exact hholds.agrees (Nat.le_of_eq (size_mark b p).symm) fun i hi => (agrees_mark (hltb i hi)).1
  · simp only [(ids_plug _ _).mem_iff, List.mem_append, ids_node, List.mem_cons] at hltb
    refine h.marked.plug (fun i hi hdirty => ?_) (fun f hf => ?_) fun hm => ?_
    · rw [← hcell i hi] at hdirty
      exact (agrees_mark (hltb i (.inr hi))).2 hdirty
    · have hmem : f.id ∈ b.ancestors p := hancestors ▸ List.mem_map_of_mem hf
      have hflt := hltb f.id (.inr (List.mem_flatMap.2 ⟨f, hf, List.mem_cons_self⟩))
      rw [cell_mark_of_mem (List.mem_cons_of_mem _ hmem) hflt]
    · rw [Marked]
      refine ⟨fun _ hclean => ?_, MarkedIn.of_dirty hmarked fun i hi => ?_⟩
      · rw [cell_mark_of_mem List.mem_cons_self (hltb p (.inl (.inl rfl)))] at hclean
        cases hclean
      · exact (agrees_mark (hltb i (.inl (.inr hi)))).2
  · rw [hid, h.id_eq]
  · rw [hform, h.isSource]
  · obtain ⟨q, hq⟩ := h.exists_span
    have hfits := (fits_spanned hq).1 h.fits
    rw [source_mark, hputs.source, fits_spanned (hspan.trans hq)]
    exact ⟨hlaid', hfits.2⟩

structure Family (a : Arena) (p : NodeId) (form : Form) (inner : List Region) : Prop where
  lt : p < a.cells.size
  children : (a.cell p).children = inner.map Region.id
  parts : (a.cell p).parts = form.parts (inner.map Region.id)
  notMem : p ∉ idsIn inner
  nodup : (idsIn inner).Nodup
  below : ∀ i ∈ idsIn inner, i < a.cells.size
  holds : ∀ r ∈ inner, Holds a (some p) r
  marked : ∀ r ∈ inner, Marked a r

theorem Shows.family (h : a.Shows (plug fs (.node p form inner))) : Family a p form inner := by
  obtain ⟨hnodup, -, -⟩ := nodup_of_plug h.nodup
  rw [ids_node, List.nodup_cons] at hnodup
  have hholds := h.holds.middle
  have hlt := hholds.lt_size
  rw [ids_node, List.forall_mem_cons] at hlt
  have hmarked := h.marked.middle
  rw [Marked, markedIn_iff] at hmarked
  exact ⟨hlt.1, hholds.fills.children, hholds.fills.parts, hnodup.1, hnodup.2, hlt.2,
    hholds.inner, hmarked.2⟩

end Arena

namespace Editing

variable {a b : Arena} {p old new : NodeId} {kids moved : List NodeId} {parts : Option (List Part)}
  {c : Cell} {l r : List NodeId}

theorem Puts.keeps (hputs : Puts a b p kids parts c moved) {s : Region} {parent : Option NodeId}
    (hs : Holds a parent s) (hmarked : Marked a s) (hids : ∀ i ∈ s.ids, i ≠ p ∧ i ∉ moved) :
    Holds b parent s ∧ Marked b s := by
  have hcell (i : NodeId) (hi : i ∈ s.ids) : b.cell i = a.cell i :=
    hputs.others i (hids i hi).1 (Nat.ne_of_lt (hs.lt_size i hi)) (hids i hi).2
  have hsize : a.cells.size ≤ b.cells.size := by
    rw [hputs.size]
    exact Nat.le_succ _
  refine ⟨hs.agrees hsize fun i hi => ?_, hmarked.of_dirty fun i hi hdirty => ?_⟩
  · rw [Cell.Agrees, hcell i hi]
  · rw [hcell i hi]
    exact hdirty

theorem parts_exchange (form : Form) (hl : old ∉ l) (hr : old ∉ r) :
    (form.parts (l ++ old :: r)).map (·.map (Part.exchange old new)) =
      form.parts (l ++ new :: r) := by
  have htexts (ts : List Text) :
      (ts.map Part.text).map (Part.exchange old new) = ts.map Part.text := by
    rw [List.map_map]
    exact List.map_congr_left fun _ _ => rfl
  have hnodes {is : List NodeId} (his : old ∉ is) :
      (is.map Part.node).map (Part.exchange old new) = is.map Part.node := by
    rw [List.map_map]
    refine List.map_congr_left fun i hi => ?_
    have hne : i ≠ old := fun h => his (h ▸ hi)
    simp [Part.exchange, hne]
  cases form with
  | source x y => rfl
  | text span ts => simp only [Form.parts, Option.map_some, htexts]
  | around span before after =>
    simp only [Form.parts, Option.map_some, List.map_append, List.map_cons, htexts, hnodes hl,
      hnodes hr]
    simp [Part.exchange]

end Editing

namespace Arena.Shows

variable {a b : Arena} {fs : List Region.Frame} {p : NodeId} {form : Form}
  {l r cs : List Region} {c : Region} {kind : Text} {texts before after : List Text}

theorem exchange (cs ns : List Region) {new : Cell} {moved : List NodeId}
    (h : a.Shows (plug fs (.node p form (l ++ (cs ++ r)))))
    (hputs : Puts a b p ((l ++ (ns ++ r)).map Region.id)
      (form.parts ((l ++ (ns ++ r)).map Region.id)) new moved)
    (hmoved : ∀ i ∈ moved, i ∈ idsIn cs) (hns : ∀ s ∈ ns, Holds b (some p) s ∧ Marked b s)
    (hnodup : (idsIn ns).Nodup) (hids : ∀ i ∈ idsIn ns, i ∈ idsIn cs ∨ i = a.cells.size)
    (hlaid : Laid a.source (.node p form (l ++ (cs ++ r))) →
      Laid a.source (.node p form (l ++ (ns ++ r)))) :
    (b.mark p).Shows (plug fs (.node p form (l ++ (ns ++ r)))) := by
  have hfamily := h.family
  obtain ⟨hl, ⟨hcs, hr, hcr⟩, hlcr⟩ : (idsIn l).Nodup ∧ ((idsIn cs).Nodup ∧ (idsIn r).Nodup ∧
      ∀ i ∈ idsIn cs, ∀ j ∈ idsIn r, i ≠ j) ∧ ∀ i ∈ idsIn l, ∀ j ∈ idsIn cs ++ idsIn r, i ≠ j := by
    simpa only [idsIn_append, List.nodup_append] using hfamily.nodup
  have hbelow := hfamily.below
  have hnotMem := hfamily.notMem
  have hholds := hfamily.holds
  have hmarked := hfamily.marked
  simp only [idsIn_append, List.mem_append, not_or] at hlcr hbelow hnotMem hholds hmarked
  have hside (s : Region) (hs : s ∈ l ∨ s ∈ r) : Holds b (some p) s ∧ Marked b s := by
    have hs' : s ∈ l ∨ s ∈ cs ∨ s ∈ r := hs.imp_right .inr
    refine hputs.keeps (hholds s hs') (hmarked s hs') fun i hi => ⟨?_, fun hm => ?_⟩
    · rintro rfl
      rcases hs with hs | hs
      · exact hnotMem.1 (ids_subset hs hi)
      · exact hnotMem.2.2 (ids_subset hs hi)
    · rcases hs with hs | hs
      · exact hlcr i (ids_subset hs hi) i (.inl (hmoved i hm)) rfl
      · exact hcr i (hmoved i hm) i (ids_subset hs hi) rfl
  have hall (s : Region) (hs : s ∈ l ++ (ns ++ r)) : Holds b (some p) s ∧ Marked b s := by
    rcases List.mem_append.1 hs with hs | hs
    · exact hside s (.inl hs)
    · exact (List.mem_append.1 hs).elim (hns s) fun hs => hside s (.inr hs)
  refine h.puts hputs (fun i hi => ?_) (holdsIn_iff.2 fun s hs => (hall s hs).1)
    (markedIn_iff.2 fun s hs => (hall s hs).2) ?_ (fun i hi => ?_) hlaid
  · rw [idsIn_append, idsIn_append]
    exact List.mem_append_right _ (List.mem_append_left _ (hmoved i hi))
  · simp only [idsIn_append, List.nodup_append, List.mem_append]
    refine ⟨hl, ⟨hnodup, hr, fun i hi j hj hij => ?_⟩, fun i hi j hj hij => ?_⟩
    · subst hij
      rcases hids i hi with hi | rfl
      · exact hcr i hi i hj rfl
      · exact Nat.lt_irrefl _ (hbelow _ (.inr (.inr hj)))
    · subst hij
      rcases hj with hj | hj
      · rcases hids i hj with hj | rfl
        · exact hlcr i hi i (.inl hj) rfl
        · exact Nat.lt_irrefl _ (hbelow _ (.inl hi))
      · exact hlcr i hi i (.inr hj) rfl
  · simp only [idsIn_append, List.mem_append] at hi ⊢
    rcases hi with hi | hi | hi
    · exact .inl (.inl hi)
    · exact (hids i hi).imp_left fun hi => .inr (.inl hi)
    · exact .inl (.inr (.inr hi))

theorem child (h : a.Shows (plug fs (.node p form (l ++ c :: r)))) :
    (a.cell p).children = l.map Region.id ++ c.id :: r.map Region.id ∧ c.id ∉ l.map Region.id ∧
      c.id ∉ r.map Region.id ∧ (a.cell c.id).parent = some p ∧ p < a.cells.size ∧
      c.id < a.cells.size ∧ c.id ≠ p := by
  have hfamily := h.family
  have hmem : c ∈ l ++ c :: r := by simp
  have hholds := hfamily.holds c hmem
  have hids := hfamily.nodup.sublist (map_id_sublist _)
  have hkids := hfamily.children
  rw [List.map_append, List.map_cons] at hkids hids
  simp only [List.nodup_append, List.nodup_cons, List.mem_cons] at hids
  refine ⟨hkids, fun hl => hids.2.2 _ hl _ (.inl rfl) rfl, hids.2.1.1, hholds.parent_eq,
    hfamily.lt, hholds.lt_size _ (id_mem_ids c), ?_⟩
  intro hp
  exact hfamily.notMem (hp ▸ ids_subset hmem (id_mem_ids c))

/-- What an edit comes to: it gives the number of the new node, and the arena after it shows the
changed file over the same source. -/
def Becomes (a : Arena) (e : Edit) (z : Region) : Prop :=
  ∃ b, e.run a = (.ok a.cells.size, b) ∧ b.cells.size = a.cells.size + 1 ∧ b.source = a.source ∧
    b.Shows z

theorem Becomes.of_puts {e : Edit} {z : Region} {kids moved : List NodeId}
    {parts : Option (List Part)} {new : Cell} (hrun : e.run a = (.ok a.cells.size, b.mark p))
    (hputs : Puts a b p kids parts new moved) (hshows : (b.mark p).Shows z) : Becomes a e z :=
  ⟨b.mark p, hrun, by rw [size_mark, hputs.size], by rw [source_mark, hputs.source], hshows⟩

theorem laid_leaf {source : Bytes} {i : NodeId} {span : Option (Nat × Nat)}
    (hspan : ∀ q ∈ span, Utf8.Cuts source q.1 q.2)
    (htexts : ∀ t ∈ texts, (Utf8.encode? t).isSome = true) :
    Laid source (.node i (.text span texts) []) := by
  rw [Laid]
  exact ⟨rfl, hspan, htexts⟩

theorem holds_leaf {i : NodeId} {span : Option (Nat × Nat)} {field : Option Text}
    {start : Option Mark} {stop : Option Nat} (hi : i < b.cells.size)
    (hcell : b.cell i = { leafCell kind texts with parent := some p, field, start, stop })
    (hstart : start.map (·.offset) = span.map Prod.fst) (hstop : stop = span.map Prod.snd) :
    ∀ s ∈ [Region.node i (.text span texts) []], Holds b (some p) s ∧ Marked b s := by
  intro s hs
  obtain rfl := List.mem_singleton.1 hs
  rw [Holds, Marked, hcell]
  exact ⟨⟨hi, rfl, ⟨hstart, hstop, rfl, rfl⟩, trivial⟩, fun _ _ => trivial, trivial⟩

theorem run_replace (h : a.Shows (plug fs (.node p form (l ++ c :: r))))
    (htexts : ∀ t ∈ texts, (Utf8.encode? t).isSome = true) :
    Becomes a (.replace c.id kind texts)
      (plug fs (.node p form (l ++ .node a.cells.size (.text c.span texts) [] :: r))) := by
  obtain ⟨hkids, hl, hr, hparent, hp, hc, hcp⟩ := h.child
  obtain ⟨b, hrun, hputs⟩ := replaceWith_apply kind texts hkids hl hparent hp
    hc hcp
  have hfills := (h.family.holds c (by simp)).fills
  have hparts := h.family.parts
  rw [List.map_append, List.map_cons] at hparts
  rw [hparts, parts_exchange form hl hr] at hputs
  have hlt : a.cells.size < b.cells.size := hputs.size ▸ Nat.lt_succ_self _
  refine Becomes.of_puts (by rw [Edit.run, bind_apply (build_apply _ _), hrun]) hputs ?_
  refine exchange [c] [.node a.cells.size (.text c.span texts) []] h
    (by simpa using hputs) (fun i hi => ?_)
    (holds_leaf hlt hputs.new hfills.start hfills.stop) (by simp) (by simp) fun hlaid => ?_
  · obtain rfl := List.mem_singleton.1 hi
    exact ids_subset (List.mem_singleton.2 rfl) (id_mem_ids c)
  · obtain ⟨hclaid, hreplaced⟩ := laid_fill (f := ⟨p, form, l, r⟩) hlaid
    exact hreplaced _ (laid_leaf (fun q hq => Laid.cuts hclaid hq) htexts) rfl

theorem holds_moved {q : NodeId} {new : Cell} {kids : List NodeId} {parts : Option (List Part)}
    (hputs : Puts a b p kids parts new [c.id]) (hold : b.cell c.id = { a.cell c.id with parent := some q })
    (hc : Holds a (some p) c) (hmarked : Marked a c) (hnodup : c.ids.Nodup) (hp : p ∉ c.ids) :
    Holds b (some q) c ∧ Marked b c := by
  cases c with
  | node i cform inner =>
    rw [ids_node, List.nodup_cons] at hnodup
    rw [ids_node, List.mem_cons, not_or] at hp
    rw [id_node] at hold hputs
    rw [Holds, holdsIn_iff] at hc ⊢
    rw [Marked, markedIn_iff] at hmarked ⊢
    have hinner (s : Region) (hs : s ∈ inner) : Holds b (some i) s ∧ Marked b s := by
      refine hputs.keeps (hc.2.2.2 s hs) (hmarked.2 s hs) fun j hj => ⟨?_, fun hmem => ?_⟩
      · rintro rfl
        exact hp.2 (ids_subset hs hj)
      · obtain rfl := List.mem_singleton.1 hmem
        exact hnodup.1 (ids_subset hs hj)
    have hlt : i < b.cells.size := Nat.lt_of_lt_of_le hc.1 (hputs.size ▸ Nat.le_succ _)
    rw [hold]
    exact ⟨⟨hlt, rfl, ⟨hc.2.2.1.start, hc.2.2.1.stop, hc.2.2.1.children, hc.2.2.1.parts⟩,
      fun s hs => (hinner s hs).1⟩, hmarked.1, fun s hs => (hinner s hs).2⟩

theorem run_wrap (h : a.Shows (plug fs (.node p form (l ++ c :: r))))
    (htexts : ∀ t ∈ before ++ after, (Utf8.encode? t).isSome = true) :
    Becomes a (.wrap c.id kind before after)
      (plug fs (.node p form (l ++ .node a.cells.size (.around c.span before after) [c] :: r))) := by
  obtain ⟨hkids, hl, hr, hparent, hp, hc, hcp⟩ := h.child
  obtain ⟨b, hrun, hputs, hold⟩ := wrap_apply kind before after
    hkids hl hparent hp hc hcp
  have hfamily := h.family
  have hcholds := hfamily.holds c (by simp)
  have hparts := hfamily.parts
  rw [List.map_append, List.map_cons] at hparts
  rw [hparts, parts_exchange form hl hr] at hputs
  have hlt : a.cells.size < b.cells.size := hputs.size ▸ Nat.lt_succ_self _
  -- The wrapped node has a new parent; what is below it is as before.
  have hcids : c.ids ⊆ idsIn (l ++ c :: r) := ids_subset (by simp)
  have hcnodup : c.ids.Nodup := by
    have hnodup := hfamily.nodup
    simp only [idsIn_append, idsIn_cons, List.nodup_append] at hnodup
    exact hnodup.2.1.1
  have hsize : a.cells.size ∉ c.ids := fun hmem => Nat.lt_irrefl _ (hcholds.lt_size _ hmem)
  have hinner := holds_moved hputs hold hcholds (hfamily.marked c (by simp)) hcnodup
    fun hmem => hfamily.notMem (hcids hmem)
  refine Becomes.of_puts (by rw [Edit.run, hrun]) hputs ?_
  refine exchange [c] [.node a.cells.size (.around c.span before after) [c]] h
    (by simpa using hputs) (fun i hi => ?_) (fun s hs => ?_) ?_ (fun i hi => ?_) fun hlaid => ?_
  · obtain rfl := List.mem_singleton.1 hi
    exact ids_subset (List.mem_singleton.2 rfl) (id_mem_ids c)
  · obtain rfl := List.mem_singleton.1 hs
    rw [Holds, Marked, hputs.new]
    exact ⟨⟨hlt, rfl, ⟨hcholds.fills.start, hcholds.fills.stop, rfl, rfl⟩, hinner.1, trivial⟩,
      ⟨fun hsource => absurd hsource Bool.false_ne_true, hinner.2, trivial⟩⟩
  · simpa using ⟨hsize, hcnodup⟩
  · simpa [or_comm] using hi
  · obtain ⟨hclaid, hreplaced⟩ := laid_fill (f := ⟨p, form, l, r⟩) hlaid
    refine hreplaced _ ?_ rfl
    rw [Laid, LaidIn, LaidIn]
    exact ⟨rfl, ⟨hclaid, trivial⟩, htexts⟩

theorem laid_inserted {source : Bytes} {s : Region} {x y : Nat} (hs : Laid source s)
    (hspan : s.span = none) (h : Laid source (.node p (.source x y) (l ++ r))) :
    Laid source (.node p (.source x y) (l ++ s :: r)) := by
  rw [Laid, fits_append] at h ⊢
  rw [fits_unspanned hspan]
  exact ⟨h.1, hs, h.2⟩

theorem inserted {x y : Nat} (h : a.Shows (plug fs (.node p (.source x y) (l ++ r))))
    (htexts : ∀ t ∈ texts, (Utf8.encode? t).isSome = true)
    (hputs : Puts a b p (l.map Region.id ++ a.cells.size :: r.map Region.id) (a.cell p).parts
      { leafCell kind texts with parent := some p } []) :
    (b.mark p).Shows (plug fs (.node p (.source x y)
      (l ++ .node a.cells.size (.text none texts) [] :: r))) := by
  have hparts : (a.cell p).parts = none := h.family.parts
  have hlt : a.cells.size < b.cells.size := hputs.size ▸ Nat.lt_succ_self _
  rw [hparts] at hputs
  refine exchange [] [.node a.cells.size (.text none texts) []] h
    (by simpa [Form.parts] using hputs) (fun i hi => by cases hi)
    (holds_leaf hlt hputs.new rfl rfl) (by simp) (by simp) fun hlaid => ?_
  exact laid_inserted (laid_leaf (fun q hq => by cases hq) htexts) rfl hlaid

theorem run_insertChild {x y : Nat} {index : Int} {inner : List Region}
    (h : a.Shows (plug fs (.node p (.source x y) inner)))
    (htexts : ∀ t ∈ texts, (Utf8.encode? t).isSome = true) :
    Becomes a (.insertChild p index kind texts) (plug fs (.node p (.source x y)
      (inner.take (Node.clampIndex index inner.length) ++
        .node a.cells.size (.text none texts) [] ::
          inner.drop (Node.clampIndex index inner.length)))) := by
  have hchildren := h.family.children
  obtain ⟨b, hrun, hputs⟩ := insertChild_apply kind texts
    (Eq.refl (Node.clampIndex index (a.cell p).children.length)) h.family.lt
  rw [hchildren, List.length_map, List.map_take.symm, List.map_drop.symm] at hputs
  generalize Node.clampIndex index inner.length = k at hputs ⊢
  refine Becomes.of_puts (by rw [Edit.run, bind_apply (build_apply _ _), hrun]) hputs ?_
  rw [← List.take_append_drop k inner] at h
  exact inserted h htexts hputs

theorem run_insertAfter {x y : Nat} (h : a.Shows (plug fs (.node p (.source x y) (l ++ c :: r))))
    (htexts : ∀ t ∈ texts, (Utf8.encode? t).isSome = true) :
    Becomes a (.insertAfter c.id kind texts) (plug fs (.node p (.source x y)
      (l ++ c :: .node a.cells.size (.text none texts) [] :: r))) := by
  obtain ⟨hkids, hl, -, hparent, hp, hc, -⟩ := h.child
  obtain ⟨b, hrun, hputs⟩ := insertAfter_apply kind texts hkids hl hparent hp hc
  refine Becomes.of_puts (by rw [Edit.run, bind_apply (build_apply _ _), hrun]) hputs ?_
  have hsplit (s : List Region) : l ++ c :: s = (l ++ [c]) ++ s := by simp
  rw [hsplit] at h ⊢
  exact inserted h htexts (by simpa using hputs)

theorem laid_across {source : Bytes} {x y : Nat} {i : NodeId}
    (htexts : ∀ t ∈ texts, (Utf8.encode? t).isSome = true) (hcs : cs ≠ [])
    (hspanned : Edit.Spanned cs) (h : Laid source (.node p (.source x y) (l ++ (cs ++ r)))) :
    Laid source (.node p (.source x y) (l ++ .node i (.text (Edit.across cs) texts) [] :: r)) := by
  rcases hspanned with hnone | ⟨hfirst, hlast⟩
  · rw [Edit.across_of_unspanned hnone]
    refine laid_inserted (laid_leaf (fun q hq => by cases hq) htexts) rfl ?_
    rw [Laid, fits_append, fits_append, ends_of_unspanned hnone] at h
    rw [Laid, fits_append]
    exact ⟨h.1, h.2.2⟩
  · obtain ⟨first, more, rfl⟩ := List.exists_cons_of_ne_nil hcs
    obtain ⟨⟨b, d⟩, hfirst⟩ := Option.isSome_iff_exists.1 hfirst
    obtain ⟨⟨c, e⟩, hlast⟩ := Option.isSome_iff_exists.1 hlast
    have hacross : Edit.across (first :: more) = some (b, e) := by
      rw [Edit.across, hfirst, hlast]
      rfl
    obtain ⟨last, hlast, hspan⟩ := Option.bind_eq_some_iff.1 hlast
    rw [List.head?_cons, Option.bind_some] at hfirst
    rw [Laid, fits_append, fits_append, ends_of_getLast? hlast hspan, fits_spanned hfirst] at h
    obtain ⟨hl, ⟨hfirstLaid, hbefore, hmore⟩, hr⟩ := h
    have hcuts := Laid.cuts hfirstLaid hfirst
    have hcuts' := Fits.cuts hmore
    rw [hacross, Laid, fits_append, fits_spanned rfl]
    refine ⟨hl, laid_leaf (fun q hq => ?_) htexts, hbefore, hr⟩
    obtain rfl : (b, e) = q := Option.some.inj hq
    exact ⟨hcuts.1, hcuts'.2.1, Nat.le_trans hcuts.2.2 hcuts'.2.2⟩

theorem run_replaceRun {x y : Nat} (h : a.Shows (plug fs (.node p (.source x y) (l ++ (cs ++ r)))))
    (htexts : ∀ t ∈ texts, (Utf8.encode? t).isSome = true) (hcs : cs ≠ [])
    (hspanned : Edit.Spanned cs) :
    Becomes a (.replaceRun p (cs.map Region.id) kind texts) (plug fs (.node p (.source x y)
      (l ++ .node a.cells.size (.text (Edit.across cs) texts) [] :: r))) := by
  have hfamily := h.family
  obtain ⟨first, more, hfirst⟩ := List.exists_cons_of_ne_nil hcs
  obtain ⟨last, hlast⟩ := Option.isSome_iff_exists.1 (List.getLast?_isSome.2 hcs)
  have hfirstMem : first ∈ cs := hfirst ▸ List.mem_cons_self
  have hlastMem : last ∈ cs := List.mem_of_getLast? hlast
  have hmem (c : Region) (hc : c ∈ cs) : c ∈ l ++ (cs ++ r) :=
    List.mem_append_right _ (List.mem_append_left _ hc)
  have hkids := hfamily.children
  have hids := hfamily.nodup.sublist (map_id_sublist _)
  rw [List.map_append, List.map_append] at hkids hids
  have hl : first.id ∉ l.map Region.id := by
    intro hmem
    rw [List.nodup_append] at hids
    exact hids.2.2 _ hmem _ (List.mem_append_left _ (List.mem_map_of_mem hfirstMem)) rfl
  have hrunLt (i : NodeId) (hi : i ∈ cs.map Region.id) : i < a.cells.size := by
    obtain ⟨c, hc, rfl⟩ := List.mem_map.1 hi
    exact (hfamily.holds c (hmem c hc)).lt_size _ (id_mem_ids c)
  have hhead : (cs.map Region.id).head? = some first.id := by
    rw [hfirst]
    rfl
  have hend : (cs.map Region.id).getLast? = some last.id := by
    rw [List.getLast?_map, hlast]
    rfl
  have hp : p ∉ cs.map Region.id := by
    intro hi
    obtain ⟨c, hc, rfl⟩ := List.mem_map.1 hi
    exact hfamily.notMem (ids_subset (hmem c hc) (id_mem_ids c))
  obtain ⟨b, hrun, hputs⟩ := replaceRun_apply kind texts hkids hhead hend hl
    (hfamily.holds first (hmem _ hfirstMem)).parent_eq hfamily.lt hrunLt hp
  have hstart := (hfamily.holds first (hmem _ hfirstMem)).fills.start
  have hstop := (hfamily.holds last (hmem _ hlastMem)).fills.stop
  have hparts : (a.cell p).parts = none := hfamily.parts
  rw [hparts] at hputs
  have hlt : a.cells.size < b.cells.size := hputs.size ▸ Nat.lt_succ_self _
  have hspans := Edit.across_of_spanned (by rw [hfirst]; rfl) hlast hspanned
  refine Becomes.of_puts (by rw [Edit.run, bind_apply (build_apply _ _), hrun]) hputs ?_
  refine exchange cs [.node a.cells.size (.text (Edit.across cs) texts) []] h
    (by simpa [Form.parts] using hputs) (fun i hi => map_id_subset cs hi)
    (holds_leaf hlt hputs.new (hstart.trans hspans.1.symm) (hstop.trans hspans.2.symm)) (by simp)
    (by simp) (laid_across htexts hcs hspanned)

theorem exists_children {z s : Region} (hs : s ∈ z.regions) (hc : c ∈ s.inner) :
    ∃ fs l r, z = plug fs (.node s.id s.form (l ++ c :: r)) := by
  obtain ⟨fs, rfl⟩ := exists_plug hs
  obtain ⟨l, r, hinner⟩ := List.append_of_mem hc
  cases s with
  | node i form inner =>
    rw [inner_node] at hinner
    exact ⟨fs, l, r, by rw [hinner]; rfl⟩

theorem exists_source {s : Region} (hs : s.form.isSource = true) : ∃ x y, s.form = .source x y := by
  cases hform : s.form with
  | source x y => exact ⟨x, y, rfl⟩
  | text _ _ => simp [hform, Form.isSource] at hs
  | around _ _ _ => simp [hform, Form.isSource] at hs

theorem run {z : Region} {e : Edit} (h : a.Shows z) (he : e.Ready z) :
    Becomes a e (e.apply a.cells.size z) := by
  obtain ⟨hattached, htexts⟩ := he
  cases e with
  | replace old kind texts =>
    obtain ⟨s, hs, c, hc, rfl⟩ := hattached
    obtain ⟨fs, l, r, rfl⟩ := exists_children hs hc
    rw [Edit.apply_replace h.nodup]
    exact run_replace h htexts
  | wrap old kind before after =>
    obtain ⟨s, hs, c, hc, rfl⟩ := hattached
    obtain ⟨fs, l, r, rfl⟩ := exists_children hs hc
    rw [Edit.apply_wrap h.nodup]
    exact run_wrap h htexts
  | insertAfter anchor kind texts =>
    obtain ⟨s, hs, hsource, c, hc, rfl⟩ := hattached
    obtain ⟨x, y, hform⟩ := exists_source hsource
    obtain ⟨fs, l, r, rfl⟩ := exists_children hs hc
    rw [hform] at h ⊢
    rw [Edit.apply_insertAfter h.nodup]
    exact run_insertAfter h htexts
  | insertChild parent index kind texts =>
    obtain ⟨s, hs, rfl, hsource⟩ := hattached
    obtain ⟨x, y, hform⟩ := exists_source hsource
    obtain ⟨fs, rfl⟩ := exists_plug hs
    cases s with
    | node i form inner =>
      rw [form_node] at hform
      subst hform
      rw [id_node, Edit.apply_insertChild h.nodup]
      exact run_insertChild h htexts
  | replaceRun parent run kind texts =>
    obtain ⟨s, hs, rfl, hsource, l, cs, r, hinner, rfl, hcs, hspanned⟩ := hattached
    obtain ⟨x, y, hform⟩ := exists_source hsource
    obtain ⟨fs, rfl⟩ := exists_plug hs
    cases s with
    | node i form inner =>
      rw [form_node] at hform
      rw [inner_node] at hinner
      subst hform hinner
      have hne : cs ≠ [] := fun hnil => hcs (by rw [hnil]; rfl)
      have hmem (c : Region) (hc : c ∈ cs) : c ∈ (plug fs (.node i (.source x y)
          (l ++ (cs ++ r)))).regions := by
        refine mem_regions_plug ?_
        rw [regions]
        refine List.mem_cons_of_mem _ (mem_regionsIn.2 ⟨c, ?_, mem_regions_self c⟩)
        exact List.mem_append_right _ (List.mem_append_left _ hc)
      rw [id_node, Edit.apply_replaceRun hne h.nodup, Edit.runSpan_eq h.nodup hmem]
      exact run_replaceRun h htexts hne hspanned

theorem runAll {z : Region} {es : List Edit} (h : a.Shows z) (hes : Edit.AllReady a.cells.size z es) :
    ∃ b, Edit.runAll es a = (.ok (), b) ∧ b.source = a.source ∧
      b.Shows (Edit.applyAll a.cells.size z es) := by
  induction es generalizing a z with
  | nil => exact ⟨a, rfl, rfl, h⟩
  | cons e es ih =>
    obtain ⟨b, hrun, hsize, hsource, hshows⟩ := h.run hes.1
    have hrest := hes.2
    rw [← hsize] at hrest
    obtain ⟨c, hruns, hsource', hshows'⟩ := ih hshows hrest
    refine ⟨c, ?_, hsource'.trans hsource, ?_⟩
    · rw [Edit.runAll, bind_apply hrun, hruns]
    · rw [hsize] at hshows'
      exact hshows'

end Arena.Shows
end Phrasebook
