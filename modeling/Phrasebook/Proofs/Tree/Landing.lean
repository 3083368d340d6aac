import Phrasebook.Proofs.Tree.Frames

/-! Where an edit lands. In a file in which no node has two places, an edit changes the inner regions
of one node: those of the parent of the nodes that it is about, or of the node into which it puts
another one. -/

namespace Phrasebook

open Region

namespace Region

variable {z r s : Region} {rs cs l r' : List Region}

theorem find?_of_nodup (h : (rs.map id).Nodup) (hs : s ∈ rs) :
    rs.find? (fun t => t.id = s.id) = some s := by
  induction rs with
  | nil => simp at hs
  | cons t rest ih =>
    rw [List.map_cons, List.nodup_cons] at h
    rcases List.mem_cons.1 hs with rfl | hs
    · rw [List.find?_cons_of_pos (by simp)]
    · have hne : t.id ≠ s.id := fun heq => h.1 (heq ▸ List.mem_map_of_mem hs)
      rw [List.find?_cons_of_neg (by simpa using hne), ih h.2 hs]

theorem spanOf_eq (h : z.ids.Nodup) (hs : s ∈ z.regions) : z.spanOf s.id = s.span := by
  rw [spanOf, find?_of_nodup h hs, Option.bind_some]

theorem notMem_of_below (h : (idsIn cs).Nodup) (hr : r ∈ cs) :
    ∀ i ∈ idsIn r.inner, i ∉ cs.map id := by
  intro i hi hmem
  obtain ⟨l, m, rfl⟩ := List.append_of_mem hr
  cases r with
  | node k form inner =>
    rw [inner_node] at hi
    rw [idsIn_append, idsIn_cons, ids_node] at h
    rw [List.map_append, List.map_cons, id_node] at hmem
    have hl : i ∈ l.map id → i ∈ idsIn l := fun hi => map_id_subset l hi
    have hm : i ∈ m.map id → i ∈ idsIn m := fun hi => map_id_subset m hi
    simp only [List.nodup_append, List.nodup_cons, List.mem_append, List.mem_cons] at h hmem
    rcases hmem with hmem | rfl | hmem
    · exact h.2.2 i (hl hmem) i (.inl (.inr hi)) rfl
    · exact h.2.1.1.1 hi
    · exact h.2.1.2.2 i (.inr hi) i (hm hmem) rfl

section Rewriting

variable {sites : List NodeId} {f : Region → List Region}

theorem Sited.rewrite_neighbour (h : Sited sites f) (hsites : ∀ i ∈ idsIn r.inner, i ∉ sites) :
    Region.rewrite f r = f r := by
  cases r with
  | node k form inner =>
    rw [inner_node] at hsites
    rw [Region.rewrite, h.rewriteIn hsites]

theorem Sited.rewrite_children {p : NodeId} {form : Form} (h : Sited (cs.map id) f)
    (hnodup : (node p form (l ++ (cs ++ r'))).ids.Nodup) :
    Region.rewrite f (node p form (l ++ (cs ++ r'))) =
      [node p form (l ++ (cs.flatMap f ++ r'))] := by
  have hsites : ∀ i ∈ cs.map id, i ∈ idsIn cs := fun i hi => map_id_subset cs hi
  rw [ids_node, idsIn_append, idsIn_append, List.nodup_cons, List.nodup_append,
    List.nodup_append] at hnodup
  obtain ⟨hp, -, ⟨hcs, -, hcr⟩, hlc⟩ := hnodup
  simp only [List.mem_append, not_or] at hp hlc
  have hl : Region.rewriteIn f l = l :=
    h.rewriteIn fun i hi hmem => hlc i hi i (.inl (hsites i hmem)) rfl
  have hr : Region.rewriteIn f r' = r' :=
    h.rewriteIn fun i hi hmem => hcr i (hsites i hmem) i hi rfl
  have hmiddle : Region.rewriteIn f cs = cs.flatMap f := by
    rw [rewriteIn_eq]
    refine List.flatMap_congr fun c hc => ?_
    exact h.rewrite_neighbour (notMem_of_below hcs hc)
  rw [Region.rewrite, rewriteIn_append, rewriteIn_append, hl, hmiddle, hr]
  exact h _ fun hmem => hp.2.1 (hsites p hmem)

end Rewriting

end Region

namespace Edit

variable {fs : List Region.Frame} {p new : NodeId} {form : Form} {l r cs : List Region} {c : Region}
  {kind : Text} {texts before after : List Text}

theorem sited (new : NodeId) (span : Option (Nat × Nat)) (e : Edit) :
    Sited e.sites fun r => e.expand new span r := by
  intro r hr
  cases e with
  | replace old kind texts => exact if_neg (by simpa [sites] using hr)
  | wrap old kind before after => exact if_neg (by simpa [sites] using hr)
  | replaceRun parent run kind texts =>
    have hmem : r.id ∉ run := hr
    have hhead : run.head? ≠ some r.id := fun h => hmem (List.mem_of_mem_head? h)
    simp only [expand, if_neg hhead, if_neg hmem]
  | insertChild parent index kind texts => exact if_neg (by simpa [sites] using hr)
  | insertAfter anchor kind texts => exact if_neg (by simpa [sites] using hr)

theorem apply_children {e : Edit} (hsites : e.sites = cs.map Region.id)
    (hnodup : (plug fs (.node p form (l ++ (cs ++ r)))).ids.Nodup) :
    e.apply new (plug fs (.node p form (l ++ (cs ++ r)))) =
      plug fs (.node p form (l ++
        (cs.flatMap (fun s => e.expand new (e.span (plug fs (.node p form (l ++ (cs ++ r))))) s) ++
          r))) := by
  obtain ⟨hmiddle, -, hapart⟩ := nodup_of_plug hnodup
  have hsited := e.sited new (e.span (plug fs (.node p form (l ++ (cs ++ r)))))
  rw [hsites] at hsited
  have hout : ∀ i ∈ fs.flatMap Region.Frame.ids, i ∉ cs.map Region.id := by
    intro i hi hmem
    refine hapart i ?_ hi
    rw [ids_node, idsIn_append, idsIn_append]
    exact List.mem_cons_of_mem _
      (List.mem_append_right _ (List.mem_append_left _ (map_id_subset cs hmem)))
  rw [apply, hsited.rewrite_plug hout (hsited.rewrite_children hmiddle)]
  rfl

theorem apply_replace (hnodup : (plug fs (.node p form (l ++ c :: r))).ids.Nodup) :
    (replace c.id kind texts).apply new (plug fs (.node p form (l ++ c :: r))) =
      plug fs (.node p form (l ++ .node new (.text c.span texts) [] :: r)) := by
  rw [show c :: r = [c] ++ r from rfl] at hnodup ⊢
  rw [apply_children (by rfl) hnodup]
  simp [expand]

theorem apply_wrap (hnodup : (plug fs (.node p form (l ++ c :: r))).ids.Nodup) :
    (wrap c.id kind before after).apply new (plug fs (.node p form (l ++ c :: r))) =
      plug fs (.node p form (l ++ .node new (.around c.span before after) [c] :: r)) := by
  rw [show c :: r = [c] ++ r from rfl] at hnodup ⊢
  rw [apply_children (by rfl) hnodup]
  simp [expand]

theorem apply_insertAfter (hnodup : (plug fs (.node p form (l ++ c :: r))).ids.Nodup) :
    (insertAfter c.id kind texts).apply new (plug fs (.node p form (l ++ c :: r))) =
      plug fs (.node p form (l ++ c :: .node new (.text none texts) [] :: r)) := by
  rw [show c :: r = [c] ++ r from rfl] at hnodup ⊢
  rw [apply_children (by rfl) hnodup]
  simp [expand]

theorem apply_insertChild {index : Int} {inner : List Region}
    (hnodup : (plug fs (.node p form inner)).ids.Nodup) :
    (insertChild p index kind texts).apply new (plug fs (.node p form inner)) =
      plug fs (.node p form (inner.take (Node.clampIndex index inner.length) ++
        .node new (.text none texts) [] :: inner.drop (Node.clampIndex index inner.length))) := by
  obtain ⟨hmiddle, -, hapart⟩ := nodup_of_plug hnodup
  have hsited := (insertChild p index kind texts).sited new none
  rw [ids_node, List.nodup_cons] at hmiddle
  have hbelow : ∀ i ∈ idsIn inner, i ∉ (insertChild p index kind texts).sites := by
    intro i hi hmem
    obtain rfl : i = p := by simpa [sites] using hmem
    exact hmiddle.1 hi
  have hinner := hsited.rewriteIn hbelow
  have hout : ∀ i ∈ fs.flatMap Region.Frame.ids, i ∉ (insertChild p index kind texts).sites := by
    intro i hi hmem
    obtain rfl : i = p := by simpa [sites] using hmem
    exact hapart i (by simp) hi
  have hnode : rewrite (fun r => (insertChild p index kind texts).expand new none r)
      (.node p form inner) = [(Region.node p form inner).insert index
        (.node new (.text none texts) [])] := by
    rw [rewrite, hinner]
    exact if_pos rfl
  have hspan : (insertChild p index kind texts).span (plug fs (.node p form inner)) = none := rfl
  rw [apply, hspan, hsited.rewrite_plug hout hnode]
  rfl

theorem apply_replaceRun (hcs : cs ≠ [])
    (hnodup : (plug fs (.node p form (l ++ (cs ++ r)))).ids.Nodup) :
    (replaceRun p (cs.map Region.id) kind texts).apply new
        (plug fs (.node p form (l ++ (cs ++ r)))) =
      plug fs (.node p form (l ++ .node new
        (.text (runSpan (plug fs (.node p form (l ++ (cs ++ r)))) (cs.map Region.id)) texts) [] ::
          r)) := by
  have hids : (cs.map Region.id).Nodup := by
    obtain ⟨hmiddle, -, -⟩ := nodup_of_plug hnodup
    simp only [ids_node, idsIn_append, List.nodup_cons, List.nodup_append] at hmiddle
    exact hmiddle.2.2.1.1.sublist (map_id_sublist cs)
  rw [apply_children (by rfl) hnodup]
  generalize hspan : (replaceRun p (cs.map Region.id) kind texts).span
    (plug fs (.node p form (l ++ (cs ++ r)))) = span
  rw [show runSpan _ (cs.map Region.id) = span from hspan]
  obtain ⟨first, more, rfl⟩ := List.exists_cons_of_ne_nil hcs
  rw [List.map_cons, List.nodup_cons] at hids
  have hfirst : (replaceRun p ((first :: more).map Region.id) kind texts).expand new span first =
      [.node new (.text span texts) []] := if_pos rfl
  have hmore : more.flatMap (fun s =>
      (replaceRun p ((first :: more).map Region.id) kind texts).expand new span s) = [] := by
    refine List.flatMap_eq_nil_iff.2 fun s hs => ?_
    have hmem : s.id ∈ more.map Region.id := List.mem_map_of_mem hs
    have hne : ¬ some first.id = some s.id := fun h => hids.1 (Option.some.inj h ▸ hmem)
    rw [expand, List.map_cons, List.head?_cons, if_neg hne,
      if_pos (List.mem_cons_of_mem _ hmem)]
  rw [List.flatMap_cons, hfirst, hmore]
  rfl

def across (cs : List Region) : Option (Nat × Nat) :=
  (cs.head?.bind Region.span).bind fun p => (cs.getLast?.bind Region.span).map fun q => (p.1, q.2)

theorem runSpan_eq {z : Region} (hnodup : z.ids.Nodup) (hcs : ∀ c ∈ cs, c ∈ z.regions) :
    runSpan z (cs.map Region.id) = across cs := by
  have hhead : (cs.map Region.id).head?.bind z.spanOf = cs.head?.bind Region.span := by
    rw [List.head?_map, Option.bind_map]
    refine Option.bind_congr fun c hc => ?_
    exact spanOf_eq hnodup (hcs c (List.mem_of_mem_head? hc))
  have hlast : (cs.map Region.id).getLast?.bind z.spanOf = cs.getLast?.bind Region.span := by
    rw [List.getLast?_map, Option.bind_map]
    refine Option.bind_congr fun c hc => ?_
    exact spanOf_eq hnodup (hcs c (List.mem_of_getLast? hc))
  rw [runSpan, across, hhead, hlast]

theorem across_of_unspanned (h : ∀ c ∈ cs, c.span = none) : across cs = none := by
  have hhead : cs.head?.bind Region.span = none := by
    rw [Option.bind_eq_none_iff]
    exact fun c hc => h c (List.mem_of_mem_head? hc)
  rw [across, hhead, Option.bind_none]

theorem across_of_spanned {first last : Region} (hfirst : cs.head? = some first)
    (hlast : cs.getLast? = some last) (h : Spanned cs) :
    (across cs).map Prod.fst = first.span.map Prod.fst ∧
      (across cs).map Prod.snd = last.span.map Prod.snd := by
  rcases h with hnone | ⟨hsome, hsome'⟩
  · rw [across_of_unspanned hnone, hnone first (List.mem_of_mem_head? hfirst),
      hnone last (List.mem_of_getLast? hlast)]
    exact ⟨rfl, rfl⟩
  · rw [hfirst, Option.bind_some] at hsome
    rw [hlast, Option.bind_some] at hsome'
    obtain ⟨p, hp⟩ := Option.isSome_iff_exists.1 hsome
    obtain ⟨q, hq⟩ := Option.isSome_iff_exists.1 hsome'
    rw [across, hfirst, hlast, Option.bind_some, Option.bind_some, hp, hq]
    exact ⟨rfl, rfl⟩

end Edit
end Phrasebook
