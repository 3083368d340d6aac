import Mathlib.Tactic.Tauto
import Phrasebook.Proofs.Tree.Simulation

/-! Edits in any order. Edits at nodes apart from each other can be made in any order, and the file
prints the same text after them. Only the numbers of the new nodes depend on the order, and these
are not printed. -/

namespace Phrasebook

open Region

namespace Edit

variable {e e' e'' : Edit} {new : NodeId} {σ σ' : Option (Nat × Nat)} {r s : Region}
  {rs : List Region}

/-- Whether two edits are about nodes apart from each other: no node of one is at or below a node
of the other. -/
def Apart (rs : List Region) (e e' : Edit) : Prop :=
  ∀ s ∈ regionsIn rs, (s.id ∈ e.sites → ∀ i ∈ e'.sites, i ∉ s.ids) ∧
    (s.id ∈ e'.sites → ∀ i ∈ e.sites, i ∉ s.ids)

theorem Apart.symm (h : Apart rs e e') : Apart rs e' e := fun s hs => (h s hs).symm

/-- What an edit makes of regions when its new node has the number `new`. -/
def made (new : NodeId) (σ : Option (Nat × Nat)) (e : Edit) (rs : List Region) : List Region :=
  rewriteIn (fun r => e.expand new σ r) rs

theorem mem_expand (h : s ∈ regionsIn (e.expand new σ r)) :
    s.id = new ∨ (s.id = r.id ∧ s.ids ⊆ new :: r.ids) ∨ s ∈ regionsIn r.inner := by
  have hself (hs : s ∈ r.regions) : s.id = new ∨ (s.id = r.id ∧ s.ids ⊆ new :: r.ids) ∨
      s ∈ regionsIn r.inner := by
    cases r with
    | node i form inner =>
      rw [regions, List.mem_cons] at hs
      rcases hs with rfl | hs
      · exact .inr (.inl ⟨rfl, List.subset_cons_self _ _⟩)
      · exact .inr (.inr hs)
  have hleaf {form : Form} (hs : s ∈ (Region.node new form []).regions) : s.id = new := by
    obtain rfl : s = .node new form [] := by simpa [regions, regionsIn] using hs
    rfl
  have hnone (hs : s ∈ regionsIn [r]) : s.id = new ∨ (s.id = r.id ∧ s.ids ⊆ new :: r.ids) ∨
      s ∈ regionsIn r.inner := hself (by simpa [regionsIn] using hs)
  cases e with
  | replace old kind texts =>
    rw [expand] at h
    split at h
    · exact .inl (hleaf (by simpa [regionsIn] using h))
    · exact hnone h
  | wrap old kind before after =>
    rw [expand] at h
    split at h
    · rw [regionsIn, regionsIn, List.append_nil, regions, List.mem_cons] at h
      rcases h with rfl | h
      · exact .inl rfl
      · exact hnone h
    · exact hnone h
  | replaceRun parent run kind texts =>
    rw [expand] at h
    split at h
    · exact .inl (hleaf (by simpa [regionsIn] using h))
    · split at h
      · simp [regionsIn] at h
      · exact hnone h
  | insertAfter anchor kind texts =>
    rw [expand] at h
    split at h
    · rw [regionsIn, regionsIn, regionsIn, List.append_nil, List.mem_append] at h
      exact h.elim hself fun h => .inl (hleaf h)
    · exact hnone h
  | insertChild parent index kind texts =>
    rw [expand] at h
    split at h
    · cases r with
      | node i form inner =>
        rw [Region.insert, regionsIn, regionsIn, List.append_nil, regions, List.mem_cons] at h
        generalize Node.clampIndex index inner.length = k at h
        have hids : idsIn inner = idsIn (inner.take k) ++ idsIn (inner.drop k) := by
          rw [← idsIn_append, List.take_append_drop]
        have hregions : regionsIn inner = regionsIn (inner.take k) ++ regionsIn (inner.drop k) := by
          rw [← regionsIn_append, List.take_append_drop]
        rcases h with rfl | h
        · refine .inr (.inl ⟨rfl, fun j hj => ?_⟩)
          simp only [ids_node, idsIn_append, idsIn_cons, idsIn_nil, hids, List.mem_cons,
            List.mem_append, List.not_mem_nil, or_false] at hj ⊢
          tauto
        · rw [regionsIn_append, regionsIn, List.mem_append, List.mem_append] at h
          rw [inner_node, hregions, List.mem_append]
          exact h.elim (fun h => .inr (.inr (.inl h)))
            (Or.elim · (fun h => .inl (hleaf h)) fun h => .inr (.inr (.inr h)))
    · exact hnone h

mutual

theorem mem_rewrite : ∀ {r s : Region}, s ∈ regionsIn (rewrite (fun r => e.expand new σ r) r) →
    s.id = new ∨ ∃ t ∈ r.regions, s.id = t.id ∧ s.ids ⊆ new :: t.ids
  | node i form below, s, h => by
    rw [rewrite] at h
    rcases mem_expand h with hnew | ⟨hid, hids⟩ | hinner
    · exact .inl hnew
    · refine .inr ⟨_, mem_regions_self _, hid, fun j hj => ?_⟩
      have hj := hids hj
      rw [ids_node, List.mem_cons, List.mem_cons] at hj
      rw [ids_node, List.mem_cons, List.mem_cons]
      rcases hj with hj | hj | hj
      · exact .inl hj
      · exact .inr (.inl hj)
      · obtain ⟨t, ht, rfl⟩ := List.mem_map.1 hj
        rcases mem_rewriteIn ht with hnew | ⟨t', ht', hid', -⟩
        · exact .inl hnew
        · exact .inr (.inr (hid' ▸ List.mem_map_of_mem ht'))
    · rcases mem_rewriteIn hinner with hnew | ⟨t, ht, hid, hids⟩
      · exact .inl hnew
      · exact .inr ⟨t, by rw [regions]; exact List.mem_cons_of_mem _ ht, hid, hids⟩

theorem mem_rewriteIn : ∀ {rs : List Region} {s : Region},
    s ∈ regionsIn (rewriteIn (fun r => e.expand new σ r) rs) →
      s.id = new ∨ ∃ t ∈ regionsIn rs, s.id = t.id ∧ s.ids ⊆ new :: t.ids
  | [], s, h => by simp [rewriteIn, regionsIn] at h
  | r :: rest, s, h => by
    rw [rewriteIn, regionsIn_append, List.mem_append] at h
    rw [regionsIn]
    rcases h with h | h
    · exact (mem_rewrite h).imp_right fun ⟨t, ht, hts⟩ => ⟨t, List.mem_append_left _ ht, hts⟩
    · exact (mem_rewriteIn h).imp_right fun ⟨t, ht, hts⟩ => ⟨t, List.mem_append_right _ ht, hts⟩

end

theorem idsIn_made (new : NodeId) (σ : Option (Nat × Nat)) (e : Edit) (rs : List Region) :
    idsIn (e.made new σ rs) ⊆ new :: idsIn rs := by
  intro i hi
  obtain ⟨s, hs, rfl⟩ := List.mem_map.1 hi
  rcases mem_rewriteIn hs with hnew | ⟨t, ht, hid, -⟩
  · exact List.mem_cons.2 (.inl hnew)
  · exact List.mem_cons_of_mem _ (hid ▸ List.mem_map_of_mem ht)

theorem Apart.made (h : Apart rs e' e'') (he' : new ∉ e'.sites) (he'' : new ∉ e''.sites) :
    Apart (e.made new σ rs) e' e'' := by
  intro s hs
  rcases mem_rewriteIn hs with hnew | ⟨t, ht, hid, hids⟩
  · rw [hnew]
    exact ⟨fun hmem => absurd hmem he', fun hmem => absurd hmem he''⟩
  · have hkeep {is : List NodeId} (hnew : new ∉ is) (hout : ∀ i ∈ is, i ∉ t.ids) :
        ∀ i ∈ is, i ∉ s.ids := by
      intro i hi hmem
      rcases List.mem_cons.1 (hids hmem) with rfl | hmem
      · exact hnew hi
      · exact hout i hi hmem
    rw [hid]
    exact ⟨fun hmem => hkeep he'' ((h t ht).1 hmem), fun hmem => hkeep he' ((h t ht).2 hmem)⟩

theorem rewriteIn_apart (h : ∀ i ∈ e'.sites, i ∉ r.ids) (hnew : new ∉ e'.sites) :
    rewriteIn (fun r => e'.expand new σ' r) (rewrite (fun r => e.expand new σ r) r) =
      rewriteIn (fun r => e.expand new σ r) (rewrite (fun r => e'.expand new σ' r) r) := by
  have hsited := e'.sited new σ'
  have hsame : rewrite (fun r => e'.expand new σ' r) r = [r] :=
    hsited.rewrite fun i hi hmem => h i hmem hi
  have hids := e.idsIn_made new σ [r]
  rw [hsame]
  rw [Edit.made, rewriteIn, rewriteIn, List.append_nil] at hids
  rw [rewriteIn, rewriteIn, List.append_nil]
  refine hsited.rewriteIn fun i hi hmem => ?_
  rcases List.mem_cons.1 (hids hi) with rfl | hi
  · exact hnew hmem
  · exact h i hmem (by simpa using hi)

mutual

theorem rewrite_comm (he : new ∉ e.sites) (he' : new ∉ e'.sites) :
    ∀ {r : Region}, Apart [r] e e' →
      rewriteIn (fun r => e'.expand new σ' r) (rewrite (fun r => e.expand new σ r) r) =
        rewriteIn (fun r => e.expand new σ r) (rewrite (fun r => e'.expand new σ' r) r)
  | node i form below, h => by
    have hself := h (node i form below) (by simp [regionsIn, regions])
    by_cases hi : i ∈ e.sites
    · exact rewriteIn_apart (hself.1 hi) he'
    · by_cases hi' : i ∈ e'.sites
      · exact (rewriteIn_apart (hself.2 hi') he).symm
      · have hinner : Apart below e e' := fun s hs =>
          h s (by simpa [regionsIn, regions] using .inr hs)
        have hkept (xs : List Region) : e.expand new σ (node i form xs) = [node i form xs] :=
          e.sited new σ (node i form xs) hi
        have hkept' (xs : List Region) : e'.expand new σ' (node i form xs) = [node i form xs] :=
          e'.sited new σ' (node i form xs) hi'
        simp only [rewrite, rewriteIn, hkept, hkept', List.append_nil,
          rewriteIn_comm he he' hinner]

theorem rewriteIn_comm (he : new ∉ e.sites) (he' : new ∉ e'.sites) :
    ∀ {rs : List Region}, Apart rs e e' →
      rewriteIn (fun r => e'.expand new σ' r) (rewriteIn (fun r => e.expand new σ r) rs) =
        rewriteIn (fun r => e.expand new σ r) (rewriteIn (fun r => e'.expand new σ' r) rs)
  | [], _ => rfl
  | r :: rest, h => by
    have hr : Apart [r] e e' := fun s hs => h s (by
      rw [regionsIn, regionsIn, List.append_nil] at hs
      exact List.mem_append_left _ hs)
    have hrest : Apart rest e e' := fun s hs => h s (List.mem_append_right _ hs)
    rw [rewriteIn, rewriteIn, rewriteIn_append, rewriteIn_append, rewrite_comm he he' hr,
      rewriteIn_comm he he' hrest]

end

theorem foldl_made {σ : Edit → Option (Nat × Nat)} {es es' : List Edit} (hperm : es.Perm es')
    (hnew : ∀ e ∈ es, new ∉ e.sites) (hapart : es.Pairwise (Apart rs)) :
    es.foldl (fun rs e => e.made new (σ e) rs) rs =
      es'.foldl (fun rs e => e.made new (σ e) rs) rs := by
  induction hperm generalizing rs with
  | nil => rfl
  | cons e hperm ih =>
    rw [List.forall_mem_cons] at hnew
    rw [List.pairwise_cons] at hapart
    refine ih hnew.2 (hapart.2.imp_of_mem fun he' he'' h => ?_)
    exact h.made (hnew.2 _ he') (hnew.2 _ he'')
  | swap e e' es =>
    rw [List.forall_mem_cons, List.forall_mem_cons] at hnew
    have h := (List.pairwise_cons.1 hapart).1 e List.mem_cons_self
    rw [List.foldl_cons, List.foldl_cons, List.foldl_cons, List.foldl_cons]
    congr 1
    exact rewriteIn_comm hnew.1 hnew.2.1 h
  | trans hfirst _ ih ih' =>
    rw [ih hnew hapart]
    refine ih' (fun e he => hnew e (hfirst.mem_iff.2 he)) ?_
    exact (hfirst.pairwise_iff fun h => h.symm).1 hapart

end Edit

namespace Region

mutual

def forget (n : Nat) : Region → Region
  | node i form inner => node (min i n) form (forgetIn n inner)

def forgetIn (n : Nat) : List Region → List Region
  | [] => []
  | r :: rest => forget n r :: forgetIn n rest

end

variable {n : Nat} {r : Region}

theorem forgetIn_eq (n : Nat) (rs : List Region) : forgetIn n rs = rs.map (forget n) := by
  induction rs with
  | nil => rfl
  | cons r rest ih => rw [forgetIn, ih, List.map_cons]

theorem span_forget (n : Nat) (r : Region) : (r.forget n).span = r.span := by
  cases r with
  | node i form inner => rw [forget, span_node, span_node]

theorem min_eq_iff {i k n : Nat} (hi : i < n) : min k n = i ↔ k = i := by omega

theorem id_forget_eq {i : Nat} (hi : i < n) : (r.forget n).id = i ↔ r.id = i := by
  cases r with
  | node k form inner =>
    rw [forget, id_node, id_node]
    exact min_eq_iff hi

mutual

theorem pieces_forget : ∀ r : Region, (r.forget n).pieces = r.pieces
  | node _ (.source a b) inner => by rw [forget, pieces, pieces, splice_forget]
  | node _ (.text (some _) texts) inner => by rw [forget, pieces, pieces]
  | node _ (.text none texts) inner => by rw [forget, pieces, pieces]
  | node _ (.around _ before after) inner => by rw [forget, pieces, pieces, piecesIn_forget]

theorem piecesIn_forget : ∀ rs : List Region, piecesIn (forgetIn n rs) = piecesIn rs
  | [] => rfl
  | r :: rest => by rw [forgetIn, piecesIn, piecesIn, pieces_forget r, piecesIn_forget rest]

theorem splice_forget : ∀ (rs : List Region) {a b : Nat}, splice a b (forgetIn n rs) = splice a b rs
  | [], _, _ => rfl
  | r :: rest, a, b => by
    rw [forgetIn, splice, splice, span_forget, pieces_forget r]
    cases r.span with
    | none => simp only [splice_forget rest]
    | some p => simp only [splice_forget rest]

end

mutual

theorem forget_of_lt : ∀ {r : Region}, (∀ i ∈ r.ids, i < n) → r.forget n = r
  | node i form inner, h => by
    rw [ids_node, List.forall_mem_cons] at h
    rw [forget, forgetIn_of_lt h.2, Nat.min_eq_left (Nat.le_of_lt h.1)]

theorem forgetIn_of_lt : ∀ {rs : List Region}, (∀ i ∈ idsIn rs, i < n) → forgetIn n rs = rs
  | [], _ => rfl
  | r :: rest, h => by
    rw [idsIn_cons, List.forall_mem_append] at h
    rw [forgetIn, forget_of_lt h.1, forgetIn_of_lt h.2]

end

end Region

namespace Edit

variable {e : Edit} {new n : Nat} {σ : Option (Nat × Nat)}

theorem forget_expand (hnew : n ≤ new) (hsites : ∀ i ∈ e.sites, i < n) (r : Region) :
    forgetIn n (e.expand new σ r) = e.expand n σ (r.forget n) := by
  have hmin : min new n = n := Nat.min_eq_right hnew
  cases e with
  | replace old kind texts =>
    have hid := id_forget_eq (r := r) (hsites old (List.mem_singleton.2 rfl))
    rw [expand, expand, span_forget]
    simp only [hid]
    split <;> simp [forgetIn, forget, hmin]
  | wrap old kind before after =>
    have hid := id_forget_eq (r := r) (hsites old (List.mem_singleton.2 rfl))
    rw [expand, expand, span_forget]
    simp only [hid]
    split <;> simp [forgetIn, forget, hmin]
  | replaceRun parent run kind texts =>
    have hmem : (r.forget n).id ∈ run ↔ r.id ∈ run := by
      constructor
      · intro h
        rwa [(id_forget_eq (hsites _ h)).1 rfl]
      · intro h
        rwa [(id_forget_eq (hsites _ h)).2 rfl]
    have hhead : run.head? = some (r.forget n).id ↔ run.head? = some r.id := by
      cases run with
      | nil => simp
      | cons i run =>
        have hid := id_forget_eq (r := r) (hsites i List.mem_cons_self)
        simp only [List.head?_cons, Option.some.injEq, eq_comm (a := i), hid]
    rw [expand, expand]
    simp only [hmem, hhead]
    split
    · simp [forgetIn, forget, hmin]
    · split <;> rfl
  | insertAfter anchor kind texts =>
    have hid := id_forget_eq (r := r) (hsites anchor (List.mem_singleton.2 rfl))
    rw [expand, expand]
    simp only [hid]
    split <;> simp [forgetIn, forget, hmin]
  | insertChild parent index kind texts =>
    have hid := id_forget_eq (r := r) (hsites parent (List.mem_singleton.2 rfl))
    rw [expand, expand]
    simp only [hid]
    cases r with
    | node i form inner =>
      split <;> simp [forgetIn, forget, hmin, Region.insert, forgetIn_eq, List.map_take,
        List.map_drop]

mutual

theorem forget_rewrite (hnew : n ≤ new) (hsites : ∀ i ∈ e.sites, i < n) :
    ∀ r : Region, forgetIn n (rewrite (fun r => e.expand new σ r) r) =
      rewrite (fun r => e.expand n σ r) (r.forget n)
  | node i form below => by
    rw [rewrite, forget_expand hnew hsites, forget, forget, rewrite,
      forgetIn_rewriteIn hnew hsites below]

theorem forgetIn_rewriteIn (hnew : n ≤ new) (hsites : ∀ i ∈ e.sites, i < n) :
    ∀ rs : List Region, forgetIn n (rewriteIn (fun r => e.expand new σ r) rs) =
      rewriteIn (fun r => e.expand n σ r) (forgetIn n rs)
  | [] => rfl
  | r :: rest => by
    rw [rewriteIn, forgetIn, rewriteIn, ← forget_rewrite hnew hsites r,
      ← forgetIn_rewriteIn hnew hsites rest]
    simp only [forgetIn_eq, List.map_append]

end

end Edit

namespace Region

variable {z s c : Region} {sites : List NodeId} {f : Region → List Region}

def kept (f : Region → List Region) (s : Region) : Region := node s.id s.form (rewriteIn f s.inner)

theorem rewrite_eq (f : Region → List Region) (s : Region) : rewrite f s = f (kept f s) := by
  cases s with
  | node i form inner => rw [rewrite, kept, id_node, form_node, inner_node]

theorem Sited.rewrite_kept (h : Sited sites f) (hs : s.id ∉ sites) :
    Region.rewrite f s = [kept f s] := by
  rw [rewrite_eq]
  exact h _ hs

theorem Sited.rewriteIn_kept (h : Sited sites f) {cs : List Region} (hcs : ∀ c ∈ cs, c.id ∉ sites) :
    Region.rewriteIn f cs = cs.map (kept f) := by
  rw [rewriteIn_eq]
  induction cs with
  | nil => rfl
  | cons c cs ih =>
    rw [List.forall_mem_cons] at hcs
    rw [List.flatMap_cons, h.rewrite_kept hcs.1, ih hcs.2]
    rfl

mutual

theorem Sited.kept_mem (h : Sited sites f) : ∀ {z : Region}, s ∈ z.regions →
    (∀ t ∈ z.regions, t.id ∈ sites → s ∉ t.regions) → kept f s ∈ regionsIn (Region.rewrite f z)
  | node i form inner, hs, hout => by
    have hi : i ∉ sites := fun hi => hout _ (mem_regions_self _) hi hs
    have hkept : Region.rewrite f (node i form inner) = [kept f (node i form inner)] :=
      h.rewrite_kept hi
    rw [hkept, regionsIn, regionsIn, List.append_nil, kept, regions, id_node, form_node, inner_node,
      List.mem_cons]
    rw [regions, List.mem_cons] at hs
    rcases hs with rfl | hs
    · exact .inl rfl
    · refine .inr (h.kept_mem_in hs fun t ht => hout t ?_)
      rw [regions]
      exact List.mem_cons_of_mem _ ht

theorem Sited.kept_mem_in (h : Sited sites f) : ∀ {rs : List Region}, s ∈ regionsIn rs →
    (∀ t ∈ regionsIn rs, t.id ∈ sites → s ∉ t.regions) →
      kept f s ∈ regionsIn (Region.rewriteIn f rs)
  | [], hs, _ => by simp [regionsIn] at hs
  | r :: rest, hs, hout => by
    rw [regionsIn, List.mem_append] at hs
    rw [Region.rewriteIn, regionsIn_append, List.mem_append]
    rcases hs with hs | hs
    · exact .inl (h.kept_mem hs fun t ht => hout t (List.mem_append_left _ ht))
    · exact .inr (h.kept_mem_in hs fun t ht => hout t (List.mem_append_right _ ht))

end

theorem mem_regions_inner (hs : s ∈ z.regions) (hc : c ∈ s.inner) : c ∈ z.regions := by
  obtain ⟨fs, rfl⟩ := exists_plug hs
  refine mem_regions_plug ?_
  cases s with
  | node i form inner =>
    rw [regions]
    exact List.mem_cons_of_mem _ (mem_regionsIn.2 ⟨c, hc, mem_regions_self c⟩)

theorem mem_regionsIn_inner (hs : s ∈ z.regions) (hc : c ∈ s.inner) : c ∈ regionsIn z.inner := by
  cases z with
  | node i form inner =>
    rw [regions, List.mem_cons] at hs
    rcases hs with rfl | hs
    · exact mem_regionsIn.2 ⟨c, hc, mem_regions_self c⟩
    · obtain ⟨r, hr, hs⟩ := mem_regionsIn.1 hs
      exact mem_regionsIn.2 ⟨r, hr, mem_regions_inner hs hc⟩

theorem id_notMem_inner (hnodup : z.ids.Nodup) (hs : s ∈ z.regions) (hc : c ∈ s.inner) :
    c.id ≠ z.id := by
  have hmem := List.mem_map_of_mem (f := Region.id) (mem_regionsIn_inner hs hc)
  cases z with
  | node i form inner =>
    rw [ids_node, List.nodup_cons] at hnodup
    rintro rfl
    exact hnodup.1 hmem

end Region

namespace Edit

variable {e e' : Edit} {σ : Option (Nat × Nat)} {z z' : Region}

theorem Attached.sites_mem (h : e.Attached z) : ∀ i ∈ e.sites, i ∈ z.ids := by
  have hone {s c : Region} (hs : s ∈ z.regions) (hc : c ∈ s.inner) : ∀ i ∈ [c.id], i ∈ z.ids := by
    intro i hi
    rw [List.mem_singleton.1 hi]
    exact List.mem_map_of_mem (mem_regions_inner hs hc)
  cases e with
  | replace old kind texts =>
    obtain ⟨s, hs, c, hc, rfl⟩ := h
    exact hone hs hc
  | wrap old kind before after =>
    obtain ⟨s, hs, c, hc, rfl⟩ := h
    exact hone hs hc
  | insertAfter anchor kind texts =>
    obtain ⟨s, hs, -, c, hc, rfl⟩ := h
    exact hone hs hc
  | replaceRun parent run kind texts =>
    obtain ⟨s, hs, -, -, l, cs, r, hinner, rfl, -, -⟩ := h
    intro i hi
    obtain ⟨c, hc, rfl⟩ := List.mem_map.1 hi
    refine List.mem_map_of_mem (mem_regions_inner hs ?_)
    rw [hinner]
    exact List.mem_append_right _ (List.mem_append_left _ hc)
  | insertChild parent index kind texts =>
    obtain ⟨s, hs, rfl, -⟩ := h
    intro i hi
    rw [List.mem_singleton.1 hi]
    exact List.mem_map_of_mem hs

theorem rewrite_eq_apply (new : NodeId) (hnodup : z.ids.Nodup) (he : e.Attached z) :
    rewrite (fun r => e.expand new (e.span z) r) z = [e.apply new z] := by
  have hsingle (x : Region) (hx : rewrite (fun r => e.expand new (e.span z) r) z = [x]) :
      rewrite (fun r => e.expand new (e.span z) r) z = [e.apply new z] := by
    rw [apply, hx]
    rfl
  have hroot (hsites : z.id ∉ e.sites) := hsingle _ ((e.sited new (e.span z)).rewrite_kept hsites)
  cases e with
  | replace old kind texts =>
    obtain ⟨s, hs, c, hc, rfl⟩ := he
    exact hroot (by simpa [sites] using (id_notMem_inner hnodup hs hc).symm)
  | wrap old kind before after =>
    obtain ⟨s, hs, c, hc, rfl⟩ := he
    exact hroot (by simpa [sites] using (id_notMem_inner hnodup hs hc).symm)
  | insertAfter anchor kind texts =>
    obtain ⟨s, hs, -, c, hc, rfl⟩ := he
    exact hroot (by simpa [sites] using (id_notMem_inner hnodup hs hc).symm)
  | replaceRun parent run kind texts =>
    obtain ⟨s, hs, -, -, l, cs, r, hinner, rfl, -, -⟩ := he
    refine hroot fun hmem => ?_
    obtain ⟨c, hc, hid⟩ := List.mem_map.1 hmem
    refine id_notMem_inner hnodup hs ?_ hid
    rw [hinner]
    exact List.mem_append_right _ (List.mem_append_left _ hc)
  | insertChild parent index kind texts =>
    by_cases hid : z.id = parent
    · refine hsingle ((kept (fun r => (insertChild parent index kind texts).expand new none r)
        z).insert index (.node new (.text none texts) [])) ?_
      rw [rewrite_eq]
      exact if_pos hid
    · exact hroot (by simpa [sites] using hid)

theorem spanned_kept {f : Region → List Region} {cs : List Region} (h : Spanned cs) :
    Spanned (cs.map (kept f)) := by
  rcases h with hnone | ⟨hfirst, hlast⟩
  · refine .inl fun c hc => ?_
    obtain ⟨d, hd, rfl⟩ := List.mem_map.1 hc
    exact hnone d hd
  · refine .inr ⟨?_, ?_⟩
    · rw [List.head?_map, Option.bind_map]
      exact hfirst
    · rw [List.getLast?_map, Option.bind_map]
      exact hlast

theorem across_kept (f : Region → List Region) (cs : List Region) :
    across (cs.map (kept f)) = across cs := by
  rw [across, List.head?_map, List.getLast?_map, Option.bind_map, Option.bind_map]
  rfl

theorem Attached.apart {new : NodeId} (hnodup : z.ids.Nodup) (he' : e'.Attached z) (hapart : Apart [z] e e')
    (hz' : rewrite (fun r => e.expand new σ r) z = [z']) (hnodup' : z'.ids.Nodup) :
    e'.Attached z' ∧ e'.span z' = e'.span z := by
  have hsited := e.sited new σ
  generalize hf : (fun r => e.expand new σ r) = f at hz' hsited
  have hstays {s c : Region} (hs : s ∈ z.regions) (hc : c ∈ s.regions) (hid : c.id ∈ e'.sites) :
      kept f s ∈ z'.regions := by
    have hmem := hsited.kept_mem hs fun t ht hte hst => by
      refine (hapart t (by simpa [regionsIn] using ht)).1 hte c.id hid ?_
      obtain ⟨gs, rfl⟩ := exists_plug hst
      exact List.mem_map_of_mem (mem_regions_plug hc)
    rw [hz'] at hmem
    simpa [regionsIn] using hmem
  have hinner {s c : Region} (hc : c ∈ s.inner) : c ∈ s.regions :=
    mem_regions_inner (mem_regions_self s) hc
  have hfree {c : Region} (hc : c ∈ z.regions) (hid : c.id ∈ e'.sites) : c.id ∉ e.sites :=
    fun hmem => (hapart c (by simpa [regionsIn] using hc)).1 hmem c.id hid (id_mem_ids c)
  have hchild {s c : Region} (hs : s ∈ z.regions) (hc : c ∈ s.inner) (hid : c.id ∈ e'.sites) :
      kept f c ∈ (kept f s).inner := by
    rw [kept, inner_node, rewriteIn_eq, List.mem_flatMap]
    refine ⟨c, hc, ?_⟩
    rw [hsited.rewrite_kept (hfree (mem_regions_inner hs hc) hid)]
    exact List.mem_singleton.2 rfl
  cases e' with
  | replace old kind texts =>
    obtain ⟨s, hs, c, hc, rfl⟩ := he'
    have hid : c.id ∈ (replace c.id kind texts).sites := List.mem_singleton.2 rfl
    exact ⟨⟨_, hstays hs (hinner hc) hid, _, hchild hs hc hid, rfl⟩, rfl⟩
  | wrap old kind before after =>
    obtain ⟨s, hs, c, hc, rfl⟩ := he'
    have hid : c.id ∈ (wrap c.id kind before after).sites := List.mem_singleton.2 rfl
    exact ⟨⟨_, hstays hs (hinner hc) hid, _, hchild hs hc hid, rfl⟩, rfl⟩
  | insertAfter anchor kind texts =>
    obtain ⟨s, hs, hsource, c, hc, rfl⟩ := he'
    have hid : c.id ∈ (insertAfter c.id kind texts).sites := List.mem_singleton.2 rfl
    exact ⟨⟨_, hstays hs (hinner hc) hid, hsource, _, hchild hs hc hid, rfl⟩, rfl⟩
  | insertChild parent index kind texts =>
    obtain ⟨s, hs, rfl, hsource⟩ := he'
    have hid : s.id ∈ (insertChild s.id index kind texts).sites := List.mem_singleton.2 rfl
    exact ⟨⟨_, hstays hs (mem_regions_self s) hid, rfl, hsource⟩, rfl⟩
  | replaceRun parent run kind texts =>
    obtain ⟨s, hs, rfl, hsource, l, cs, r, hrun, rfl, hne, hspanned⟩ := he'
    have hin {c : Region} (hc : c ∈ cs) : c ∈ s.inner := by
      rw [hrun]
      exact List.mem_append_right _ (List.mem_append_left _ hc)
    have hsites {c : Region} (hc : c ∈ cs) :
        c.id ∈ (replaceRun s.id (cs.map Region.id) kind texts).sites := List.mem_map_of_mem hc
    have hmem {c : Region} (hc : c ∈ cs) : c ∈ z.regions := mem_regions_inner hs (hin hc)
    obtain ⟨first, hfirst⟩ := List.exists_mem_of_ne_nil cs fun h => hne (by rw [h]; rfl)
    have hkept := hstays hs (hinner (hin hfirst)) (hsites hfirst)
    have hids : (cs.map (kept f)).map Region.id = cs.map Region.id := by
      rw [List.map_map]
      rfl
    have hkeptInner : (kept f s).inner =
        rewriteIn f l ++ (cs.map (kept f) ++ rewriteIn f r) := by
      rw [kept, inner_node, hrun, rewriteIn_append, rewriteIn_append,
        hsited.rewriteIn_kept fun c hc => hfree (hmem hc) (hsites hc)]
    refine ⟨⟨_, hkept, rfl, hsource, _, _, _, hkeptInner, hids, hne, spanned_kept hspanned⟩, ?_⟩
    rw [span, span, runSpan_eq hnodup fun c hc => hmem hc, ← hids, runSpan_eq hnodup' ?_,
      across_kept]
    intro c hc
    refine mem_regions_inner hkept ?_
    rw [hkeptInner]
    exact List.mem_append_right _ (List.mem_append_left _ hc)

end Edit

namespace Arena.Shows

open Edit

variable {a : Arena} {z : Region} {es es' : List Edit}

/-- Edits apart from each other can be made one after the other if each can be made at first, and
but for the numbers of the new nodes they come to what each makes of the regions by itself. -/
theorem forget_applyAll (es : List Edit) {n : Nat} {σ : Edit → Option (Nat × Nat)} (h : a.Shows z)
    (hn : n ≤ a.cells.size) (hready : ∀ e ∈ es, e.Ready z ∧ e.span z = σ e)
    (hsites : ∀ e ∈ es, ∀ i ∈ e.sites, i < n) (hapart : es.Pairwise (Apart [z])) :
    AllReady a.cells.size z es ∧ [(applyAll a.cells.size z es).forget n] =
      es.foldl (fun rs e => e.made n (σ e) rs) [z.forget n] := by
  induction es generalizing a z with
  | nil => exact ⟨trivial, rfl⟩
  | cons e es ih =>
    rw [List.forall_mem_cons] at hready hsites
    rw [List.pairwise_cons] at hapart
    obtain ⟨⟨he, hspan⟩, hready⟩ := hready
    obtain ⟨b, -, hsize, -, hshows⟩ := h.run he
    have hone := rewrite_eq_apply a.cells.size h.nodup he.1
    have hnew (e' : Edit) (he' : e' ∈ es) : a.cells.size ∉ e'.sites := fun hmem =>
      Nat.lt_irrefl _ (Nat.lt_of_lt_of_le (hsites.2 e' he' _ hmem) hn)
    have hready' (e' : Edit) (he' : e' ∈ es) :
        e'.Ready (e.apply a.cells.size z) ∧ e'.span (e.apply a.cells.size z) = σ e' := by
      obtain ⟨⟨hattached, htexts⟩, hspan'⟩ := hready e' he'
      obtain ⟨hattached', hspan''⟩ := hattached.apart h.nodup (hapart.1 e' he') hone hshows.nodup
      exact ⟨⟨hattached', htexts⟩, hspan''.trans hspan'⟩
    have hapart' : es.Pairwise (Apart [e.apply a.cells.size z]) := by
      refine hapart.2.imp_of_mem fun he' he'' hap => ?_
      have hmade := hap.made (e := e) (σ := e.span z) (hnew _ he') (hnew _ he'')
      rwa [made, rewriteIn, rewriteIn, List.append_nil, hone] at hmade
    have hforget := forget_rewrite (σ := e.span z) hn hsites.1 z
    rw [hone, hspan] at hforget
    obtain ⟨hall, heq⟩ := ih hshows (by rw [hsize]; exact Nat.le_succ_of_le hn) hready' hsites.2
      hapart'
    rw [hsize] at hall heq
    refine ⟨⟨he, hall⟩, heq.trans ?_⟩
    rw [List.foldl_cons, made, rewriteIn, rewriteIn, List.append_nil, ← hforget]
    rfl

theorem runAll_perm (h : a.Shows z) (hperm : es.Perm es') (hready : ∀ e ∈ es, e.Ready z)
    (hapart : es.Pairwise (Apart [z])) :
    AllReady a.cells.size z es ∧ AllReady a.cells.size z es' ∧
      (applyAll a.cells.size z es).filePieces a.source =
        (applyAll a.cells.size z es').filePieces a.source := by
  have hids : ∀ i ∈ z.ids, i < a.cells.size := h.holds.lt_size
  have hsites (e : Edit) (he : e ∈ es) (i : NodeId) (hi : i ∈ e.sites) : i < a.cells.size :=
    hids i ((hready e he).1.sites_mem i hi)
  have hmade (fs : List Edit) (hfs : es.Perm fs) := forget_applyAll fs
    (σ := fun e => e.span z) h (Nat.le_refl _)
    (fun e he => ⟨hready e (hfs.mem_iff.2 he), rfl⟩) (fun e he => hsites e (hfs.mem_iff.2 he))
    ((hfs.pairwise_iff fun h => h.symm).1 hapart)
  obtain ⟨hall, heq⟩ := hmade es (.refl _)
  obtain ⟨hall', heq'⟩ := hmade es' hperm
  have hnew (e : Edit) (he : e ∈ es) : a.cells.size ∉ e.sites := fun hmem =>
    Nat.lt_irrefl _ (hsites e he _ hmem)
  have hpieces (x : Region) :
      x.filePieces a.source = splice 0 a.source.length [x.forget a.cells.size] :=
    (splice_forget [x]).symm
  rw [forget_of_lt hids] at heq heq'
  refine ⟨hall, hall', ?_⟩
  rw [hpieces, hpieces, heq, heq', foldl_made hperm hnew hapart]

end Arena.Shows
end Phrasebook
