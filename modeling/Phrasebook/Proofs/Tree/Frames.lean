import Mathlib.Data.List.Perm.Basic
import Phrasebook.Proofs.Tree.Tiling

/-! Regions seen from one region inside. The regions around it are frames, the innermost first. What
is changed in the middle leaves the frames as they are: their numbers and their layout. -/

namespace Phrasebook.Region

/-- A region around another one: its node and the regions beside the other one. -/
structure Frame where
  id : NodeId
  form : Form
  left : List Region
  right : List Region

namespace Frame

/-- The region that a frame and the region in it are. -/
def fill (f : Frame) (r : Region) : Region := node f.id f.form (f.left ++ r :: f.right)

def ids (f : Frame) : List NodeId := f.id :: (idsIn f.left ++ idsIn f.right)

end Frame

open Piece

variable {source : Bytes} {z r r' s : Region} {rs : List Region} {fs : List Frame}

def plug : List Frame → Region → Region
  | [], r => r
  | f :: fs, r => plug fs (f.fill r)

theorem plug_append (fs gs : List Frame) (r : Region) :
    plug (fs ++ gs) r = plug gs (plug fs r) := by
  induction fs generalizing r with
  | nil => rfl
  | cons f fs ih => exact ih (f.fill r)

mutual

theorem exists_plug : ∀ {z : Region}, s ∈ z.regions → ∃ fs, z = plug fs s
  | node i form inner, h => by
    rw [regions, List.mem_cons] at h
    rcases h with rfl | h
    · exact ⟨[], rfl⟩
    · obtain ⟨left, right, fs, rfl⟩ := exists_plug_in h
      refine ⟨fs ++ [⟨i, form, left, right⟩], ?_⟩
      rw [plug_append]
      rfl

theorem exists_plug_in : ∀ {rs : List Region}, s ∈ regionsIn rs →
    ∃ left right fs, rs = left ++ plug fs s :: right
  | [], h => by simp [regionsIn] at h
  | r :: rest, h => by
    rw [regionsIn, List.mem_append] at h
    rcases h with h | h
    · obtain ⟨fs, hr⟩ := exists_plug h
      exact ⟨[], rest, fs, by rw [hr]; rfl⟩
    · obtain ⟨left, right, fs, hrest⟩ := exists_plug_in h
      exact ⟨r :: left, right, fs, by rw [hrest]; rfl⟩

end

theorem mem_regions_plug (h : s ∈ r.regions) : s ∈ (plug fs r).regions := by
  induction fs generalizing r with
  | nil => exact h
  | cons f fs ih =>
    refine ih ?_
    rw [Frame.fill, regions]
    exact List.mem_cons_of_mem _ (mem_regionsIn.2 ⟨r, by simp, h⟩)

theorem ids_fill (f : Frame) (r : Region) : (f.fill r).ids.Perm (r.ids ++ f.ids) := by
  rw [Frame.fill, ids_node, idsIn_append, idsIn_cons, Frame.ids]
  have hmiddle : (idsIn f.left ++ (r.ids ++ idsIn f.right)).Perm
      (r.ids ++ (idsIn f.left ++ idsIn f.right)) := List.perm_append_comm_assoc _ _ _
  exact (hmiddle.cons _).trans List.perm_middle.symm

theorem ids_plug (fs : List Frame) (r : Region) :
    (plug fs r).ids.Perm (r.ids ++ fs.flatMap Frame.ids) := by
  induction fs generalizing r with
  | nil => simp [plug]
  | cons f fs ih =>
    have hfill := (ids_fill f r).append_right (fs.flatMap Frame.ids)
    rw [List.flatMap_cons, ← List.append_assoc]
    exact (ih (f.fill r)).trans hfill

theorem nodup_of_plug (h : (plug fs r).ids.Nodup) : r.ids.Nodup ∧
    (fs.flatMap Frame.ids).Nodup ∧ ∀ i ∈ r.ids, i ∉ fs.flatMap Frame.ids := by
  have hsplit := (ids_plug fs r).nodup_iff.1 h
  rw [List.nodup_append] at hsplit
  exact ⟨hsplit.1, hsplit.2.1, fun i hi hi' => hsplit.2.2 i hi i hi' rfl⟩

theorem nodup_plug {i : NodeId} {form : Form} {inner inner' : List Region}
    (h : (plug fs (node i form inner)).ids.Nodup) (hnodup : (idsIn inner').Nodup)
    (hids : ∀ j ∈ idsIn inner', j ∈ idsIn inner ∨ j ∉ (plug fs (node i form inner)).ids) :
    (plug fs (node i form inner')).ids.Nodup := by
  obtain ⟨hmiddle, hframes, hapart⟩ := nodup_of_plug h
  rw [ids_node, List.nodup_cons] at hmiddle
  simp only [(ids_plug _ _).mem_iff, List.mem_append, ids_node, List.mem_cons, not_or] at hids hapart
  rw [(ids_plug _ _).nodup_iff, List.nodup_append, ids_node, List.nodup_cons]
  refine ⟨⟨fun hi => ?_, hnodup⟩, hframes, fun j hj k hk hjk => ?_⟩
  · rcases hids i hi with hi | hi
    · exact hmiddle.1 hi
    · exact hi.1.1 rfl
  · subst hjk
    rcases List.mem_cons.1 hj with rfl | hj
    · exact hapart j (.inl rfl) hk
    · rcases hids j hj with hj | hj
      · exact hapart j (.inr hj) hk
      · exact hj.2 hk

theorem id_plug (h : r'.id = r.id) : (plug fs r').id = (plug fs r).id := by
  induction fs generalizing r r' with
  | nil => exact h
  | cons f fs ih => exact ih rfl

theorem form_plug (h : r'.form = r.form) : (plug fs r').form = (plug fs r).form := by
  induction fs generalizing r r' with
  | nil => exact h
  | cons f fs ih => exact ih rfl

theorem eq_nil_of_around {i : NodeId} {span : Option (Nat × Nat)} {before after : List Text}
    {left right : List Region}
    (h : Laid source (node i (.around span before after) (left ++ r :: right))) :
    left = [] ∧ right = [] := by
  rw [Laid] at h
  have hlength := congrArg List.length h.1
  simp only [List.map_append, List.map_cons, List.length_append, List.length_cons,
    List.length_map, List.length_nil] at hlength
  exact ⟨List.eq_nil_of_length_eq_zero (by omega), List.eq_nil_of_length_eq_zero (by omega)⟩

theorem laid_fill {f : Frame} (h : Laid source (f.fill r)) : Laid source r ∧
    ∀ r', Laid source r' → r'.span = r.span → Laid source (f.fill r') := by
  obtain ⟨i, form, left, right⟩ := f
  cases form with
  | text span texts => simp [Frame.fill, Laid] at h
  | source a b =>
    simp only [Frame.fill, Laid] at h ⊢
    rw [fits_append] at h
    cases hr : r.span with
    | none =>
      rw [fits_unspanned hr] at h
      refine ⟨h.2.1, fun r' hr' hspan => ?_⟩
      rw [fits_append, fits_unspanned hspan]
      exact ⟨h.1, hr', h.2.2⟩
    | some p =>
      rw [fits_spanned hr] at h
      refine ⟨h.2.1, fun r' hr' hspan => ?_⟩
      rw [fits_append, fits_spanned hspan]
      exact ⟨h.1, hr', h.2.2⟩
  | around span before after =>
    obtain ⟨rfl, rfl⟩ := eq_nil_of_around h
    simp only [Frame.fill, Laid] at h ⊢
    obtain ⟨hspan, hlaid, htexts⟩ := h
    simp only [List.nil_append, LaidIn, List.map_cons, List.map_nil, List.cons.injEq,
      and_true] at hspan hlaid ⊢
    exact ⟨hlaid, fun r' hr' hr => ⟨hr.trans hspan, hr', htexts⟩⟩

theorem laid_plug (h : Laid source (plug fs r)) : Laid source r ∧
    ∀ r', Laid source r' → r'.span = r.span → Laid source (plug fs r') := by
  induction fs generalizing r with
  | nil => exact ⟨h, fun r' hr' _ => hr'⟩
  | cons f fs ih =>
    obtain ⟨hfill, hplug⟩ := ih h
    obtain ⟨hr, hreplaced⟩ := laid_fill hfill
    exact ⟨hr, fun r' hr' hspan => hplug _ (hreplaced r' hr' hspan) rfl⟩

def Sited (sites : List NodeId) (f : Region → List Region) : Prop :=
  ∀ r, r.id ∉ sites → f r = [r]

section Rewriting

variable {sites : List NodeId} {f : Region → List Region}

mutual

theorem Sited.rewrite (h : Sited sites f) : ∀ {r : Region}, (∀ i ∈ r.ids, i ∉ sites) →
    Region.rewrite f r = [r]
  | node i form inner, hr => by
    rw [ids_node, List.forall_mem_cons] at hr
    rw [Region.rewrite, h.rewriteIn hr.2]
    exact h _ hr.1

theorem Sited.rewriteIn (h : Sited sites f) : ∀ {rs : List Region}, (∀ i ∈ idsIn rs, i ∉ sites) →
    Region.rewriteIn f rs = rs
  | [], _ => rfl
  | r :: rest, hr => by
    rw [idsIn_cons, List.forall_mem_append] at hr
    rw [Region.rewriteIn, h.rewrite hr.1, h.rewriteIn hr.2]
    rfl

end

theorem Sited.rewrite_plug (h : Sited sites f) (hout : ∀ i ∈ fs.flatMap Frame.ids, i ∉ sites)
    (hr : Region.rewrite f r = [r']) : Region.rewrite f (plug fs r) = [plug fs r'] := by
  induction fs generalizing r r' with
  | nil => exact hr
  | cons g fs ih =>
    rw [List.flatMap_cons, List.forall_mem_append, Frame.ids, List.forall_mem_cons,
      List.forall_mem_append] at hout
    refine ih hout.2 ?_
    rw [Frame.fill, Region.rewrite, rewriteIn_append, Region.rewriteIn, h.rewriteIn hout.1.2.1,
      h.rewriteIn hout.1.2.2, hr]
    exact h _ hout.1.1

end Rewriting

end Phrasebook.Region
