import Mathlib.Data.List.Nodup
import Phrasebook.Proofs.Tree.Paths

/-! The foci of a tree in preorder: one for each path that leads to a node, none twice, and in the
order in which their nodes begin. -/

namespace Phrasebook.Node

abbrev paths (here : Path) (n : Node) : List Path := pathsTo (fun _ => true) here n

abbrev pathsOfItems (here : Path) (k : Nat) (items : List Node) : List Path :=
  pathsToItems (fun _ => true) here k items

mutual

theorem prefix_of_mem_paths {here q : Path} : ∀ {n : Node}, q ∈ paths here n → here <+: q
  | text _, h => by simp [pathsTo] at h
  | branch i items, h => by
    rw [paths, pathsTo, if_pos rfl, List.mem_cons] at h
    rcases h with rfl | h
    · exact List.prefix_rfl
    · obtain ⟨k, -, hk⟩ := exists_prefix_of_mem_pathsOfItems h
      exact (List.prefix_append here [k]).trans hk

theorem exists_prefix_of_mem_pathsOfItems {here q : Path} :
    ∀ {items : List Node} {k : Nat}, q ∈ pathsOfItems here k items → ∃ j, k ≤ j ∧ here ++ [j] <+: q
  | [], k, h => by simp [pathsToItems] at h
  | n :: rest, k, h => by
    rw [pathsOfItems, pathsToItems] at h
    split at h
    · rcases List.mem_append.1 h with h | h
      · exact ⟨k, Nat.le_refl k, prefix_of_mem_paths h⟩
      · obtain ⟨j, hj, hq⟩ := exists_prefix_of_mem_pathsOfItems h
        exact ⟨j, by omega, hq⟩
    · exact exists_prefix_of_mem_pathsOfItems h

end

theorem eq_of_prefix_of_prefix {here q : Path} {j k : Nat} (hj : here ++ [j] <+: q)
    (hk : here ++ [k] <+: q) : j = k := by
  have hlength : (here ++ [j]).length = (here ++ [k]).length := by simp
  have heq : here ++ [j] = here ++ [k] :=
    (List.prefix_of_prefix_length_le hj hk (Nat.le_of_eq hlength)).eq_of_length hlength
  simpa using heq

mutual

theorem nodup_paths {here : Path} : ∀ {n : Node}, (paths here n).Nodup
  | text _ => by simp [pathsTo]
  | branch i items => by
    rw [paths, pathsTo, if_pos rfl, List.nodup_cons]
    refine ⟨fun h => ?_, nodup_pathsOfItems⟩
    obtain ⟨k, -, hk⟩ := exists_prefix_of_mem_pathsOfItems h
    have hle := hk.length_le
    rw [List.length_append, List.length_singleton] at hle
    omega

theorem nodup_pathsOfItems {here : Path} :
    ∀ {items : List Node} {k : Nat}, (pathsOfItems here k items).Nodup
  | [], k => by simp [pathsToItems]
  | n :: rest, k => by
    rw [pathsOfItems, pathsToItems]
    split
    · refine List.nodup_append'.2 ⟨nodup_paths, nodup_pathsOfItems, fun q hq hq' => ?_⟩
      obtain ⟨j, hj, hjq⟩ := exists_prefix_of_mem_pathsOfItems hq'
      have := eq_of_prefix_of_prefix (prefix_of_mem_paths hq) hjq
      omega
    · exact nodup_pathsOfItems

end

end Phrasebook.Node

namespace Phrasebook.Focus

theorem at?_append (path more : Path) (f : Focus) :
    f.at? (path ++ more) = (f.at? path).bind (at? more) := by
  induction path generalizing f with
  | nil => rfl
  | cons k path ih =>
    rw [List.cons_append, at?, at?]
    cases f.children[k]? with
    | none => rfl
    | some c => exact ih c

theorem getElem?_ofItems (info : Info) (frames : List Frame) (past before rest : List Node)
    {n : Node} (hn : n.isChild = true) :
    (ofItems info frames past (before ++ n :: rest))[before.countP Node.isChild]? =
      some ⟨n, ⟨info, before.reverse ++ past, rest⟩ :: frames⟩ := by
  induction before generalizing past with
  | nil => simp [ofItems, hn]
  | cons m before ih =>
    rw [List.cons_append, ofItems]
    by_cases hm : m.isChild = true
    · simp [hm, ih]
    · simp [hm, ih]

end Phrasebook.Focus

namespace Phrasebook.Node

open Focus

variable {root : Focus}

mutual

theorem map_at?_paths {here : Path} : ∀ {n : Node} {frames : List Frame},
    root.at? here = some ⟨n, frames⟩ → (paths here n).map (fun q => root.at? q) = (n.foci frames).map some
  | text _, frames, _ => by simp [pathsTo, foci]
  | branch i items, frames, h => by
    rw [paths, pathsTo, if_pos rfl, foci, List.map_cons, List.map_cons, h]
    have hitems := map_at?_pathsOfItems h [] items rfl
    rw [List.countP_nil, List.reverse_nil] at hitems
    rw [hitems]

theorem map_at?_pathsOfItems {here : Path} {i : Info} {frames : List Frame} {all : List Node}
    (h : root.at? here = some ⟨branch i all, frames⟩) : ∀ (before items : List Node),
    before ++ items = all →
      (pathsOfItems here (before.countP isChild) items).map (fun q => root.at? q) =
        (fociItems frames i before.reverse items).map some
  | before, [], _ => by simp [pathsToItems, fociItems]
  | before, n :: rest, hall => by
    have hrest := map_at?_pathsOfItems h (before ++ [n]) rest (by simpa using hall)
    rw [List.reverse_append, List.reverse_singleton, List.singleton_append, List.countP_append]
      at hrest
    rw [pathsOfItems, pathsToItems, fociItems]
    split
    next hn =>
      rw [List.countP_singleton, if_pos hn] at hrest
      have hchild : root.at? (here ++ [before.countP isChild]) =
          some ⟨n, ⟨i, before.reverse, rest⟩ :: frames⟩ := by
        have hat := getElem?_ofItems i frames [] before rest hn
        rw [List.append_nil, hall] at hat
        rw [Focus.at?_append, h, Option.bind_some, Focus.at?]
        show ((ofItems i frames [] all)[before.countP isChild]?).bind _ = _
        rw [hat]
        rfl
      rw [List.map_append, List.map_append, map_at?_paths hchild, hrest]
    next hn =>
      rw [List.countP_singleton, if_neg hn] at hrest
      exact hrest

end

end Phrasebook.Node

namespace Phrasebook.Focus

def BeginsBefore (f g : Focus) : Prop :=
  ∀ a ∈ f.node.info.start, ∀ b ∈ g.node.info.start, a.offset ≤ b.offset

/-- Foci whose nodes begin one after the other, between two offsets. -/
structure InOrder (a b : Nat) (fs : List Focus) : Prop where
  bounds : ∀ f ∈ fs, ∀ m ∈ f.node.info.start, a ≤ m.offset ∧ m.offset ≤ b
  pairwise : fs.Pairwise BeginsBefore

namespace InOrder

variable {a b c d : Nat} {fs gs : List Focus}

theorem nil : InOrder a b [] := ⟨by simp, .nil⟩

theorem mono (h : InOrder b c fs) (ha : a ≤ b) (hd : c ≤ d) : InOrder a d fs := by
  refine ⟨fun f hf m hm => ?_, h.pairwise⟩
  obtain ⟨hb, hc⟩ := h.bounds f hf m hm
  omega

theorem append (hfs : InOrder a b fs) (hgs : InOrder b c gs) (hab : a ≤ b) (hbc : b ≤ c) :
    InOrder a c (fs ++ gs) := by
  refine ⟨fun f hf => ?_, List.pairwise_append.2 ⟨hfs.pairwise, hgs.pairwise, ?_⟩⟩
  · rcases List.mem_append.1 hf with hf | hf
    · exact (hfs.mono (Nat.le_refl a) hbc).bounds f hf
    · exact (hgs.mono hab (Nat.le_refl c)).bounds f hf
  · intro f hf g hg m hm n hn
    have hfirst := (hfs.bounds f hf m hm).2
    have hsecond := (hgs.bounds g hg n hn).1
    omega

end InOrder

mutual

theorem inOrder_foci {a b : Nat} : ∀ {n : Node} {frames : List Frame}, n.LaidAt a b →
    InOrder a b (n.foci frames)
  | .text _, _, _ => .nil
  | .branch i items, frames, h => by
    obtain ⟨hlaid, ha, hb⟩ := h
    obtain ⟨-, -, -, m, e, hm, he, hitems⟩ := Node.isLaid_branch.1 hlaid
    obtain rfl : m.offset = a := by simpa [Node.info, hm] using ha
    obtain rfl : e = b := by simpa [Node.info, he] using hb
    have hbelow : InOrder m.offset e (Node.fociItems frames i [] items) := inOrder_fociItems hitems
    have hle := Node.le_of_areLaid hitems
    have hhere : ∀ m' ∈ i.start, m'.offset = m.offset := by
      intro m' hm'
      rw [hm] at hm'
      cases hm'
      rfl
    rw [Node.foci]
    refine ⟨fun f hf m' hm' => ?_, List.pairwise_cons.2 ⟨fun g hg m' hm' n hn => ?_, hbelow.pairwise⟩⟩
    · rcases List.mem_cons.1 hf with rfl | hf
      · rw [hhere m' hm']
        exact ⟨Nat.le_refl _, hle⟩
      · exact hbelow.bounds f hf m' hm'
    · rw [hhere m' hm']
      exact (hbelow.bounds g hg n hn).1

theorem inOrder_fociItems {a b : Nat} {i : Info} {frames : List Frame} : ∀ {items before : List Node},
    Node.areLaid a b items = true → InOrder a b (Node.fociItems frames i before items)
  | [], _, _ => .nil
  | n :: rest, before, h => by
    obtain ⟨c, d, hn, hac, hrest⟩ := Node.areLaid_cons.1 h
    have hcd := Node.le_of_laidAt hn
    have hdb := Node.le_of_areLaid hrest
    rw [Node.fociItems, if_pos (Node.isChild_of_isLaid hn.1)]
    exact ((inOrder_foci hn).mono hac (Nat.le_refl d)).append (inOrder_fociItems hrest)
      (by omega) hdb

end

end Phrasebook.Focus
