import Phrasebook.Proofs.Tree.Paths
import Phrasebook.Proofs.Tree.Prints

/-! Edits that only put text in: a statement among the children of a node, or texts around a child.
Wherever in a tree they are made, the tree stands for the same source and has the same literals
replaced as before. -/

namespace Phrasebook.Node

open Piece

theorem alters_of_editAt {f : Info → List Node → Option (List Node)} {path : Path} {n n' : Node}
    (hf : ∀ i items items', n.at? path = some (branch i items) → f i items = some items' →
      ItemsAlter i.built items items')
    (h : editAt f path n = some n') : Alters n n' := by
  induction path generalizing n n' with
  | nil =>
    cases n with
    | text t => simp [editAt] at h
    | branch i items =>
      obtain ⟨items', hitems, rfl⟩ := Option.map_eq_some_iff.1 (show (f i items).map _ = _ from h)
      exact (hf i items items' rfl hitems).branch
  | cons k path ih =>
    cases n with
    | text t => simp [editAt] at h
    | branch i items =>
      rw [editAt] at h
      obtain ⟨items', hitems, rfl⟩ := Option.map_eq_some_iff.1 h
      obtain ⟨before, c, c', after, rfl, rfl, rfl, hc, hc'⟩ := updateChild_eq_some hitems
      have halters : Alters c c' := by
        refine ih (fun j js js' hj => ?_) hc'
        refine hf j js js' ?_
        rw [at?, children, items, getElem?_filter_isChild hc]
        exact hj
      exact (halters.items hc before after i.built).branch

structure Grows (n n' : Node) : Prop where
  alters : Alters n n'
  dirty : n.info.dirty = true → n'.info.dirty = true

theorem Grows.refl (n : Node) : Grows n n := ⟨.refl n, id⟩

theorem Grows.trans {n n' n'' : Node} (h : Grows n n') (h' : Grows n' n'') : Grows n n'' :=
  ⟨h.alters.trans h'.alters, h'.dirty ∘ h.dirty⟩

theorem grows_of_editAt {f : Info → List Node → Option (List Node)} {path : Path} {n n' : Node}
    (hf : ∀ i items items', n.at? path = some (branch i items) → f i items = some items' →
      ItemsAlter i.built items items')
    (h : editAt f path n = some n') : Grows n n' := by
  refine ⟨alters_of_editAt hf h, fun _ => ?_⟩
  obtain ⟨i, items, items', -, rfl⟩ := branch_of_editAt h
  rfl

section Insertion

variable {a b : Nat} {i : Info} {items before after : List Node} {ps es : List Piece}

theorem PrintsItems.insert (t : Text) (h : PrintsItems a b (before ++ after) ps) :
    ∃ qs, PrintsItems a b (before ++ leaf t :: after) qs ∧ SameLiterals ps qs := by
  induction before generalizing a ps with
  | nil =>
    refine ⟨_, .added rfl rfl rfl (.text .nil) (by simp [isText]) h, ?_⟩
    simp [SameLiterals, literalsOf, literals]
  | cons n before ih =>
    cases h with
    | child hac hn hrest =>
      obtain ⟨qs, hqs, hsame⟩ := ih hrest
      refine ⟨_, .child hac hn hqs, ?_⟩
      simp only [SameLiterals, literalsOf, literals, literalsOf_append] at hsame ⊢
      rw [hsame]
    | added hbuilt hspan hfield he ht hrest =>
      obtain ⟨qs, hqs, hsame⟩ := ih hrest
      refine ⟨_, .added hbuilt hspan hfield he ht hqs, ?_⟩
      simp only [SameLiterals, literalsOf_append] at hsame ⊢
      rw [hsame]

theorem Emits.insert {n : Node} (hn : n.isPrinted = false) (h : Emits (before ++ after) es) :
    Emits (before ++ n :: after) es := by
  induction before generalizing es with
  | nil => exact .hidden hn h
  | cons m before ih =>
    cases h with
    | text hrest => exact .text (ih hrest)
    | hidden hhidden hrest => exact .hidden hhidden (ih hrest)
    | built hprinted hbuilt hfield hi hrest => exact .built hprinted hbuilt hfield hi (ih hrest)
    | expression hprinted hm hrest => exact .expression hprinted hm (ih hrest)

theorem itemsAlter_insertItem (t : Text) (i : Info) (k : Nat) (items : List Node) :
    ItemsAlter i.built items (insertItem
      ((leaf t).mapInfo fun j => { j with standing := sideStanding i }) k items) := by
  obtain ⟨before, after, rfl, hnew⟩ := insertItem_eq
    ((leaf t).mapInfo fun j => { j with standing := sideStanding i }) k items
  rw [hnew]
  -- A node of the source prints its new child; a built node has it among its children only.
  constructor
  · intro hbuilt a b ps hps
    have hleaf : ((leaf t).mapInfo fun j => { j with standing := sideStanding i }) = leaf t := by
      simp [leaf, build, mapInfo, sideStanding, hbuilt]
    rw [hleaf]
    exact hps.insert t
  · intro hbuilt es hes
    refine ⟨es, hes.insert ?_, rfl, rfl⟩
    simp [leaf, build, mapInfo, sideStanding, hbuilt, isPrinted]

end Insertion

theorem grows_insertAt {root root' : Node} {path : Path} {index : Int} {t : Text}
    (h : root.insertAt path index (leaf t) = some root') : Grows root root' := by
  refine grows_of_editAt (fun i items items' _ hitems => ?_) h
  cases hitems
  exact itemsAlter_insertItem t i _ items

section Surrounding

variable {a b : Nat} {n : Node} {ps : List Piece}

theorem Prints.full (h : Prints n a b ps) :
    Prints (n.mapInfo fun i => { i with standing := .full }) a b ps := by
  cases h with
  | clean hn =>
    refine .clean ?_
    cases n with
    | text t => exact hn
    | branch i items =>
      have hfull := (isLaid_branch.1 hn.1).2.2.1
      rwa [mapInfo, ← hfull]
  | spliced hbuilt hdirty hspan h => exact .spliced hbuilt hdirty hspan h
  | literal hbuilt hspan hle h => exact .literal hbuilt hspan hle h
  | around hbuilt hspan h hf hg => exact .around hbuilt hspan h hf hg

theorem Emits.texts (ts : List Text) {rest : List Node} {es : List Piece} (h : Emits rest es) :
    Emits (ts.map Node.text ++ rest) (ts.map .inserted ++ es) := by
  induction ts with
  | nil => exact h
  | cons t ts ih => exact .text ih

theorem isText_map_inserted (ts : List Text) : ∀ p ∈ ts.map inserted, p.isText = true := by
  intro p hp
  obtain ⟨t, -, rfl⟩ := List.mem_map.1 hp
  rfl

theorem isPrinted_full (h : n.isChild = true) :
    (n.mapInfo fun i => { i with standing := .full }).isPrinted = true := by
  cases n with
  | text t => simp [isChild] at h
  | branch i items => rfl

theorem map_printedOnly (ts : List Text) : (ts.map text).map
    (mapInfo fun i => { i with standing := .printedOnly }) = ts.map text := by
  rw [List.map_map]
  rfl

theorem alters_surround {kind : String} {fs gs : List Text} (hn : n.isChild = true)
    (hfield : n.field ≠ none) :
    Alters n ((surround kind (fs.map text) (gs.map text) n).inPlaceOf n) where
  prints := by
    intro a b ps hps
    refine ⟨fs.map inserted ++ (ps ++ gs.map inserted), ?_, ?_⟩
    · have htexts := Emits.texts gs .nil
      rw [List.append_nil, List.append_nil] at htexts
      have hitems := Emits.texts fs (.expression (isPrinted_full hn) hps.full htexts)
      rw [← map_printedOnly fs, ← map_printedOnly gs] at hitems
      exact .around rfl hps.hasSpan hitems (isText_map_inserted fs) (isText_map_inserted gs)
    · simp only [SameLiterals, literalsOf_append, literalsOf_texts (isText_map_inserted _),
        List.nil_append, List.append_nil]
  emits := by
    rintro i items es rfl - hnone
    exact (hfield hnone).elim
  isPrinted := by
    cases n with
    | text t => simp [isChild] at hn
    | branch i items => rfl

end Surrounding

theorem grows_wrapAt {root root' : Node} {path : Path} {k : Nat} {kind : String}
    {fs gs : List Text}
    (hbody : ∀ n c, root.at? path = some n → n.children[k]? = some c → c.field ≠ none)
    (h : root.wrapAt (path ++ [k]) kind (fs.map text) (gs.map text) = .ok root') :
    Grows root root' := by
  rw [wrapAt, splitPath, List.getLast?_concat, List.dropLast_concat] at h
  dsimp only [Option.map_some] at h
  split at h
  next root'' hroot =>
    cases h
    refine grows_of_editAt (fun i items items' hat hitems => ?_) hroot
    obtain ⟨before, c, c', after, rfl, rfl, rfl, hc, hc'⟩ := updateChild_eq_some hitems
    cases hc'
    have hfield := hbody _ c hat (getElem?_filter_isChild hc)
    exact (alters_surround hc hfield).items hc before after i.built
  next => cases h

end Phrasebook.Node
