import Phrasebook.Proofs.Literal.Quoting
import Phrasebook.Proofs.Text.Scalar
import Phrasebook.Proofs.Tree.Paths
import Phrasebook.Tree.Render

/-! Trees that can be printed and bound in: their texts have a form in UTF-8, and their blocks have
something in them to put a statement behind. Every edit keeps a tree so. -/

namespace Phrasebook

namespace Node

mutual

def isSturdy : Node → Bool
  | text t => t.all fun c => !c.isSurrogate
  | branch i items => (i.kind != "statement_block" || items.any isChild) && areSturdy items

def areSturdy : List Node → Bool
  | [] => true
  | n :: rest => n.isSturdy && areSturdy rest

end

theorem areSturdy_iff {items : List Node} :
    areSturdy items = true ↔ ∀ n ∈ items, n.isSturdy = true := by
  induction items with
  | nil => simp [areSturdy]
  | cons n rest ih => rw [areSturdy, Bool.and_eq_true, ih, List.forall_mem_cons]

theorem isSturdy_text {t : Text} : (text t).isSturdy = true ↔ t.IsScalar := by
  simp [isSturdy, Text.IsScalar]

theorem isSturdy_branch {i : Info} {items : List Node} : (branch i items).isSturdy = true ↔
    (i.kind = "statement_block" → ∃ n ∈ items, n.isChild = true) ∧ ∀ n ∈ items, n.isSturdy = true := by
  rw [isSturdy, Bool.and_eq_true, areSturdy_iff]
  refine and_congr ?_ Iff.rfl
  by_cases hkind : i.kind = "statement_block" <;> simp [hkind]

theorem isSturdy_of_mem {n c : Node} (h : n.isSturdy = true) (hc : c ∈ n.items) : c.isSturdy = true := by
  cases n with
  | text t => exact absurd hc List.not_mem_nil
  | branch i items => exact (isSturdy_branch.1 h).2 c hc

theorem isSturdy_of_mem_children {n c : Node} (h : n.isSturdy = true) (hc : c ∈ n.children) :
    c.isSturdy = true := isSturdy_of_mem h (List.mem_filter.1 hc).1

theorem isSturdy_mapInfo (f : Info → Info) (n : Node) (hf : ∀ i, (f i).kind = i.kind) :
    (n.mapInfo f).isSturdy = n.isSturdy := by
  cases n with
  | text t => rfl
  | branch i items => simp only [mapInfo, isSturdy, hf]

theorem kind_inherit (i old : Info) : (i.inherit old).kind = i.kind := by
  unfold Info.inherit
  split <;> rfl

theorem isSturdy_inPlaceOf (new old : Node) : (new.inPlaceOf old).isSturdy = new.isSturdy :=
  isSturdy_mapInfo _ new fun i => kind_inherit i old.info

theorem isSturdy_inPlaceOfRun (new first last : Node) (standing : Standing) :
    (new.inPlaceOfRun first last standing).isSturdy = new.isSturdy :=
  isSturdy_mapInfo _ new fun i => kind_inherit i first.info

theorem isSturdy_build {kind : String} {items : List Node} (hkind : kind ≠ "statement_block")
    (h : ∀ n ∈ items, n.isSturdy = true) : (build kind items).isSturdy = true := by
  refine isSturdy_branch.2 ⟨fun hblock => (hkind hblock).elim, fun n hn => ?_⟩
  obtain ⟨m, hm, rfl⟩ := List.mem_map.1 hn
  rw [isSturdy_mapInfo]
  · exact h m hm
  · exact fun _ => rfl

theorem isSturdy_leaf {t : Text} (h : t.IsScalar) : (leaf t).isSturdy = true :=
  isSturdy_build (by decide) (List.forall_mem_singleton.2 (isSturdy_text.2 h))

theorem isSturdy_of_at? {path : Path} {root n : Node} (hroot : root.isSturdy = true)
    (h : root.at? path = some n) : n.isSturdy = true := by
  induction path generalizing root with
  | nil =>
    cases h
    exact hroot
  | cons k path ih =>
    obtain ⟨c, hc, h⟩ := Option.bind_eq_some_iff.1 h
    exact ih (isSturdy_of_mem_children hroot (List.mem_of_getElem? hc)) h

mutual

theorem exists_render (source : Bytes) : ∀ {n : Node}, n.isSturdy = true →
    ∃ bytes, render source n = .ok bytes
  | .text t, h => by
    obtain ⟨bytes, hbytes⟩ := Option.isSome_iff_exists.1 (Text.isSome_encode? (isSturdy_text.1 h))
    exact ⟨bytes, Utf8.encode_eq_ok.2 hbytes⟩
  | .branch i items, h => by
    obtain ⟨-, hitems⟩ := isSturdy_branch.1 h
    rw [render]
    split
    · exact exists_renderItems source hitems
    · split
      · exact exists_renderSpliced source _ _ hitems
      · split <;> exact ⟨_, rfl⟩

theorem exists_renderItems (source : Bytes) : ∀ {items : List Node}, (∀ n ∈ items, n.isSturdy = true) →
    ∃ bytes, renderItems source items = .ok bytes
  | [], _ => ⟨[], rfl⟩
  | n :: rest, h => by
    obtain ⟨hn, hrest⟩ := List.forall_mem_cons.1 h
    obtain ⟨bytes, hbytes⟩ := exists_render source hn
    obtain ⟨more, hmore⟩ := exists_renderItems source hrest
    rw [renderItems, hbytes, hmore]
    split <;> exact ⟨_, rfl⟩

theorem exists_renderSpliced (source : Bytes) (cursor stop : Option Nat) : ∀ {items : List Node},
    (∀ n ∈ items, n.isSturdy = true) → ∃ bytes, renderSpliced source cursor stop items = .ok bytes
  | [], _ => ⟨_, rfl⟩
  | n :: rest, h => by
    obtain ⟨hn, hrest⟩ := List.forall_mem_cons.1 h
    obtain ⟨bytes, hbytes⟩ := exists_render source hn
    rw [renderSpliced, hbytes]
    split
    · obtain ⟨more, hmore⟩ := exists_renderSpliced source n.info.stop stop hrest
      rw [hmore]
      exact ⟨_, rfl⟩
    · obtain ⟨more, hmore⟩ := exists_renderSpliced source cursor stop hrest
      rw [hmore]
      exact ⟨_, rfl⟩

end

section

variable {f : Info → List Node → Option (List Node)} {path : Path} {n n' root root' : Node}

theorem isSturdy_of_editAt (hf : ∀ i items items', f i items = some items' →
    (branch i items).isSturdy = true → (branch i items').isSturdy = true)
    (h : editAt f path n = some n') (hn : n.isSturdy = true) : n'.isSturdy = true := by
  induction path generalizing n n' with
  | nil =>
    cases n with
    | text t => cases h
    | branch i items =>
      obtain ⟨items', hitems, rfl⟩ := Option.map_eq_some_iff.1 h
      exact hf i items items' hitems hn
  | cons k path ih =>
    obtain ⟨i, before, c, c', after, rfl, rfl, -, hc, hc', hedit⟩ := editAt_cons h
    obtain ⟨-, hitems⟩ := isSturdy_branch.1 hn
    obtain ⟨hbefore, hafter⟩ := List.forall_mem_append.1 hitems
    obtain ⟨hc, hafter⟩ := List.forall_mem_cons.1 hafter
    exact isSturdy_branch.2 ⟨fun _ => ⟨c', by simp, hc'⟩,
      List.forall_mem_append.2 ⟨hbefore, List.forall_mem_cons.2 ⟨ih hedit hc, hafter⟩⟩⟩

theorem isSturdy_insertAt {t : Text} {index : Int} (ht : t.IsScalar)
    (h : root.insertAt path index (leaf t) = some root') (hroot : root.isSturdy = true) :
    root'.isSturdy = true := by
  refine isSturdy_of_editAt (fun i items items' hf hn => ?_) h hroot
  cases hf
  obtain ⟨hblock, hitems⟩ := isSturdy_branch.1 hn
  obtain ⟨before, after, rfl, hinserted⟩ := insertItem_eq
    ((leaf t).mapInfo fun n => { n with standing := sideStanding i }) (clampIndex index (items.countP isChild)) items
  rw [hinserted]
  obtain ⟨hbefore, hafter⟩ := List.forall_mem_append.1 hitems
  have hnew : ((leaf t).mapInfo fun n => { n with standing := sideStanding i }).isSturdy = true := by
    rw [isSturdy_mapInfo]
    · exact isSturdy_leaf ht
    · exact fun _ => rfl
  exact isSturdy_branch.2 ⟨fun _ => ⟨_, by simp, isChild_inserted t i⟩,
    List.forall_mem_append.2 ⟨hbefore, List.forall_mem_cons.2 ⟨hnew, hafter⟩⟩⟩

theorem isSturdy_surround {kind : String} {before after : List Node} {c : Node} (hchild : c.isChild = true)
    (hbefore : ∀ m ∈ before, m.isSturdy = true) (hc : c.isSturdy = true)
    (hafter : ∀ m ∈ after, m.isSturdy = true) : (surround kind before after c).isSturdy = true := by
  have hkind (standing : Standing) (m : Node) :
      (m.mapInfo fun i => { i with standing }).isSturdy = m.isSturdy := isSturdy_mapInfo _ m fun _ => rfl
  have haside {ms : List Node} (hms : ∀ m ∈ ms, m.isSturdy = true) :
      ∀ m ∈ ms.map (mapInfo fun i => { i with standing := .printedOnly }), m.isSturdy = true := by
    intro m hm
    obtain ⟨m', hm', rfl⟩ := List.mem_map.1 hm
    rw [hkind]
    exact hms m' hm'
  have hfull : (c.mapInfo fun i => { i with standing := .full }).isChild = true := by
    cases c with
    | text t => cases hchild
    | branch i items => rfl
  exact isSturdy_branch.2 ⟨fun _ => ⟨_, by simp, hfull⟩, List.forall_mem_append.2 ⟨haside hbefore,
    List.forall_mem_cons.2 ⟨(hkind .full c).trans hc, haside hafter⟩⟩⟩

theorem exists_wrapAt {fn body : Node} {k : Nat} {kind : String} {before after : List Node}
    (hat : root.at? path = some fn) (hbody : fn.children[k]? = some body) :
    ∃ root', root.wrapAt (path ++ [k]) kind before after = .ok root' ∧
      ((∀ m ∈ before, m.isSturdy = true) → (∀ m ∈ after, m.isSturdy = true) → root.isSturdy = true →
        root'.isSturdy = true) := by
  obtain ⟨i, items, rfl⟩ : ∃ i items, fn = branch i items := by
    cases fn with
    | text t => cases hbody
    | branch i items => exact ⟨i, items, rfl⟩
  let wrap (old : Node) := some ((surround kind before after old).inPlaceOf old)
  obtain ⟨items', hitems⟩ := updateChild_isSome (f := wrap) hbody rfl
  obtain ⟨root', hedit⟩ := editAt_isSome (f := fun _ => updateChild wrap k) hat hitems
  refine ⟨root', ?_, fun hbefore hafter => isSturdy_of_editAt (fun i items items' hedit hn => ?_) hedit⟩
  · rw [wrapAt, splitPath, List.getLast?_concat, List.dropLast_concat]
    dsimp only [Option.map_some]
    rw [hedit]
  · obtain ⟨past, c, c', later, rfl, rfl, -, hchild, hc'⟩ := updateChild_eq_some hedit
    cases hc'
    obtain ⟨-, hitems⟩ := isSturdy_branch.1 hn
    obtain ⟨hpast, hlater⟩ := List.forall_mem_append.1 hitems
    obtain ⟨hc, hlater⟩ := List.forall_mem_cons.1 hlater
    have hnew : ((surround kind before after c).inPlaceOf c).isSturdy = true := by
      rw [isSturdy_inPlaceOf]
      exact isSturdy_surround hchild hbefore hc hafter
    have hnewchild : ((surround kind before after c).inPlaceOf c).isChild = true := by
      cases c with
      | text t => cases hchild
      | branch i items => exact hchild
    exact isSturdy_branch.2 ⟨fun _ => ⟨_, by simp, hnewchild⟩,
      List.forall_mem_append.2 ⟨hpast, List.forall_mem_cons.2 ⟨hnew, hlater⟩⟩⟩

end

end Node

end Phrasebook
