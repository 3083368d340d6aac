import Mathlib.Data.List.Forall2
import Phrasebook.Keys.Extract
import Phrasebook.Proofs.Literal.Unreadable
import Phrasebook.Proofs.Tree.Preorder

/-! The keys that a tree looks up: one for each call that looks up a plain string, none skipped and
none counted twice, in the order in which the calls begin. -/

namespace Phrasebook.Keys

/-- A call of the lookup function whose first argument, comments apart, is a plain string. -/
def isLookup (source : Bytes) (r : Recording) (call : Focus) : Bool :=
  Literal.isCallOf source r.function call.node &&
    (arguments call).head?.any fun first => first.node.kind == "string"

/-- What is recorded of a call: its key, the default text beside it, and where it is. -/
structure Records (source : Bytes) (path : Option Text) (r : Recording) (call : Focus) (k : Key) :
    Prop where
  key : ∀ first ∈ (arguments call).head?, Literal.stringValue source first = .ok k.key
  defaultValue : defaultValue? source (arguments call) = .ok k.defaultValue
  file : k.file = if r.files then path else none
  line : k.line = if r.lines then some ((call.node.info.start.map (·.row)).getD 0 + 1) else none

def FailsAt (source : Bytes) (call : Focus) (fault : Fault) : Prop :=
  (∃ first ∈ (arguments call).head?, Literal.stringValue source first = .error fault) ∨
    defaultValue? source (arguments call) = .error fault

section Call

variable {source : Bytes} {path : Option Text} {r : Recording} {call : Focus} {fault : Fault}

theorem isLookup_iff : isLookup source r call = true ↔
    Literal.isCallOf source r.function call.node = true ∧
      ∃ first, (arguments call).head? = some first ∧ first.node.kind = "string" := by
  rw [isLookup, Bool.and_eq_true]
  cases (arguments call).head? <;> simp

theorem ofCall?_of_isCallOf (h : Literal.isCallOf source r.function call.node = true) :
    ofCall? source path r call = match (arguments call).head? with
      | none => .ok none
      | some first =>
        if first.node.kind != "string" then .ok none
        else Literal.stringValue source first >>= fun key =>
          defaultValue? source (arguments call) >>= fun defaultValue => .ok (some {
            key, defaultValue
            file := if r.files then path else none
            line := if r.lines then some ((call.node.info.start.map (·.row)).getD 0 + 1)
              else none }) := by
  unfold ofCall?
  simp only [h, Bool.not_true, Bool.false_eq_true, if_false]
  cases (arguments call).head? with
  | none => rfl
  | some first => rfl

theorem ofCall?_of_not_isLookup (h : isLookup source r call = false) :
    ofCall? source path r call = .ok none := by
  cases hcall : Literal.isCallOf source r.function call.node with
  | false =>
    unfold ofCall?
    rw [hcall]
    rfl
  | true =>
    rw [ofCall?_of_isCallOf hcall]
    rw [isLookup, hcall, Bool.true_and] at h
    cases hfirst : (arguments call).head? with
    | none => rfl
    | some first =>
      rw [hfirst, Option.any_some] at h
      have hkind : (first.node.kind != "string") = true := by rw [bne, h]; rfl
      simp only [hkind, if_true]

theorem ofCall?_of_isLookup (path : Option Text) (h : isLookup source r call = true) :
    (∃ k, ofCall? source path r call = .ok (some k) ∧ Records source path r call k) ∨
      ∃ fault, ofCall? source path r call = .error fault ∧ FailsAt source call fault := by
  obtain ⟨hcall, first, hfirst, hkind⟩ := isLookup_iff.1 h
  rw [ofCall?_of_isCallOf hcall, hfirst]
  simp only [hkind, bne_self_eq_false, Bool.false_eq_true, if_false]
  cases hkey : Literal.stringValue source first with
  | error fault => exact .inr ⟨fault, rfl, .inl ⟨first, hfirst, hkey⟩⟩
  | ok key =>
    cases hdefault : defaultValue? source (arguments call) with
    | error fault => exact .inr ⟨fault, rfl, .inr hdefault⟩
    | ok defaultValue =>
      refine .inl ⟨_, rfl, fun other hother => ?_, hdefault, rfl, rfl⟩
      obtain rfl : first = other := Option.some.inj (hfirst.symm.trans hother)
      exact hkey

/-! ### What stops an extraction -/

theorem unreadable_of_propertyDefault {script : Pattern} {property : Focus}
    (h : propertyDefault source property = .error fault) : Unreadable script fault := by
  have hvalue {f : Focus} {fault : Fault} (h : Literal.stringValue source f = .error fault) :
      Unreadable script fault := Literal.unreadable_of_quotedValue h
  unfold propertyDefault at h
  split at h
  · cases h
  split at h
  next key value _ _ =>
    have hnamed {name : Text} (h : (if name = "defaultValue" then
        Literal.stringValue source value >>= fun t => pure (some t) else pure none) =
          Except.error fault) : Unreadable script fault := by
      split at h
      · obtain h | ⟨t, -, h⟩ := except_bind_eq_error.1 h
        · exact hvalue h
        · cases h
      · cases h
    dsimp only at h
    split at h
    · cases h
    split at h
    · obtain h | ⟨name, -, h⟩ := except_bind_eq_error.1 h
      · exact hvalue h
      · exact hnamed h
    · exact hnamed h
  next => cases h

theorem unreadable_of_firstDefault {script : Pattern} {properties : List Focus}
    (h : firstDefault source properties = .error fault) : Unreadable script fault := by
  induction properties with
  | nil => cases h
  | cons p rest ih =>
    rw [firstDefault] at h
    obtain h | ⟨found, -, h⟩ := except_bind_eq_error.1 h
    · exact unreadable_of_propertyDefault h
    · cases found with
      | some value => cases h
      | none => exact ih h

theorem unreadable_of_failsAt {script : Pattern} (h : FailsAt source call fault) :
    Unreadable script fault := by
  obtain ⟨first, -, h⟩ | h := h
  · exact Literal.unreadable_of_quotedValue h
  · unfold defaultValue? at h
    split at h
    · split at h
      · exact unreadable_of_firstDefault h
      · cases h
    · cases h

end Call

/-! ### All calls of a tree -/

theorem records_of_mapM {source : Bytes} {path : Option Text} {r : Recording} :
    ∀ {calls : List Focus} {found : List (Option Key)},
      calls.mapM (ofCall? source path r) = .ok found →
      List.Forall₂ (Records source path r) (calls.filter (isLookup source r)) (found.filterMap id)
  | [], found, h => by
    cases h
    exact .nil
  | call :: calls, found, h => by
    rw [List.mapM_cons] at h
    obtain ⟨one, hone, h⟩ := except_bind_eq_ok.1 h
    obtain ⟨rest, hrest, h⟩ := except_bind_eq_ok.1 h
    cases h
    cases hlookup : isLookup source r call with
    | false =>
      rw [ofCall?_of_not_isLookup hlookup] at hone
      cases hone
      rw [List.filter_cons_of_neg (by rw [hlookup]; exact Bool.false_ne_true)]
      show List.Forall₂ _ _ (rest.filterMap id)
      exact records_of_mapM hrest
    | true =>
      obtain ⟨k, hk, hrecords⟩ | ⟨fault, hfault, -⟩ := ofCall?_of_isLookup path hlookup
      · rw [hk] at hone
        cases hone
        rw [List.filter_cons_of_pos hlookup]
        exact .cons hrecords (records_of_mapM hrest)
      · rw [hfault] at hone
        cases hone

/-- The places of the calls that look up a plain string: each one, none twice, in the order in
which the calls begin. -/
structure AreLookups (tree : Tree) (r : Recording) (places : List Path) : Prop where
  nodup : places.Nodup
  mem_iff : ∀ q, q ∈ places ↔
    ∃ call, (Focus.ofRoot tree.root).at? q = some call ∧ isLookup tree.source r call = true
  ordered : places.Pairwise fun p q => ∀ c ∈ (Focus.ofRoot tree.root).at? p,
    ∀ d ∈ (Focus.ofRoot tree.root).at? q, c.BeginsBefore d

theorem exists_places {tree : Tree} (h : tree.Parsed) (r : Recording) :
    ∃ places, AreLookups tree r places ∧
      places.map (fun q => (Focus.ofRoot tree.root).at? q) =
        ((tree.root.foci []).filter (isLookup tree.source r)).map some := by
  obtain ⟨a, b, hlaid⟩ := Node.exists_laidAt h.root.laid
  have hfoci : (Node.paths [] tree.root).map (fun q => (Focus.ofRoot tree.root).at? q) =
      (tree.root.foci []).map some := Node.map_at?_paths rfl
  have hcalls : ((Node.paths [] tree.root).filter fun q =>
      ((Focus.ofRoot tree.root).at? q).any (isLookup tree.source r)).map
        (fun q => (Focus.ofRoot tree.root).at? q) =
      ((tree.root.foci []).filter (isLookup tree.source r)).map some := by
    have hfilter := congrArg (List.filter (Option.any (isLookup tree.source r))) hfoci
    rwa [List.filter_map, List.filter_map] at hfilter
  refine ⟨_, ⟨Node.nodup_paths.filter _, fun q => ?_, ?_⟩, hcalls⟩
  · rw [List.mem_filter, Option.any_eq_true]
    refine ⟨And.right, fun ⟨call, hat, hcall⟩ => ⟨?_, call, hat, hcall⟩⟩
    have hnode : tree.root.at? q = some call.node := by
      have hmap := (Focus.ofRoot tree.root).map_node_at? q
      rw [hat] at hmap
      exact hmap.symm
    exact Node.mem_pathsTo [] (Node.isChild_of_isLaid hlaid.1) hnode rfl
  · have hfocused : Focus.InOrder a b (tree.root.foci []) := Focus.inOrder_foci hlaid
    have hordered := hfocused.pairwise.filter (isLookup tree.source r)
    have hsome : (((tree.root.foci []).filter (isLookup tree.source r)).map some).Pairwise
        fun o o' => ∀ c ∈ o, ∀ d ∈ o', c.BeginsBefore d := by
      refine List.pairwise_map.2 (hordered.imp fun hcd c hc d hd => ?_)
      cases hc
      cases hd
      exact hcd
    rw [← hcalls] at hsome
    exact List.pairwise_map.1 hsome

/-- What an extraction comes to on a tree whose lookups are at some places: a record for each of
them in order, or the fault of a literal in one of them that cannot be read. -/
inductive Extracted (tree : Tree) (path : Option Text) (r : Recording) (places : List Path) :
    Except Fault (List Key) → Prop
  | records {keys : List Key}
      (h : List.Forall₂ (fun q k => ∃ call, (Focus.ofRoot tree.root).at? q = some call ∧
        Records tree.source path r call k) places keys) :
      Extracted tree path r places (.ok keys)
  | fails {q : Path} {call : Focus} {fault : Fault} (hq : q ∈ places)
      (hcall : (Focus.ofRoot tree.root).at? q = some call)
      (hfails : FailsAt tree.source call fault)
      (hunreadable : ∀ script, Unreadable script fault) :
      Extracted tree path r places (.error fault)

theorem extracted_of_parsed {tree : Tree} (h : tree.Parsed) (path : Option Text) (r : Recording) :
    ∃ places, AreLookups tree r places ∧
      Extracted tree path r places (extract tree path r) := by
  obtain ⟨places, hplaces, hcalls⟩ := exists_places h r
  refine ⟨places, hplaces, ?_⟩
  unfold extract
  cases hfound : (tree.root.foci []).mapM (ofCall? tree.source path r) with
  | ok found =>
    refine .records ?_
    have hrecords : List.Forall₂ (fun found k => ∃ call, found = some call ∧
        Records tree.source path r call k)
        (((tree.root.foci []).filter (isLookup tree.source r)).map some) (found.filterMap id) :=
      List.forall₂_map_left_iff.2 ((records_of_mapM hfound).imp fun call k h => ⟨call, rfl, h⟩)
    rw [← hcalls] at hrecords
    exact List.forall₂_map_left_iff.1 hrecords
  | error fault =>
    obtain ⟨call, hmem, hfault⟩ := exists_of_mapM_error hfound
    cases hlookup : isLookup tree.source r call with
    | false =>
      rw [ofCall?_of_not_isLookup hlookup] at hfault
      cases hfault
    | true =>
      obtain ⟨k, hk, -⟩ | ⟨fault', hfault', hfails⟩ := ofCall?_of_isLookup path hlookup
      · rw [hk] at hfault
        cases hfault
      · have hsame : fault' = fault := Except.error.inj (hfault'.symm.trans hfault)
        have hplace : some call ∈ places.map fun q => (Focus.ofRoot tree.root).at? q := by
          rw [hcalls]
          exact List.mem_map_of_mem (List.mem_filter.2 ⟨hmem, hlookup⟩)
        obtain ⟨q, hq, hat⟩ := List.mem_map.1 hplace
        rw [hsame] at hfails
        exact .fails hq hat hfails fun script => unreadable_of_failsAt hfails

end Phrasebook.Keys
