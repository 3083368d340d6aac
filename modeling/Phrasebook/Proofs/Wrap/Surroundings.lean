import Mathlib.Data.Option.Basic
import Phrasebook.Proofs.Tree.Parsed
import Phrasebook.Wrap.Pass

/-! The surroundings of a node during a walk that puts calls in place of literals. What stands before
the node has been walked already, and a template around it may have become a call. A test of where
the node stands that is made there comes out as it does on the tree as parsed. -/

namespace Phrasebook

def newKinds : List String := ["call_expression", "jsx_expression", "synthetic"]

structure Stays (n n' : Node) : Prop where
  field : n'.field = n.field
  isChild : n'.isChild = n.isChild
  kind : n'.kind = n.kind ∨ newKinds.contains n'.kind = true
  token : Node.tokenKinds.contains n.kind = true → n' = n
  member : n.kind = "member_expression" →
    n'.kind = n.kind ∧ n'.childByField? "property" = n.childByField? "property"

theorem Stays.refl (n : Node) : Stays n n := ⟨rfl, rfl, .inl rfl, fun _ => rfl, fun _ => ⟨rfl, rfl⟩⟩

/-- Siblings as parsed and what the walk left of them: one node for each, or for a run of JSX text. -/
inductive Beside : List Node → List Node → Prop
  | nil : Beside [] []
  | node {n n' : Node} {rest rest' : List Node} (h : Stays n n') (hrest : Beside rest rest') :
      Beside (n :: rest) (n' :: rest')
  | run {run rest rest' : List Node} {new : Node} (hrun : ∀ n ∈ run, n.field = none)
      (hnew : new.field = none) (hrest : Beside rest rest') : Beside (run ++ rest) (new :: rest')

theorem Beside.refl (items : List Node) : Beside items items := by
  induction items with
  | nil => exact .nil
  | cons n rest ih => exact .node (.refl n) ih

theorem Beside.append {xs xs' ys ys' : List Node} (hx : Beside xs xs') (hy : Beside ys ys') :
    Beside (xs ++ ys) (xs' ++ ys') := by
  induction hx with
  | nil => exact hy
  | node h _ ih => exact .node h ih
  | run hrun hnew _ ih =>
    rw [List.append_assoc]
    exact .run hrun hnew ih

theorem Beside.find? {xs ys : List Node} (h : Beside xs ys) (name : String) :
    Option.Rel Stays (xs.find? (Node.isIn name)) (ys.find? (Node.isIn name)) := by
  induction h with
  | nil => exact .none
  | @node n n' rest rest' hn _ ih =>
    have hin : Node.isIn name n' = Node.isIn name n := by simp [Node.isIn, hn.field, hn.isChild]
    cases hfound : Node.isIn name n with
    | true =>
      rw [List.find?_cons_of_pos hfound, List.find?_cons_of_pos (hin.trans hfound)]
      exact .some hn
    | false =>
      rw [List.find?_cons_of_neg (by simp [hfound]), List.find?_cons_of_neg (by simp [hin, hfound])]
      exact ih
  | @run run rest rest' new hrun hnew _ ih =>
    -- JSX text is in no field, nor is what takes its place: the search passes over both.
    have hnone : run.find? (Node.isIn name) = none :=
      List.find?_eq_none.2 fun n hn => by simp [Node.isIn_of_field_none (hrun n hn)]
    rw [List.find?_append, hnone, Option.none_or,
      List.find?_cons_of_neg (by simp [Node.isIn_of_field_none hnew])]
    exact ih

theorem Beside.childByField? {i j : Info} {xs ys : List Node} (h : Beside xs ys) (name : String) :
    Option.Rel Stays ((Node.branch i xs).childByField? name) ((Node.branch j ys).childByField? name) := by
  rw [Node.childByField?_eq, Node.childByField?_eq]
  exact h.find? name

theorem eq_of_stays_identifier {n n' : Node} (h : Stays n n') (hk : n'.kind = "identifier") :
    n' = n := by
  refine h.token ?_
  rcases h.kind with hkind | hkind
  · rw [← hkind, hk]
    decide
  · rw [hk] at hkind
    exact absurd hkind (by decide)

theorem eq_of_rel_token {found found' : Option Node} (h : Option.Rel Stays found found')
    (htoken : ∀ n, found = some n → Node.tokenKinds.contains n.kind = true) : found' = found := by
  cases h with
  | none => rfl
  | some hstays => rw [hstays.token (htoken _ rfl)]

/-- The frames around a node as parsed, and those around it in the tree that is being walked. -/
inductive Matches : List Frame → List Frame → Prop
  | nil : Matches [] []
  | child {i : Info} {before before' after : List Node} {frames frames' : List Frame}
      (hbefore : Beside before.reverse before'.reverse) (h : Matches frames frames') :
      Matches (⟨i, before, after⟩ :: frames) (⟨i, before', after⟩ :: frames')
  | substitution {i call : Info} {before before' after after' : List Node}
      {frames frames' : List Frame} (hi : i.kind = "template_string")
      (hcall : call.kind = "call_expression") (h : Matches frames frames') :
      Matches (⟨i, before, after⟩ :: frames) (⟨call, before', after'⟩ :: frames')
  | expression {i j call : Info} {before before' after after' beside beyond : List Node}
      {frames frames' : List Frame} (hj : j.kind = "template_substitution")
      (hi : i.kind = "template_string") (hcall : call.kind = "call_expression")
      (h : Matches frames frames') :
      Matches (⟨j, before, after⟩ :: ⟨i, beside, beyond⟩ :: frames)
        (⟨call, before', after'⟩ :: frames')

namespace Matches

variable {frames frames' : List Frame} {n : Node}

theorem parentKind? (h : Matches frames frames') {kind : String} (htemplate : kind ≠ "template_string")
    (hsubstitution : kind ≠ "template_substitution")
    (hkind : (Focus.mk n frames).parentKind? = some kind) :
    (Focus.mk n frames').parentKind? = some kind := by
  cases h with
  | nil => exact hkind
  | child => exact hkind
  | substitution hi _ _ => exact (htemplate (by simpa [Focus.parentKind?, hi] using hkind.symm)).elim
  | expression hj _ _ _ =>
    exact (hsubstitution (by simpa [Focus.parentKind?, hj] using hkind.symm)).elim

theorem parentKind?_parsed (h : Matches frames frames') {kind : String}
    (hcall : kind ≠ "call_expression") (hkind : (Focus.mk n frames').parentKind? = some kind) :
    (Focus.mk n frames).parentKind? = some kind := by
  cases h with
  | nil => exact hkind
  | child => exact hkind
  | substitution _ hc _ => exact (hcall (by simpa [Focus.parentKind?, hc] using hkind.symm)).elim
  | expression _ _ hc _ => exact (hcall (by simpa [Focus.parentKind?, hc] using hkind.symm)).elim

theorem inAttribute (h : Matches frames frames') :
    Literal.inAttribute ⟨n, frames'⟩ = Literal.inAttribute ⟨n, frames⟩ := by
  rw [Bool.eq_iff_iff, Literal.inAttribute, Literal.inAttribute, beq_iff_eq, beq_iff_eq]
  exact ⟨h.parentKind?_parsed (by decide), h.parentKind? (by decide) (by decide)⟩

theorem ancestorKinds (h : Matches frames frames') {kind : String}
    (htemplate : kind ≠ "template_string") (hsubstitution : kind ≠ "template_substitution")
    (hkind : kind ∈ (Focus.mk n frames).ancestorKinds) :
    kind ∈ (Focus.mk n frames').ancestorKinds := by
  induction h with
  | nil => exact hkind
  | child _ _ ih =>
    rcases List.mem_cons.1 hkind with rfl | hkind
    · exact List.mem_cons_self
    · exact List.mem_cons_of_mem _ (ih hkind)
  | substitution hi _ _ ih =>
    rcases List.mem_cons.1 hkind with rfl | hkind
    · exact (htemplate hi).elim
    · exact List.mem_cons_of_mem _ (ih hkind)
  | expression hj hi _ _ ih =>
    rcases List.mem_cons.1 hkind with rfl | hkind
    · exact (hsubstitution hj).elim
    rcases List.mem_cons.1 hkind with rfl | hkind
    · exact (htemplate hi).elim
    · exact List.mem_cons_of_mem _ (ih hkind)

theorem inImport (h : Matches frames frames') (hn : Literal.inImport ⟨n, frames⟩ = true) :
    Literal.inImport ⟨n, frames'⟩ = true := by
  obtain ⟨kind, hkind, himport⟩ := List.any_eq_true.1 hn
  refine List.any_eq_true.2 ⟨kind, h.ancestorKinds ?_ ?_ hkind, himport⟩ <;> rintro rfl <;>
    exact absurd himport (by decide)

theorem inType (h : Matches frames frames') (hn : Literal.inType ⟨n, frames⟩ = true) :
    Literal.inType ⟨n, frames'⟩ = true := by
  obtain ⟨kind, hkind, htype⟩ := List.any_eq_true.1 hn
  refine List.any_eq_true.2 ⟨kind, h.ancestorKinds ?_ ?_ hkind, htype⟩ <;> rintro rfl <;>
    exact absurd htype (by decide)

theorem isName (h : Matches frames frames') (hn : Literal.isName ⟨n, frames⟩ = true) :
    Literal.isName ⟨n, frames'⟩ = true := by
  rw [Literal.isName, Bool.or_eq_true, beq_iff_eq] at hn ⊢
  exact hn.imp id (h.parentKind? (by decide) (by decide))

theorem isTagged (h : Matches frames frames') (hn : Literal.isTagged ⟨n, frames⟩ = true) :
    Literal.isTagged ⟨n, frames'⟩ = true := by
  rw [Literal.isTagged, Bool.and_eq_true, beq_iff_eq (b := some "call_expression")] at hn ⊢
  exact ⟨hn.1, h.parentKind? (by decide) (by decide) hn.2⟩

end Matches

theorem stays_close {i : Info} {before before' after : List Node} {n : Node}
    (htoken : Node.tokenKinds.contains i.kind = false) (hmember : i.kind ≠ "member_expression") :
    Stays (Frame.close ⟨i, before, after⟩ n) (Frame.close ⟨i, before', after⟩ n) where
  field := rfl
  isChild := rfl
  kind := .inl rfl
  token h := by
    rw [show (Frame.close ⟨i, before, after⟩ n).kind = i.kind from rfl, htoken] at h
    cases h
  member h := (hmember h).elim

theorem isCallOf_of_beside {source : Bytes} {name : Word} {i : Info} {xs ys : List Node}
    (h : Beside xs ys) (hcall : Literal.isCallOf source name (.branch i xs) = true) :
    Literal.isCallOf source name (.branch i ys) = true := by
  rw [Literal.isCallOf, Bool.and_eq_true] at hcall ⊢
  refine ⟨hcall.1, ?_⟩
  replace hcall := hcall.2
  have hrel := h.childByField? (i := i) (j := i) "function"
  cases hfn : (Node.branch i xs).childByField? "function" with
  | none => simp [hfn] at hcall
  | some callee =>
    rw [hfn] at hrel hcall
    cases hfn' : (Node.branch i ys).childByField? "function" with
    | none =>
      rw [hfn'] at hrel
      cases hrel
    | some callee' =>
      rw [hfn'] at hrel
      cases hrel with
      | some hstays =>
        dsimp only at hcall ⊢
        -- A name is a token and stays; of a member expression only the property is looked at.
        by_cases hid : callee.kind = "identifier"
        · rw [hstays.token (by rw [hid]; decide)]
          exact hcall
        · rw [if_neg (by simpa using hid)] at hcall
          split at hcall
          next hmember =>
            obtain ⟨hkind, hproperty⟩ := hstays.member (by simpa using hmember)
            rw [hkind, hproperty, if_neg (by simpa using hid), if_pos hmember]
            exact hcall
          next => cases hcall

theorem Matches.isCallArgument {frames frames' : List Frame} {n : Node} {source : Bytes}
    {name : Word} (h : Matches frames frames')
    (hn : Literal.isCallArgument source name ⟨n, frames⟩ = true) :
    Literal.isCallArgument source name ⟨n, frames'⟩ = true := by
  rw [Literal.isCallArgument, Bool.and_eq_true, beq_iff_eq] at hn ⊢
  refine ⟨h.parentKind? (by decide) (by decide) hn.1, ?_⟩
  -- Neither the arguments nor the call can belong to a template, so both frames are kept.
  cases h with
  | nil => simpa [Focus.up?] using hn.2
  | substitution hi _ _ => simp [Focus.parentKind?, hi] at hn
  | expression hj _ _ _ => simp [Focus.parentKind?, hj] at hn
  | @child i before before' after frames frames' hbefore h =>
    have hi : i.kind = "arguments" := by simpa [Focus.parentKind?] using hn.1
    cases h with
    | nil => simpa [Focus.up?] using hn.2
    | substitution hj _ _ =>
      simp [Focus.up?, Literal.isCallOf, Frame.close, Node.kind, Node.info, hj] at hn
    | expression hj _ _ _ =>
      simp [Focus.up?, Literal.isCallOf, Frame.close, Node.kind, Node.info, hj] at hn
    | @child j beside beside' beyond frames frames' hbeside h =>
      have hclose : Stays (Frame.close ⟨i, before, after⟩ n) (Frame.close ⟨i, before', after⟩ n) :=
        stays_close (by rw [hi]; decide) (by rw [hi]; decide)
      exact isCallOf_of_beside (hbeside.append (.node hclose (.refl beyond))) hn.2

theorem Matches.functionName? {frames frames' : List Frame} {n : Node} {source : Bytes}
    (h : Matches frames frames') :
    Scope.functionName? source ⟨n, frames'⟩ = Scope.functionName? source ⟨n, frames⟩ := by
  unfold Scope.functionName?
  dsimp only
  split
  next => rfl
  split
  next =>
    -- A function below a call has no name, nor has one below a template or a substitution.
    cases h with
    | nil => rfl
    | substitution hi hcall _ => simp [Focus.up?, Frame.close, Node.kind, Node.info, hi, hcall]
    | expression hj _ hcall _ => simp [Focus.up?, Frame.close, Node.kind, Node.info, hj, hcall]
    | @child i before before' after frames frames' hbefore h =>
      have hrel := (hbefore.append (.node (.refl n) (.refl after))).childByField?
        (i := i) (j := i) "name"
      dsimp only [Focus.up?, Frame.close]
      generalize (Node.branch i (before'.reverse ++ n :: after)).childByField? "name" = found' at hrel ⊢
      generalize (Node.branch i (before.reverse ++ n :: after)).childByField? "name" = found at hrel ⊢
      cases hrel with
      | none => rfl
      | @some name name' hstays =>
        by_cases hid : name'.kind = "identifier"
        · rw [eq_of_stays_identifier hstays hid]
          rfl
        · have hid' : name.kind ≠ "identifier" := fun hname =>
            hid (by rw [hstays.token (by rw [hname]; decide), hname])
          simp [hid, hid']
  next => rfl

theorem Matches.componentName? {frames frames' : List Frame} {n : Node} {source : Bytes}
    (h : Matches frames frames') :
    Scope.componentName? source ⟨n, frames'⟩ = Scope.componentName? source ⟨n, frames⟩ := by
  rw [Scope.componentName?, Scope.componentName?, h.functionName?]

/-- Nodes to be walked under one parent, as they stood when parsed: children of which those before
have been walked, where no run of JSX text is cut inside a component, or expressions of a template
that became a call. -/
inductive Lined (inside : Bool) (parent : Info) (frames : List Frame) (before : List Node) :
    List Focus → Prop
  | children {was : List Frame} {past items : List Node} (haround : Matches was frames)
      (hpast : Beside past.reverse before.reverse) (hitems : ∀ n ∈ past.reverse ++ items, n.Parsed)
      (hrun : inside = true → past.head?.any Literal.isJsxText = true →
        items.head?.any Literal.isJsxText = false) :
      Lined inside parent frames before (Focus.ofItems parent was past items)
  | kept {places : List Focus}
      (haround : ∀ p ∈ places, ∀ before after, Matches p.frames (⟨parent, before, after⟩ :: frames))
      (hjsx : ∀ p ∈ places, Literal.isJsxText p.node = false) :
      Lined inside parent frames before places

namespace Focus

variable {info : Info} {frames : List Frame} {before items rest : List Node} {n : Node}

theorem ofItems_cons (hn : n.isChild = true) :
    ofItems info frames before (n :: rest) =
      ⟨n, ⟨info, before, rest⟩ :: frames⟩ :: ofItems info frames (n :: before) rest := by
  rw [ofItems, if_pos hn]

theorem drop_ofItems {run : List Node} (hrun : ∀ n ∈ run, n.isChild = true) :
    (ofItems info frames before (run ++ rest)).drop run.length =
      ofItems info frames (run.reverse ++ before) rest := by
  induction run generalizing before with
  | nil => rfl
  | cons n run ih =>
    rw [List.forall_mem_cons] at hrun
    rw [List.cons_append, ofItems_cons hrun.1, List.length_cons, List.drop_succ_cons, ih hrun.2,
      List.reverse_cons, List.append_assoc]
    rfl

end Focus

namespace Lined

variable {inside : Bool} {parent : Info} {frames : List Frame} {before : List Node} {f : Focus}
  {rest : List Focus}

theorem cons_cases (h : Lined inside parent frames before (f :: rest)) :
    (∃ was past n items, Matches was frames ∧ Beside past.reverse before.reverse ∧
      (∀ m ∈ past.reverse ++ n :: items, m.Parsed) ∧
      (inside = true → past.head?.any Literal.isJsxText = true → Literal.isJsxText n = false) ∧
      f = ⟨n, ⟨parent, past, items⟩ :: was⟩ ∧ rest = Focus.ofItems parent was (n :: past) items) ∨
    ((∀ p ∈ f :: rest, ∀ before after, Matches p.frames (⟨parent, before, after⟩ :: frames)) ∧
      ∀ p ∈ f :: rest, Literal.isJsxText p.node = false) := by
  generalize hplaces : f :: rest = places at h
  cases h with
  | kept haround hjsx => exact .inr ⟨haround, hjsx⟩
  | @children was past items haround hpast hitems hrun =>
    cases items with
    | nil => cases hplaces
    | cons n items =>
      have hn := (hitems n (List.mem_append_right _ List.mem_cons_self)).laid
      rw [Focus.ofItems_cons (Node.isChild_of_isLaid hn)] at hplaces
      cases hplaces
      exact .inl ⟨was, past, n, items, haround, hpast, hitems, hrun, rfl, rfl⟩

theorem matches_head (h : Lined inside parent frames before (f :: rest)) :
    Matches f.frames (⟨parent, before, rest.map (·.node)⟩ :: frames) := by
  rcases h.cons_cases with ⟨was, past, n, items, haround, hpast, hitems, -, rfl, rfl⟩ | ⟨h, -⟩
  · rw [Focus.map_node_ofItems, Node.filter_isChild fun m hm =>
      (hitems m (List.mem_append_right _ (List.mem_cons_of_mem _ hm))).laid]
    exact .child hpast haround
  · exact h f List.mem_cons_self before _

theorem first_of_run (h : Lined true parent frames before (f :: rest))
    (hf : Literal.isJsxText f.node = true) :
    f.siblingsBefore.head?.any Literal.isJsxText = false := by
  rcases h.cons_cases with ⟨was, past, n, items, -, hpast, hitems, hrun, rfl, -⟩ | ⟨-, h⟩
  · have hlaid : ∀ m ∈ past, m.isLaid = true := fun m hm =>
      (hitems m (List.mem_append_left _ (List.mem_reverse.2 hm))).laid
    rw [show (Focus.mk n (⟨parent, past, items⟩ :: was)).siblingsBefore = past from
      Node.filter_isChild hlaid]
    cases hhead : past.head?.any Literal.isJsxText with
    | false => rfl
    | true =>
      rw [hrun rfl hhead] at hf
      cases hf
  · rw [h f List.mem_cons_self] at hf
    cases hf

theorem tail (h : Lined inside parent frames before (f :: rest)) {n' : Node} (hn' : Stays f.node n')
    (hf : inside = true → Literal.isJsxText f.node = false) :
    Lined inside parent frames (n' :: before) rest := by
  rcases h.cons_cases with ⟨was, past, n, items, haround, hpast, hitems, -, rfl, rfl⟩ | ⟨h, hjsx⟩
  · refine .children haround ?_ (by simpa using hitems) ?_
    · rw [List.reverse_cons, List.reverse_cons]
      exact hpast.append (.node hn' .nil)
    · intro hinside hjsx
      rw [List.head?_cons, Option.any_some, hf hinside] at hjsx
      cases hjsx
  · exact .kept (fun p hp => h p (List.mem_cons_of_mem _ hp))
      fun p hp => hjsx p (List.mem_cons_of_mem _ hp)

theorem field_of_run (h : Lined inside parent frames before (f :: rest))
    (hf : Literal.isJsxText f.node = true) {more : List Node}
    (hmore : more = (rest.map (·.node)).takeWhile Pass.isRunItem) :
    ∀ n ∈ f.node :: more, n.field = none := by
  rcases h.cons_cases with ⟨was, past, n, items, -, -, hitems, -, rfl, rfl⟩ | ⟨-, h⟩
  · have hparsed : ∀ m ∈ n :: items, m.Parsed := fun m hm => hitems m (List.mem_append_right _ hm)
    rw [List.forall_mem_cons] at hparsed ⊢
    refine ⟨hparsed.1.field_of_jsxText hf, fun m hm => ?_⟩
    rw [Focus.map_node_ofItems, Node.filter_isChild fun m hm => (hparsed.2 m hm).laid] at hmore
    rw [hmore] at hm
    have hjsx := List.all_eq_true.1 List.all_takeWhile m hm
    exact (hparsed.2 m ((List.takeWhile_sublist _).subset hm)).field_of_jsxText
      (Bool.and_eq_true_iff.1 hjsx).2
  · rw [h f List.mem_cons_self] at hf
    cases hf

theorem head?_dropWhile_isRunItem {items : List Node} (h : ∀ n ∈ items, n.isLaid = true) :
    (items.dropWhile Pass.isRunItem).head?.any Literal.isJsxText = false := by
  cases hhead : (items.dropWhile Pass.isRunItem).head? with
  | none => rfl
  | some m =>
    have hm := List.head?_dropWhile_not Pass.isRunItem items
    rw [hhead] at hm
    have hchild := Node.isChild_of_isLaid (h m
      ((List.dropWhile_sublist _).subset (List.mem_of_mem_head? hhead)))
    simpa [Pass.isRunItem, hchild] using hm

theorem drop (h : Lined inside parent frames before (f :: rest))
    (hf : Literal.isJsxText f.node = true) {more left : List Node}
    (hmore : more = (rest.map (·.node)).takeWhile Pass.isRunItem)
    (hleft : Beside (f.node :: more) left) :
    Lined inside parent frames (left.reverse ++ before) (rest.drop more.length) := by
  rcases h.cons_cases with ⟨was, past, n, items, haround, hpast, hitems, -, rfl, rfl⟩ | ⟨-, h⟩
  · have hlaid : ∀ m ∈ items, m.isLaid = true := fun m hm =>
      (hitems m (List.mem_append_right _ (List.mem_cons_of_mem _ hm))).laid
    rw [Focus.map_node_ofItems, Node.filter_isChild hlaid] at hmore
    have hsplit : more ++ items.dropWhile Pass.isRunItem = items := by
      rw [hmore, List.takeWhile_append_dropWhile]
    have hchildren : ∀ m ∈ more, m.isChild = true := fun m hm =>
      Node.isChild_of_isLaid (hlaid m (hsplit ▸ List.mem_append_left _ hm))
    rw [← hsplit, Focus.drop_ofItems hchildren]
    -- A run was taken as far as it goes, so no JSX text follows it.
    refine .children haround ?_ ?_ fun _ _ => head?_dropWhile_isRunItem hlaid
    · simp only [List.reverse_append, List.reverse_cons, List.reverse_reverse, List.append_assoc,
        List.singleton_append]
      exact hpast.append hleft
    · rw [← hsplit] at hitems
      simpa using hitems
  · rw [h f List.mem_cons_self] at hf
    cases hf

end Lined
end Phrasebook
