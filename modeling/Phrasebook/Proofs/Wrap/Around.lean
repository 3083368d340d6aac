import Phrasebook.Proofs.Wrap.Comments

/-! How the walk comes to a place. It goes down from the root by children, and from a template that it
wraps to the expressions that the call keeps. What excludes the place there excludes it in the tree as
parsed, unless it is a template right below such a call; and of what excludes it as parsed only a
comment in a substitution can get lost. -/

namespace Phrasebook

open Node

namespace Literal

def isMarked (source : Bytes) (f : Focus) : Bool :=
  (leadingComments source f).any fun c => isIgnoreComment ignoreMarker (c.textD source)

variable {source : Bytes}

theorem ignoredWithin_congr {marker : Text} {n m : Node} {frames : List Frame}
    (hblock : isBlock m = isBlock n) (hstatement : isStatement m = isStatement n) :
    ignoredWithin source marker m frames = ignoredWithin source marker n frames := by
  cases frames with
  | nil => rfl
  | cons frame frames =>
    have hcomments : leadingComments source ⟨m, frame :: frames⟩ =
        leadingComments source ⟨n, frame :: frames⟩ := rfl
    have hclose : ignoredWithin source marker (frame.close m) frames =
        ignoredWithin source marker (frame.close n) frames := by
      -- What is closed around the two nodes differs below, where the search does not look.
      cases frames with
      | nil => rfl
      | cons outer frames => exact ignoredWithin_congr rfl rfl
    rw [ignoredWithin, ignoredWithin, hblock, hstatement, hcomments, hclose]
termination_by frames.length

theorem hasIgnoreComment_cons {n m : Node} {frame : Frame} {frames : List Frame}
    (hblock : isBlock m = isBlock (frame.close n))
    (hstatement : isStatement m = isStatement (frame.close n)) :
    hasIgnoreComment source ⟨n, frame :: frames⟩ = (!isBlock n &&
      (isMarked source ⟨n, frame :: frames⟩ ||
        (!isStatement n && hasIgnoreComment source ⟨m, frames⟩))) := by
  simp only [hasIgnoreComment, ignoredWithin_congr hblock hstatement, isMarked]
  rw [ignoredWithin]
  cases isBlock n <;> cases List.any _ _ <;> cases isStatement n <;> rfl

theorem hasIgnoreComment_below (n m : Node) (before after : List Node) (frames : List Frame) :
    hasIgnoreComment source ⟨n, ⟨m.info, before, after⟩ :: frames⟩ = (!isBlock n &&
      (isMarked source ⟨n, ⟨m.info, before, after⟩ :: frames⟩ ||
        (!isStatement n && hasIgnoreComment source ⟨m, frames⟩))) :=
  hasIgnoreComment_cons rfl rfl

theorem hasIgnoreComment_child {f c : Focus} (hc : c ∈ f.children) :
    hasIgnoreComment source c = (!isBlock c.node &&
      (isMarked source c || (!isStatement c.node && hasIgnoreComment source f))) := by
  obtain ⟨past, after, hframes⟩ := Focus.frames_of_mem_children hc
  obtain ⟨n, frames⟩ := c
  dsimp only at hframes
  rw [hframes]
  exact hasIgnoreComment_below n f.node past after f.frames

theorem isStatement_of_kind {n : Node} {kind : String} (hn : n.kind = kind)
    (hkind : (kind.endsWith "_statement" || kind.endsWith "_declaration" || kind == "program" ||
      kind == "statement_block") = false) : isBlock n = false ∧ isStatement n = false := by
  subst hn
  simp only [Bool.or_eq_false_iff] at hkind
  simp only [isStatement, isBlock, hkind, Bool.or_self, and_self]

end Literal

namespace Focus

theorem items_of_mem_children {f c : Focus} {i : Info} {past after : List Node} {frames : List Frame}
    (hc : c ∈ f.children) (hframes : c.frames = ⟨i, past, after⟩ :: frames) :
    f.node.items = past.reverse ++ c.node :: after := by
  obtain ⟨before, n, rest, hitems, rfl⟩ := mem_ofItems hc
  simp only [List.append_nil, List.cons.injEq, Frame.mk.injEq] at hframes
  obtain ⟨⟨-, rfl, rfl⟩, -⟩ := hframes
  rw [hitems, List.reverse_reverse]

end Focus

namespace Pass

/-- Siblings as parsed and what the walk left of them, nearest first: fields and names stay, and so do
the comments that a search finds. -/
structure Remains (source : Bytes) (past before : List Node) : Prop where
  beside : Beside past.reverse before.reverse
  behind : Behind source past before

theorem Remains.nil (source : Bytes) : Remains source [] [] := ⟨.nil, .nil⟩

theorem Remains.cons {source : Bytes} {past before : List Node} {n n' : Node}
    (h : Remains source past before) (hstays : Stays n n') (hbecame : Became source n n') :
    Remains source (n :: past) (n' :: before) where
  beside := by
    rw [List.reverse_cons, List.reverse_cons]
    exact h.beside.append (.node hstays .nil)
  behind := .node hbecame h.behind

theorem Remains.append_same {source : Bytes} {past before : List Node} (h : Remains source past before)
    (run : List Node) : Remains source (run ++ past) (run ++ before) where
  beside := by
    rw [List.reverse_append, List.reverse_append]
    exact h.beside.append (.refl _)
  behind := h.behind.append_same run

theorem Remains.of_wrapRun? {env : Env} {name : Text} {n new : Node} {frames : List Frame}
    {more past before : List Node} (h : Remains env.source past before)
    (hwrap : (wrapRun? env name ⟨n, frames⟩ more).result = .ok (some new)) (hlaid : n.isLaid = true)
    (hjsx : ∀ m ∈ n :: more, Literal.isJsxText m = true) (hpairs : noTextPairs (n :: more) = true)
    (hfields : ∀ m ∈ n :: more, m.field = none) :
    Remains env.source ((n :: more).reverse ++ past) (new :: before) where
  beside := by
    have hnew : new.field = none := by
      obtain ⟨value, -, -, -, rfl⟩ := wrapRun?_eq_some hwrap
      exact (field_placedRun rfl).trans (hfields _ List.mem_cons_self)
    rw [List.reverse_append, List.reverse_reverse, List.reverse_cons]
    refine h.beside.append ?_
    simpa using Beside.run hfields hnew .nil
  behind := h.behind.of_wrapRun? hwrap hlaid hjsx hpairs

/-- A place of the tree as parsed, the frames in which the walk comes to it, and the wrapped templates
that are calls in these frames, innermost first. -/
inductive Around (source : Bytes) : List Focus → Focus → List Frame → Prop
  | root {root : Node} (hroot : root.Parsed) (htidy : root.areTidy = true) :
      Around source [] (Focus.ofRoot root) []
  | child {us : List Focus} {f c : Focus} {frames : List Frame} {past before after : List Node}
      (h : Around source us f frames) (hc : c ∈ f.children)
      (hframes : c.frames = ⟨f.node.info, past, after⟩ :: f.frames)
      (hremains : Remains source past before) :
      Around source us c (⟨f.node.info, before, after⟩ :: frames)
  | kept {us : List Focus} {u p : Focus} {frames : List Frame} {call : Info}
      {before after : List Node} (h : Around source us u frames)
      (hkind : u.node.kind = "template_string") (hp : p ∈ (keptFoci source u).map (·.2))
      (hcall : call.kind = "call_expression") (hstops : ∀ n ∈ before, Literal.Stops source n) :
      Around source (u :: us) p (⟨call, before, after⟩ :: frames)

/-- A wrapped template of which a marker comment, before the expression of a substitution at or above
the place, is not part of the call. -/
def LeftBehind (source : Bytes) (u f : Focus) : Prop :=
  ∃ s ∈ u.children, s.node.kind = "template_substitution" ∧ (expressionFocus s).path <+: f.path ∧
    (Literal.isMarked source (expressionFocus s) = true ∨ Literal.isMarked source s = true)

theorem LeftBehind.below {source : Bytes} {u f g : Focus} (h : LeftBehind source u f)
    (hle : f.path <+: g.path) : LeftBehind source u g := by
  obtain ⟨s, hs, hkind, hpath, hmarked⟩ := h
  exact ⟨s, hs, hkind, hpath.trans hle, hmarked⟩

section Tidiness

variable {source : Bytes} {f c : Focus}

theorem sound_child (h : f.node.Parsed ∧ f.node.areTidy = true) (hc : c ∈ f.children) :
    c.node.Parsed ∧ c.node.areTidy = true := by
  have hmem : c.node ∈ f.node.items := by
    rw [← Focus.map_node_children h.1.laid]
    exact List.mem_map_of_mem hc
  exact ⟨h.1.of_mem_items hmem, areTidy_of_mem_items h.2 hmem⟩

theorem sound_kept {p : Focus} (h : f.node.Parsed ∧ f.node.areTidy = true)
    (hp : p ∈ (keptFoci source f).map (·.2)) : p.node.Parsed ∧ p.node.areTidy = true := by
  obtain ⟨s, hs, -, hp | rfl⟩ := keptFoci_cases hp
  · exact sound_child (sound_child h hs) hp
  · exact sound_child h hs

theorem kind_kept {p : Focus} (h : f.node.Parsed ∧ f.node.areTidy = true)
    (hp : p ∈ (keptFoci source f).map (·.2)) :
    p.node.kind ≠ "arguments" ∧ p.node.kind ≠ "jsx_expression" ∧ p.node.kind ≠ "comment" := by
  obtain ⟨q, hq, rfl⟩ := List.mem_map.1 hp
  obtain ⟨s, hs, hsubst, hqs⟩ := mem_keptFoci hq
  rw [hqs]
  have hsound := sound_child h hs
  unfold expressionFocus
  cases hfound : List.find? _ _ with
  | none =>
    rw [Option.getD_none, hsubst]
    decide
  | some c =>
    have hc : c ∈ s.children := (List.mem_filter.1 (List.mem_of_find?_eq_some hfound)).1
    have hmem : c.node ∈ s.node.items := by
      rw [← Focus.map_node_children hsound.1.laid]
      exact List.mem_map_of_mem hc
    have htidy := isTidy_iff.1 (isTidy_of_areTidy hsound.2 hsound.1.laid)
    have hkinds := htidy.2.2.2 hsubst c.node hmem
    have hcomment : c.node.kind ≠ "comment" := by simpa using List.find?_some hfound
    exact ⟨hkinds.1, hkinds.2, hcomment⟩

theorem stops_of_became_kept {p : Focus} {n' : Node} (h : f.node.Parsed ∧ f.node.areTidy = true)
    (hp : p ∈ (keptFoci source f).map (·.2)) (hjsx : Literal.isJsxText p.node = false)
    (hbecame : Became source p.node n') : Literal.Stops source n' := by
  obtain ⟨-, hbraces, hcomment⟩ := kind_kept h hp
  have htext : p.node.kind ≠ "jsx_text" := by
    intro htext
    rw [Literal.isJsxText, htext] at hjsx
    exact absurd hjsx (by decide)
  generalize p.node = n at hbecame hbraces hcomment htext
  cases hbecame with
  | same => exact Literal.stops_of_kind hcomment htext hbraces
  | entered _ _ _ => exact Literal.stops_of_kind hcomment htext hbraces
  | wrapped _ _ hnew => exact hnew.stops

theorem Around.kind {us : List Focus} {frames : List Frame} (h : Around source us f frames) :
    ∀ u ∈ us, u.node.kind = "template_string" := by
  induction h with
  | root _ _ => simp
  | child _ _ _ _ ih => exact ih
  | kept _ hkind _ _ _ ih => exact List.forall_mem_cons.2 ⟨hkind, ih⟩

theorem Around.matches {us : List Focus} {frames : List Frame} (h : Around source us f frames) :
    Matches f.frames frames := by
  induction h with
  | root _ _ => exact .nil
  | child _ _ hframes hremains ih =>
    rw [hframes]
    exact .child hremains.beside ih
  | kept _ hkind hp hcall _ ih =>
    obtain ⟨s, hs, hsubst, hp | rfl⟩ := keptFoci_cases hp
    · obtain ⟨past, later, hp⟩ := Focus.frames_of_mem_children hp
      obtain ⟨beside, beyond, hs⟩ := Focus.frames_of_mem_children hs
      rw [hp, hs]
      exact .expression hsubst hkind hcall ih
    · obtain ⟨beside, beyond, hp⟩ := Focus.frames_of_mem_children hs
      rw [hp]
      exact .substitution hkind hcall ih

theorem Around.sound {us : List Focus} {frames : List Frame} (h : Around source us f frames) :
    f.node.Parsed ∧ f.node.areTidy = true := by
  induction h with
  | root hroot htidy => exact ⟨hroot, htidy⟩
  | child _ hc _ _ ih => exact sound_child ih hc
  | kept _ _ hp _ _ ih => exact sound_kept ih hp

end Tidiness

section Ignoring

variable {source : Bytes} {us : List Focus} {f : Focus} {frames : List Frame}

theorem isMarked_child {c : Focus} {past before after : List Node}
    (hsound : f.node.Parsed ∧ f.node.areTidy = true) (hc : c ∈ f.children)
    (hframes : c.frames = ⟨f.node.info, past, after⟩ :: f.frames)
    (hbehind : Behind source past before) :
    Literal.isMarked source ⟨c.node, ⟨f.node.info, before, after⟩ :: frames⟩ =
      Literal.isMarked source c := by
  have hitems := Focus.items_of_mem_children hc hframes
  have hpast : ∀ n ∈ past, n ∈ f.node.items := fun n hn => by
    rw [hitems]
    exact List.mem_append_left _ (List.mem_reverse.2 hn)
  have hlaid : ∀ n ∈ past, n.isLaid = true := fun n hn =>
    isLaid_of_mem_items hsound.1.laid (hpast n hn)
  have hcomments := hbehind.commentsIn hlaid fun n hn =>
    isTidy_of_areTidy (areTidy_of_mem_items hsound.2 (hpast n hn)) (hlaid n hn)
  have hleading : Literal.leadingComments source ⟨c.node, ⟨f.node.info, before, after⟩ :: frames⟩ =
      Literal.leadingComments source c := by
    rw [Literal.leadingComments, Literal.leadingComments, Focus.siblingsBefore, Focus.siblingsBefore,
      hframes]
    exact hcomments
  rw [Literal.isMarked, Literal.isMarked, hleading]

theorem isMarked_kept {n : Node} {call : Info} {before after : List Node}
    (hstops : ∀ m ∈ before, Literal.Stops source m) :
    Literal.isMarked source ⟨n, ⟨call, before, after⟩ :: frames⟩ = false := by
  have hnone : Literal.commentsIn source (before.filter Node.isChild) = [] := by
    cases hbefore : before.filter Node.isChild with
    | nil => rfl
    | cons m rest =>
      have hm : m ∈ before := (List.mem_filter.1 (hbefore ▸ List.mem_cons_self)).1
      exact (hstops m hm).commentsIn rest
  have hleading : Literal.leadingComments source ⟨n, ⟨call, before, after⟩ :: frames⟩ = [] := hnone
  rw [Literal.isMarked, hleading]
  rfl

theorem hasIgnoreComment_kept {u : Focus} {n : Node} {call : Info} {before after : List Node}
    (hkind : u.node.kind = "template_string") (hcall : call.kind = "call_expression")
    (hstops : ∀ m ∈ before, Literal.Stops source m) :
    Literal.hasIgnoreComment source ⟨n, ⟨call, before, after⟩ :: frames⟩ =
      (!Literal.isBlock n && (!Literal.isStatement n &&
        Literal.hasIgnoreComment source ⟨u.node, frames⟩)) := by
  have hu := Literal.isStatement_of_kind hkind (by decide +kernel)
  have hclose := Literal.isStatement_of_kind (n := Frame.close ⟨call, before, after⟩ n) hcall
    (by decide +kernel)
  rw [Literal.hasIgnoreComment_cons (hu.1.trans hclose.1.symm) (hu.2.trans hclose.2.symm),
    isMarked_kept hstops, Bool.false_or]

theorem Around.hasIgnoreComment_parsed (h : Around source us f frames)
    (hf : Literal.hasIgnoreComment source ⟨f.node, frames⟩ = true) :
    Literal.hasIgnoreComment source f = true := by
  induction h with
  | root _ _ => exact hf
  | @child us f c frames past before after h hc hframes hremains ih =>
    rw [Literal.hasIgnoreComment_below,
      isMarked_child h.sound hc hframes hremains.behind] at hf
    rw [Literal.hasIgnoreComment_child hc]
    simp only [Bool.and_eq_true, Bool.or_eq_true] at hf ⊢
    exact ⟨hf.1, hf.2.imp id fun hup => ⟨hup.1, ih hup.2⟩⟩
  | @kept us u p frames call before after h hkind hp hcall hstops ih =>
    rw [hasIgnoreComment_kept hkind hcall hstops] at hf
    simp only [Bool.and_eq_true] at hf
    have hu := ih hf.2.2
    obtain ⟨s, hs, hsubst, hp | rfl⟩ := keptFoci_cases hp
    · have hs' := Literal.isStatement_of_kind hsubst (by decide +kernel)
      have hsub : Literal.hasIgnoreComment source s = true := by
        rw [Literal.hasIgnoreComment_child hs, hs'.1, hs'.2, hu]
        simp
      rw [Literal.hasIgnoreComment_child hp, hf.1, hf.2.1, hsub]
      simp
    · rw [Literal.hasIgnoreComment_child hs, hf.1, hf.2.1, hu]
      simp

theorem Around.hasIgnoreComment_or (h : Around source us f frames)
    (hf : Literal.hasIgnoreComment source f = true) :
    Literal.hasIgnoreComment source ⟨f.node, frames⟩ = true ∨ ∃ u ∈ us, LeftBehind source u f := by
  induction h with
  | root _ _ => exact .inl hf
  | @child us f c frames past before after h hc hframes hremains ih =>
    rw [Literal.hasIgnoreComment_child hc] at hf
    rw [Literal.hasIgnoreComment_below,
      isMarked_child h.sound hc hframes hremains.behind]
    simp only [Bool.and_eq_true, Bool.or_eq_true] at hf ⊢
    rcases hf.2 with hmarked | hup
    · exact .inl ⟨hf.1, .inl hmarked⟩
    rcases ih hup.2 with hfound | ⟨u, hu, hleft⟩
    · exact .inl ⟨hf.1, .inr ⟨hup.1, hfound⟩⟩
    · exact .inr ⟨u, hu, hleft.below (Focus.prefix_path_of_mem_children hc).1⟩
  | @kept us u p frames call before after h hkind hp hcall hstops ih =>
    obtain ⟨q, hq, rfl⟩ := List.mem_map.1 hp
    obtain ⟨s, hs, hsubst, hqs⟩ := mem_keptFoci hq
    have hleft (hmarked : Literal.isMarked source q.2 = true ∨ Literal.isMarked source s = true) :
        ∃ v ∈ u :: us, LeftBehind source v q.2 :=
      ⟨u, List.mem_cons_self, s, hs, hsubst, hqs ▸ List.prefix_rfl, hqs ▸ hmarked⟩
    have hup (hq' : Literal.isBlock q.2.node = false ∧ Literal.isStatement q.2.node = false)
        (hu : Literal.hasIgnoreComment source u = true) :
        Literal.hasIgnoreComment source ⟨q.2.node, ⟨call, before, after⟩ :: frames⟩ = true ∨
          ∃ v ∈ u :: us, LeftBehind source v q.2 := by
      rcases ih hu with hfound | ⟨v, hv, hleft⟩
      · left
        rw [hasIgnoreComment_kept hkind hcall hstops, hq'.1, hq'.2, hfound]
        rfl
      · exact .inr ⟨v, List.mem_cons_of_mem _ hv, hleft.below (prefix_path_kept q.2 hp).1⟩
    rcases expressionFocus_cases s with hchild | hself
    · rw [← hqs] at hchild
      rw [Literal.hasIgnoreComment_child hchild, Literal.hasIgnoreComment_child hs] at hf
      simp only [Bool.and_eq_true, Bool.or_eq_true, Bool.not_eq_true'] at hf
      rcases hf.2 with hmarked | ⟨hstatement, -, hmarked | ⟨-, hu⟩⟩
      · exact .inr (hleft (.inl hmarked))
      · exact .inr (hleft (.inr hmarked))
      · exact hup ⟨hf.1, hstatement⟩ hu
    · have hqs' : q.2 = s := hqs.trans hself
      rw [hqs', Literal.hasIgnoreComment_child hs] at hf
      simp only [Bool.and_eq_true, Bool.or_eq_true, Bool.not_eq_true'] at hf
      rcases hf.2 with hmarked | ⟨hstatement, hu⟩
      · exact .inr (hleft (.inr hmarked))
      · exact hup (hqs' ▸ ⟨hf.1, hstatement⟩) hu

end Ignoring

end Pass

namespace Matches

variable {frames frames' : List Frame} {n : Node}

theorem ancestorKinds_parsed (h : Matches frames frames') {kind : String}
    (hcall : kind ≠ "call_expression") (hkind : kind ∈ (Focus.mk n frames').ancestorKinds) :
    kind ∈ (Focus.mk n frames).ancestorKinds := by
  induction h with
  | nil => exact hkind
  | child _ _ ih =>
    rcases List.mem_cons.1 hkind with rfl | hkind
    · exact List.mem_cons_self
    · exact List.mem_cons_of_mem _ (ih hkind)
  | substitution _ hc _ ih =>
    rcases List.mem_cons.1 hkind with rfl | hkind
    · exact (hcall hc).elim
    · exact List.mem_cons_of_mem _ (ih hkind)
  | expression _ _ hc _ ih =>
    rcases List.mem_cons.1 hkind with rfl | hkind
    · exact (hcall hc).elim
    · exact List.mem_cons_of_mem _ (List.mem_cons_of_mem _ (ih hkind))

theorem inImport_parsed (h : Matches frames frames') (hn : Literal.inImport ⟨n, frames'⟩ = true) :
    Literal.inImport ⟨n, frames⟩ = true := by
  obtain ⟨kind, hkind, himport⟩ := List.any_eq_true.1 hn
  refine List.any_eq_true.2 ⟨kind, h.ancestorKinds_parsed ?_ hkind, himport⟩
  rintro rfl
  exact absurd himport (by decide)

theorem inType_parsed (h : Matches frames frames') (hn : Literal.inType ⟨n, frames'⟩ = true) :
    Literal.inType ⟨n, frames⟩ = true := by
  obtain ⟨kind, hkind, htype⟩ := List.any_eq_true.1 hn
  refine List.any_eq_true.2 ⟨kind, h.ancestorKinds_parsed ?_ hkind, htype⟩
  rintro rfl
  exact absurd htype (by decide)

theorem isName_parsed (h : Matches frames frames') (hn : Literal.isName ⟨n, frames'⟩ = true) :
    Literal.isName ⟨n, frames⟩ = true := by
  rw [Literal.isName, Bool.or_eq_true, beq_iff_eq] at hn ⊢
  exact hn.imp id (h.parentKind?_parsed (by decide))

end Matches

theorem isCallOf_parsed_of_beside {source : Bytes} {name : Word} {i : Info} {xs ys : List Node}
    (h : Beside xs ys) (hcall : Literal.isCallOf source name (.branch i ys) = true) :
    Literal.isCallOf source name (.branch i xs) = true := by
  rw [Literal.isCallOf, Bool.and_eq_true] at hcall ⊢
  refine ⟨hcall.1, ?_⟩
  replace hcall := hcall.2
  have hrel := h.childByField? (i := i) (j := i) "function"
  cases hfn : (Node.branch i ys).childByField? "function" with
  | none => simp [hfn] at hcall
  | some callee' =>
    rw [hfn] at hrel hcall
    cases hfn' : (Node.branch i xs).childByField? "function" with
    | none =>
      rw [hfn'] at hrel
      cases hrel
    | some callee =>
      rw [hfn'] at hrel
      cases hrel with
      | some hstays =>
        dsimp only at hcall ⊢
        by_cases hid : callee'.kind = "identifier"
        · rw [eq_of_stays_identifier hstays hid] at hcall
          exact hcall
        rw [if_neg (by simpa using hid)] at hcall
        split at hcall
        next hmember =>
          have hmember' : callee'.kind = "member_expression" := by simpa using hmember
          -- What was put in place of a literal is no member expression.
          have hkind : callee.kind = "member_expression" := by
            rcases hstays.kind with hkind | hnew
            · rw [← hkind, hmember']
            · rw [hmember'] at hnew
              exact absurd hnew (by decide)
          rw [(hstays.member hkind).2] at hcall
          rw [hkind, if_neg (by decide), if_pos (by decide)]
          exact hcall
        next => cases hcall

namespace Pass

section Excluded

variable {env : Env} {us : List Focus} {f : Focus} {frames : List Frame}

theorem Around.isCallArgument_parsed (h : Around env.source us f frames)
    (hf : Literal.isCallArgument env.source env.function ⟨f.node, frames⟩ = true) :
    Literal.isCallArgument env.source env.function f = true := by
  rw [Literal.isCallArgument, Bool.and_eq_true, beq_iff_eq] at hf ⊢
  refine ⟨h.matches.parentKind?_parsed (by decide) hf.1, ?_⟩
  cases h with
  | root _ _ => exact hf.2
  | kept _ _ _ hcall _ => simp [Focus.parentKind?, hcall] at hf
  | @child _ g _ frames past before after hg hc hframes _ =>
    have hi : g.node.info.kind = "arguments" := by simpa [Focus.parentKind?] using hf.1
    obtain ⟨n, was⟩ := f
    dsimp only at hframes
    subst hframes
    cases hg with
    | root _ _ => simpa [Focus.up?] using hf.2
    | kept hu _ hp _ _ => exact ((kind_kept hu.sound hp).1 hi).elim
    | @child _ k _ frames' past' before' after' hk hgk hframes' hremains =>
      obtain ⟨m, was'⟩ := g
      dsimp only at hframes' hi hf
      subst hframes'
      have hclose : Stays (Frame.close ⟨m.info, past, after⟩ n)
          (Frame.close ⟨m.info, before, after⟩ n) :=
        stays_close (by rw [hi]; decide) (by rw [hi]; decide)
      have hbeside := hremains.beside.append (.node hclose (.refl after'))
      exact isCallOf_parsed_of_beside hbeside hf.2

/-- Whether a place is excluded for where it stands. -/
def Env.bars (env : Env) (f : Focus) : Bool :=
  Literal.isCallArgument env.source env.function f || Literal.inImport f || Literal.isName f ||
    Literal.isTagged f || Literal.inType f

/-- Whether a comment or a marker asks to ignore a place. -/
def Env.ignores (env : Env) (f : Focus) : Bool :=
  Literal.hasIgnoreComment env.source f || Literal.rowHasMarker env.lines f.node

theorem Env.isExcluded_eq (env : Env) (f : Focus) :
    env.isExcluded f = (env.bars f || env.ignores f) := by
  rw [isExcluded, Literal.isExcluded, bars, ignores, ← Bool.or_assoc]

theorem Around.bars_or (h : Around env.source us f frames) (hf : env.bars ⟨f.node, frames⟩ = true) :
    env.bars f = true ∨ (f.node.kind = "template_string" ∧
      ∃ u ∈ us, f ∈ (keptFoci env.source u).map (·.2)) := by
  simp only [Env.bars, Bool.or_eq_true] at hf ⊢
  rcases hf with (((hargument | himport) | hname) | htagged) | htype
  · have := h.isCallArgument_parsed hargument
    tauto
  · have := h.matches.inImport_parsed himport
    tauto
  · have := h.matches.isName_parsed hname
    tauto
  · rw [Literal.isTagged, Bool.and_eq_true, beq_iff_eq, beq_iff_eq] at htagged
    cases h with
    | root _ _ => simp [Focus.parentKind?] at htagged
    | child _ _ hframes _ =>
      have hparent : f.parentKind? = some "call_expression" := by
        rw [Focus.parentKind?, hframes]
        exact htagged.2
      rw [Literal.isTagged, htagged.1, hparent]
      simp
    | @kept _ u _ _ _ _ _ _ _ hp _ _ => exact .inr ⟨htagged.1, u, List.mem_cons_self, hp⟩
  · have := h.matches.inType_parsed htype
    tauto

theorem Around.isExcluded_or (h : Around env.source us f frames)
    (hf : env.isExcluded ⟨f.node, frames⟩ = true) :
    env.isExcluded f = true ∨ (f.node.kind = "template_string" ∧
      ∃ u ∈ us, f ∈ (keptFoci env.source u).map (·.2)) := by
  rw [Env.isExcluded_eq, Bool.or_eq_true] at hf ⊢
  rcases hf with hbars | hignores
  · exact (h.bars_or hbars).imp .inl id
  · rw [Env.ignores, Bool.or_eq_true] at hignores
    refine .inl (.inr ?_)
    rw [Env.ignores, Bool.or_eq_true]
    exact hignores.imp h.hasIgnoreComment_parsed id

end Excluded

end Pass
end Phrasebook
