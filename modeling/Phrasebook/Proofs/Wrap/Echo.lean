import Phrasebook.Proofs.Wrap.Places
import Phrasebook.Proofs.Wrap.Rereading
import Phrasebook.Proofs.Wrap.Selection

/-! The walk over the text of a walk. What the first walk left alone stands where it stood and shows
what it showed, and the key of a call is the argument of that call, so only the markers are judged
anew. A template that is itself an expression of a wrapped template was taken for the template of a tag
and is now the value of an option: nothing but a marker excludes it any more. -/

namespace Phrasebook

open Node

namespace Pass

section Quasis

variable {source : Bytes}

def isSubstitution (n : Node) : Bool := n.isChild && n.kind == "template_substitution"

def spanOf (n : Node) : Option Mark × Option Nat := (n.info.start, n.info.stop)

theorem rawQuasis_congr {cursor stop : Option Nat} {xs ys : List Node}
    (h : ys.map spanOf = xs.map spanOf) :
    Literal.rawQuasis source cursor stop ys = Literal.rawQuasis source cursor stop xs := by
  induction xs generalizing cursor ys with
  | nil =>
    rw [List.map_nil, List.map_eq_nil_iff] at h
    rw [h]
  | cons x xs ih =>
    obtain ⟨y, ys, rfl, hy, hys⟩ := List.map_eq_cons_iff.1 h
    obtain ⟨hstart, hstop⟩ := Prod.mk.inj hy
    rw [Literal.rawQuasis, Literal.rawQuasis, hstart, hstop, ih hys]

theorem quasis_eq (n : Node) : Literal.quasis source n = (Literal.rawQuasis source
    (n.info.start.map (·.offset + 1)) (n.info.stop.map (· - 1))
    (n.items.filter isSubstitution)).mapM Escape.decode := by
  have hfilter : (n.children.filter fun c => c.kind == "template_substitution") =
      n.items.filter isSubstitution := by
    rw [Node.children, List.filter_filter]
    congr 1
    funext c
    exact Bool.and_comm _ _
  rw [Literal.quasis, Literal.templateParts, hfilter]
  cases hquasis : List.mapM Escape.decode (Literal.rawQuasis source
    (n.info.start.map (·.offset + 1)) (n.info.stop.map (· - 1)) (n.items.filter isSubstitution)) with
  | error e => rfl
  | ok quasis => rfl

theorem Became.spanOf {n n' : Node} (h : Became source n n') (hn : n.isLaid = true) :
    isSubstitution n' = isSubstitution n ∧
      (isSubstitution n = true → Pass.spanOf n' = Pass.spanOf n) := by
  have hchild := h.isChild (isChild_of_isLaid hn)
  have hsame : isSubstitution n = (n.kind == "template_substitution") := by
    rw [isSubstitution, isChild_of_isLaid hn, Bool.true_and]
  have hsame' : isSubstitution n' = (n'.kind == "template_substitution") := by
    rw [isSubstitution, hchild, Bool.true_and]
  rw [hsame, hsame']
  cases h with
  | same => exact ⟨rfl, fun _ => rfl⟩
  | entered => exact ⟨rfl, fun _ => rfl⟩
  | wrapped hliteral _ hnew =>
    have hkind : n.kind ≠ "template_substitution" := by
      intro hkind
      rw [hkind] at hliteral
      exact absurd hliteral (by decide)
    rw [beq_false_of_ne hkind, beq_false_of_ne (hnew.kind_ne (by decide))]
    exact ⟨rfl, fun h => by cases h⟩

theorem Behind.spans {past before : List Node} (h : Behind source past before)
    (hpast : ∀ n ∈ past, n.isLaid = true) :
    (before.filter isSubstitution).map spanOf = (past.filter isSubstitution).map spanOf := by
  induction before generalizing past with
  | nil =>
    cases h
    rfl
  | cons n' before ih =>
  cases h with
  | node hn h =>
    rw [List.forall_mem_cons] at hpast
    obtain ⟨hsame, hspan⟩ := hn.spanOf hpast.1
    rw [List.filter_cons, List.filter_cons, hsame]
    split
    next hsubst => rw [List.map_cons, List.map_cons, hspan hsubst, ih h hpast.2]
    next => exact ih h hpast.2
  | @run run past _ _ hjsx _ hnew h =>
    rw [List.forall_mem_append] at hpast
    have hnone : run.filter isSubstitution = [] := by
      refine List.filter_eq_nil_iff.2 fun n hn => ?_
      have hkind : n.kind ≠ "template_substitution" := by
        intro hkind
        have := hjsx n hn
        rw [Literal.isJsxText, hkind] at this
        exact absurd this (by decide)
      simp [isSubstitution, hkind]
    have hkind' : n'.kind ≠ "template_substitution" := hnew.kind_ne (by decide)
    have hnew' : ¬ isSubstitution n' = true := by simp [isSubstitution, hkind']
    rw [List.filter_append, hnone, List.nil_append, List.filter_cons_of_neg hnew']
    exact ih h hpast.2

theorem Became.quasis {n n' : Node} (h : Became source n n') (hn : n.isLaid = true)
    (hkind : n'.kind = "template_string") : Literal.quasis source n' = Literal.quasis source n := by
  cases h with
  | same => rfl
  | @entered i dirty items items' _ _ h =>
    have hspans := h.spans fun n hn' => isLaid_of_mem_items hn (List.mem_reverse.1 hn')
    simp only [List.filter_reverse, List.map_reverse, List.reverse_inj] at hspans
    rw [quasis_eq, quasis_eq]
    exact congrArg (List.mapM Escape.decode) (rawQuasis_congr hspans)
  | wrapped _ _ hnew => exact (hnew.kind_ne (by decide) hkind).elim

end Quasis

/-- Two passes with the same settings, whose lookup function has a name and whose script can be looked
for in any text. -/
structure Again (env env' : Env) : Prop where
  function : env'.function = env.function
  script : env'.script = env.script
  named : env.function = .text env.function.spelling
  clear : ∀ t, env.script.search t ≠ .crossed

/-- A call that a pass put in. -/
def IsLookup (function : Text) (n : Node) : Prop :=
  n.info.built = true ∧ n.kind = "call_expression" ∧
    ∃ key tail, n.items = .text (function ++ "(") :: .text (Escape.encode key) :: tail

section Calls

variable {env env' : Env} {spot : Option Mark → Focus} {e m : Focus}

theorem exists_isPhrase {script : Pattern} (hclear : ∀ t, script.search t ≠ .crossed)
    (texts : List Text) : ∃ phrase, Literal.isPhrase script texts = .ok phrase := by
  induction texts with
  | nil => exact ⟨false, rfl⟩
  | cons t rest ih =>
    rw [Literal.isPhrase]
    split
    next => exact ih
    next => exact ⟨true, rfl⟩
    next hcrossed =>
      split at hcrossed
      · cases hcrossed
      · exact (hclear t hcrossed).elim

theorem still_key {arguments key : Focus} {value : Text} (hagain : Again env env')
    (hin : Scope.inComponent env'.source key = true) (hmem : key ∈ arguments.children)
    (harguments : arguments.node.kind = "arguments")
    (hcalled : (arguments.situation env'.source env'.function).called = true)
    (hkey : key.node.kind = "string")
    (hliteral : key.node.textD env'.source = Escape.encode value) : Still env' key := by
  rw [still_iff_of_literal hin (.inl hkey)]
  obtain ⟨phrase, hphrase⟩ := exists_isPhrase hagain.clear [Utf16.joinPairs value]
  have hargument : env'.isExcluded key = true := by
    have hsituation : (key.situation env'.source env'.function).argument = true := by
      rw [Focus.situation_child hmem]
      simp [Situation.below, Node.traits, harguments, hcalled]
    rw [Env.isExcluded_eq, bars_eq, Situation.excludes, hsituation]
    simp
  have hattribute : Literal.inAttribute key = false := by
    rw [Literal.inAttribute, parentKind?_of_mem_children hmem, harguments]
    decide
  rintro - more (⟨-, rfl⟩ | ⟨hkind, -⟩ | ⟨hjsx, -, -⟩)
  · refine ⟨[Utf16.joinPairs value], phrase, ?_, hagain.script ▸ hphrase, by rw [hargument]; simp⟩
    rw [shown, hkey, beq_self_eq_true, if_pos rfl, Literal.stringValue, hattribute, hliteral,
      Literal.quotedValue, if_neg (by decide), Escape.decode_inner_encode]
    rfl
  · rw [hkey] at hkind
    exact absurd hkind (by decide)
  · exact ((kind_of_isJsxText hjsx).1 hkey).elim

theorem Reads.call_twins (hagain : Again env env') (h : Reads env env' spot e m) (hm : m.node.Parsed)
    (hin : Scope.inComponent env'.source m = true) (he : IsLookup env.function.spelling e.node) :
    ∃ qs, List.Forall₂ (Twin env env' spot (m.situation env'.source env'.function).plain) e.children qs ∧
      (Still env' m ↔ ∀ q ∈ qs, Still env' q) := by
  obtain ⟨hbuilt, hkind, value, tail, hitems⟩ := he
  cases h with
  | skipped hclean _ _ =>
    rw [hbuilt] at hclean
    cases hclean
  | text hclean _ _ _ _ _ _ =>
    rw [hbuilt] at hclean
    cases hclean
  | same hclean _ _ _ =>
    rw [hbuilt] at hclean
    cases hclean
  | braced _ hbraces _ _ _ _ _ _ =>
    rw [hkind] at hbraces
    exact absurd hbraces (by decide)
  | spaced _ hspaced _ _ _ =>
    rw [hkind] at hspaced
    exact absurd hspaced (by decide)
  | @call _ _ callee arguments opening key function literal _ more _ _ htexts hcall hchildren hcallee
      hfield hname harguments hlist hopening hkey hliteral hmore =>
    rw [hitems] at htexts
    obtain ⟨hfunction, hrest⟩ := List.cons.inj htexts
    obtain ⟨hencode, -⟩ := List.cons.inj hrest
    replace hfunction := List.append_cancel_right (Node.text.inj hfunction)
    replace hencode := Node.text.inj hencode
    have hcalleeMem : callee ∈ m.children := by simp [hchildren]
    have hargumentsMem : arguments ∈ m.children := by simp [hchildren]
    have hopeningMem : opening ∈ arguments.children := by simp [hlist]
    have hkeyMem : key ∈ arguments.children := by simp [hlist]
    have hmoreMem : more ⊆ arguments.children := by
      rw [hlist]
      exact List.Subset.trans (List.subset_cons_self _ _) (List.subset_cons_self _ _)
    have hcalleeParsed := (preorder_subset_of_mem_children hm hcalleeMem).1
    have hargumentsParsed := (preorder_subset_of_mem_children hm hargumentsMem).1
    have hopeningParsed := (preorder_subset_of_mem_children hargumentsParsed hopeningMem).1
    have hinKey : Scope.inComponent env'.source key = true :=
      Scope.inComponent_of_mem_children hkeyMem (Scope.inComponent_of_mem_children hargumentsMem hin)
    have hcalled : (arguments.situation env'.source env'.function).called = true := by
      rw [Focus.situation_child hargumentsMem]
      show Literal.isCallOf env'.source env'.function m.node = true
      rw [isCallOf_eq, hcall, node_childByField?, hchildren, List.find?_cons_of_pos (by simp [hfield]),
        Option.map_some, Option.any_some, identifier?, hcallee, hname, ← hfunction, hagain.function]
      have hnames : env.function.names env.function.spelling = true := beq_iff_eq.2 hagain.named
      simp [hnames]
    have hplain : (arguments.situation env'.source env'.function).plain =
        (m.situation env'.source env'.function).plain := by
      rw [Focus.situation_child hargumentsMem, Situation.plain_below_of_free _ (by rw [hcall]; decide)]
    obtain ⟨qs, htwins, hcovers⟩ :=
      hmore.twins hargumentsParsed (by rw [harguments]; decide) hplain hmoreMem
    refine ⟨qs, htwins, ?_⟩
    have hcalleeStill : Still env' callee := by
      refine still_of_leaf (hcalleeParsed.items_of_token (by rw [hcallee]; decide)) ?_
      exact rests_of_kind (by rw [hcallee]; decide)
    have hkeyStill := still_key hagain hinKey hkeyMem harguments hcalled hkey
      (hliteral.trans hencode.symm)
    rw [still_iff_children (by rw [hcall]; decide) (by rw [hcall]; decide), hchildren,
      List.forall_mem_cons, List.forall_mem_singleton, and_iff_right hcalleeStill,
      still_iff_children (by rw [harguments]; decide) (by rw [harguments]; decide), hlist,
      List.forall_mem_cons, List.forall_mem_cons,
      and_iff_right (still_of_isBare hopening hopeningParsed), and_iff_right hkeyStill]
    exact hcovers

/-- What a pass puts in place of a string or of JSX text: a call without options, in braces or between
blanks where JSX needs them. -/
inductive LooksUp (function : Text) : Node → Prop
  | call {n : Node} (h : IsLookup function n) (hleaf : n.children = []) : LooksUp function n
  | around {n c : Node} (hbuilt : n.info.built = true) (hkind : n.kind ≠ "call_expression")
      (hchildren : n.children = [c]) (h : LooksUp function c) : LooksUp function n

theorem map_node_eq (f : Focus) : f.children.map (·.node) = f.node.children :=
  Focus.map_node_ofItems _ _ _ _

theorem Reads.still (hagain : Again env env') (h : Reads env env' spot e m) (hm : m.node.Parsed)
    (hin : Scope.inComponent env'.source m = true) (he : LooksUp env.function.spelling e.node) :
    Still env' m := by
  generalize hn : e.node = n at he
  induction he generalizing e m with
  | call hlookup hleaf =>
    subst hn
    have hnone : e.children = [] := by
      rw [← List.map_eq_nil_iff (f := (·.node)), map_node_eq, hleaf]
    obtain ⟨qs, htwins, hstill⟩ := h.call_twins hagain hm hin hlookup
    rw [hnone] at htwins
    cases htwins
    exact hstill.2 (by simp)
  | @around n only hbuilt hkind hchildren _ ih =>
    subst hn
    have hchild {c : Focus} (hc : e.children = [c]) : c.node = only := by
      have hmap := map_node_eq e
      rw [hc, hchildren] at hmap
      exact (List.cons.inj hmap).1
    cases h with
    | skipped hclean _ _ =>
      rw [hbuilt] at hclean
      cases hclean
    | text hclean _ _ _ _ _ _ =>
      rw [hbuilt] at hclean
      cases hclean
    | same hclean _ _ _ =>
      rw [hbuilt] at hclean
      cases hclean
    | call _ hcall _ _ _ _ _ _ _ _ _ _ _ _ => exact (hkind hcall).elim
    | spaced _ _ hc _ h => exact ih h hm hin (hchild hc)
    | @braced _ c _ opening n closing _ _ hc hbraces hnodes hopening hclosing h =>
      have hparsed (d : Focus) (hd : d ∈ m.children) : d.node.Parsed :=
        (preorder_subset_of_mem_children hm hd).1
      have hn : n ∈ m.children := by simp [hnodes]
      have hinside := ih h (hparsed n hn) (Scope.inComponent_of_mem_children hn hin) (hchild hc)
      rw [still_iff_children (by rw [hbraces]; decide) (by rw [hbraces]; decide), hnodes]
      simp only [List.forall_mem_cons]
      exact ⟨still_of_isBare hopening (hparsed opening (by simp [hnodes])), hinside,
        still_of_isBare hclosing (hparsed closing (by simp [hnodes])), by simp⟩

theorem LooksUp.mapInfo {function : Text} {n : Node} {f : Info → Info} (h : LooksUp function n)
    (hf : ∀ i, (f i).built = i.built ∧ (f i).kind = i.kind) : LooksUp function (n.mapInfo f) := by
  cases n with
  | text t =>
    cases h with
    | call hlookup _ => exact (Bool.false_ne_true hlookup.1).elim
    | around hbuilt _ _ _ => exact (Bool.false_ne_true hbuilt).elim
  | branch i items =>
    cases h with
    | call hlookup hleaf =>
      obtain ⟨hbuilt, hkind, htexts⟩ := hlookup
      exact .call ⟨(hf i).1.trans hbuilt, (hf i).2.trans hkind, htexts⟩ hleaf
    | around hbuilt hkind hone h =>
      exact .around ((hf i).1.trans hbuilt) (fun h => hkind ((hf i).2.symm.trans h)) hone h

theorem inherit_eq (i old : Info) :
    (i.inherit old).built = i.built ∧ (i.inherit old).kind = i.kind := by
  unfold Info.inherit
  split <;> exact ⟨rfl, rfl⟩

theorem looksUp_lookupCall (function key : Text) : LooksUp function (Wrap.lookupCall function key []) :=
  .call ⟨rfl, rfl, key, _, rfl⟩ rfl

theorem looksUp_braced (function key : Text) :
    LooksUp function (Wrap.braced (Wrap.lookupCall function key [])) :=
  .around rfl (show "jsx_expression" ≠ "call_expression" by decide) rfl (looksUp_lookupCall function key)

theorem looksUp_ofString (function value : Text) (inAttribute : Bool) (old : Node) :
    LooksUp function ((Wrap.ofString function value inAttribute).inPlaceOf old) := by
  refine LooksUp.mapInfo ?_ fun i => inherit_eq i _
  cases inAttribute
  · exact looksUp_lookupCall function value
  · exact looksUp_braced function value

theorem looksUp_placedRun (function raw value : Text) (first : Node) (more : List Node) :
    LooksUp function (placedRun (Wrap.ofJsxText function raw value) first more) := by
  have hnew : LooksUp function (Wrap.ofJsxText function raw value) :=
    .around rfl (show "synthetic" ≠ "call_expression" by decide) rfl (looksUp_braced function value)
  unfold placedRun
  split
  · exact hnew.mapInfo fun i => inherit_eq i _
  · exact hnew.mapInfo fun i => inherit_eq i _

end Calls

/-- Places that follow one another under a node, after some items. -/
def Sited : List Node → List Focus → Prop
  | _, [] => True
  | before, e :: es => e.siblingsBefore = before.filter isChild ∧ e.siblingsAfter = es.map (·.node) ∧
      Sited (e.node :: before) es

namespace Sited

variable {before : List Node} {es : List Focus}

theorem of_ofItems {i : Info} {frames : List Frame} {before before' items : List Node}
    (hbefore : before'.filter isChild = before.filter isChild) :
    Sited before (Focus.ofItems i frames before' items) := by
  induction items generalizing before before' with
  | nil => exact trivial
  | cons n rest ih =>
    rw [Focus.ofItems]
    split
    next hn =>
      refine ⟨hbefore, (Focus.map_node_ofItems _ _ _ _).symm, ih ?_⟩
      rw [List.filter_cons_of_pos hn, List.filter_cons_of_pos hn, hbefore]
    next hn =>
      refine ih ?_
      rw [List.filter_cons_of_neg hn, hbefore]

theorem append {more : List Focus} (h : Sited before (es ++ more)) :
    Sited ((es.map (·.node)).reverse ++ before) more := by
  induction es generalizing before with
  | nil => exact h
  | cons e es ih => simpa using ih h.2.2

end Sited

/-- A phrase in a component that nothing but a marker can exclude. -/
structure Exposed (env : Env) (g : Focus) (more : List Focus) : Prop where
  whole : Wrapped.IsWhole g more
  component : Scope.inComponent env.source g = true
  phrase : ∃ texts, shown env.source g more = .ok texts ∧ Literal.isPhrase env.script texts = .ok true
  free : env.bars g = false

/-- A phrase that a walk left though only a marker can exclude it: a template that is itself an
expression of a wrapped template, or a literal that a marker excludes. The walk wraps `vs`; `us` are the
wrapped templates around the place that it is followed from. -/
structure Left (env : Env) (us vs : List Focus) (g : Focus) : Prop where
  exposed : ∃ more, Exposed env g more
  cause : Nested env.source (us ++ vs) g ∨ env.ignores g = true
  unwrapped : g ∉ vs
  kept : ¬ PassedOver env.source vs g

/-- Whether a marker excludes the place that a literal is read at. -/
def Marked (env' : Env) (spot : Option Mark → Focus) (g : Focus) : Prop :=
  env'.ignores (spot g.node.info.start) = true

section Leaving

variable {env : Env} {us vs vs' : List Focus} {f g p : Focus}

theorem Left.congr (h : Left env us vs g) (hvs : ∀ w, w.path <+: g.path → (w ∈ vs ↔ w ∈ vs')) :
    Left env us vs' g where
  exposed := h.exposed
  cause := by
    refine h.cause.imp (fun hnested => ?_) id
    obtain ⟨hkind, u, hu, htemplate, hkept⟩ := hnested
    refine ⟨hkind, u, ?_, htemplate, hkept⟩
    rcases List.mem_append.1 hu with hu | hu
    · exact List.mem_append_left _ hu
    · exact List.mem_append_right _ ((hvs u (prefix_path_kept g hkept).1).1 hu)
  unwrapped hg := h.unwrapped ((hvs g List.prefix_rfl).2 hg)
  kept := by
    rintro ⟨u, hu, hkind, hle, hpassed⟩
    exact h.kept ⟨u, (hvs u hle).2 hu, hkind, hle, hpassed⟩

theorem left_append_left (hvs : ∀ w ∈ vs', ¬ w.path <+: g.path) :
    Left env us (vs ++ vs') g ↔ Left env us vs g := by
  have hsame (w : Focus) (hw : w.path <+: g.path) : w ∈ vs ++ vs' ↔ w ∈ vs := by
    rw [List.mem_append, or_iff_left fun hmem => hvs w hmem hw]
  exact ⟨fun h => h.congr hsame, fun h => h.congr fun w hw => (hsame w hw).symm⟩

theorem left_append_right (hvs : ∀ w ∈ vs, ¬ w.path <+: g.path) :
    Left env us (vs ++ vs') g ↔ Left env us vs' g := by
  have hsame (w : Focus) (hw : w.path <+: g.path) : w ∈ vs ++ vs' ↔ w ∈ vs' := by
    rw [List.mem_append, or_iff_right fun hmem => hvs w hmem hw]
  exact ⟨fun h => h.congr hsame, fun h => h.congr fun w hw => (hsame w hw).symm⟩

theorem left_template (hp : p ∈ (keptFoci env.source f).map (·.2)) (hle : p.path <+: g.path) :
    Left env us (f :: vs) g ↔ Left env (f :: us) vs g := by
  obtain ⟨hfp, hne⟩ := prefix_path_kept p hp
  have hgf : g ≠ f := by
    rintro rfl
    exact hne (hle.eq_of_length_le hfp.length_le)
  have hpassed : PassedOver env.source (f :: vs) g ↔ PassedOver env.source vs g := by
    constructor
    · rintro ⟨u, hu, hkind, hug, hne, hnone⟩
      rcases List.mem_cons.1 hu with rfl | hu
      · exact (hnone p hp hle).elim
      · exact ⟨u, hu, hkind, hug, hne, hnone⟩
    · rintro ⟨u, hu, h⟩
      exact ⟨u, List.mem_cons_of_mem _ hu, h⟩
  have hnested : Nested env.source (us ++ f :: vs) g ↔ Nested env.source (f :: us ++ vs) g := by
    have hmem (u : Focus) : u ∈ us ++ f :: vs ↔ u ∈ f :: us ++ vs := by
      simp only [List.cons_append, List.mem_append, List.mem_cons]
      tauto
    simp only [Nested, hmem]
  constructor
  · rintro ⟨hexposed, hcause, hunwrapped, hkept⟩
    exact ⟨hexposed, hcause.imp hnested.1 id, fun h => hunwrapped (List.mem_cons_of_mem _ h),
      fun h => hkept (hpassed.2 h)⟩
  · rintro ⟨hexposed, hcause, hunwrapped, hkept⟩
    refine ⟨hexposed, hcause.imp hnested.2 id, fun h => ?_, fun h => hkept (hpassed.1 h)⟩
    rcases List.mem_cons.1 h with h | h
    · exact hgf h
    · exact hunwrapped h

theorem nodes_of_isWhole {more : List Focus} (h : Wrapped.IsWhole g more) : more.map (·.node) =
    if Literal.isJsxText g.node then g.siblingsAfter.takeWhile Literal.isJsxText else [] := by
  split
  next hjsx =>
    obtain ⟨hstring, htemplate⟩ := kind_of_isJsxText hjsx
    rcases h with ⟨hkind, -⟩ | ⟨hkind, -⟩ | ⟨-, hmore, -⟩
    · exact (hstring hkind).elim
    · exact (htemplate hkind).elim
    · exact hmore
  next hjsx =>
    rcases h with ⟨-, rfl⟩ | ⟨-, rfl⟩ | ⟨h, -, -⟩
    · rfl
    · rfl
    · exact (hjsx h).elim

theorem shown_of_isWhole {source : Bytes} {more more' : List Focus} (h : Wrapped.IsWhole g more)
    (h' : Wrapped.IsWhole g more') : shown source g more' = shown source g more := by
  rw [shown, shown, nodes_of_isWhole h, nodes_of_isWhole h']

theorem rests_iff_settled {more : List Focus} (hin : Scope.inComponent env.source g = true)
    (hwhole : Wrapped.IsWhole g more) : Rests env g ↔ Settled env g more := by
  refine ⟨fun h => h hin more hwhole, fun h _ more' hwhole' => ?_⟩
  obtain ⟨texts, phrase, htexts, hphrase, hsettled⟩ := h
  exact ⟨texts, phrase, (shown_of_isWhole hwhole hwhole').trans htexts, hphrase, hsettled⟩

end Leaving

section Resting

variable {env env' : Env} {spot : Option Mark → Focus} {us vs : List Focus} {f e q : Focus}
  {frames : List Frame}

theorem inComponent_of_twin {s : Situation} (htwin : Twin env env' spot s e q) :
    Scope.inComponent env'.source q = s.inside := by
  rw [← htwin.situation]
  rfl

theorem Twin.isExcluded (htwin : Twin env env' spot (f.situation env.source env.function) e q)
    (hfield : e.node.field = f.node.field)
    (hkind : (q.node.kind == "template_string") = (f.node.kind == "template_string")) :
    env'.isExcluded q = (env.bars f || env'.ignores q) := by
  rw [Env.isExcluded_eq, bars_eq, bars_eq, htwin.situation,
    Situation.excludes_of_suits (hfield ▸ htwin.suits) hkind]

/-- What the walk left is left again exactly if a marker excludes it wherever only a marker can. -/
theorem rests_iff_of_settled {more more' : List Focus} (hagain : Again env env')
    (haround : Around env.source us f frames) (hin : Scope.inComponent env.source f = true)
    (hwhole : Wrapped.IsWhole f more) (hsettled : Settled env ⟨f.node, frames⟩ more)
    (hvs : ∀ w ∈ vs, ¬ w.path <+: f.path)
    (htwin : Twin env env' spot (f.situation env.source env.function) e q)
    (hwhole' : Wrapped.IsWhole q more') (hfield : e.node.field = f.node.field)
    (hkind : (q.node.kind == "template_string") = (f.node.kind == "template_string"))
    (hspot : spot f.node.info.start = q)
    (hshown : shown env'.source q more' = shown env.source f more) :
    Rests env' q ↔ (Left env us vs f → Marked env' spot f) := by
  obtain ⟨texts, phrase, htexts, hphrase, hsettled⟩ := hsettled
  rw [shown_walk haround.matches] at htexts
  have hiff : Settled env' q more' ↔ (phrase && !env'.isExcluded q) = false := by
    constructor
    · rintro ⟨texts', phrase', htexts', hphrase', h⟩
      rw [hshown, htexts] at htexts'
      cases htexts'
      rw [hagain.script, hphrase] at hphrase'
      cases hphrase'
      exact h
    · exact fun h => ⟨texts, phrase, hshown.trans htexts, hagain.script ▸ hphrase, h⟩
  rw [rests_iff_settled ((inComponent_of_twin htwin).trans hin) hwhole', hiff, Marked, hspot,
    htwin.isExcluded hfield hkind]
  cases phrase with
  | false =>
    refine iff_of_true rfl fun hleft => ?_
    obtain ⟨others, hexposed⟩ := hleft.exposed
    obtain ⟨texts', htexts', hphrase'⟩ := hexposed.phrase
    rw [shown_of_isWhole hwhole hexposed.whole, htexts] at htexts'
    cases htexts'
    rw [hphrase] at hphrase'
    cases hphrase'
  | true =>
    have hexcluded : env.isExcluded ⟨f.node, frames⟩ = true := by simpa using hsettled
    by_cases hbars : env.bars f = true
    · refine iff_of_true (by simp [hbars]) fun hleft => ?_
      obtain ⟨others, hexposed⟩ := hleft.exposed
      rw [hexposed.free] at hbars
      cases hbars
    have hfree : env.bars f = false := by simpa using hbars
    rw [hfree, Bool.false_or, Bool.true_and, Bool.not_eq_false']
    refine ⟨fun h _ => h, fun h => h ⟨⟨more, hwhole, hin, ⟨texts, htexts, hphrase⟩, hfree⟩, ?_, ?_, ?_⟩⟩
    · rcases haround.isExcluded_or hexcluded with hparsed | ⟨htemplate, u, hu, hkept⟩
      · rw [Env.isExcluded_eq, hfree, Bool.false_or] at hparsed
        exact .inr hparsed
      · exact .inl ⟨htemplate, u, List.mem_append_left _ hu, haround.kind u hu, hkept⟩
    · exact fun hmem => hvs f hmem List.prefix_rfl
    · rintro ⟨u, hu, -, hle, -⟩
      exact hvs u hu hle

theorem rests_iff_of_kind (hf : literalKinds.contains f.node.kind = false)
    (hq : literalKinds.contains q.node.kind = false) :
    Rests env' q ↔ (Left env us vs f → Marked env' spot f) := by
  refine iff_of_true (rests_of_kind hq) fun hleft => ?_
  obtain ⟨more, hexposed⟩ := hleft.exposed
  simp only [literalKinds, List.contains_cons, Bool.or_eq_false_iff, beq_eq_false_iff_ne] at hf
  rcases hexposed.whole with ⟨hkind, -⟩ | ⟨hkind, -⟩ | ⟨hjsx, -, -⟩
  · exact (hf.1 hkind).elim
  · exact (hf.2.1 hkind).elim
  · rw [Literal.isJsxText, hf.2.2] at hjsx
    cases hjsx

theorem rests_iff_of_outside (hf : Scope.inComponent env.source f = false)
    (hq : Scope.inComponent env'.source q = false) :
    Rests env' q ↔ (Left env us vs f → Marked env' spot f) := by
  refine iff_of_true (fun h => ?_) fun hleft => ?_
  · rw [hq] at h
    cases h
  · obtain ⟨more, hexposed⟩ := hleft.exposed
    rw [hexposed.component] at hf
    cases hf

theorem shown_template {source : Bytes} (hkind : f.node.kind = "template_string") :
    shown source f [] = Literal.quasis source f.node := by
  rw [shown, if_neg (by simp [hkind]), if_pos (by simp [hkind])]
  rfl

theorem shown_string {source source' : Bytes} (hkind : f.node.kind = "string")
    (hkind' : q.node.kind = "string") (htext : q.node.textD source' = f.node.textD source)
    (hattribute : Literal.inAttribute q = Literal.inAttribute f) :
    shown source' q [] = shown source f [] := by
  rw [shown, shown, if_pos (by simp [hkind']), if_pos (by simp [hkind]), Literal.stringValue,
    Literal.stringValue, htext, hattribute]

theorem shown_text {source : Bytes} {more : List Focus} (hjsx : Literal.isJsxText f.node = true) :
    shown source f more =
      (Literal.jsxValue (Literal.runSource source (f.node :: more.map (·.node)))).map ([·]) := by
  obtain ⟨hstring, htemplate⟩ := kind_of_isJsxText hjsx
  rw [shown, if_neg (by simpa using hstring), if_neg (by simpa using htemplate)]

theorem built_of_parsed {n : Node} (h : n.Parsed) : n.info.built = false := by
  cases n with
  | text t => simpa [isLaid] using h.laid
  | branch i items => exact (isLaid_branch.1 h.laid).1

end Resting

end Pass
end Phrasebook
