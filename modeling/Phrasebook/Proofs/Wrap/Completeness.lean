import Phrasebook.Proofs.Wrap.Repetition
import Phrasebook.Proofs.Wrap.Selection

/-! Which of the selected literals a pass wraps: all but the templates that are themselves expressions
of a wrapped template, and what stands in a substitution of which the call keeps nothing. -/

namespace Phrasebook

open Node Focus

namespace Pass

def InExpressions (places wrapped : List Focus) : Prop :=
  ∀ w ∈ wrapped, ∃ p ∈ places, p.path <+: w.path ∧ (w.node.kind = "template_string" → w ≠ p)

/-- Of two wrapped literals one below the other, the upper one is a template, and the lower one is in
an expression that its call keeps; a template is not that expression itself. -/
def UnderKept (source : Bytes) (wrapped : List Focus) : Prop :=
  ∀ u ∈ wrapped, ∀ w ∈ wrapped, u.path <+: w.path → w.path ≠ u.path →
    ∃ p ∈ (keptFoci source u).map (·.2), p.path <+: w.path ∧
      (w.node.kind = "template_string" → w ≠ p)

section Under

variable {source : Bytes} {vs vs' : List Focus} {f : Focus}

theorem UnderKept.nil (source : Bytes) : UnderKept source [] := by
  intro u hu
  cases hu

theorem UnderKept.singleton (source : Bytes) (f : Focus) : UnderKept source [f] := by
  intro u hu w hw _ hne
  rw [List.mem_singleton.1 hu, List.mem_singleton.1 hw] at hne
  exact (hne rfl).elim

theorem UnderKept.append (h : UnderKept source vs) (h' : UnderKept source vs')
    (hapart : ∀ u ∈ vs, ∀ w ∈ vs', Apart u w) : UnderKept source (vs ++ vs') := by
  intro u hu w hw hle hne
  rcases List.mem_append.1 hu with hu | hu <;> rcases List.mem_append.1 hw with hw | hw
  · exact h u hu w hw hle hne
  · exact ((hapart u hu w hw).1 hle).elim
  · exact ((hapart w hw u hu).2 hle).elim
  · exact h' u hu w hw hle hne

theorem UnderKept.cons_template (h : UnderKept source vs)
    (hunder : InExpressions ((keptFoci source f).map (·.2)) vs) : UnderKept source (f :: vs) := by
  intro u hu w hw hle hne
  rcases List.mem_cons.1 hu with rfl | hbelow
  · rcases List.mem_cons.1 hw with rfl | hbelow
    · exact (hne rfl).elim
    · exact hunder w hbelow
  · rcases List.mem_cons.1 hw with rfl | hbelow'
    · -- What is in an expression of a template is not above the template.
      obtain ⟨p, hp, hpu, -⟩ := hunder u hbelow
      obtain ⟨hwp, hpw⟩ := prefix_path_kept p hp
      exact (hpw ((hpu.trans hle).eq_of_length_le hwp.length_le)).elim
    · exact h u hbelow w hbelow' hle hne

theorem InExpressions.mono {places places' : List Focus} (h : InExpressions places vs)
    (hsub : places ⊆ places') : InExpressions places' vs := by
  intro w hw
  obtain ⟨p, hp, hunder⟩ := h w hw
  exact ⟨p, hsub hp, hunder⟩

theorem InExpressions.cons {places : List Focus} (hf : f.node.kind ≠ "template_string")
    (h : InExpressions places vs) : InExpressions (f :: places) (f :: vs) := by
  intro w hw
  rcases List.mem_cons.1 hw with rfl | hw
  · exact ⟨w, List.mem_cons_self, List.prefix_rfl, fun hkind => (hf hkind).elim⟩
  · exact h.mono (List.subset_cons_self _ _) w hw

theorem InExpressions.append {places places' : List Focus} (h : InExpressions places vs)
    (h' : InExpressions places' vs') : InExpressions (places ++ places') (vs ++ vs') := by
  intro w hw
  rcases List.mem_append.1 hw with hw | hw
  · exact h.mono (List.subset_append_left _ _) w hw
  · exact h'.mono (List.subset_append_right _ _) w hw

theorem focus_mem_covered {ws : List Wrapped} {w : Wrapped} (hw : w ∈ ws) : w.focus ∈ covered ws :=
  List.mem_flatMap.2 ⟨w, hw, List.mem_cons_self⟩

theorem Once.apart {places others : List Focus} {us ws : List Wrapped}
    (h : Once places (covered us)) (h' : Once others (covered ws))
    (hapart : ∀ p ∈ places, ∀ q ∈ others, Apart p q) :
    ∀ u ∈ us.map (·.focus), ∀ w ∈ ws.map (·.focus), Apart u w := by
  intro f hf g hg
  obtain ⟨u, hu, rfl⟩ := List.mem_map.1 hf
  obtain ⟨w, hw, rfl⟩ := List.mem_map.1 hg
  obtain ⟨p, hp, hpu⟩ := h.under _ (focus_mem_covered hu)
  obtain ⟨q, hq, hqw⟩ := h'.under _ (focus_mem_covered hw)
  exact (hapart p hp q hq).below hpu hqw

end Under

section Calls

variable {env : Env} {call : Info} {frames : List Frame}

theorem ne_of_children {ws : List Wrapped} {f : Focus} (h : Once f.children (covered ws)) :
    ∀ w ∈ ws, w.focus ≠ f := by
  intro w hw heq
  obtain ⟨c, hc, hcw⟩ := h.under _ (focus_mem_covered hw)
  obtain ⟨hle, hne⟩ := prefix_path_of_mem_children hc
  rw [heq] at hcw
  exact hne (hcw.eq_of_length_le hle.length_le)

theorem Visit.ne_template {owner : Option Text} {f : Focus} {made : Made Node} {ws : List Wrapped}
    {before after : List Node} (hcall : call.kind = "call_expression")
    (h : Visit env owner (⟨call, before, after⟩ :: frames) f made ws) :
    ∀ w ∈ ws, w.focus.node.kind = "template_string" → w.focus ≠ f := by
  cases h with
  | skipped _ _ => simp
  | otherString _ _ _ _ _ => simp
  | component _ _ _ _ hbelow =>
    intro w hw _
    obtain ⟨u, hu, rfl⟩ := List.mem_map.1 hw
    exact ne_of_children (hbelow.once (pairwise_apart_ofItems _ _ _ _)) u hu
  | entered _ _ hbelow =>
    intro w hw _
    exact ne_of_children (hbelow.once (pairwise_apart_ofItems _ _ _ _)) w hw
  | string _ _ _ hkind _ =>
    intro w hw hw' heq
    rw [heq, hkind] at hw'
    exact absurd hw' (by decide)
  | template _ _ _ hkind hkey _ =>
    obtain ⟨-, -, -, hexcluded, -⟩ := templateKey?_eq_some hkey
    have htagged : Literal.isTagged ⟨f.node, ⟨call, before, after⟩ :: frames⟩ = true := by
      simp [Literal.isTagged, Focus.parentKind?, hkind, hcall]
    simp [Env.isExcluded, Literal.isExcluded, htagged] at hexcluded

theorem Visit.inExpressions {owner : Option Text} {f : Focus} {made : Made Node} {ws : List Wrapped}
    {before after : List Node} (h : Visit env owner (⟨call, before, after⟩ :: frames) f made ws)
    (hcall : call.kind = "call_expression") : InExpressions [f] (ws.map (·.focus)) := by
  intro g hg
  obtain ⟨w, hw, rfl⟩ := List.mem_map.1 hg
  obtain ⟨p, hp, hpw⟩ := h.once.under _ (focus_mem_covered hw)
  rw [List.mem_singleton.1 hp] at hpw
  exact ⟨f, List.mem_cons_self, hpw, h.ne_template hcall w hw⟩

end Calls

mutual

theorem Visit.underKept {env : Env} {owner : Option Text} {frames : List Frame} {f : Focus}
    {made : Made Node} {ws : List Wrapped} : Visit env owner frames f made ws →
      UnderKept env.source (ws.map (·.focus))
  | .skipped _ _ => .nil _
  | .otherString _ _ _ _ _ => .nil _
  | .string _ _ _ _ _ => .singleton _ _
  | .component _ _ _ _ hbelow => by
    rw [List.map_map]
    exact (hbelow.underKept (pairwise_apart_ofItems _ _ _ _)).1
  | .entered _ _ hbelow => (hbelow.underKept (pairwise_apart_ofItems _ _ _ _)).1
  | .template _ _ _ _ _ hbelow => by
    obtain ⟨hunder, hplaces⟩ := hbelow.underKept (pairwise_apart_kept _ _)
    exact hunder.cons_template (hplaces rfl)

theorem Visits.underKept {env : Env} {owner : Option Text} {parent : Info} {frames : List Frame}
    {before : List Node} {k : Nat} {places : List Focus} {made : Made (List Node)}
    {ws : List Wrapped} : Visits env owner parent frames before k places made ws →
      places.Pairwise Apart → UnderKept env.source (ws.map (·.focus)) ∧
        (parent.kind = "call_expression" → InExpressions places (ws.map (·.focus)))
  | .nil, _ => ⟨.nil _, fun _ w hw => by cases hw⟩
  | .run _ _ hjsx hmore _ hrest, h => by
    obtain ⟨hunder, hplaces⟩ := hrest.underKept (h.tail.sublist (List.drop_sublist _ _))
    have honce := hrest.once (h.tail.sublist (List.drop_sublist _ _))
    constructor
    · refine (UnderKept.singleton _ _).append hunder fun u hu g hg => ?_
      obtain ⟨w, hw, rfl⟩ := List.mem_map.1 hg
      obtain ⟨q, hq, hqw⟩ := honce.under _ (focus_mem_covered hw)
      rw [List.mem_singleton.1 hu]
      exact ((List.pairwise_cons.1 h).1 q (List.mem_of_mem_drop hq)).below List.prefix_rfl hqw
    · intro hcall
      exact .cons (kind_of_isJsxText hjsx).2 ((hplaces hcall).mono (List.drop_subset _ _))
  | .otherRun _ _ _ hrest, h => by
    obtain ⟨hunder, hplaces⟩ := hrest.underKept (h.tail.sublist (List.drop_sublist _ _))
    exact ⟨hunder, fun hcall => (hplaces hcall).mono
      (List.subset_cons_of_subset _ (List.drop_subset _ _))⟩
  | .node _ hfirst hrest, h => by
    obtain ⟨hapart, hpairwise⟩ := List.pairwise_cons.1 h
    obtain ⟨hunder, hplaces⟩ := hrest.underKept hpairwise
    rw [List.map_append, List.map_map]
    constructor
    · refine hfirst.underKept.append hunder ?_
      refine hfirst.once.apart (hrest.once hpairwise) fun p hp => ?_
      rw [List.mem_singleton.1 hp]
      exact hapart
    · intro hcall
      exact (hfirst.inExpressions hcall).append (hplaces hcall)

end

section Decided

variable {source : Bytes} {vs : List Focus} {g : Focus}

theorem UnderKept.not_nested (h : UnderKept source vs) (hg : g ∈ vs) : ¬ Nested source vs g := by
  rintro ⟨hkind, u, hu, -, hkept⟩
  obtain ⟨hle, hne⟩ := prefix_path_kept g hkept
  obtain ⟨p, hp, hpg, hnot⟩ := h u hu g hg hle hne
  exact hnot hkind (eq_of_pairwise_apart (pairwise_apart_kept source u) hkept hp List.prefix_rfl hpg)

theorem UnderKept.not_passedOver (h : UnderKept source vs) (hg : g ∈ vs) :
    ¬ PassedOver source vs g := by
  rintro ⟨u, hu, -, hle, hne, hnone⟩
  obtain ⟨p, hp, hpg, -⟩ := h u hu g hg hle hne
  exact hnone p hp hpg

end Decided

theorem Visit.account_root {env : Env} {root : Node} {made : Made Node} {ws : List Wrapped}
    (h : Visit env none [] (Focus.ofRoot root) made ws) (hroot : root.Parsed)
    (htidy : root.areTidy = true) : Account env [] (ws.map (·.focus)) [Focus.ofRoot root] := by
  refine h.account (.root hroot htidy) (fun hin => ?_) fun hnone => by cases hnone
  simp [Scope.inComponent, Focus.ofRoot, Focus.above] at hin

theorem Account.not_above {env : Env} {root : Node} {vs : List Focus} {g u : Focus}
    (h : Account env [] vs [Focus.ofRoot root]) (hbelow : (Focus.ofRoot root).Below g)
    (houtside : "template_string" ∉ g.ancestorKinds) (hu : u ∈ vs)
    (hkind : u.node.kind = "template_string") (hle : u.path <+: g.path) : g.path = u.path := by
  obtain ⟨p, hp, hpu⟩ := h.below u hu
  rw [List.mem_singleton.1 hp] at hpu
  rcases (hpu.of_path hbelow hle).cases with rfl | ⟨c, hc, hcg⟩
  · rfl
  · exact (houtside (hkind ▸ Below.kind_mem_ancestorKinds hc hcg)).elim

theorem Account.not_nested {env : Env} {root : Node} {vs : List Focus} {g : Focus}
    (h : Account env [] vs [Focus.ofRoot root]) (hbelow : (Focus.ofRoot root).Below g)
    (houtside : "template_string" ∉ g.ancestorKinds) :
    ¬ Nested env.source vs g ∧ ¬ PassedOver env.source vs g := by
  constructor
  · rintro ⟨-, u, hu, hkind, hkept⟩
    obtain ⟨hle, hne⟩ := prefix_path_kept g hkept
    exact hne (h.not_above hbelow houtside hu hkind hle)
  · rintro ⟨u, hu, hkind, hle, hne, -⟩
    exact hne (h.not_above hbelow houtside hu hkind hle)

theorem keptFoci_singleton {source : Bytes} {f p : Focus} (h : expressionFoci f = [p]) :
    (keptFoci source f).map (·.2) = [p] := by
  rw [keptFoci, h]
  rfl

end Pass

/-- **Completeness of wrapping.** Whatever account of a pass is given, a literal that the tests select
on the tree as parsed is wrapped exactly when it is no template that is itself an expression of a
wrapped template, and stands in no substitution of which the call of a wrapped template keeps nothing. -/
theorem transform_wraps_iff {settings : Settings} {tree : Tree} {out : Transformed}
    (htree : tree.Parsed) (htidy : tree.root.areTidy = true)
    (h : (transform settings tree).result = .ok out) :
    (∃ ws pieces, Splices settings tree out ws pieces) ∧
      ∀ ws pieces, Splices settings tree out ws pieces → ∀ g more,
        (Focus.ofRoot tree.root).Below g → Pass.Selected (settings.env tree) g more →
        (g ∈ ws.map (·.focus) ↔ ¬ Pass.Nested tree.source (ws.map (·.focus)) g ∧
          ¬ Pass.PassedOver tree.source (ws.map (·.focus)) g) := by
  constructor
  · obtain ⟨made, b, root, hpass⟩ := passes_of_transform h
    obtain ⟨ws, hvisit⟩ := Pass.visit_of_walk htree.root hpass.walk
    exact ⟨ws, hpass.exists_splices htree hvisit⟩
  · intro ws pieces hsplices g more hbelow hg
    obtain ⟨made, hvisit⟩ := hsplices.visit
    have hunder := hvisit.underKept
    have hdecided := (hvisit.account_root htree.root htidy).decided _ List.mem_cons_self g more hbelow hg
    constructor
    · intro hwrapped
      exact ⟨hunder.not_nested hwrapped, hunder.not_passedOver hwrapped⟩
    · rintro ⟨hnested, hpassed⟩
      rcases hdecided with hwrapped | hv | hv
      · exact hwrapped
      · exact (hnested hv).elim
      · exact (hpassed hv).elim

namespace Sample

/-- The place at the end of a path, or the root. -/
def place (t : Tree) (path : Path) : Focus :=
  ((Focus.ofRoot t.root).at? path).getD (Focus.ofRoot t.root)

theorem below_place (t : Tree) (path : Path)
    (h : ((Focus.ofRoot t.root).at? path).isSome = true) :
    (Focus.ofRoot t.root).Below (place t path) := by
  obtain ⟨g, hg⟩ := Option.isSome_iff_exists.1 h
  exact ⟨path, by rw [place, hg, Option.getD_some]⟩

def isSelected (env : Pass.Env) (g : Focus) : Bool :=
  (g.node.kind == "string" || g.node.kind == "template_string") &&
  g.ancestorKinds.all (fun kind => !Pass.skippedKinds.contains kind && kind != "string") &&
  Scope.inComponent env.source g && !env.isExcluded g &&
  (Pass.shown env.source g []).toOption.any fun texts =>
    (Literal.isPhrase env.script texts).toOption == some true

theorem selected_of_isSelected {env : Pass.Env} {g : Focus} (h : isSelected env g = true) :
    Pass.Selected env g [] := by
  simp only [isSelected, Bool.and_eq_true, Bool.or_eq_true, beq_iff_eq, List.all_eq_true,
    Bool.not_eq_true', bne_iff_ne] at h
  obtain ⟨⟨⟨⟨hkind, houtside⟩, hcomponent⟩, hexcluded⟩, hphrase⟩ := h
  refine ⟨hkind.imp (⟨·, rfl⟩) fun h => .inl ⟨h, rfl⟩, houtside, hcomponent, ?_, hexcluded⟩
  cases hshown : Pass.shown env.source g [] with
  | error e =>
    rw [hshown] at hphrase
    cases hphrase
  | ok texts =>
    rw [hshown] at hphrase
    refine ⟨texts, rfl, ?_⟩
    cases hscript : Literal.isPhrase env.script texts with
    | error e => simp [hscript, Except.toOption] at hphrase
    | ok phrase =>
      obtain rfl : phrase = true := by simpa [hscript, Except.toOption] using hphrase
      rfl

/-- The tree of a template whose only expression is a template. -/
def nested : Tree := (component (templateOf (templateOf
  (answer "identifier" true 36 37 none []) 29 37 none) 22 39 none) 41).toTree nestedCode

/-- Its two templates, the outer one first. -/
def outer : Focus := place nested [0, 3, 1, 1]

def inner : Focus := place nested [0, 3, 1, 1, 2, 1]

theorem parser_nested (grammar : Grammar) : parser grammar nestedCode = some nestedAnswer :=
  parser_of_mem grammar (by simp [answers])

theorem parse_nested : parse parser settings.backend nestedCode none = .ok nested :=
  parse_eq_ok.2 ⟨nestedAnswer, parser_nested _, rfl, rfl, rfl⟩

theorem nested_parsed : nested.Parsed := parser_isSound .tsx _ _ (parser_nested .tsx) rfl

theorem nested_tidy : nested.root.areTidy = true := by decide

theorem isSelected_nested : isSelected (settings.env nested) outer = true ∧
    isSelected (settings.env nested) inner = true := by decide +kernel

theorem selected_outer : Pass.Selected (settings.env nested) outer [] :=
  selected_of_isSelected isSelected_nested.1

theorem selected_inner : Pass.Selected (settings.env nested) inner [] :=
  selected_of_isSelected isSelected_nested.2

theorem modified_nested : ∃ out, (transform settings nested).result = .ok out ∧ out.modified = true := by
  obtain ⟨out, hout, -, hmodified⟩ := exists_of_pass pass_nested
  obtain ⟨tree, hparse, htransform⟩ := transformCode_eq_ok.1 hout
  cases parse_nested.symm.trans hparse
  exact ⟨out, htransform, hmodified⟩

theorem below_outer : (Focus.ofRoot nested.root).Below outer := below_place nested _ rfl

theorem not_nested_outer {out : Transformed} {ws : List Pass.Wrapped} {pieces : List Piece}
    (h : Splices settings nested out ws pieces) :
    ¬ Pass.Nested nested.source (ws.map (·.focus)) outer ∧
      ¬ Pass.PassedOver nested.source (ws.map (·.focus)) outer := by
  obtain ⟨made, hvisit⟩ := h.visit
  exact (hvisit.account_root nested_parsed.root nested_tidy).not_nested below_outer (by decide)

end Sample

theorem transform_wraps_iff_outer :
    ∃ out, (transform Sample.settings Sample.nested).result = .ok out ∧
      ∃ ws pieces, Splices Sample.settings Sample.nested out ws pieces ∧
        Sample.outer ∈ ws.map (·.focus) := by
  obtain ⟨out, hout, -⟩ := Sample.modified_nested
  obtain ⟨⟨ws, pieces, hsplices⟩, hall⟩ :=
    transform_wraps_iff Sample.nested_parsed Sample.nested_tidy hout
  exact ⟨out, hout, ws, pieces, hsplices,
    (hall ws pieces hsplices Sample.outer [] Sample.below_outer Sample.selected_outer).2
      (Sample.not_nested_outer hsplices)⟩

/-- The inner one of two nested templates is selected and not wrapped. -/
theorem transform_not_wraps_inner :
    Pass.Selected (Sample.settings.env Sample.nested) Sample.inner [] ∧
      ∃ out, (transform Sample.settings Sample.nested).result = .ok out ∧
        (∃ ws pieces, Splices Sample.settings Sample.nested out ws pieces) ∧
        ∀ ws pieces, Splices Sample.settings Sample.nested out ws pieces →
          Sample.inner ∉ ws.map (·.focus) := by
  obtain ⟨out, hout, -⟩ := Sample.modified_nested
  obtain ⟨made, b, root, hpass⟩ := passes_of_transform hout
  obtain ⟨ws, hvisit⟩ := Pass.visit_of_walk Sample.nested_parsed.root hpass.walk
  refine ⟨Sample.selected_inner, out, hout, ⟨ws, hpass.exists_splices Sample.nested_parsed hvisit⟩, ?_⟩
  intro ws pieces hsplices hinner
  obtain ⟨made, hvisit⟩ := hsplices.visit
  have haccount := hvisit.account_root Sample.nested_parsed.root Sample.nested_tidy
  have houter : Sample.outer ∈ ws.map (·.focus) := by
    obtain ⟨hnested, hpassed⟩ := Sample.not_nested_outer hsplices
    rcases haccount.decided _ List.mem_cons_self _ [] Sample.below_outer Sample.selected_outer with
      h | h | h
    · exact h
    · exact (hnested h).elim
    · exact (hpassed h).elim
  refine hvisit.underKept.not_nested hinner
    ⟨rfl, Sample.outer, houter, rfl, ?_⟩
  rw [Pass.keptFoci_singleton (p := Sample.inner) rfl]
  exact List.mem_cons_self

end Phrasebook
