import Phrasebook.Proofs.Wrap.Locality

/-! Which literals a pass leaves alone. Every test is made on a tree that is being edited; it is shown
here that no literal is wrapped which the same tests rule out on the tree as parsed, and that none is
wrapped twice. -/

namespace Phrasebook

namespace Focus

/-- The positions that lead to a focus. -/
def path (f : Focus) : Path := (f.frames.map fun frame => frame.before.length).reverse

/-- Two places of which neither is at or below the other. -/
def Apart (f g : Focus) : Prop := ¬ f.path <+: g.path ∧ ¬ g.path <+: f.path

theorem path_of_mem_ofItems {info : Info} {frames : List Frame} {before items : List Node} {c : Focus}
    (h : c ∈ ofItems info frames before items) (n : Node) :
    ∃ k, before.length ≤ k ∧ c.path = path ⟨n, frames⟩ ++ [k] := by
  obtain ⟨past, m, after, -, rfl⟩ := mem_ofItems h
  exact ⟨(past.reverse ++ before).length, by simp, by simp [path]⟩

theorem prefix_path_of_mem_children {f c : Focus} (h : c ∈ f.children) :
    f.path <+: c.path ∧ c.path ≠ f.path := by
  obtain ⟨k, -, hc⟩ := path_of_mem_ofItems h f.node
  rw [show c.path = f.path ++ [k] from hc]
  exact ⟨List.prefix_append _ _, by simp⟩

theorem pairwise_apart_ofItems (info : Info) (frames : List Frame) (before items : List Node) :
    (ofItems info frames before items).Pairwise Apart := by
  induction items generalizing before with
  | nil => exact .nil
  | cons n rest ih =>
    rw [ofItems]
    split
    next =>
      refine .cons (fun c hc => ?_) (ih _)
      obtain ⟨k, hk, hpath⟩ := path_of_mem_ofItems hc n
      have hlt : before.length ≠ k := by
        have : before.length + 1 ≤ k := by simpa using hk
        omega
      have hn : path ⟨n, ⟨info, before, rest⟩ :: frames⟩ = path ⟨n, frames⟩ ++ [before.length] := by
        simp [path]
      rw [Apart, hn, hpath, List.prefix_append_right_inj, List.prefix_append_right_inj]
      simp [List.prefix_cons_iff, hlt, hlt.symm]
    next => exact ih _

theorem Apart.below {f g f' g' : Focus} (h : Apart f g) (hf : f.path <+: f'.path)
    (hg : g.path <+: g'.path) : Apart f' g' := by
  -- Two prefixes of one path are in line, so places in line can only come from places in line.
  constructor
  · intro hle
    rcases List.prefix_or_prefix_of_prefix (hf.trans hle) hg with hle | hle
    · exact h.1 hle
    · exact h.2 hle
  · intro hle
    rcases List.prefix_or_prefix_of_prefix hf (hg.trans hle) with hle | hle
    · exact h.1 hle
    · exact h.2 hle

theorem Apart.ne {f g : Focus} (h : Apart f g) : f ≠ g := by
  rintro rfl
  exact h.1 List.prefix_rfl

end Focus

namespace Pass

open Focus

theorem prefix_path_expressionFocus (s : Focus) : s.path <+: (expressionFocus s).path := by
  rcases expressionFocus_cases s with hs | hs
  · exact (prefix_path_of_mem_children hs).1
  · exact ⟨[], by rw [hs, List.append_nil]⟩

theorem pairwise_apart_kept (source : Bytes) (f : Focus) :
    ((keptFoci source f).map (·.2)).Pairwise Apart := by
  have hkept : ((keptFoci source f).map (·.2)).Sublist (expressionFoci f) :=
    ((firstUses_sublist _ _).map _).trans (map_snd_zip_sublist _ _)
  refine .sublist hkept ?_
  rw [expressionFoci, List.pairwise_map]
  refine ((pairwise_apart_ofItems _ _ _ _).sublist List.filter_sublist).imp ?_
  intro s t h
  exact h.below (prefix_path_expressionFocus s) (prefix_path_expressionFocus t)

/-- The nodes that wrapped literals take up. -/
def covered (ws : List Wrapped) : List Focus := ws.flatMap fun w => w.focus :: w.more

theorem covered_append (us ws : List Wrapped) : covered (us ++ ws) = covered us ++ covered ws :=
  List.flatMap_append

theorem covered_below (k : Nat) (ws : List Wrapped) :
    covered (ws.map (Wrapped.below k)) = covered ws := List.flatMap_map ..

theorem covered_owned (ws : List Wrapped) : covered (ws.map Wrapped.owned) = covered ws :=
  List.flatMap_map ..

structure Once (places nodes : List Focus) : Prop where
  nodup : nodes.Nodup
  under : ∀ c ∈ nodes, ∃ p ∈ places, p.path <+: c.path

theorem Once.nil (places : List Focus) : Once places [] := ⟨.nil, by simp⟩

theorem Once.mono {places places' nodes : List Focus} (h : Once places nodes)
    (hplaces : places ⊆ places') : Once places' nodes := by
  refine ⟨h.nodup, fun c hc => ?_⟩
  obtain ⟨p, hp, hpc⟩ := h.under c hc
  exact ⟨p, hplaces hp, hpc⟩

theorem Once.append {places others nodes nodes' : List Focus} (h : Once places nodes)
    (h' : Once others nodes') (hapart : ∀ p ∈ places, ∀ q ∈ others, Apart p q) :
    Once (places ++ others) (nodes ++ nodes') := by
  refine ⟨List.nodup_append.2 ⟨h.nodup, h'.nodup, fun c hc d hd => ?_⟩, fun c hc => ?_⟩
  · obtain ⟨p, hp, hpc⟩ := h.under c hc
    obtain ⟨q, hq, hqd⟩ := h'.under d hd
    exact ((hapart p hp q hq).below hpc hqd).ne
  · rcases List.mem_append.1 hc with hc | hc
    · exact (h.mono (List.subset_append_left _ _)).under c hc
    · exact (h'.mono (List.subset_append_right _ _)).under c hc

theorem Once.of_pairwise {places : List Focus} (h : places.Pairwise Apart) : Once places places :=
  ⟨h.imp fun h => h.ne, fun c hc => ⟨c, hc, List.prefix_rfl⟩⟩

theorem Once.of_below {f : Focus} {places nodes : List Focus} (h : Once places nodes)
    (hf : ∀ p ∈ places, f.path <+: p.path) : Once [f] nodes := by
  refine ⟨h.nodup, fun c hc => ?_⟩
  obtain ⟨p, hp, hpc⟩ := h.under c hc
  exact ⟨f, List.mem_singleton_self f, (hf p hp).trans hpc⟩

theorem prefix_path_kept {source : Bytes} {f : Focus} :
    ∀ p ∈ (keptFoci source f).map (·.2), f.path <+: p.path ∧ p.path ≠ f.path := by
  intro p hp
  obtain ⟨s, hs, -, hp⟩ := keptFoci_cases hp
  obtain ⟨hle, hne⟩ := prefix_path_of_mem_children hs
  rcases hp with hp | rfl
  · have hsp := (prefix_path_of_mem_children hp).1
    refine ⟨hle.trans hsp, fun heq => hne ?_⟩
    exact (heq ▸ hsp).eq_of_length_le hle.length_le
  · exact ⟨hle, hne⟩

mutual

theorem Visit.once {env : Env} {owner : Option Text} {frames : List Frame} {f : Focus}
    {made : Made Node} {ws : List Wrapped} : Visit env owner frames f made ws →
      Once [f] (covered ws)
  | .skipped _ _ => .nil _
  | .otherString _ _ _ _ _ => .nil _
  | .string _ _ _ _ _ => .of_pairwise (List.pairwise_singleton _ _)
  | .component _ _ _ _ hbelow => by
    rw [covered_owned]
    exact (hbelow.once (pairwise_apart_ofItems _ _ _ _)).of_below fun p hp =>
      (prefix_path_of_mem_children hp).1
  | .entered _ _ hbelow =>
    (hbelow.once (pairwise_apart_ofItems _ _ _ _)).of_below fun p hp =>
      (prefix_path_of_mem_children hp).1
  | .template _ _ _ _ _ hbelow => by
    -- The expressions are strictly below the template, so the template is not among them.
    have honce := hbelow.once (pairwise_apart_kept _ _)
    have hbelow := honce.of_below fun p hp => (prefix_path_kept p hp).1
    refine ⟨List.nodup_cons.2 ⟨fun hf => ?_, honce.nodup⟩, ?_⟩
    · obtain ⟨p, hp, hpf⟩ := honce.under f hf
      obtain ⟨hle, hne⟩ := prefix_path_kept p hp
      exact hne (hpf.eq_of_length_le hle.length_le)
    · exact List.forall_mem_cons.2 ⟨⟨f, List.mem_singleton_self f, List.prefix_rfl⟩, hbelow.under⟩

theorem Visits.once {env : Env} {owner : Option Text} {parent : Info} {frames : List Frame}
    {before : List Node} {k : Nat} {places : List Focus} {made : Made (List Node)}
    {ws : List Wrapped} : Visits env owner parent frames before k places made ws →
      places.Pairwise Apart → Once places (covered ws)
  | .nil, _ => .nil _
  | .run _ _ _ hmore _ hrest, h => by
    have honce := hrest.once (h.tail.sublist (List.drop_sublist _ _))
    rw [← append_drop_takeWhile hmore, ← List.cons_append] at h ⊢
    obtain ⟨hrun, -, hapart⟩ := List.pairwise_append.1 h
    exact (Once.of_pairwise hrun).append honce hapart
  | .otherRun _ _ _ hrest, h => by
    have honce := hrest.once (h.tail.sublist (List.drop_sublist _ _))
    exact honce.mono (List.subset_cons_of_subset _ (List.drop_subset _ _))
  | .node _ hfirst hrest, h => by
    rw [covered_append, covered_below]
    obtain ⟨hapart, hpairwise⟩ := List.pairwise_cons.1 h
    refine hfirst.once.append (hrest.once hpairwise) fun p hp => ?_
    rw [List.mem_singleton.1 hp]
    exact hapart

end

/-- The texts that a literal shows, as parsed. -/
def shown (source : Bytes) (focus : Focus) (more : List Focus) : Except Fault (List Text) :=
  if focus.node.kind == "string" then (Literal.stringValue source focus).map ([·])
  else if focus.node.kind == "template_string" then
    (Literal.templateParts source focus.node).map (·.quasis)
  else (Literal.jsxValue (Literal.runSource source (focus.node :: more.map (·.node)))).map ([·])

/-- A literal that nothing about the tree as parsed keeps from being wrapped: it shows a phrase, it
is inside a component, it is no argument of the lookup function, no part of an import, no name or
key, no tagged template and no type, and the marker is not near it. -/
structure Admissible (env : Env) (focus : Focus) (more : List Focus) : Prop where
  phrase : ∃ texts, shown env.source focus more = .ok texts ∧
    Literal.isPhrase env.script texts = .ok true
  component : Scope.inComponent env.source focus = true
  argument : Literal.isCallArgument env.source env.function focus = false
  imported : Literal.inImport focus = false
  name : Literal.isName focus = false
  tagged : Literal.isTagged focus = false
  type : Literal.inType focus = false
  marked : Literal.rowHasMarker env.lines focus.node = false

theorem Sees.admissible {env : Env} {name : Text} {frames : List Frame} {f : Focus}
    {more : List Focus} {texts : List Text} (hsees : Sees env (some name) frames f)
    (hexcluded : env.isExcluded ⟨f.node, frames⟩ = false)
    (htexts : shown env.source f more = .ok texts)
    (hphrase : Literal.isPhrase env.script texts = .ok true) : Admissible env f more := by
  have heq {a b : Bool} (h : a = true → b = true) (hb : b = false) : a = false :=
    Bool.eq_false_iff.2 fun ha => absurd (h ha) (by simp [hb])
  simp only [Env.isExcluded, Literal.isExcluded, Bool.or_eq_false_iff] at hexcluded
  obtain ⟨⟨⟨⟨⟨⟨hargument, himport⟩, hname⟩, htagged⟩, htype⟩, -⟩, hmarked⟩ := hexcluded
  exact ⟨⟨texts, htexts, hphrase⟩, hsees.within rfl, heq hsees.around.isCallArgument hargument,
    heq hsees.around.inImport himport, heq hsees.around.isName hname,
    heq hsees.around.isTagged htagged, heq hsees.around.inType htype, hmarked⟩

theorem admissible_whenWrapped (env : Env) : WhenWrapped env (Admissible env) where
  string hsees hkind hwrap := by
    obtain ⟨value, hvalue, hphrase, hexcluded, -⟩ := wrapString?_eq_some hwrap
    refine hsees.admissible hexcluded ?_ hphrase
    rw [Literal.stringValue, hsees.around.inAttribute] at hvalue
    rw [shown, hkind, beq_self_eq_true, if_pos rfl, Literal.stringValue, hvalue]
    rfl
  template hsees hkind hkey := by
    obtain ⟨parts, hparts, hphrase, hexcluded, -⟩ := templateKey?_eq_some hkey
    refine hsees.admissible hexcluded ?_ hphrase
    rw [shown, hkind, if_neg (by decide), beq_self_eq_true, if_pos rfl, hparts]
    rfl
  run hsees _ hjsx _ hwrap := by
    obtain ⟨value, hvalue, hphrase, hexcluded, -⟩ := wrapRun?_eq_some hwrap
    refine hsees.admissible hexcluded ?_ hphrase
    obtain ⟨hstring, htemplate⟩ := kind_of_isJsxText hjsx
    rw [shown, if_neg (by simpa using hstring), if_neg (by simpa using htemplate), hvalue]
    rfl

end Pass

/-- **No forbidden wrap.** Whatever account of a pass is given, every literal in it could be wrapped
judging by the tree as parsed, and no node of the tree belongs to two of them. -/
theorem transform_admissible {settings : Settings} {tree : Tree} {out : Transformed}
    (htree : tree.Parsed) (h : (transform settings tree).result = .ok out) :
    (∃ ws pieces, Splices settings tree out ws pieces) ∧
      ∀ ws pieces, Splices settings tree out ws pieces →
        (∀ w ∈ ws, Pass.Admissible (settings.env tree) w.focus w.more) ∧
          (Pass.covered ws).Nodup := by
  constructor
  · obtain ⟨made, b, root, hpass⟩ := passes_of_transform h
    obtain ⟨ws, hvisit⟩ := Pass.visit_of_walk htree.root hpass.walk
    exact ⟨ws, hpass.exists_splices htree hvisit⟩
  · intro ws pieces hsplices
    obtain ⟨made, hvisit⟩ := hsplices.visit
    exact ⟨hvisit.forall_wrapped (Pass.admissible_whenWrapped _), hvisit.once.nodup⟩

theorem transform_admissible_template :
    ∃ out, (transform { sourcePattern := .null } Sample.template).result = .ok out ∧
      out.modified = true ∧
      ∃ ws pieces, Splices { sourcePattern := .null } Sample.template out ws pieces ∧
        (Pass.covered ws).Nodup := by
  obtain ⟨out, hout, hmodified⟩ := Sample.modified_template
  obtain ⟨⟨ws, pieces, hsplices⟩, hall⟩ := transform_admissible Sample.template_parsed hout
  exact ⟨out, hout, hmodified, ws, pieces, hsplices, (hall ws pieces hsplices).2⟩

end Phrasebook
