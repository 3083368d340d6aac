import Phrasebook.Proofs.Literal.Unreadable
import Phrasebook.Proofs.Wrap.Template

/-! What can stop a pass over a module. Every step works on a tree that can be printed and leaves one, so
nothing stops the pass but a literal that cannot be read, and a text that comes out as no UTF-8. -/

namespace Phrasebook

open Node

namespace Wrap

variable {function key : Text} {options : List (Text × Node)} {n : Node}

theorem isSturdy_optionItems (h : ∀ o ∈ options, o.1.IsScalar ∧ o.2.isSturdy = true) :
    ∀ m ∈ optionItems options, m.isSturdy = true := by
  induction options with
  | nil => simp [optionItems]
  | cons o rest ih =>
    obtain ⟨name, e⟩ := o
    obtain ⟨⟨hname, he⟩, hrest⟩ := List.forall_mem_cons.1 h
    have hlead : (text (name ++ ": ")).isSturdy = true :=
      isSturdy_text.2 (hname.append (Text.isScalar_ofString ": "))
    cases rest with
    | nil => simp [optionItems, hlead, he]
    | cons next rest =>
      have hcomma : (text (", " : Text)).isSturdy = true := isSturdy_text.2 (Text.isScalar_ofString ", ")
      rw [optionItems.eq_3 _ _ _ (by simp), List.forall_mem_cons, List.forall_mem_cons, List.forall_mem_cons]
      exact ⟨hlead, he, hcomma, ih hrest⟩

theorem isSturdy_lookupCall (hfunction : function.IsScalar)
    (h : ∀ o ∈ options, o.1.IsScalar ∧ o.2.isSturdy = true) (key : Text) :
    (lookupCall function key options).isSturdy = true := by
  refine isSturdy_build (by decide) ?_
  have htext (s : String) : (text (Text.ofString s)).isSturdy = true :=
    isSturdy_text.2 (Text.isScalar_ofString s)
  have hopen : (text (function ++ "(")).isSturdy = true :=
    isSturdy_text.2 (hfunction.append (Text.isScalar_ofString "("))
  have hkey : (text (Escape.encode key)).isSturdy = true := isSturdy_text.2 (Text.isScalar_encode key)
  refine List.forall_mem_cons.2 ⟨hopen, List.forall_mem_cons.2 ⟨hkey, List.forall_mem_append.2
    ⟨?_, List.forall_mem_singleton.2 (htext ")")⟩⟩⟩
  split
  · exact fun m hm => absurd hm List.not_mem_nil
  · exact List.forall_mem_cons.2 ⟨htext _, List.forall_mem_append.2 ⟨isSturdy_optionItems h,
      List.forall_mem_singleton.2 (htext _)⟩⟩

theorem isSturdy_braced (h : n.isSturdy = true) : (braced n).isSturdy = true :=
  isSturdy_build (by decide) (List.forall_mem_cons.2 ⟨isSturdy_text.2 (Text.isScalar_ofString _),
    List.forall_mem_cons.2 ⟨h, List.forall_mem_singleton.2 (isSturdy_text.2 (Text.isScalar_ofString _))⟩⟩)

theorem isSturdy_ofString (hfunction : function.IsScalar) (value : Text) (inAttribute : Bool) :
    (ofString function value inAttribute).isSturdy = true := by
  have hcall : (lookupCall function value []).isSturdy = true :=
    isSturdy_lookupCall hfunction (fun o ho => absurd ho List.not_mem_nil) value
  cases inAttribute with
  | false => exact hcall
  | true => exact isSturdy_braced hcall

theorem isSturdy_ofJsxText {raw : Text} (hfunction : function.IsScalar) (hraw : raw.IsScalar) (value : Text) :
    (ofJsxText function raw value).isSturdy = true := by
  have hcall : (lookupCall function value []).isSturdy = true :=
    isSturdy_lookupCall hfunction (fun o ho => absurd ho List.not_mem_nil) value
  refine isSturdy_build (by decide) (List.forall_mem_cons.2 ⟨?_, List.forall_mem_cons.2
    ⟨isSturdy_braced hcall, List.forall_mem_singleton.2 ?_⟩⟩)
  · exact isSturdy_text.2 (hraw.subset (List.takeWhile_subset _))
  · exact isSturdy_text.2 (hraw.subset (List.drop_subset _ _))

end Wrap

namespace Pass

variable {env : Env} {owner : Text} {f : Focus} {n new : Node} {info : Info} {items : List Node}
  {below : Made (List Node)}

structure KeepsSturdy (n new : Node) : Prop where
  sturdy : new.isSturdy = true
  isChild : new.isChild = n.isChild

structure KeepsSturdyItems (items new : List Node) : Prop where
  sturdy : ∀ c ∈ new, c.isSturdy = true
  children : (∃ c ∈ items, c.isChild = true) → ∃ c ∈ new, c.isChild = true

theorem KeepsSturdyItems.cons {c c' : Node} {rest new : List Node} (hc : KeepsSturdy c c')
    (h : KeepsSturdyItems rest new) : KeepsSturdyItems (c :: rest) (c' :: new) where
  sturdy := List.forall_mem_cons.2 ⟨hc.sturdy, h.sturdy⟩
  children := by
    rintro ⟨d, hd, hchild⟩
    rcases List.mem_cons.1 hd with rfl | hd
    · exact ⟨c', List.mem_cons_self, hc.isChild.trans hchild⟩
    · obtain ⟨e, he, hechild⟩ := h.children ⟨d, hd, hchild⟩
      exact ⟨e, List.mem_cons_of_mem _ he, hechild⟩

theorem KeepsSturdy.reassemble (hn : (branch info items).isSturdy = true)
    (h : KeepsSturdyItems items below.part) : KeepsSturdy (branch info items) (reassemble info below).part :=
  ⟨isSturdy_branch.2 ⟨fun hblock => h.children ((isSturdy_branch.1 hn).1 hblock), h.sturdy⟩, rfl⟩

theorem KeepsSturdy.inPlaceOf (hnew : new.isSturdy = true) (hchild : new.isChild = true) (info : Info)
    (items : List Node) : KeepsSturdy (branch info items) (new.inPlaceOf (branch info items)) := by
  cases new with
  | text t => cases hchild
  | branch i parts => exact ⟨(isSturdy_inPlaceOf _ _).trans hnew, rfl⟩

theorem sturdy_of_wrapRun? {more : List Node} (henv : env.function.spelling.IsScalar)
    (hn : f.node.isChild = true) (h : (wrapRun? env owner f more).result = .ok (some new)) :
    new.isSturdy = true ∧ new.isChild = true := by
  obtain ⟨value, -, -, -, rfl⟩ := wrapRun?_eq_some h
  have hraw : (Literal.runSource env.source (f.node :: more)).IsScalar := Text.isScalar_decodeD _
  have hnew := Wrap.isSturdy_ofJsxText henv hraw value
  unfold placedRun
  split
  · rw [isSturdy_inPlaceOf]
    refine ⟨hnew, ?_⟩
    cases hnode : f.node with
    | text t =>
      rw [hnode] at hn
      cases hn
    | branch info items =>
      rw [hnode] at hn
      exact hn
  · rw [isSturdy_inPlaceOfRun]
    exact ⟨hnew, rfl⟩

theorem yields_wrapString? : Yields (Unreadable env.script)
    (fun new? => (wrapString? env owner f).result = .ok new?) (wrapString? env owner f).result := by
  refine yields_of_error fun fault h => ?_
  unfold wrapString? at h
  obtain h | ⟨value, -, h⟩ := Logged.result_bind_eq_error.1 h
  · exact Literal.unreadable_of_quotedValue h
  obtain h | ⟨phrase, -, h⟩ := Logged.result_bind_eq_error.1 h
  · exact Literal.unreadable_of_isPhrase h
  split at h <;> cases h

theorem yields_wrapRun? {more : List Node} : Yields (Unreadable env.script)
    (fun new? => (wrapRun? env owner f more).result = .ok new?) (wrapRun? env owner f more).result := by
  refine yields_of_error fun fault h => ?_
  unfold wrapRun? at h
  obtain h | ⟨value, -, h⟩ := Logged.result_bind_eq_error.1 h
  · exact Literal.unreadable_of_jsxValue h
  obtain h | ⟨phrase, -, h⟩ := Logged.result_bind_eq_error.1 h
  · exact Literal.unreadable_of_isPhrase h
  split at h <;> cases h

theorem yields_templateKey? : Yields (Unreadable env.script)
    (fun key? => (templateKey? env owner f).result = .ok key?) (templateKey? env owner f).result := by
  refine yields_of_error fun fault h => ?_
  unfold templateKey? at h
  obtain h | ⟨parts, hparts, h⟩ := Logged.result_bind_eq_error.1 h
  · exact Literal.unreadable_of_templateParts h
  obtain h | ⟨phrase, -, h⟩ := Logged.result_bind_eq_error.1 h
  · exact Literal.unreadable_of_isPhrase h
  split at h
  · obtain h | ⟨-, -, h⟩ := Logged.result_bind_eq_error.1 h
    · cases h
    obtain h | ⟨key, -, h⟩ := Logged.result_bind_eq_error.1 h
    · -- The parts of a template have one more static part than expressions, so the key can be put together.
      obtain ⟨key, hkey⟩ := Literal.interpolate_templateParts hparts
        (Placeholder.names env.source parts.expressions)
      cases hkey.symm.trans h
    · cases h
  · cases h

theorem isSturdy_expressionOf (h : n.isSturdy = true) : (Literal.expressionOf n).isSturdy = true := by
  unfold Literal.expressionOf
  cases hfound : n.namedChildren.find? fun c => c.kind != "comment" with
  | none => exact h
  | some c =>
    exact isSturdy_of_mem_children h (List.mem_filter.1 (List.mem_of_find?_eq_some hfound)).1

theorem keptExpressions_sturdy (source : Bytes) (h : ∀ c ∈ items, c.isSturdy = true) :
    ∀ o ∈ keptExpressions source items, o.1.IsScalar ∧ o.2.isSturdy = true := by
  intro o ho
  have hmem := List.of_mem_zip ((firstUses_sublist _ _).subset ho)
  obtain ⟨c, hc, heq⟩ := List.mem_map.1 hmem.2
  refine ⟨Placeholder.isScalar_names _ _ _ hmem.1, heq ▸ isSturdy_expressionOf (h c ?_)⟩
  exact (List.mem_filter.1 (List.mem_filter.1 hc).1).1

theorem KeepsSturdy.ofTemplate {names : List Text} (hfunction : env.function.spelling.IsScalar)
    (hnames : ∀ name ∈ names, name.IsScalar) (key : Text) (info : Info) (items : List Node)
    (h : ∀ c ∈ below.part, c.isSturdy = true) :
    KeepsSturdy (branch info items) (ofTemplate env key (branch info items) names below).part := by
  have hcall := Wrap.isSturdy_lookupCall hfunction
    (fun o ho => ⟨hnames _ (List.of_mem_zip ho).1, h _ (List.of_mem_zip ho).2⟩ :
      ∀ o ∈ names.zip below.part, o.1.IsScalar ∧ o.2.isSturdy = true) key
  have hplaced := KeepsSturdy.inPlaceOf hcall rfl info items
  exact ⟨hplaced.sturdy, hplaced.isChild⟩

mutual

theorem yields_walkNode (henv : env.function.spelling.IsScalar) {owner : Option Text} {frames : List Frame} :
    ∀ {n : Node}, n.isSturdy = true → Yields (Unreadable env.script) (fun made => KeepsSturdy n made.part)
      (walkNode env owner frames n).result
  | .text t, hn => by
    rw [walkNode]
    exact ⟨hn, rfl⟩
  | .branch info items, hn => by
    have hitems := (isSturdy_branch.1 hn).2
    have hsame : KeepsSturdy (branch info items) (branch info items) := ⟨hn, rfl⟩
    have hbelow (owner' : Option Text) : Yields (Unreadable env.script)
        (fun made => KeepsSturdyItems items made.part) (walkItems env owner' info frames [] 0 items).result :=
      yields_walkItems henv hitems
    have hentered (owner' : Option Text) : Yields (Unreadable env.script)
        (fun made => KeepsSturdy (branch info items) made.part)
        (do return reassemble info (← walkItems env owner' info frames [] 0 items) : Logged _).result :=
      (hbelow owner').result_bind fun below _ h => KeepsSturdy.reassemble hn h
    by_cases hskip : skippedKinds.contains info.kind = true
    · cases owner
      all_goals
        rw [walkNode, if_pos hskip]
        exact hsame
    by_cases hfn : Scope.isFunction (branch info items) = true
    · cases hname : Scope.componentName? env.source ⟨.branch info items, frames⟩ with
      | none =>
        cases owner
        all_goals
          rw [walkNode, if_neg hskip, if_pos hfn, hname]
          exact hentered _
      | some name =>
        cases owner
        all_goals
          rw [walkNode, if_neg hskip, if_pos hfn, hname]
          exact (hbelow (some name)).result_bind fun below _ h => KeepsSturdy.reassemble hn h
    cases owner with
    | none =>
      rw [walkNode, if_neg hskip, if_neg hfn]
      exact hentered none
    | some name =>
      rw [walkNode, if_neg hskip, if_neg hfn]
      dsimp only
      split
      next =>
        refine yields_wrapString?.result_bind fun new? hwrap _ => ?_
        cases new? with
        | none => exact hsame
        | some new =>
          obtain ⟨value, -, -, -, rfl⟩ := wrapString?_eq_some hwrap
          exact KeepsSturdy.inPlaceOf (Wrap.isSturdy_ofString henv _ _) (isChild_ofString _ _ _) info items
      next =>
      split
      next =>
        refine yields_templateKey?.result_bind fun key? _ _ => ?_
        cases key? with
        | none => exact hentered (some name)
        | some key =>
          have hkept := keptExpressions_sturdy env.source hitems
          have hexpressions : ∀ c ∈ (keptExpressions env.source items).map (·.2), c.isSturdy = true :=
            List.forall_mem_map.2 fun o ho => (hkept o ho).2
          refine (yields_walkItems henv hexpressions).result_bind fun below _ h => ?_
          have hnames : ∀ name ∈ (keptExpressions env.source items).map (·.1), name.IsScalar :=
            List.forall_mem_map.2 fun o ho => (hkept o ho).1
          exact KeepsSturdy.ofTemplate henv hnames key info items h.sturdy
      next => exact hentered (some name)
termination_by n => n.weight
decreasing_by
  all_goals
    simp only [Node.weight]
    try have := weightItems_keptExpressions_le env.source items
    omega

theorem yields_walkItems (henv : env.function.spelling.IsScalar) {owner : Option Text} {parent : Info}
    {frames : List Frame} {before : List Node} {k : Nat} :
    ∀ {items : List Node}, (∀ c ∈ items, c.isSturdy = true) →
      Yields (Unreadable env.script) (fun made => KeepsSturdyItems items made.part)
        (walkItems env owner parent frames before k items).result
  | [], _ => by
    rw [walkItems]
    exact ⟨fun c hc => absurd hc List.not_mem_nil, fun ⟨c, hc, _⟩ => absurd hc List.not_mem_nil⟩
  | n :: rest, h => by
    obtain ⟨hn, hrest⟩ := List.forall_mem_cons.1 h
    by_cases hside : (!n.isChild) = true
    · rw [walkItems.eq_def]
      dsimp only
      rw [if_pos hside]
      exact (yields_walkItems henv hrest).result_bind fun made _ hmade =>
        KeepsSturdyItems.cons ⟨hn, rfl⟩ hmade
    by_cases hjsx : owner.isSome = true → Literal.isJsxText n = false
    · rw [walkItems.eq_3, if_neg hside]
      · refine (yields_walkNode henv hn).result_bind fun first _ hfirst => ?_
        exact (yields_walkItems henv hrest).result_bind fun made _ hmade =>
          KeepsSturdyItems.cons hfirst hmade
      · rintro name rfl hj
        simp [hj] at hjsx
    · obtain ⟨howner, hj⟩ := Classical.not_imp.1 hjsx
      obtain ⟨name, rfl⟩ := Option.isSome_iff_exists.1 howner
      have hchild : n.isChild = true := by simpa using hside
      have hdrop : ∀ c ∈ rest.drop (rest.takeWhile isRunItem).length, c.isSturdy = true := fun c hc =>
        hrest c (List.mem_of_mem_drop hc)
      rw [walkItems.eq_2 _ _ _ _ _ _ _ _ (by simpa using hj), if_neg hside]
      dsimp only
      refine yields_wrapRun?.result_bind fun new? hwrap _ => ?_
      cases new? with
      | none =>
        refine (yields_walkItems henv hdrop).result_bind fun made _ hmade => ?_
        have hrun : ∀ c ∈ n :: rest.takeWhile isRunItem, c.isSturdy = true :=
          List.forall_mem_cons.2 ⟨hn, fun c hc => hrest c (List.takeWhile_subset _ hc)⟩
        exact ⟨List.forall_mem_append.2 ⟨hrun, hmade.sturdy⟩, fun _ => ⟨n, by simp, hchild⟩⟩
      | some new =>
        obtain ⟨hnew, hnewchild⟩ := sturdy_of_wrapRun? henv hchild hwrap
        refine (yields_walkItems henv hdrop).result_bind fun made _ hmade => ?_
        exact ⟨List.forall_mem_cons.2 ⟨hnew, hmade.sturdy⟩,
          fun _ => ⟨new, List.mem_cons_self, hnewchild⟩⟩
termination_by items => Node.weightItems items
decreasing_by
  all_goals
    simp only [Node.weightItems]
    try have := Node.weightItems_drop_le (rest.takeWhile isRunItem).length rest
    omega

end

theorem sturdy_of_walk {root : Node} {made : Made Node} (henv : env.function.spelling.IsScalar)
    (hroot : root.isSturdy = true) (h : (walk env root).result = .ok made) : made.part.isSturdy = true := by
  have hyields : Yields (Unreadable env.script) (fun made => KeepsSturdy root made.part)
      (walk env root).result := yields_walkNode henv hroot
  rw [h] at hyields
  exact hyields.sturdy

end Pass

namespace Binding

variable {source : Bytes} {lines : List Text} {v : Vocabulary} {mode : Option Side}
  {injected : List Path} {root root₁ : Node} {path : Path} {statement : Text}

theorem isScalar_indentOf (lines : List Text) (mark : Option Mark) : (indentOf lines mark).IsScalar := by
  unfold indentOf
  cases mark with
  | none => exact fun c hc => absurd hc List.not_mem_nil
  | some m =>
    intro c hc
    have hblank := List.all_eq_true.1 List.all_takeWhile c hc
    simp only [Bool.or_eq_true, beq_iff_eq] at hblank
    rw [CodePoint.isSurrogate, Bool.and_eq_false_iff, decide_eq_false_iff_not]
    omega

theorem isScalar_firstStatementText (lines : List Text) (brace : Node) (following : Option Node)
    (h : statement.IsScalar) : (firstStatementText lines brace following statement).IsScalar := by
  have hblank : (" " : Text).IsScalar := Text.isScalar_ofString _
  cases following with
  | none => exact (hblank.append h).append hblank
  | some next =>
    refine iteInduction (motive := Text.IsScalar) (fun _ => ?_) fun _ => ?_
    · refine (((Text.isScalar_ofString _).append (isScalar_indentOf lines _)).append ?_).append h
      exact iteInduction (motive := Text.IsScalar) (fun _ => Text.isScalar_ofString _)
        fun _ c hc => absurd hc List.not_mem_nil
    · exact iteInduction (motive := Text.IsScalar) (fun _ => (hblank.append h).append hblank)
        fun _ => hblank.append h

theorem exists_insertFirst {block : Node} (lines : List Text) (statement : Text)
    (hat : root.at? path = some block) (hchildren : block.children ≠ []) :
    ∃ root', insertFirst lines root path statement = .ok root' ∧
      (statement.IsScalar → root.isSturdy = true → root'.isSturdy = true) := by
  cases block with
  | text t => exact (hchildren rfl).elim
  | branch i items =>
    obtain ⟨brace, rest, hchildren⟩ := List.exists_cons_of_ne_nil hchildren
    obtain ⟨root', hroot'⟩ : ∃ root', root.insertAt path 1
        (leaf (firstStatementText lines brace rest.head? statement)) = some root' := editAt_isSome hat rfl
    refine ⟨root', ?_, fun hstatement =>
      isSturdy_insertAt (isScalar_firstStatementText lines brace _ hstatement) hroot'⟩
    unfold insertFirst
    rw [hat, Option.map_some, hchildren]
    dsimp only
    rw [hroot']

theorem exists_expandBody {fn body : Node} {k : Nat} (indent statement : Text)
    (hat : root.at? path = some fn) (hbody : fn.children[k]? = some body) :
    ∃ root', expandBody indent root (path ++ [k]) statement = .ok root' ∧
      (indent.IsScalar → statement.IsScalar → root.isSturdy = true → root'.isSturdy = true) := by
  obtain ⟨root', hroot', hsturdy⟩ := exists_wrapAt hat hbody
  refine ⟨root', hroot', fun hindent hstatement => hsturdy ?_ ?_⟩
  · have hinner : (indent ++ indentUnit).IsScalar := hindent.append (Text.isScalar_ofString _)
    simp [isSturdy_text, hinner, hstatement, Text.isScalar_ofString]
  · simp [isSturdy_text, hindent, Text.isScalar_ofString]

theorem MadeAsync.sturdy {k k₁ : Nat} (h : MadeAsync root path k root₁ k₁)
    (hroot : root.isSturdy = true) : root₁.isSturdy = true := by
  cases h with
  | already => exact hroot
  | now h => exact isSturdy_insertAt (Text.isScalar_ofString _) h hroot

end Binding

/-- Names that can be put into code. -/
structure Vocabulary.IsScalar (v : Vocabulary) : Prop where
  function : v.function.spelling.IsScalar
  hook : v.hook.spelling.IsScalar
  serverFunction : v.serverFunction.spelling.IsScalar
  importSource : v.importSource.spelling.IsScalar
  serverImportSource : v.serverImportSource.spelling.IsScalar

namespace Binding

variable {source : Bytes} {lines : List Text} {v : Vocabulary} {mode : Option Side}
  {injected : List Path} {root : Node} {target : Target}

theorem isScalar_statement (hv : v.IsScalar) (side : Side) : (statement v side).IsScalar := by
  have htext (s : String) : (Text.ofString s).IsScalar := Text.isScalar_ofString s
  cases side with
  | client =>
    exact ((((htext _).append hv.function).append (htext _)).append hv.hook).append (htext _)
  | server =>
    exact ((((htext _).append hv.function).append (htext _)).append hv.serverFunction).append (htext _)

theorem exists_inject_of_block (source : Bytes) (lines : List Text) (v : Vocabulary) (mode : Option Side)
    (injected : List Path) (target : Target) (hroot : (∀ p ∈ injected, ¬ p <+: target.path) → ∀ fn body,
      root.at? target.path = some fn → fn.childByField? "body" = some body → body.kind = "statement_block" →
        body.children ≠ []) :
    ∃ root' outcome, (inject source lines v mode injected root target).result = .ok (root', outcome) ∧
      (v.IsScalar → root.isSturdy = true → root'.isSturdy = true) := by
  have hfocus := Focus.map_node_at? (Focus.ofRoot root) target.path
  unfold inject
  dsimp only
  split
  next => exact ⟨root, .bound, rfl, fun _ h => h⟩
  next hbound =>
  rw [isBound_iff] at hbound
  replace hroot := hroot fun p hp hle => hbound (.inl ⟨p, hp, hle⟩)
  cases hat : (Focus.ofRoot root).at? target.path with
  | none => exact ⟨root, .none, rfl, fun _ h => h⟩
  | some focus =>
    rw [hat] at hfocus
    replace hfocus : root.at? target.path = some focus.node := hfocus.symm
    dsimp only
    split
    next k body hk hbody =>
      obtain ⟨body', hchild, hbody', -⟩ := body_of_bodyIndex? hk
      obtain rfl : body' = body := Option.some.inj (hbody'.symm.trans hbody)
      cases chooseSide mode target.serverBound with
      | client =>
        dsimp only
        split
        next => exact ⟨root, .none, rfl, fun _ h => h⟩
        next hblock =>
        split
        next => exact ⟨root, .none, rfl, fun _ h => h⟩
        next =>
          have hbodyat : root.at? (target.path ++ [k]) = some body' := by
            simp [at?_append, hfocus, at?, hchild]
          obtain ⟨root', hroot', hsturdy⟩ := exists_insertFirst lines (statement v .client) hbodyat
            (hroot _ _ hfocus hbody (by simpa using hblock))
          exact ⟨root', _, Logged.result_bind_eq_ok.2 ⟨root', hroot', rfl⟩,
            fun hv => hsturdy (isScalar_statement hv .client)⟩
      | server =>
        have hasync := madeAsync_ensureAsync hfocus hk
        obtain ⟨fn₁, hat₁, -, hchild₁⟩ := hasync.body hfocus hk
        rw [hchild] at hchild₁
        dsimp only
        generalize (if (ensureAsync root target.path focus.node).2 then k + 1 else k) = k₁ at hchild₁ hasync
        generalize (ensureAsync root target.path focus.node).1 = root₁ at hasync hat₁
        split
        next hblock =>
          have hbodyat : root₁.at? (target.path ++ [k₁]) = some body' := by
            simp [at?_append, hat₁, at?, hchild₁]
          obtain ⟨root', hroot', hsturdy⟩ := exists_insertFirst lines (statement v .server) hbodyat
            (hroot _ _ hfocus hbody (by simpa using hblock))
          exact ⟨root', _, Logged.result_bind_eq_ok.2 ⟨root', hroot', rfl⟩,
            fun hv hsturdy₀ => hsturdy (isScalar_statement hv .server) (hasync.sturdy hsturdy₀)⟩
        next =>
          obtain ⟨root', hroot', hsturdy⟩ := exists_expandBody (indentOf lines focus.node.info.start)
            (statement v .server) hat₁ hchild₁
          exact ⟨root', _, Logged.result_bind_eq_ok.2 ⟨root', hroot', rfl⟩, fun hv hsturdy₀ =>
            hsturdy (isScalar_indentOf lines _) (isScalar_statement hv .server) (hasync.sturdy hsturdy₀)⟩
    next => exact ⟨root, .none, rfl, fun _ h => h⟩

theorem exists_inject (source : Bytes) (lines : List Text) (hv : v.IsScalar) (mode : Option Side)
    (injected : List Path) (hroot : root.isSturdy = true) (target : Target) :
    ∃ root' outcome, (inject source lines v mode injected root target).result = .ok (root', outcome) ∧
      root'.isSturdy = true := by
  have hblock : ∀ fn body, root.at? target.path = some fn → fn.childByField? "body" = some body →
      body.kind = "statement_block" → body.children ≠ [] := by
    intro fn body hat hbody hkind
    have hbody := isSturdy_of_mem_children (isSturdy_of_at? hroot hat) (List.mem_of_find?_eq_some hbody)
    cases body with
    | text t => exact absurd hkind (by simp [kind, info])
    | branch i items =>
      obtain ⟨c, hc, hchild⟩ := (isSturdy_branch.1 hbody).1 hkind
      exact List.ne_nil_of_mem (List.mem_filter.2 ⟨hc, hchild⟩)
  obtain ⟨root', outcome, hinject, hsturdy⟩ :=
    exists_inject_of_block source lines v mode injected target fun _ => hblock
  exact ⟨root', outcome, hinject, hsturdy hv hroot⟩

end Binding

theorem exists_bindComponents (tree : Tree) {settings : Settings} (hv : settings.vocabulary.IsScalar)
    (b : Bindings) (hroot : b.root.isSturdy = true) (components : List Pass.Component) :
    ∃ b' reports, (bindComponents tree settings b components).result = .ok (b', reports) ∧
      b'.root.isSturdy = true := by
  induction components generalizing b with
  | nil => exact ⟨b, [], rfl, hroot⟩
  | cons c rest ih =>
    rw [bindComponents]
    split
    next =>
      obtain ⟨root, outcome, hinject, hsturdy⟩ := Binding.exists_inject tree.source tree.lines hv
        settings.mode b.injected hroot ⟨c.name, c.path, c.serverBound⟩
      obtain ⟨b', reports, hrest, hb'⟩ := ih ⟨root, b.injectedWith c.path outcome⟩ hsturdy
      refine ⟨b', ⟨c, outcome⟩ :: reports, ?_, hb'⟩
      refine Logged.result_bind_eq_ok.2 ⟨(root, outcome), hinject, ?_⟩
      exact Logged.result_bind_eq_ok.2 ⟨(⟨root, b.injectedWith c.path outcome⟩, outcome), rfl,
        Logged.result_bind_eq_ok.2 ⟨(b', reports), hrest, rfl⟩⟩
    next =>
      obtain ⟨b', reports, hrest, hb'⟩ := ih b hroot
      refine ⟨b', ⟨c, .none⟩ :: reports, ?_, hb'⟩
      exact Logged.result_bind_eq_ok.2 ⟨(b, .none), rfl,
        Logged.result_bind_eq_ok.2 ⟨(b', reports), hrest, rfl⟩⟩

namespace Header

variable {script : Pattern} {source : Bytes} {root : Node} {fault : Fault}

theorem unreadable_of_sourceOf? {statement : Node} (h : sourceOf? source statement = .error fault) :
    Unreadable script fault := by
  unfold sourceOf? at h
  split at h
  next => cases h
  next =>
    split at h
    · exact Literal.unreadable_of_quotedValue (except_map_eq_error.1 h)
    · cases h

theorem unreadable_of_importsFrom {module : Word} (h : importsFrom source root module = .error fault) :
    Unreadable script fault := by
  obtain ⟨⟨k, n⟩, -, h⟩ := exists_of_filterM_error h
  dsimp only at h
  split at h
  · exact unreadable_of_sourceOf? (except_map_eq_error.1 h)
  · cases h

theorem unreadable_of_importInsertion? {name module : Word}
    (h : importInsertion? source root name module = .error fault) : Unreadable script fault := by
  obtain h | ⟨found, -, h⟩ := except_bind_eq_error.1 h
  · obtain h | ⟨statements, -, h⟩ := except_bind_eq_error.1 h
    · exact unreadable_of_importsFrom h
    · cases h
  split at h
  next => cases h
  next =>
    obtain h | ⟨statements, -, h⟩ := except_bind_eq_error.1 h
    · exact unreadable_of_importsFrom h
    · dsimp only at h
      split at h <;> cases h

theorem unreadable_of_ensureDirective {directive : Word}
    (h : ensureDirective source directive root = .error fault) : Unreadable script fault := by
  obtain h | ⟨values, -, h⟩ := except_bind_eq_error.1 h
  · obtain ⟨n, -, h⟩ := exists_of_mapM_error h
    exact Literal.unreadable_of_quotedValue h
  · split at h <;> cases h

theorem isSturdy_apply {insertion : Insertion} (htext : insertion.text.IsScalar)
    (hroot : root.isSturdy = true) : (insertion.apply root).isSturdy = true := by
  rw [Insertion.apply]
  cases hinsert : root.insertAt insertion.path insertion.index (leaf insertion.text) with
  | none => exact hroot
  | some root' => exact isSturdy_insertAt htext hinsert hroot

theorem isScalar_statementInsertion {lead : List (Nat × Node)} {t note : Text} (ht : t.IsScalar) :
    (statementInsertion lead t note).text.IsScalar := by
  unfold statementInsertion
  split
  · exact (Text.isScalar_ofString _).append ht
  · exact ht.append (Text.isScalar_ofString _)

theorem isScalar_extension? {name module : Text} {k : Nat} {statement : Node} {insertion : Insertion}
    (hname : name.IsScalar) (h : extension? name module k statement = some insertion) :
    insertion.text.IsScalar := by
  have htext (s : String) : (Text.ofString s).IsScalar := Text.isScalar_ofString s
  unfold extension? at h
  split at h
  next => cases h
  next =>
  obtain ⟨j, -, h⟩ := Option.bind_eq_some_iff.1 h
  obtain ⟨clause, -, h⟩ := Option.bind_eq_some_iff.1 h
  split at h
  next =>
    obtain ⟨named, -, h⟩ := Option.bind_eq_some_iff.1 h
    dsimp only at h
    split at h <;> cases h
    · exact (htext _).append hname
    · exact ((htext _).append hname).append (htext _)
  next =>
    split at h <;> cases h
    exact ((htext _).append hname).append (htext _)

theorem isScalar_importInsertion? {name module : Word} {insertion : Insertion} (hname : name.spelling.IsScalar)
    (hmodule : module.spelling.IsScalar) (h : importInsertion? source root name module = .ok (some insertion)) :
    insertion.text.IsScalar := by
  have htext (s : String) : (Text.ofString s).IsScalar := Text.isScalar_ofString s
  unfold importInsertion? at h
  obtain ⟨found, -, h⟩ := except_bind_eq_ok.1 h
  split at h
  next => cases h
  next =>
  obtain ⟨statements, -, h⟩ := except_bind_eq_ok.1 h
  dsimp only at h
  split at h
  next extension hextension =>
    cases h
    obtain ⟨⟨k, s⟩, -, hs⟩ := List.exists_of_findSome?_eq_some hextension
    exact isScalar_extension? hname hs
  next =>
    cases h
    exact isScalar_statementInsertion
      (((((htext _).append hname).append (htext _)).append hmodule).append (htext _))

theorem yields_ensureImport {name module : Word} (hname : name.spelling.IsScalar)
    (hmodule : module.spelling.IsScalar) (hroot : root.isSturdy = true) :
    Yields (Unreadable script) (fun done => done.1.isSturdy = true)
      (ensureImport source name module root).result := by
  unfold ensureImport
  refine Yields.result_bind (yields_of_error fun fault h => unreadable_of_importInsertion? h) ?_
  intro insertion? hinsertion _
  cases insertion? with
  | none => exact hroot
  | some insertion => exact isSturdy_apply (isScalar_importInsertion? hname hmodule hinsertion) hroot

theorem yields_ensureDirective {directive : Word} (hdirective : directive.spelling.IsScalar)
    (hroot : root.isSturdy = true) : Yields (Unreadable script) (fun done => done.1.isSturdy = true)
      (ensureDirective source directive root) := by
  refine (yields_of_error fun fault h => unreadable_of_ensureDirective h).imp (fun fault h => h) ?_
  rintro ⟨root', added⟩ h -
  unfold ensureDirective at h
  obtain ⟨values, -, h⟩ := except_bind_eq_ok.1 h
  split at h <;> cases h
  · exact hroot
  · exact isSturdy_apply (isScalar_statementInsertion
      (((Text.isScalar_ofString _).append hdirective).append (Text.isScalar_ofString _))) hroot

theorem yields_finalize {v : Vocabulary} (hv : v.IsScalar) (needs : Needs) (hroot : root.isSturdy = true) :
    Yields (Unreadable script) (fun done => done.1.isSturdy = true) (finalize source v needs root).result := by
  have hstage {c : Bool} {step : Logged (Node × Bool)} {rest : Node × Bool → Logged (Node × List Text)}
      {start : Node} (hstart : start.isSturdy = true)
      (hstep : Yields (Unreadable script) (fun done => done.1.isSturdy = true) step.result)
      (hrest : ∀ done : Node × Bool, done.1.isSturdy = true →
        Yields (Unreadable script) (fun done => done.1.isSturdy = true) (rest done).result) :
      Yields (Unreadable script) (fun done => done.1.isSturdy = true)
        (if c then step >>= rest else pure (start, false) >>= rest).result := by
    split
    · exact hstep.result_bind fun done _ hdone => hrest done hdone
    · exact hrest _ hstart
  unfold finalize
  refine hstage hroot (yields_ensureImport hv.hook hv.importSource hroot) fun done₁ h₁ => ?_
  refine hstage h₁ (yields_ensureImport hv.serverFunction hv.serverImportSource h₁) fun done₂ h₂ => ?_
  refine hstage h₂ (yields_ensureDirective (Text.isScalar_ofString _) h₂) fun done₃ h₃ => ?_
  exact h₃

end Header

theorem yields_decodeFault (bytes : Bytes) : Yields (fun fault => fault.isContained = true) Text.IsScalar
    (Utf8.decodeFault bytes) := by
  cases h : Utf8.decodeFault bytes with
  | ok t => exact Text.isScalar_of_encode? (Utf8.decodeFault_eq_ok.1 h)
  | error fault =>
    obtain ⟨reason, -, rfl⟩ := except_mapError_eq_error.1 h
    exact rfl

theorem Tree.yields_print (tree : Tree) (hroot : tree.root.isSturdy = true) :
    Yields (fun fault => fault.isContained = true) Text.IsScalar tree.print := by
  unfold Tree.print
  split
  next =>
    refine (yields_decodeFault _).bind fun before _ hbefore => ?_
    obtain ⟨bytes, hbytes⟩ := exists_render tree.source hroot
    have hmiddle : tree.root.text? tree.source = Utf8.decodeFault bytes := by
      rw [text?, hbytes]
      rfl
    rw [hmiddle]
    refine (yields_decodeFault bytes).bind fun middle _ hmiddle => ?_
    refine (yields_decodeFault _).bind fun after _ hafter => ?_
    exact (hbefore.append hmiddle).append hafter
  next => exact yields_decodeFault _

/-- The faults that a pass stops with: those that a run contains, and those of reading a literal. -/
def PassFault (script : Pattern) (fault : Fault) : Prop := fault.isContained = true ∨ Unreadable script fault

theorem yields_transform {settings : Settings} (hv : settings.vocabulary.IsScalar) {tree : Tree}
    (hroot : tree.root.isSturdy = true) :
    Yields (PassFault settings.script) (fun out => out.code.IsScalar) (transform settings tree).result := by
  let env : Pass.Env := ⟨tree.source, tree.lines, settings.vocabulary.function,
    settings.vocabulary.serverFunction, settings.script⟩
  have hwalk : Yields (Unreadable settings.script) (fun made => Pass.KeepsSturdy tree.root made.part)
      (Pass.walk env tree.root).result := Pass.yields_walkNode hv.function hroot
  have hprint {root : Node} (hsturdy : root.isSturdy = true) {out : Text → Transformed}
      (hout : ∀ code, (out code).code = code) :
      Yields (PassFault settings.script) (fun out => out.code.IsScalar)
        (do return out (← Tree.print { tree with root }) : Logged Transformed).result := by
    have hcode := Tree.yields_print { tree with root } hsturdy
    refine Yields.result_bind (x := Logged.of _) (hcode.imp (fun fault h => .inl h) fun code _ h => h) ?_
    intro code _ h
    show (out code).code.IsScalar
    rw [hout]
    exact h
  unfold transform
  dsimp only
  refine (hwalk.imp (fun fault h => .inr h) fun made _ h => h).result_bind fun made _ hmade => ?_
  obtain ⟨b, reports, hbind, hb⟩ := exists_bindComponents tree hv ⟨made.part, []⟩ hmade.sturdy
    made.components
  refine Yields.result_bind (P := fun done => done = (b, reports)) (by rw [hbind]; exact rfl) ?_
  rintro _ - rfl
  split
  · refine ((Header.yields_finalize hv _ hb).imp (fun fault h => .inr h) fun done _ h => h).result_bind ?_
    exact fun done _ hdone => hprint hdone fun _ => rfl
  · exact hprint hb fun _ => rfl

/-- A parser that gives an answer to every source, with something in each block of an answer that it does not
flag as faulty. -/
def Parser.Answers (parser : Parser) : Prop :=
  ∀ grammar code, ∃ answer, parser grammar code = some answer ∧
    (answer.flags.hasError = false → ∀ source, (answer.toNode source).isSturdy = true)

theorem yields_transformCode {parser : Parser} {settings : Settings} (hparser : parser.Answers)
    (hv : settings.vocabulary.IsScalar) {code : Text} (hcode : code.IsScalar) (path : Option Text) :
    Yields (PassFault settings.script) (fun out => out.code.IsScalar)
      (transformCode parser settings code path).result := by
  have hparse : Yields (PassFault settings.script) (fun tree => tree.root.isSturdy = true)
      (parse parser settings.backend code path) := by
    obtain ⟨bytes, hbytes⟩ := Option.isSome_iff_exists.1 (Text.isSome_encode? hcode)
    obtain ⟨answer, hanswer, hsturdy⟩ := hparser (settings.backend.grammar path) code
    unfold parse
    rw [Utf8.encode_eq_ok.2 hbytes, hanswer]
    show Yields _ _ (if answer.flags.hasError then _ else _)
    split
    · exact .inl rfl
    next hsound => exact hsturdy (by simpa using hsound) bytes
  have hlogged : Yields (PassFault settings.script) (fun tree => tree.root.isSturdy = true)
      (parseLogged parser settings.backend code path).result :=
    Yields.result_bind (x := Logged.of _) hparse fun tree _ h => h
  exact hlogged.result_bind fun tree _ h => yields_transform hv h

end Phrasebook
