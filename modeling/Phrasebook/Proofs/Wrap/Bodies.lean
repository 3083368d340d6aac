import Phrasebook.Proofs.Wrap.Locality
import Phrasebook.Proofs.Wrap.Reached

/-! What a binding does to the text of a module. It puts a statement behind the brace of a block, or
makes a block of an expression that returns it, and makes the function async for the server; all other
text is kept. Where it does not do all of that it does nothing. -/

namespace Phrasebook

open Node

namespace Node

variable {source : Bytes} {n old : Node} {x : Bytes}

theorem renderItems_texts {ts : List Text} (h : renderItems source (ts.map text) = .ok x) :
    Utf8.encode? ts.flatten = some x := by
  induction ts generalizing x with
  | nil =>
    cases h
    rfl
  | cons t ts ih =>
    obtain ⟨y, z, hy, hz, rfl⟩ := renderItems_cons_iff.1 h
    exact Utf8.encode?_append (Utf8.encode_eq_ok.1 hy) (ih hz)

theorem render_surround {kind : String} {fs gs : List Text}
    (h : ((surround kind (fs.map text) (gs.map text) n).inPlaceOf old).render source = .ok x) :
    ∃ front y back, Utf8.encode? fs.flatten = some front ∧ n.render source = .ok y ∧
      Utf8.encode? gs.flatten = some back ∧ x = front ++ (y ++ back) := by
  rw [surround, map_printedOnly, map_printedOnly, inPlaceOf, mapInfo, render_built] at h
  · obtain ⟨front, z, hfront, hz, rfl⟩ := renderItems_append.1 h
    obtain ⟨y, back, hy, hback, rfl⟩ := renderItems_cons_iff.1 hz
    rw [if_pos (isPrinted_standing n)] at hy
    refine ⟨front, y, back, renderItems_texts hfront, ?_, renderItems_texts hback, rfl⟩
    rw [← hy]
    cases n <;> rfl
  · rfl

end Node

namespace Binding

/-- The text of a body, and what it is with a statement in it: right behind the brace of the block that it
is, or in a block that then returns what was there, which only the server asks for. -/
inductive BodyText (source : Bytes) (side : Side) (statement : Text) (body : Node) : Bytes → Bytes → Prop
  | block {brace : Node} {rest : List Node} {opening inside added : Bytes} {last : Option Nat}
      {lead trail : Text} (hblock : body.kind = "statement_block") (hchildren : body.children = brace :: rest)
      (hbrace : brace.kind = "\x7b")
      (hopening : renderFront source (body.info.start.map (·.offset)) [brace] = .ok (opening, last))
      (hlead : Text.isBlank lead = true) (htrail : Text.isBlank trail = true)
      (hadded : Utf8.encode? (lead ++ statement ++ trail) = some added) :
      BodyText source side statement body (opening ++ inside) (opening ++ (added ++ inside))
  | expression {indent : Text} {front expression back : Bytes} (hside : side = .server)
      (hblock : body.kind ≠ "statement_block") (hindent : Text.isBlank indent = true)
      (hfront : Utf8.encode? ("\x7b\n" ++ (indent ++ indentUnit) ++ statement ++ "\n" ++
        (indent ++ indentUnit) ++ "return ") = some front)
      (hback : Utf8.encode? (";\n" ++ indent ++ "\x7d") = some back) :
      BodyText source side statement body expression (front ++ (expression ++ back))

def modifier : Side → Node → List Text
  | .client, _ => []
  | .server, fn => if Scope.isAsync fn then [] else ["async "]

/-- The text of a function, and what it is with a statement in its body. -/
structure FunctionText (source : Bytes) (side : Side) (statement : Text) (fn fn' : Node) (x x' : Bytes) :
    Prop where
  before : fn.render source = .ok x
  after : fn'.render source = .ok x'
  parts : ∃ body front head y y' tail, fn.childByField? "body" = some body ∧ body.render source = .ok y ∧
    BodyText source side statement body y y' ∧ Utf8.encode? (modifier side fn).flatten = some front ∧
    x = head ++ (y ++ tail) ∧ x' = front ++ (head ++ (y' ++ tail))

def isModifier : Node → Bool
  | .text _ => false
  | .branch i items => i.kind == "async" || i.start.isNone && match items with
    | [.text t] => t == "async "
    | _ => false

def PrintRelates (source : Bytes) (R : Bytes → Bytes → Prop) (root root' : Node) : Prop :=
  ∀ code', Tree.print ⟨source, root'⟩ = .ok code' → ∃ octets octets', Utf8.encode? code' = some octets' ∧
    R octets octets' ∧ ∀ code, Tree.print ⟨source, root⟩ = .ok code → Utf8.encode? code = some octets

/-- A function that got the statement of a side, in a module of which all other text is what it was. -/
structure ChangesOnly (source : Bytes) (side : Side) (statement : Text) (path : Path) (root root' : Node)
    (fn fn' : Node) : Prop where
  before : root.at? path = some fn
  after : root'.at? path = some fn'
  isFunction : Scope.isFunction fn = true
  modifiers : side = .server → (fn'.children.filter isModifier).length = 1
  renders : Relates source (Framed (FunctionText source side statement fn fn')) root root'
  prints : PrintRelates source (Framed (FunctionText source side statement fn fn')) root root'

section Filling

variable {source : Bytes} {side : Side} {statement : Text} {fn fn' body body' : Node} {i : Info}
  {items : List Node}

theorem Opened.relates (h : Opened statement body body') (hshown : body.IsShown)
    (hside : side = .client → body.kind = "statement_block")
    (hblock : body.kind = "statement_block" → IsOrderly body) :
    Relates source (BodyText source side statement body) body body' := by
  intro x' hx'
  cases h with
  | @block lead trail hkind _ hlead htrail h =>
    have horderly := hblock hkind
    have hbuilt := horderly.not_built (by rw [hkind]; decide)
    have hchildren := horderly.children_eq hbuilt
    obtain ⟨brace, rest, hcons, hbrace⟩ := horderly.exists_brace hkind
    cases body with
    | text t => cases hcons
    | branch i items =>
      obtain rfl : items = brace :: rest := hchildren.symm.trans hcons
      have hitems : ∀ n ∈ [brace] ++ rest, n.isChild = true := fun c hc => (horderly.source hbuilt c hc).1
      cases h.symm.trans (insertAt_beside (lead ++ statement ++ trail) hbuilt hitems)
      rw [render_edited hbuilt] at hx'
      obtain ⟨opening, last, z, hopening, hz, rfl⟩ := renderSpliced_append.1 hx'
      obtain ⟨added, inside, hadded, hinside, rfl⟩ := (renderSpliced_leaf _).1 hz
      have hbefore : (branch i (brace :: rest)).render source = .ok (opening ++ inside) :=
        (hshown.render_eq hbuilt).trans
          (renderSpliced_append.2 ⟨opening, last, inside, hopening, hinside, rfl⟩)
      exact ⟨_, hbefore, .block hkind hcons hbrace hopening hlead htrail hadded⟩
  | @expression indent hkind hindent h =>
    subst h
    obtain ⟨front, y, back, hfront, hy, hback, rfl⟩ := @render_surround source body body x' "statement_block"
      ["\x7b\n", indent ++ indentUnit, statement, "\n", indent ++ indentUnit, "return "]
      [";\n", indent, "\x7d"] hx'
    refine ⟨y, hy, .expression ?_ hkind hindent ?_ ?_⟩
    · cases side with
      | client => exact (hkind (hside rfl)).elim
      | server => rfl
    · rw [← hfront]
      simp [List.append_assoc]
    · rw [← hback]
      simp [List.append_assoc]

theorem modifier_of_isAsync (side : Side) (h : Scope.isAsync fn = true) : modifier side fn = [] := by
  cases side with
  | client => rfl
  | server => exact if_pos h

theorem modifier_of_not_isAsync (h : Scope.isAsync fn = false) : modifier .server fn = ["async "] :=
  if_neg (by rw [h]; exact Bool.false_ne_true)

theorem Opened.kind_eq (h : Opened statement body body') : body'.kind = "statement_block" := by
  cases h with
  | block hblock _ _ _ h => exact (edits_of_editAt h).kind.trans hblock
  | expression _ _ h =>
    rw [h, Pass.kind_inPlaceOf]
    rfl

theorem Takes.split (hbuilt : i.built = false) (hitems : ∀ c ∈ items, c.isChild = true)
    (h : Takes side statement (branch i items) fn') : ∃ before body after body',
      items = before ++ body :: after ∧ (branch i items).childByField? "body" = some body ∧
      Opened statement body body' ∧ TakesPlace body body' ∧ fn' = branch { i with dirty := true }
        ((modifier side (branch i items)).map leaf ++ (before ++ body' :: after)) := by
  obtain ⟨k, body, fn₁, k₁, body', hk, hbody, hready, hopened, hexchanged⟩ := h
  obtain ⟨_, hbody', hfield, -⟩ := body_of_bodyIndex? hk
  cases hbody.symm.trans hbody'
  obtain ⟨j, before, after, hfn₁, rfl, hcount, -, hplace⟩ := hexchanged.split
  cases hready with
  | already hready =>
    obtain ⟨rfl, rfl⟩ := branch.inj hfn₁
    have hnone : modifier side (branch i (before ++ body :: after)) = [] := by
      rcases hready with rfl | hasync
      · rfl
      · exact modifier_of_isAsync side hasync
    exact ⟨before, body, after, body', rfl, hfield, hopened, hplace, by rw [hnone]; rfl⟩
  | async hside hasync h =>
    subst hside
    have hfront : (branch i items).insertAt [] 0 (leaf "async ") =
        some (branch { i with dirty := true } (leaf "async " :: items)) :=
      @insertAt_beside i [] items "async " hbuilt hitems
    rw [hfn₁] at h
    obtain ⟨rfl, hafter⟩ := branch.inj (Option.some.inj (h.symm.trans hfront))
    cases before with
    | nil => cases hcount
    | cons m before =>
      obtain ⟨rfl, rfl⟩ := List.cons.inj hafter
      exact ⟨before, body, after, body', rfl, hfield, hopened, hplace,
        by rw [modifier_of_not_isAsync hasync]; rfl⟩

theorem not_new_of_isFunction (h : Scope.isFunction fn = true) : newKinds.contains fn.kind = false := by
  have hkind := (Bool.and_eq_true_iff.1 h).2
  simp only [Scope.functionKinds, List.contains_eq_mem, List.mem_cons, List.not_mem_nil, or_false,
    decide_eq_true_eq] at hkind
  rcases hkind with hkind | hkind | hkind | hkind | hkind | hkind <;> rw [hkind] <;> decide

theorem Takes.relates (h : Takes side statement fn fn') (horderly : IsOrderly fn)
    (hfn : Scope.isFunction fn = true) (hshown : fn.IsShown)
    (hside : ∀ body, fn.childByField? "body" = some body → side = .client → body.kind = "statement_block")
    (hblock : ∀ body, fn.childByField? "body" = some body → body.kind = "statement_block" → IsOrderly body) :
    Relates source (FunctionText source side statement fn fn') fn fn' := by
  cases fn with
  | text t => cases hfn
  | branch i items =>
    have hbuilt : i.built = false := horderly.not_built (not_new_of_isFunction hfn)
    obtain ⟨before, body, after, body', rfl, hbody, hopened, hplace, rfl⟩ :=
      h.split hbuilt fun c hc => (horderly.source hbuilt c hc).1
    have hmem : body ∈ before ++ body :: after := by simp
    have hbodyshown : body.IsShown := hshown.of_mem_items hmem (horderly.source hbuilt body hmem).1
      fun hb => absurd (hbuilt.symm.trans hb) Bool.false_ne_true
    have hrelates : Relates source (BodyText source side statement body) body body' :=
      hopened.relates hbodyshown (hside body hbody) (hblock body hbody)
    intro x' hafter
    have hx' := hafter
    rw [render_edited hbuilt] at hx'
    obtain ⟨front, z, hfront, hz, rfl⟩ := renderSpliced_leaves hx'
    obtain ⟨head, y', tail, hy', rfl, hx⟩ := renderSpliced_around hplace hz
    obtain ⟨y, hy, htext⟩ := hrelates y' hy'
    have hbefore := (hshown.render_eq hbuilt).trans (hx y hy)
    exact ⟨_, hbefore, hbefore, hafter, body, front, head, y, y', tail, hbody, hy, htext, hfront, rfl, rfl⟩

theorem isModifier_of_start {n : Node} (h : n.info.start ≠ none) : isModifier n = isAsyncToken n := by
  cases n with
  | text t => rfl
  | branch i items =>
    have hstart : i.start.isNone = false := Option.isNone_eq_false_iff.2 (Option.isSome_iff_ne_none.2 h)
    show (i.kind == "async" || i.start.isNone && _) = (i.kind == "async")
    rw [hstart, Bool.false_and, Bool.or_false]

theorem filter_isModifier {before after : List Node}
    (hsource : ∀ c ∈ before ++ body :: after, c.isChild = true ∧ c.info.start ≠ none)
    (hbody : isAsyncToken body = false) (hchild' : body'.isChild = true) (hbody' : isModifier body' = false) :
    ((before ++ body' :: after).filter isChild).filter isModifier =
      (before ++ body :: after).filter isAsyncToken := by
  obtain ⟨hbefore, hafter⟩ := List.forall_mem_append.1 hsource
  obtain ⟨-, hafter⟩ := List.forall_mem_cons.1 hafter
  have hchildren : (before ++ body' :: after).filter isChild = before ++ body' :: after :=
    List.filter_eq_self.2 (List.forall_mem_append.2 ⟨fun c hc => (hbefore c hc).1,
      List.forall_mem_cons.2 ⟨hchild', fun c hc => (hafter c hc).1⟩⟩)
  rw [hchildren, List.filter_append, List.filter_append, List.filter_cons_of_neg (by simp [hbody']),
    List.filter_cons_of_neg (by simp [hbody]),
    List.filter_congr fun c hc => isModifier_of_start (hbefore c hc).2,
    List.filter_congr fun c hc => isModifier_of_start (hafter c hc).2]

theorem length_filter_modifier (side : Side) (fn : Node) :
    ((((modifier side fn).map leaf).filter isChild).filter isModifier).length =
      (modifier side fn).length := by
  cases side with
  | client => rfl
  | server =>
    rw [modifier]
    split <;> rfl

theorem length_modifier (hformed : Formed fn) (hfn : Scope.isFunction fn = true) :
    (modifier .server fn).length + (fn.children.filter isAsyncToken).length = 1 := by
  cases hasync : Scope.isAsync fn with
  | true =>
    obtain ⟨c, hc, hkind⟩ := List.any_eq_true.1 hasync
    have hmem : c ∈ fn.children.filter isAsyncToken := List.mem_filter.2 ⟨hc, hkind⟩
    have hpos := List.length_pos_of_mem hmem
    have hle := (hformed.async hfn).length_le
    rw [List.length_map, List.length_singleton] at hle
    rw [modifier_of_isAsync .server hasync, List.length_nil]
    exact (Nat.zero_add _).trans (Nat.le_antisymm hle hpos)
  | false =>
    have hnone : fn.children.filter isAsyncToken = [] :=
      List.filter_eq_nil_iff.2 fun c hc hkind => List.any_eq_false.1 hasync c hc hkind
    rw [modifier_of_not_isAsync hasync, hnone]
    rfl

theorem not_async_of_body (hformed : Formed fn) (hfn : Scope.isFunction fn = true)
    (hbody : fn.childByField? "body" = some body) : isAsyncToken body = false := by
  rw [← Bool.not_eq_true]
  intro hasync
  have hmem := List.mem_filter.2 ⟨List.mem_of_find?_eq_some hbody, hasync⟩
  have hfield : body.field = some "body" := by simpa using List.find?_some hbody
  have hnone := List.mem_singleton.1 ((hformed.async hfn).subset (List.mem_map_of_mem hmem))
  rw [hfield] at hnone
  cases hnone

theorem Takes.length_modifiers (h : Takes .server statement fn fn') (horderly : IsOrderly fn)
    (hfn : Scope.isFunction fn = true) : (fn'.children.filter isModifier).length = 1 := by
  cases fn with
  | text t => cases hfn
  | branch i items =>
    have hbuilt : i.built = false := horderly.not_built (not_new_of_isFunction hfn)
    have hformed := horderly.formed hbuilt
    have hitems : (branch i items).children = items := horderly.children_eq hbuilt
    have hsource : ∀ c ∈ items, c.isChild = true ∧ c.info.start ≠ none := horderly.source hbuilt
    obtain ⟨before, body, after, body', rfl, hbody, hopened, hplace, rfl⟩ :=
      h.split hbuilt fun c hc => (hsource c hc).1
    obtain ⟨hchild, hstart⟩ := hsource body (by simp)
    have hbody' : isModifier body' = false := by
      rw [isModifier_of_start (by rw [hplace.start]; exact hstart), isAsyncToken, hopened.kind_eq]
      rfl
    have hlength := length_modifier hformed hfn
    rw [hitems] at hlength
    rw [children, Node.items, List.filter_append, List.filter_append, List.length_append,
      length_filter_modifier, filter_isModifier hsource (not_async_of_body hformed hfn hbody)
        (hplace.isChild.trans hchild) hbody', hlength]

theorem printRelates_of_relates {R : Bytes → Bytes → Prop} {root root' : Node} {a b : Nat}
    {ps qs : List Piece} (hroot : Prints root a b ps) (hbuilt : root.info.built = false)
    (hroot' : Prints root' a b qs) (hbuilt' : root'.info.built = false)
    (h : Relates source (Framed R) root root') :
    PrintRelates source (Framed R) root root' := by
  intro code' hcode'
  obtain ⟨inside', hinside', hoctets'⟩ := Tree.print_around hroot' hbuilt' hcode'
  obtain ⟨inside, hinside, hframed⟩ := h inside' hinside'
  refine ⟨_, _, hoctets', hframed.around (source.take a) (source.drop b), fun code hcode => ?_⟩
  obtain ⟨again, hagain, hoctets⟩ := Tree.print_around hroot hbuilt hcode
  cases hinside.symm.trans hagain
  exact hoctets

end Filling

end Binding

namespace Reached

variable {settings : Settings} {tree : Tree} {made : Pass.Made Node} {b : Bindings} {c : Pass.Component}
  {ws : List Pass.Wrapped} {mode : Option Side} {root : Node} {side : Side}

theorem exists_inject (mode : Option Side) (c : Pass.Component)
    (hvisit : Pass.Visit (settings.env tree) none [] (Focus.ofRoot tree.root) made ws)
    (horderly : Throughout IsOrderly tree.root) (h : Reached settings tree made b) :
    ∃ root outcome, (Binding.inject tree.source tree.lines settings.vocabulary mode b.injected b.root
        ⟨c.name, c.path, c.serverBound⟩).result = .ok (root, outcome) ∧
      (settings.vocabulary.IsScalar → b.root.isSturdy = true → root.isSturdy = true) := by
  refine Binding.exists_inject_of_block _ _ _ _ _ _ fun hpath fn body hat hbody hblock => ?_
  have hbody := h.body_orderly hvisit horderly hpath hat hbody hblock
  obtain ⟨brace, rest, hchildren, -⟩ := hbody.exists_brace hblock
  rw [hchildren]
  exact List.cons_ne_nil brace rest

theorem changesOnly_of_inject (htree : tree.root.Parsed)
    (hvisit : Pass.Visit (settings.env tree) none [] (Focus.ofRoot tree.root) made ws)
    (horderly : Throughout IsOrderly tree.root) (h : Reached settings tree made b) (hc : c ∈ made.components)
    (hinject : (Binding.inject tree.source tree.lines settings.vocabulary mode b.injected b.root
      ⟨c.name, c.path, c.serverBound⟩).result = .ok (root, .injected side)) :
    ∃ fn fn', Binding.ChangesOnly tree.source side (Binding.statement settings.vocabulary side) c.path
      b.root root fn fn' := by
  obtain ⟨hside, hbound, fn, fn', hplace, htakes, hexchanged⟩ := Binding.takes_of_inject hinject
  have hpath : ∀ p ∈ b.injected, ¬ p <+: c.path := fun p hp hle => hbound (.inl ⟨p, hp, hle⟩)
  obtain ⟨hat, hat'⟩ := hexchanged.at?
  obtain ⟨_, hsame, hfn⟩ := h.isFunction hvisit hc hpath
  cases hat.symm.trans hsame
  have horderly' := h.orderly hvisit horderly hpath hat
  -- Bindings add to what the walk printed, so the trees before and after stand for the same source.
  obtain ⟨a, d, hlaid⟩ := exists_laidAt htree.laid
  obtain ⟨ps, hps, -⟩ := hvisit.prints hlaid
  have hafter := h.bound hc hinject
  obtain ⟨qs, hqs, -⟩ := h.grows.alters.prints hps
  obtain ⟨rs, hrs, -⟩ := hafter.grows.alters.prints hps
  have hmade : made.part.info.built = false := hvisit.built.trans (Header.built_of_parsed htree)
  have halong := h.isPrintedAlong hvisit horderly hpath
  have hclient (body : Node) (hbody : fn.childByField? "body" = some body) (hclient : side = .client) :
      body.kind = "statement_block" := by
    by_contra hkind
    exact hplace (.inr ⟨body, hbody, hside.symm.trans hclient, .inl hkind⟩)
  have hrelates : Relates tree.source (Binding.FunctionText tree.source side
      (Binding.statement settings.vocabulary side) fn fn') fn fn' :=
    htakes.relates horderly' hfn (hqs.isShown.at? halong hat) hclient fun _ hbody hblock =>
      h.body_orderly hvisit horderly hpath hat hbody hblock
  have hframed := framed_of_exchanged hqs.isShown halong hexchanged hrelates
  refine ⟨fn, fn', hat, hat', hfn, ?_, hframed, Binding.printRelates_of_relates hqs (h.built.trans hmade)
    hrs (hafter.built.trans hmade) hframed⟩
  rintro rfl
  exact htakes.length_modifiers horderly' hfn

/-- **All or nothing.** In every tree of a pass, binding a component comes to an end. Either the tree is left
as it is, or the function gets the statement of its side, on the server with one modifier that makes it
async, and all other text of the module is kept. -/
theorem exists_changesOnly (mode : Option Side) (htree : tree.Parsed)
    (hformed : ∀ n ∈ tree.root.preorder, Formed n)
    (hwalk : (Pass.walk (settings.env tree) tree.root).result = .ok made)
    (h : Reached settings tree made b) (hc : c ∈ made.components) :
    ∃ root outcome, (Binding.inject tree.source tree.lines settings.vocabulary mode b.injected b.root
        ⟨c.name, c.path, c.serverBound⟩).result = .ok (root, outcome) ∧
      (settings.vocabulary.IsScalar → ∃ octets, root.render tree.source = .ok octets) ∧
      (outcome.side? = none → root = b.root) ∧
      ∀ side, outcome = .injected side → ∃ fn fn', Binding.ChangesOnly tree.source side
        (Binding.statement settings.vocabulary side) c.path b.root root fn fn' := by
  obtain ⟨ws, hvisit⟩ := Pass.visit_of_walk htree.root hwalk
  have horderly := throughout_of_isLaid htree.root.laid hformed
  obtain ⟨root, outcome, hinject, hsturdy⟩ := h.exists_inject mode c hvisit horderly
  refine ⟨root, outcome, hinject, fun hv => ?_, Binding.eq_of_not_injected hinject, ?_⟩
  · have hmade := Pass.sturdy_of_walk hv.function (isSturdy_of_orderly horderly htree.root.laid) hwalk
    exact exists_render tree.source (hsturdy hv (h.sturdy hv hmade))
  · rintro side rfl
    exact h.changesOnly_of_inject htree.root hvisit horderly hc hinject

end Reached

namespace Sample

theorem concise_parsed : concise.Parsed := by decide

theorem concise_formed : ∀ n ∈ concise.root.preorder, Formed n := by decide

def awaiting : Text := Text.ofString ("const A = async () => \x7b\n" ++
  "  const \x7b t \x7d = await getServerTranslation();\n  return t(\"가\");\n\x7d;")

end Sample

/-- A component that is an expression is made async, and a block that returns the expression. -/
theorem Reached.exists_changesOnly_concise : ∃ made c root fn fn',
    (Pass.walk (Settings.env { sourcePattern := .null } Sample.concise) Sample.concise.root).result =
      .ok made ∧ c ∈ made.components ∧
    (Binding.inject Sample.concise.source Sample.concise.lines {} (some .server) [] made.part
      ⟨c.name, c.path, c.serverBound⟩).result = .ok (root, .injected .server) ∧
    Tree.print ⟨Sample.concise.source, root⟩ = .ok Sample.awaiting ∧
    Binding.ChangesOnly Sample.concise.source .server (Binding.statement {} .server) c.path made.part root
      fn fn' := by
  obtain ⟨made, hwalk, c, hc, hbound⟩ : ∃ made, (Pass.walk (Settings.env { sourcePattern := .null }
      Sample.concise) Sample.concise.root).result = .ok made ∧ ∃ c ∈ made.components,
        (Binding.inject Sample.concise.source Sample.concise.lines {} (some .server) [] made.part
          ⟨c.name, c.path, c.serverBound⟩).result.toOption.any (fun bound => decide (bound.2 =
            .injected .server ∧ (Tree.print ⟨Sample.concise.source, bound.1⟩).toOption =
              some Sample.awaiting)) = true :=
    Logged.exists_of_any (by decide +kernel)
  obtain ⟨bound, hbound, houtcome, hprint⟩ := Logged.exists_of_any hbound
  obtain ⟨root, outcome, hinject, -, -, hchanges⟩ := Reached.exists_changesOnly (some .server)
    Sample.concise_parsed Sample.concise_formed hwalk .walked hc
  obtain rfl : bound = (root, outcome) := Except.ok.inj (hbound.symm.trans hinject)
  obtain rfl : outcome = .injected .server := houtcome
  obtain ⟨fn, fn', hchanges⟩ := hchanges .server rfl
  exact ⟨made, c, root, fn, fn', hwalk, hc, hbound, except_eq_ok_of_toOption hprint, hchanges⟩

end Phrasebook
