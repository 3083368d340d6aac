import Mathlib.Data.List.Nodup
import Mathlib.Data.List.Pairwise
import Phrasebook.Proofs.Tree.Context
import Phrasebook.Proofs.Wrap.Importable

/-! Which components get a statement, and what it does to them. A component gets at most one, none that
has one is inside another, and none is put where a scope around it binds the name. Outside the
components that get one the tree is as the walk left it. -/

namespace Phrasebook

open Node

namespace Binding

/-- A function as its side asks for it before its body is filled: for the server it is async, which
moves the body by one when it was not before. -/
inductive Readied (side : Side) (fn : Node) (k : Nat) : Node → Nat → Prop
  | already (h : side = .client ∨ Scope.isAsync fn = true) : Readied side fn k fn k
  | async {fn₁ : Node} (hside : side = .server) (hasync : Scope.isAsync fn = false)
      (h : fn.insertAt [] 0 (.leaf "async ") = some fn₁) : Readied side fn k fn₁ (k + 1)

/-- A body with a statement in it: after the brace of the block that it was, or before the expression
that it was, in a block that returns that. -/
inductive Opened (statement : Text) (body body' : Node) : Prop
  | block {lead trail : Text} (hblock : body.kind = "statement_block") (hbrace : body.children ≠ [])
      (hlead : Text.isBlank lead = true) (htrail : Text.isBlank trail = true)
      (h : body.insertAt [] 1 (.leaf (lead ++ statement ++ trail)) = some body')
  | expression {indent : Text} (hblock : body.kind ≠ "statement_block")
      (hindent : Text.isBlank indent = true)
      (h : body' = (surround "statement_block"
        [.text "\x7b\n", .text (indent ++ indentUnit), .text statement, .text "\n",
          .text (indent ++ indentUnit), .text "return "]
        [.text ";\n", .text indent, .text "\x7d"] body).inPlaceOf body)

/-- A function with one statement put into its body; nothing else is done to it but that a function
for the server is made async. -/
def Receives (side : Side) (statement : Text) (fn fn' : Node) : Prop :=
  ∃ k fn₁ k₁, bodyIndex? fn = some k ∧ Readied side fn k fn₁ k₁ ∧
    Within k₁ (Opened statement) fn₁ fn'

def Takes (side : Side) (statement : Text) (fn fn' : Node) : Prop :=
  ∃ k body fn₁ k₁ body', bodyIndex? fn = some k ∧ fn.children[k]? = some body ∧
    Readied side fn k fn₁ k₁ ∧ Opened statement body body' ∧ Exchanged body body' [k₁] fn₁ fn'

theorem Takes.receives {side : Side} {statement : Text} {fn fn' : Node} (h : Takes side statement fn fn') :
    Receives side statement fn fn' := by
  obtain ⟨k, body, fn₁, k₁, body', hk, -, hready, hopened, hexchanged⟩ := h
  obtain ⟨hedits, c, c', hc, ⟨rfl, rfl⟩, hchildren⟩ := hexchanged.child
  exact ⟨k, fn₁, k₁, hk, hready, hedits, c, c', hc, hopened, hchildren⟩

section

variable {source : Bytes} {lines : List Text} {v : Vocabulary} {mode : Option Side}
  {injected : List Path} {root root' : Node} {target : Target} {side : Side}

theorem isBlank_indentOf (lines : List Text) (mark : Option Mark) :
    Text.isBlank (indentOf lines mark) = true := by
  unfold indentOf
  cases mark with
  | none => rfl
  | some m =>
    refine List.all_eq_true.2 fun c hc => ?_
    have hspace := List.all_eq_true.1 List.all_takeWhile c hc
    simp only [Bool.or_eq_true, beq_iff_eq] at hspace
    rcases hspace with h | h <;> simp [CodePoint.isBlank, h]

theorem isBlank_append {s t : Text} (hs : Text.isBlank s = true) (ht : Text.isBlank t = true) :
    Text.isBlank (s ++ t) = true := by
  rw [Text.isBlank, List.all_append, Bool.and_eq_true]
  exact ⟨hs, ht⟩

theorem firstStatementText_eq (lines : List Text) (brace : Node) (following : Option Node)
    (statement : Text) : ∃ lead trail, Text.isBlank lead = true ∧ Text.isBlank trail = true ∧
      firstStatementText lines brace following statement = lead ++ statement ++ trail := by
  have hspace : Text.isBlank " " = true := by decide
  have hrow : Text.isBlank "\n" = true := by decide
  cases following with
  | none => exact ⟨_, _, hspace, hspace, rfl⟩
  | some next =>
    have hinner : Text.isBlank (if next.kind == "\x7d" then indentUnit else []) = true := by
      split <;> rfl
    refine iteInduction (motive := fun t => ∃ lead trail, Text.isBlank lead = true ∧
      Text.isBlank trail = true ∧ t = lead ++ statement ++ trail) (fun _ => ?_) fun _ => ?_
    · exact ⟨_, [], isBlank_append (isBlank_append hrow (isBlank_indentOf lines next.info.start)) hinner,
        rfl, (List.append_nil _).symm⟩
    · refine iteInduction (motive := fun t => ∃ lead trail, Text.isBlank lead = true ∧
        Text.isBlank trail = true ∧ t = lead ++ statement ++ trail) (fun _ => ?_) fun _ => ?_
      · exact ⟨_, _, hspace, hspace, rfl⟩
      · exact ⟨_, [], hspace, rfl, (List.append_nil _).symm⟩

theorem exchanged_of_insertFirst {path : Path} {body : Node} {statement : Text}
    (hat : root.at? path = some body) (hblock : body.kind = "statement_block")
    (h : insertFirst lines root path statement = .ok root') :
    ∃ body', Opened statement body body' ∧ Exchanged body body' path root root' := by
  unfold insertFirst at h
  rw [hat, Option.map_some] at h
  split at h
  next brace rest hchildren =>
    dsimp only at h
    split at h
    next root'' hroot =>
      cases h
      obtain ⟨lead, trail, hlead, htrail, htext⟩ := firstStatementText_eq lines brace rest.head?
        statement
      rw [htext] at hroot
      obtain ⟨i, items, items', hat', hitems, hexchanged⟩ := exchanged_of_editAt hroot
      cases hat.symm.trans hat'
      refine ⟨_, .block hblock ?_ hlead htrail (congrArg (Option.map _) hitems), hexchanged⟩
      rw [Option.some.inj hchildren]
      exact List.cons_ne_nil brace rest
    next => cases h
  next => cases h

theorem exchanged_of_expandBody {path : Path} {k : Nat} {indent : Text} {body : Node} {statement : Text}
    (hat : root.at? (path ++ [k]) = some body) (hblock : body.kind ≠ "statement_block")
    (hindent : Text.isBlank indent = true)
    (h : expandBody indent root (path ++ [k]) statement = .ok root') :
    ∃ body', Opened statement body body' ∧ Exchanged body body' (path ++ [k]) root root' := by
  obtain ⟨c, hexchanged⟩ := exchanged_of_wrapAt h
  cases hat.symm.trans hexchanged.at?.1
  exact ⟨_, .expression hblock hindent rfl, hexchanged⟩

theorem readied_ensureAsync {path : Path} {fn : Node} {k : Nat} (hat : root.at? path = some fn)
    (hk : bodyIndex? fn = some k) :
    ∃ fn₁ k₁, k₁ = (if (ensureAsync root path fn).2 then k + 1 else k) ∧ Readied .server fn k fn₁ k₁ ∧
      (ensureAsync root path fn).1.at? path = some fn₁ ∧ fn₁.children[k₁]? = fn.children[k]? ∧
      ∀ fn' root', Exchanged fn₁ fn' path (ensureAsync root path fn).1 root' →
        Exchanged fn fn' path root root' := by
  obtain ⟨fn₁, hat₁, -, hchild⟩ := (madeAsync_ensureAsync hat hk).body hat hk
  refine ⟨fn₁, _, rfl, ?_⟩
  unfold ensureAsync at hat₁ hchild ⊢
  cases hasync : Scope.isAsync fn with
  | true =>
    rw [hasync] at hat₁ hchild
    cases hat.symm.trans hat₁
    exact ⟨.already (.inr hasync), hat, hchild, fun _ _ h => h⟩
  | false =>
    rw [hasync] at hat₁ hchild
    cases fn with
    | text t => simp [bodyIndex?, children, items] at hk
    | branch i items =>
      obtain ⟨root₁, hroot₁⟩ : ∃ root₁, root.insertAt path 0 (.leaf "async ") = some root₁ :=
        editAt_isSome hat rfl
      obtain ⟨j, js, js', hat', hjs, hexchanged⟩ := exchanged_of_editAt hroot₁
      cases hat.symm.trans hat'
      rw [if_neg Bool.false_ne_true, hroot₁] at hat₁ ⊢
      cases hat₁.symm.trans hexchanged.at?.2
      exact ⟨.async rfl hasync (congrArg (Option.map _) hjs), hat₁, hchild, fun _ _ h => hexchanged.trans h⟩

theorem takes_of_inject
    (h : (inject source lines v mode injected root target).result = .ok (root', .injected side)) :
    side = chooseSide mode target.serverBound ∧ ¬ IsBound source v injected root target ∧
      ∃ fn fn', ¬ HasNoPlace source v mode target fn ∧ Takes side (statement v side) fn fn' ∧
        Exchanged fn fn' target.path root root' := by
  have hfocus := Focus.map_node_at? (Focus.ofRoot root) target.path
  unfold inject at h
  dsimp only at h
  split at h
  next hbound =>
    obtain ⟨-, -, h⟩ := Logged.result_bind_eq_ok.1 h
    cases h
  next hbound =>
  rw [isBound_iff] at hbound
  cases hat : (Focus.ofRoot root).at? target.path with
  | none =>
    rw [hat] at h
    cases h
  | some focus =>
    rw [hat] at h hfocus
    replace hfocus : root.at? target.path = some focus.node := hfocus.symm
    dsimp only at h
    split at h
    next k body hk hbody =>
      obtain ⟨body', hchild, hbody', -⟩ := body_of_bodyIndex? hk
      cases hbody.symm.trans hbody'
      have hplace {root₁ fn₁ : Node} {k₁ : Nat} (hat₁ : root₁.at? target.path = some fn₁)
          (hchild₁ : fn₁.children[k₁]? = focus.node.children[k]?) :
          root₁.at? (target.path ++ [k₁]) = some body := by
        rw [at?_append, hat₁, Option.bind_some, at?, hchild₁, hchild]
        rfl
      cases hside : chooseSide mode target.serverBound with
      | client =>
        rw [hside] at h
        dsimp only at h
        split at h
        next => cases h
        next hblock =>
        replace hblock : body.kind = "statement_block" := by simpa using hblock
        split at h
        next =>
          obtain ⟨-, -, h⟩ := Logged.result_bind_eq_ok.1 h
          cases h
        next hcalls =>
          obtain ⟨root₁, hroot₁, h⟩ := Logged.result_bind_eq_ok.1 h
          cases h
          obtain ⟨body', hopened, hexchanged⟩ :=
            exchanged_of_insertFirst (hplace hfocus rfl) hblock hroot₁
          obtain ⟨fn', hinside, hexchanged⟩ := hexchanged.within hfocus
          refine ⟨rfl, hbound, focus.node, fn', ?_,
            ⟨k, body, focus.node, k, body', hk, hchild, .already (.inl rfl), hopened, hinside⟩, hexchanged⟩
          rintro (hnone | ⟨body', hbody', -, hkind | hcalls'⟩)
          · cases hk.symm.trans hnone
          · cases hbody.symm.trans hbody'
            exact hkind hblock
          · cases hbody.symm.trans hbody'
            exact hcalls hcalls'
      | server =>
        rw [hside] at h
        dsimp only at h
        have hnoplace : ¬ HasNoPlace source v mode target focus.node := by
          rintro (hnone | ⟨-, -, hclient, -⟩)
          · cases hk.symm.trans hnone
          · cases hside.symm.trans hclient
        obtain ⟨fn₁, k₁, hk₁, hready, hat₁, hchild₁, hcompose⟩ := readied_ensureAsync hfocus hk
        rw [← hk₁] at h
        have htakes {body' : Node} (hopened : Opened (statement v .server) body body')
            (hexchanged : Exchanged body body' (target.path ++ [k₁])
              (ensureAsync root target.path focus.node).1 root') :
            ∃ fn fn', ¬ HasNoPlace source v mode target fn ∧ Takes .server (statement v .server) fn fn' ∧
              Exchanged fn fn' target.path root root' := by
          obtain ⟨fn', hinside, hexchanged⟩ := hexchanged.within hat₁
          exact ⟨focus.node, fn', hnoplace,
            ⟨k, body, fn₁, k₁, body', hk, hchild, hready, hopened, hinside⟩, hcompose fn' root' hexchanged⟩
        split at h
        next hblock =>
          obtain ⟨root₂, hroot₂, h⟩ := Logged.result_bind_eq_ok.1 h
          cases h
          obtain ⟨body', hopened, hexchanged⟩ :=
            exchanged_of_insertFirst (hplace hat₁ hchild₁) (by simpa using hblock) hroot₂
          exact ⟨rfl, hbound, htakes hopened hexchanged⟩
        next hblock =>
          obtain ⟨root₂, hroot₂, h⟩ := Logged.result_bind_eq_ok.1 h
          cases h
          obtain ⟨body', hopened, hexchanged⟩ := exchanged_of_expandBody (hplace hat₁ hchild₁)
            (by simpa using hblock) (isBlank_indentOf lines _) hroot₂
          exact ⟨rfl, hbound, htakes hopened hexchanged⟩
    next => cases h

theorem receives_of_inject
    (h : (inject source lines v mode injected root target).result = .ok (root', .injected side)) :
    side = chooseSide mode target.serverBound ∧ ¬ IsBound source v injected root target ∧
      ∃ fn fn', root.at? target.path = some fn ∧ root'.at? target.path = some fn' ∧
        ¬ HasNoPlace source v mode target fn ∧ Receives side (statement v side) fn fn' := by
  obtain ⟨hside, hbound, fn, fn', hplace, htakes, hexchanged⟩ := takes_of_inject h
  exact ⟨hside, hbound, fn, fn', hexchanged.at?.1, hexchanged.at?.2, hplace, htakes.receives⟩

end

end Binding

namespace Scope

variable {source : Bytes} {name : Word}

theorem isBound_of_scope_below {f g : Focus} {path : Path} (hat : g.at? path = some f)
    (h : (∃ place n, place <+: path ∧ g.node.at? place = some n ∧ scopeBinds source name n = true) ∨
      ((Focus.above g.node g.frames).any fun g => scopeBinds source name g.node) = true) :
    isBound source name f = true := by
  induction path generalizing g with
  | nil =>
    cases hat
    rw [isBound, boundWithin_eq, Bool.or_eq_true]
    rcases h with ⟨place, n, hle, hn, hbinds⟩ | h
    · obtain rfl := List.prefix_nil.1 hle
      cases hn
      exact .inl hbinds
    · exact .inr h
  | cons k path ih =>
    obtain ⟨c, hc, hat⟩ := Option.bind_eq_some_iff.1 hat
    have hchild : g.node.children[k]? = some c.node := by
      rw [← show g.children.map (·.node) = g.node.children from Focus.map_node_ofItems _ _ _ _,
        List.getElem?_map, hc]
      rfl
    have habove := Focus.above_of_mem_children (List.mem_of_getElem? hc)
    refine ih hat ?_
    rw [habove, List.any_cons, Bool.or_eq_true]
    rcases h with ⟨place, n, hle, hn, hbinds⟩ | h
    · cases place with
      | nil =>
        cases hn
        exact .inr (.inl hbinds)
      | cons j place =>
        obtain ⟨rfl, hbelow⟩ := List.cons_prefix_cons.1 hle
        rw [at?, hchild] at hn
        exact .inl ⟨place, n, hbelow, hn, hbinds⟩
    · exact .inr (.inr h)

theorem isBound_of_scope {root n : Node} {f : Focus} {path place : Path}
    (hat : (Focus.ofRoot root).at? path = some f) (hle : place <+: path)
    (hn : root.at? place = some n) (h : scopeBinds source name n = true) :
    isBound source name f = true :=
  isBound_of_scope_below hat (.inl ⟨place, n, hle, hn, h⟩)

end Scope

/-- A component that a statement was put into, told on the tree that the walk left and on the one that
the bindings leave: no scope on the way to it binds the name. -/
structure Injected (settings : Settings) (source : Bytes) (walked bound : Node) (c : Pass.Component)
    (side : Side) : Prop where
  modified : c.modified = true
  sided : side = Binding.chooseSide settings.mode c.serverBound
  unbound : ∀ place n, place <+: c.path → walked.at? place = some n →
    Scope.scopeBinds source settings.vocabulary.function n = false
  receives : ∃ fn fn', walked.at? c.path = some fn ∧ bound.at? c.path = some fn' ∧
    ¬ Binding.HasNoPlace source settings.vocabulary settings.mode ⟨c.name, c.path, c.serverBound⟩ fn ∧
    Binding.Receives side (Binding.statement settings.vocabulary side) fn fn'

def AreApart (p q : Path) : Prop := ¬ p <+: q ∧ ¬ q <+: p

def Report.place? (r : Report) : Option Path := r.outcome.side?.map fun _ => r.component.path

section Running

variable {settings : Settings} {tree : Tree} {walked : Node}

theorem Tracks.unbound {source : Bytes} {v : Vocabulary} {b : Bindings} {c : Pass.Component}
    (htracks : Tracks source walked b) (hclear : ∀ p ∈ b.injected, ¬ p <+: c.path)
    (hat : (b.root.at? c.path).isSome = true)
    (h : ¬ Binding.IsBound source v b.injected b.root ⟨c.name, c.path, c.serverBound⟩) {place : Path}
    {n : Node} (hle : place <+: c.path) (hn : walked.at? place = some n) :
    Scope.scopeBinds source v.function n = false := by
  rw [← Bool.not_eq_true]
  intro hbinds
  have hscopes := htracks.scopes place (fun p hp hle' => hclear p hp (hle'.trans hle)) v.function
  rw [hn, Option.map_some] at hscopes
  obtain ⟨m, hm, hsame⟩ := Option.map_eq_some_iff.1 hscopes
  rw [← show ((Focus.ofRoot b.root).at? c.path).map (·.node) = b.root.at? c.path from
    Focus.map_node_at? _ _, Option.isSome_map] at hat
  obtain ⟨f, hf⟩ := Option.isSome_iff_exists.1 hat
  exact h (.inr ⟨f, hf, Scope.isBound_of_scope hf hle hm (hsame.trans hbinds)⟩)

theorem injected_of_bindComponents {b b' : Bindings} {components : List Pass.Component}
    {reports : List Report}
    (h : (bindComponents tree settings b components).result = .ok (b', reports))
    (htracks : Tracks tree.source walked b) (hroutes : ∀ c ∈ components, Scope.Route c.path walked)
    (horder : Pass.InPreorder components)
    (hahead : ∀ p ∈ b.injected, ∀ c ∈ components, ¬ c.path <+: p)
    (hapart : b.injected.Pairwise AreApart) :
    Tracks tree.source walked b' ∧ b'.injected = b.injected ++ reports.filterMap Report.place? ∧
      b'.injected.Pairwise AreApart ∧ ∀ r ∈ reports, ∀ side, r.outcome = .injected side →
        Injected settings tree.source walked b'.root r.component side := by
  induction components generalizing b reports with
  | nil =>
    cases h
    exact ⟨htracks, by simp, hapart, by simp⟩
  | cons c rest ih =>
    obtain ⟨hroute, hroutes⟩ := List.forall_mem_cons.1 hroutes
    obtain ⟨hfirst, horder⟩ := List.pairwise_cons.1 horder
    have hahead' : ∀ p ∈ b.injected, ∀ d ∈ rest, ¬ d.path <+: p :=
      fun p hp d hd => hahead p hp d (List.mem_cons_of_mem _ hd)
    have hc : ∀ p ∈ b.injected, ¬ c.path <+: p := fun p hp => hahead p hp c List.mem_cons_self
    obtain ⟨b₁, outcome, reports', rfl, hrest, ⟨hmodified, rfl, rfl⟩ | ⟨hmodified, root, hinject, rfl⟩⟩ :=
      bindComponents_cons h
    · obtain ⟨htracks', hinjected, hapart', hreports⟩ := ih hrest htracks hroutes horder hahead' hapart
      exact ⟨htracks', hinjected, hapart', List.forall_mem_cons.2 ⟨fun side h => (by cases h), hreports⟩⟩
    rcases fate_of_injects htracks hroute hc (Binding.injects_of_inject hinject) with
      ⟨rfl, hside, -⟩ | ⟨side, -, rfl, hclear, hleaves, -, -⟩
    · have hinjected : b.injectedWith c.path outcome = b.injected := by
        rw [Bindings.injectedWith, hside]
        rfl
      rw [hinjected] at hrest
      obtain ⟨htracks', hinjected', hapart', hreports⟩ := ih hrest htracks hroutes horder hahead' hapart
      refine ⟨htracks', ?_, hapart', List.forall_mem_cons.2 ⟨fun side houtcome => ?_, hreports⟩⟩
      · rw [hinjected', List.filterMap_cons_none]
        rw [Report.place?, hside]
        rfl
      · rw [show outcome = .injected side from houtcome] at hside
        cases hside
    · have hinjected : b.injectedWith c.path (.injected side) = b.injected ++ [c.path] := rfl
      rw [hinjected] at hrest
      have hahead₁ : ∀ p ∈ b.injected ++ [c.path], ∀ d ∈ rest, ¬ d.path <+: p :=
        List.forall_mem_append.2 ⟨hahead', List.forall_mem_singleton.2 hfirst⟩
      have hapart₁ : (b.injected ++ [c.path]).Pairwise AreApart := by
        refine List.pairwise_append.2 ⟨hapart, List.pairwise_singleton _ _, fun p hp q hq => ?_⟩
        obtain rfl := List.mem_singleton.1 hq
        exact ⟨hclear p hp, hc p hp⟩
      have htracks₁ := htracks.bind hleaves
      obtain ⟨htracks', hinjected', hapart', hreports⟩ := ih hrest htracks₁ hroutes horder hahead₁ hapart₁
      obtain ⟨hkept, -⟩ := (binds_of_bindComponents hrest).fates htracks₁ hroutes horder hahead₁
      have hlast : b'.root.at? c.path = root.at? c.path := hkept _ (by simp)
      refine ⟨htracks', ?_, hapart', List.forall_mem_cons.2 ⟨fun side' houtcome => ?_, hreports⟩⟩
      · rw [hinjected', List.append_assoc]
        rfl
      · cases houtcome
        obtain ⟨hside, hbound, fn, fn', hat, hat', hplace, hreceives⟩ :=
          Binding.receives_of_inject hinject
        refine ⟨hmodified, hside, fun place n hle hn => ?_, fn, fn', ?_, hlast.trans hat', hplace,
          hreceives⟩
        · exact htracks.unbound hclear (by rw [hat]; rfl) hbound hle hn
        · rw [← htracks.apart c.path hclear hc]
          exact hat

end Running

namespace Header

/-- The statements of a program that are no imports, and those it had before besides others. -/
def Keeps (root root' : Node) : Prop :=
  (root.children.filter fun s => s.kind != "import_statement").Sublist
    (root'.children.filter fun s => s.kind != "import_statement")

section

variable {source : Bytes} {root root' : Node}

theorem Keeps.refl (root : Node) : Keeps root root := List.Sublist.refl _

theorem Keeps.trans {root'' : Node} (h : Keeps root root') (h' : Keeps root' root'') :
    Keeps root root'' := List.Sublist.trans h h'

theorem keeps_apply {i : Insertion} (h : i.path = [] ∨ ∃ k rest s, i.path = k :: rest ∧
    root.children[k]? = some s ∧ s.kind = "import_statement") : Keeps root (i.apply root) := by
  unfold Insertion.apply
  cases hroot : root.insertAt i.path i.index (.leaf i.text) with
  | none => exact .refl root
  | some root' =>
    show Keeps root root'
    rcases h with hpath | ⟨k, rest, s, hpath, hk, hkind⟩
    · rw [hpath] at hroot
      obtain ⟨j, items, items', hitems, hedit, hitems'⟩ := at?_of_editAt hroot
      cases hitems
      cases hitems'
      cases hedit
      obtain ⟨before, after, hsplit, hnew⟩ := insertItem_eq
        ((leaf i.text).mapInfo fun n => { n with standing := sideStanding j })
        (clampIndex i.index (items.countP isChild)) items
      refine List.Sublist.filter _ (List.Sublist.filter _ ?_)
      rw [Node.items, Node.items, hnew, hsplit]
      exact (List.Sublist.refl before).append (List.sublist_cons_self _ after)
    · rw [hpath] at hroot
      obtain ⟨-, c, c', hc, hedit, hchildren⟩ := within_of_editAt hroot
      obtain rfl : s = c := Option.some.inj (hk.symm.trans hc)
      have hkind' : c'.kind = "import_statement" := (edits_of_editAt hedit).kind.trans hkind
      obtain ⟨hlt, hget⟩ := List.getElem?_eq_some_iff.1 hk
      have hsplit := List.take_append_drop k root.children
      rw [List.drop_eq_getElem_cons hlt, hget] at hsplit
      rw [Keeps, hchildren, List.set_eq_take_append_cons_drop, if_pos hlt]
      conv => arg 1; rw [← hsplit]
      simp [hkind, hkind']

theorem keeps_statementInsertion (lead : List (Nat × Node)) (t note : Text) :
    Keeps root ((statementInsertion lead t note).apply root) := by
  refine keeps_apply (.inl ?_)
  rw [statementInsertion]
  split <;> rfl

theorem keeps_ensureImport {name module : Word} {added : Bool}
    (h : (ensureImport source name module root).result = .ok (root', added)) : Keeps root root' := by
  unfold ensureImport at h
  obtain ⟨insertion?, hinsertion, h⟩ := Logged.result_bind_eq_ok.1 h
  cases insertion? with
  | none =>
    cases h
    exact .refl root
  | some insertion =>
    obtain ⟨-, -, h⟩ := Logged.result_bind_eq_ok.1 h
    cases h
    unfold importInsertion? at hinsertion
    obtain ⟨found, -, hinsertion⟩ := except_bind_eq_ok.1 hinsertion
    split at hinsertion
    next => cases hinsertion
    next =>
      obtain ⟨statements, hstatements, hinsertion⟩ := except_bind_eq_ok.1 hinsertion
      dsimp only at hinsertion
      split at hinsertion
      next hextension =>
        cases hinsertion
        obtain ⟨⟨k, s⟩, hs, hextends⟩ := List.exists_of_findSome?_eq_some hextension
        obtain ⟨hk, hkind, -⟩ := mem_importsFrom hstatements hs
        obtain ⟨j, -, more, hpath, -⟩ := path_of_extension? hextends
        exact keeps_apply (.inr ⟨k, j :: more, s, hpath, hk, hkind⟩)
      next =>
        cases hinsertion
        exact keeps_statementInsertion _ _ _

theorem keeps_ensureDirective {directive : Word} {added : Bool}
    (h : ensureDirective source directive root = .ok (root', added)) : Keeps root root' := by
  unfold ensureDirective at h
  obtain ⟨values, -, h⟩ := except_bind_eq_ok.1 h
  split at h
  next =>
    cases h
    exact .refl root
  next =>
    cases h
    exact keeps_statementInsertion _ _ _

theorem keeps_finalize {v : Vocabulary} {needs : Needs} {changes : List Text}
    (h : (finalize source v needs root).result = .ok (root', changes)) : Keeps root root' := by
  unfold finalize at h
  obtain ⟨⟨root₁, _⟩, h₁, h⟩ := Logged.result_ite_bind_eq_ok.1 h
  obtain ⟨⟨root₂, _⟩, h₂, h⟩ := Logged.result_ite_bind_eq_ok.1 h
  obtain ⟨⟨root₃, _⟩, h₃, h⟩ := Logged.result_ite_bind_eq_ok.1 h
  cases h
  have hclient : Keeps root root₁ := by
    split at h₁
    · exact keeps_ensureImport h₁
    · cases h₁
      exact .refl root
  have hserver : Keeps root₁ root₂ := by
    split at h₂
    · exact keeps_ensureImport h₂
    · cases h₂
      exact .refl root₁
  have hdirective : Keeps root₂ root' := by
    split at h₃
    · exact keeps_ensureDirective h₃
    · cases h₃
      exact .refl root'
  exact (hclient.trans hserver).trans hdirective

end

end Header

/-- A component that is to get a statement: it was modified, no scope on the way to it binds the name,
no component around it got one, and it has a place for one. -/
structure Wants (settings : Settings) (source : Bytes) (walked : Node) (reports : List Report)
    (c : Pass.Component) : Prop where
  modified : c.modified = true
  unbound : ∀ place n, place <+: c.path → walked.at? place = some n →
    Scope.scopeBinds source settings.vocabulary.function n = false
  outermost : ∀ r ∈ reports, r.outcome.side?.isSome = true → r.component.path <+: c.path →
    r.component = c
  placed : ∀ fn, walked.at? c.path = some fn →
    ¬ Binding.HasNoPlace source settings.vocabulary settings.mode ⟨c.name, c.path, c.serverBound⟩ fn

theorem Binds.components {source : Bytes} {v : Vocabulary} {mode : Option Side} {b b' : Bindings}
    {components : List Pass.Component} {reports : List Report}
    (h : Binds source v mode b components b' reports) :
    reports.map (·.component) = components := by
  induction h with
  | nil => rfl
  | untouched _ _ ih => exact congrArg (_ :: ·) ih
  | modified _ _ _ ih => exact congrArg (_ :: ·) ih

theorem Pass.InPreorder.nodup {components : List Pass.Component} (h : Pass.InPreorder components) :
    (components.map (·.path)).Nodup :=
  List.pairwise_map.2 (h.imp fun hcd hpath => hcd (by rw [hpath]))

/-- What becomes of the components of a module in a pass. -/
structure Disciplined (settings : Settings) (tree : Tree) (out : Transformed)
    (made : Pass.Made Node) (b : Bindings) (root : Node) : Prop where
  components : out.reports.map (·.component) = made.components
  distinct : (made.components.map (·.path)).Nodup
  injected : ∀ r ∈ out.reports, ∀ side, r.outcome = .injected side →
    Injected settings tree.source made.part b.root r.component side
  exactly : ∀ r ∈ out.reports, r.outcome.side?.isSome = true ↔
    Wants settings tree.source made.part out.reports r.component
  apart : (out.reports.filterMap Report.place?).Pairwise AreApart
  elsewhere : ∀ place, (∀ p ∈ out.reports.filterMap Report.place?, AreApart p place) →
    b.root.at? place = made.part.at? place
  statements : Header.Keeps b.root root
  serverBound : settings.mode ≠ some .client → ∀ r ∈ out.reports, r.component.serverBound = true →
    r.outcome ≠ .injected .client
  client : out.usedClient = true ↔ ∃ r ∈ out.reports, r.outcome = .injected .client
  server : out.usedServer = true ↔ ∃ r ∈ out.reports, r.outcome = .injected .server

section

variable {settings : Settings} {source : Bytes} {walked bound : Node} {reports : List Report}

theorem eq_of_component_eq (hnodup : (reports.map (·.component.path)).Nodup) {r s : Report}
    (hr : r ∈ reports) (hs : s ∈ reports) (h : r.component = s.component) : r = s :=
  List.inj_on_of_nodup_map hnodup hr hs (congrArg Pass.Component.path h)

theorem mem_place? {r : Report} (hr : r ∈ reports) (h : r.outcome.side?.isSome = true) :
    r.component.path ∈ reports.filterMap Report.place? := by
  obtain ⟨side, hside⟩ := Option.isSome_iff_exists.1 h
  exact List.mem_filterMap.2 ⟨r, hr, by rw [Report.place?, hside]; rfl⟩

theorem exists_side {r : Report} (h : r.outcome.side?.isSome = true) :
    ∃ side, r.outcome = .injected side := by
  cases houtcome : r.outcome with
  | bound =>
    rw [houtcome] at h
    cases h
  | none =>
    rw [houtcome] at h
    cases h
  | injected side => exact ⟨side, rfl⟩

theorem eq_of_pairwise_areApart {places : List Path} (h : places.Pairwise AreApart) {p q : Path}
    (hp : p ∈ places) (hq : q ∈ places) (hle : p <+: q) : p = q := by
  have : Std.Symm AreApart := ⟨fun _ _ h => ⟨h.2, h.1⟩⟩
  by_contra hne
  exact (h.forall hp hq hne).1 hle

theorem isSome_side?_iff (hnodup : (reports.map (·.component.path)).Nodup)
    (happly : (reports.filterMap Report.place?).Pairwise AreApart)
    (hinjected : ∀ r ∈ reports, ∀ side, r.outcome = .injected side →
      Injected settings source walked bound r.component side)
    (hfates : ∀ r ∈ reports, r.component.modified = true →
      Fate source settings.vocabulary settings.mode walked [] bound reports r.component)
    {r : Report} (hr : r ∈ reports) :
    r.outcome.side?.isSome = true ↔ Wants settings source walked reports r.component := by
  constructor
  · intro hsome
    obtain ⟨side, hside⟩ := exists_side hsome
    obtain ⟨hmodified, -, hunbound, fn, -, hat, -, hplace, -⟩ := hinjected r hr side hside
    refine ⟨hmodified, hunbound, fun s hs hsome' hle => ?_, fun fn' hat' => ?_⟩
    · have hpath := eq_of_pairwise_areApart happly (mem_place? hs hsome') (mem_place? hr hsome) hle
      rw [List.inj_on_of_nodup_map hnodup hs hr hpath]
    · cases hat.symm.trans hat'
      exact hplace
  · rintro ⟨hmodified, hunbound, houtermost, hplaced⟩
    cases hfates r hr hmodified with
    | earlier hp => cases hp
    | declared hle hat hbinds =>
      rw [hunbound _ _ hle hat] at hbinds
      cases hbinds
    | @bound s side fn hs hside hle =>
      have hsome : s.outcome.side?.isSome = true := by rw [hside]; rfl
      rw [← eq_of_component_eq hnodup hs hr (houtermost s hs hsome hle)]
      exact hsome
    | unplaced hat hplace => exact (hplaced _ hat hplace).elim

end

/-- **Injection is disciplined.** A pass puts at most one statement into each component: into exactly
those that were modified, have no scope around them that binds the name, are not inside a component
that got one, and have a place for it. Outside these components nothing changes. -/
theorem transform_injects {settings : Settings} {tree : Tree} {out : Transformed}
    (htree : tree.Parsed) (h : (transform settings tree).result = .ok out) :
    ∃ made b root, Passes settings tree out made b root ∧
      Disciplined settings tree out made b root := by
  obtain ⟨made, b, root, hpass, hbinds, hfinal, hclient, hserver⟩ := stages_of_transform h
  obtain ⟨ws, hvisit⟩ := Pass.visit_of_walk htree.root hpass.walk
  obtain ⟨-, hroutes, horder, -, -⟩ := hvisit.placed
  have hstart := Tracks.start tree.source made.part
  obtain ⟨htracks, hplaces, hapart, hinjected⟩ :=
    injected_of_bindComponents hbinds hstart hroutes horder (by simp) .nil
  obtain ⟨-, hfates⟩ := hpass.binds.fates hstart hroutes horder (by simp)
  rw [List.nil_append] at hplaces
  rw [hplaces] at hapart
  have hcomponents := hpass.binds.components
  have hnodup : (out.reports.map (·.component.path)).Nodup := by
    rw [show out.reports.map (·.component.path) =
      (out.reports.map (·.component)).map (·.path) from List.map_map.symm, hcomponents]
    exact horder.nodup
  refine ⟨made, b, root, hpass, hcomponents, horder.nodup, hinjected, fun r hr => ?_, hapart,
    fun place hplace => ?_, ?_, fun hmode r hr hbound houtcome => ?_, ?_, ?_⟩
  · exact isSome_side?_iff hnodup hapart hinjected
      (fun r hr => hfates _ (hpass.binds.component_mem r hr)) hr
  · rw [← hplaces] at hplace
    exact htracks.apart place (fun p hp => (hplace p hp).1) fun p hp => (hplace p hp).2
  · cases hchanged : made.changed with
    | true => exact Header.keeps_finalize (hfinal hchanged)
    | false =>
      rw [(hpass.unchanged hchanged).1]
      exact .refl b.root
  · have hside := (hinjected r hr _ houtcome).sided
    rw [hbound, Binding.chooseSide] at hside
    cases hsome : settings.mode with
    | none =>
      rw [hsome] at hside
      cases hside
    | some side =>
      rw [hsome] at hside hmode
      exact hmode (congrArg some hside.symm)
  · rw [hclient, List.any_eq_true]
    simp
  · rw [hserver, List.any_eq_true]
    simp

/-- The component behind a default import gets the statement of the client, and that alone. -/
theorem transform_injects_default :
    ∃ out made b root, (transform { sourcePattern := .null } Sample.defaulted).result = .ok out ∧
      Disciplined { sourcePattern := .null } Sample.defaulted out made b root ∧
      out.reports.map (·.outcome) = [.injected .client] ∧
      ∃ r ∈ out.reports, Injected { sourcePattern := .null } Sample.defaulted.source made.part b.root
        r.component .client := by
  obtain ⟨out, hout, -, -, hreports, -⟩ := Sample.transformed_defaulted
  obtain ⟨made, b, root, -, hdisciplined⟩ := transform_injects Sample.defaulted_parsed hout
  obtain ⟨r, hr, hside⟩ := List.mem_map.1 (hreports ▸ List.mem_singleton_self _)
  exact ⟨out, made, b, root, hout, hdisciplined, hreports, r, hr, hdisciplined.injected r hr _ hside⟩

namespace Sample

def required : Tree where
  source := (Utf8.encode? "import t = require(\"./t\"); function A()\x7breturn \"가\";\x7d").getD []
  root := node "program" true 0 54 [node "import_statement" true 0 26 [token "import" 0 6,
    node "import_require_clause" true 7 25 [node "identifier" true 7 8 [], token "=" 9 10,
      token "require" 11 18, token "(" 18 19, inField "source" (node "string" true 19 24 [
        token "\"" 19 20, node "string_fragment" true 20 23 [], token "\"" 23 24]), token ")" 24 25],
    token ";" 25 26], returning 27]

end Sample

/-- What such a clause declares is not seen: the statement goes in though the module has the name. -/
theorem transform_not_injects_required :
    ∃ out, (transform { sourcePattern := .null } Sample.required).result = .ok out ∧
      out.reports.map (·.outcome) = [.injected .client] ∧
      out.code = Text.ofString ("import \x7b useTranslation \x7d from \"i18nexus\";\n" ++
        "import t = require(\"./t\"); function A()\x7b const \x7b t \x7d = useTranslation();" ++
        "return t(\"가\");\x7d") ∧
      ∃ clause ∈ Sample.required.root.preorder, clause.kind = "import_require_clause" ∧
        ∃ n ∈ clause.children, n.kind = "identifier" ∧
          n.textD Sample.required.source = Text.ofString "t" := by
  obtain ⟨out, hout, hreports, hcode⟩ : ∃ out,
      (transform { sourcePattern := .null } Sample.required).result = .ok out ∧
        out.reports.map (·.outcome) = [.injected .client] ∧
        out.code = Text.ofString ("import \x7b useTranslation \x7d from \"i18nexus\";\n" ++
          "import t = require(\"./t\"); function A()\x7b const \x7b t \x7d = useTranslation();" ++
          "return t(\"가\");\x7d") :=
    Logged.exists_of_any (by decide +kernel)
  have hclause : (Sample.required.root.preorder.any fun clause =>
      clause.kind == "import_require_clause" && clause.children.any fun n => n.kind == "identifier" &&
        n.textD Sample.required.source == Text.ofString "t") = true := by decide +kernel
  simp only [List.any_eq_true, Bool.and_eq_true, beq_iff_eq] at hclause
  exact ⟨out, hout, hreports, hcode, hclause⟩

end Phrasebook
