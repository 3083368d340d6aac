import Phrasebook.Proofs.Log
import Phrasebook.Proofs.Tree.Edits
import Phrasebook.Wrap.Binding

/-! What binding one component can come to. Either the tree stays as it is, for one of the reasons
listed, or a statement goes into the body of the component and nothing else happens. -/

namespace Phrasebook.Binding

open Node

/-- The tree with a function made async if need be: the position of its body moves with that. -/
inductive MadeAsync (root : Node) (path : Path) (k : Nat) : Node → Nat → Prop
  | already : MadeAsync root path k root k
  | now {root' : Node} (h : root.insertAt path 0 (.leaf "async ") = some root') :
      MadeAsync root path k root' (k + 1)

/-- The statement that binds the lookup function on a side. -/
def statement (v : Vocabulary) : Side → Text
  | .client => clientStatement v.hook.spelling v.function.spelling
  | .server => serverStatement v.serverFunction.spelling v.function.spelling

/-- The tree with a statement put into the body of the function at a path: first in its block, or in
a block made around it. -/
inductive BodyFilled (root : Node) (path : Path) (k : Nat) (body : Node) (statement : Text) :
    Node → Prop
  | first {t : Text} {root' : Node} (hblock : body.kind = "statement_block")
      (hbrace : (root.at? (path ++ [k])).any fun n => !n.children.isEmpty) (ht : statement <:+: t)
      (h : root.insertAt (path ++ [k]) 1 (.leaf t) = some root') :
      BodyFilled root path k body statement root'
  | expanded {fs gs : List Text} {root' : Node} (hblock : body.kind ≠ "statement_block")
      (hfs : statement ∈ fs)
      (h : root.wrapAt (path ++ [k]) "statement_block" (fs.map .text) (gs.map .text) = .ok root') :
      BodyFilled root path k body statement root'

section

variable (source : Bytes) (v : Vocabulary) (mode : Option Side) (injected : List Path) (root : Node)
  (target : Target)

def IsBound : Prop :=
  (∃ p ∈ injected, p <+: target.path) ∨
    ∃ f, (Focus.ofRoot root).at? target.path = some f ∧ Scope.isBound source v.function f = true

/-- Why a component gets no binding though it has none: it has no body, or it is bound for the client
and its body is an expression or calls the hook already. -/
def HasNoPlace (fn : Node) : Prop :=
  bodyIndex? fn = none ∨
    ∃ body, fn.childByField? "body" = some body ∧ chooseSide mode target.serverBound = .client ∧
      (body.kind ≠ "statement_block" ∨ Scope.callsFunction source v.hook body = true)

inductive Injects : Node → Outcome → Prop
  | bound (h : IsBound source v injected root target) : Injects root .bound
  | absent (h : ¬ IsBound source v injected root target) (hat : root.at? target.path = none) :
      Injects root .none
  | unplaced {fn : Node} (h : ¬ IsBound source v injected root target)
      (hat : root.at? target.path = some fn) (hplace : HasNoPlace source v mode target fn) :
      Injects root .none
  | filled {fn body root₁ root₂ : Node} {k k₁ : Nat} (h : ¬ IsBound source v injected root target)
      (hat : root.at? target.path = some fn) (hk : bodyIndex? fn = some k)
      (hbody : fn.childByField? "body" = some body) (hasync : MadeAsync root target.path k root₁ k₁)
      (hfilled : BodyFilled root₁ target.path k₁ body
        (statement v (chooseSide mode target.serverBound)) root₂) :
      Injects root₂ (.injected (chooseSide mode target.serverBound))

end

variable {source : Bytes} {lines : List Text} {v : Vocabulary} {mode : Option Side}
  {injected : List Path} {root root' : Node} {target : Target} {outcome : Outcome}

theorem body_of_bodyIndex? {fn : Node} {k : Nat} (hk : bodyIndex? fn = some k) :
    ∃ body, fn.children[k]? = some body ∧ fn.childByField? "body" = some body ∧
      body.field = some "body" := by
  obtain ⟨hlt, hfield, hfirst⟩ := List.findIdx?_eq_some_iff_getElem.1 hk
  refine ⟨fn.children[k], List.getElem?_eq_getElem hlt, ?_, by simpa using hfield⟩
  exact List.find?_eq_some_iff_getElem.2 ⟨hfield, k, hlt, rfl, fun j hj => by simpa using hfirst j hj⟩

theorem isBound_iff :
    ((injected.any fun p => p.isPrefixOf target.path) ||
      ((Focus.ofRoot root).at? target.path).any (Scope.isBound source v.function)) = true ↔
      IsBound source v injected root target := by
  rw [Bool.or_eq_true, IsBound]
  refine or_congr (by simp) ?_
  cases (Focus.ofRoot root).at? target.path <;> simp

theorem infix_firstStatementText (brace : Node) (following : Option Node) (statement : Text) :
    statement <:+: firstStatementText lines brace following statement := by
  cases following with
  | none => exact ⟨_, _, rfl⟩
  | some next =>
    refine iteInduction (motive := (statement <:+: ·)) (fun _ => ?_) fun _ => ?_
    · exact ⟨_, [], List.append_nil _⟩
    · refine iteInduction (motive := (statement <:+: ·)) (fun _ => ?_) fun _ => ?_
      · exact ⟨_, _, rfl⟩
      · exact ⟨_, [], List.append_nil _⟩

theorem filled_of_insertFirst {path : Path} {k : Nat} {body : Node} {statement : Text}
    (hblock : body.kind = "statement_block")
    (h : insertFirst lines root (path ++ [k]) statement = .ok root') :
    BodyFilled root path k body statement root' := by
  unfold insertFirst at h
  split at h
  next brace rest hchildren =>
    dsimp only at h
    split at h
    next root'' hroot =>
      cases h
      refine .first hblock ?_ (infix_firstStatementText _ _ _) hroot
      obtain ⟨n, hn, hchildren⟩ := Option.map_eq_some_iff.1 hchildren
      simp [hn, hchildren]
    next => cases h
  next => cases h

theorem filled_of_expandBody {indent statement : Text} {path : Path} {k : Nat} {body : Node}
    (hblock : body.kind ≠ "statement_block")
    (h : expandBody indent root (path ++ [k]) statement = .ok root') :
    BodyFilled root path k body statement root' :=
  @BodyFilled.expanded root path k body statement
    ["\x7b\n", indent ++ indentUnit, statement, "\n", indent ++ indentUnit, "return "]
    [";\n", indent, "\x7d"] root' hblock (by simp) h

theorem madeAsync_ensureAsync {path : Path} {fn : Node} {k : Nat} (hat : root.at? path = some fn)
    (hk : bodyIndex? fn = some k) :
    MadeAsync root path k (ensureAsync root path fn).1
      (if (ensureAsync root path fn).2 then k + 1 else k) := by
  unfold ensureAsync
  split
  next => exact .already
  next =>
    cases fn with
    | text t => simp [bodyIndex?, children, items] at hk
    | branch i items =>
      obtain ⟨root₁, hroot₁⟩ : ∃ root₁, root.insertAt path 0 (.leaf "async ") = some root₁ :=
        editAt_isSome hat rfl
      rw [hroot₁]
      exact .now hroot₁

theorem injects_of_inject
    (h : (inject source lines v mode injected root target).result = .ok (root', outcome)) :
    Injects source v mode injected root target root' outcome := by
  have hfocus := Focus.map_node_at? (Focus.ofRoot root) target.path
  unfold inject at h
  dsimp only at h
  split at h
  next hbound =>
    obtain ⟨-, -, h⟩ := Logged.result_bind_eq_ok.1 h
    cases h
    exact .bound (isBound_iff.1 hbound)
  next hbound =>
  rw [isBound_iff] at hbound
  cases hat : (Focus.ofRoot root).at? target.path with
  | none =>
    rw [hat] at h hfocus
    cases h
    exact .absent hbound hfocus.symm
  | some focus =>
    rw [hat] at h hfocus
    replace hfocus : root.at? target.path = some focus.node := hfocus.symm
    dsimp only at h
    split at h
    next k body hk hbody =>
      cases hside : chooseSide mode target.serverBound with
      | client =>
        rw [hside] at h
        dsimp only at h
        split at h
        next hblock =>
          cases h
          exact .unplaced hbound hfocus (.inr ⟨body, hbody, hside, .inl (by simpa using hblock)⟩)
        next hblock =>
        split at h
        next hcalls =>
          obtain ⟨-, -, h⟩ := Logged.result_bind_eq_ok.1 h
          cases h
          exact .unplaced hbound hfocus (.inr ⟨body, hbody, hside, .inr hcalls⟩)
        next =>
          obtain ⟨root₁, hroot₁, h⟩ := Logged.result_bind_eq_ok.1 h
          cases h
          rw [← hside]
          refine .filled hbound hfocus hk hbody .already ?_
          rw [hside]
          exact filled_of_insertFirst (by simpa using hblock) hroot₁
      | server =>
        rw [hside] at h
        dsimp only at h
        have hasync := madeAsync_ensureAsync hfocus hk
        split at h
        next hblock =>
          obtain ⟨root₂, hroot₂, h⟩ := Logged.result_bind_eq_ok.1 h
          cases h
          rw [← hside]
          refine .filled hbound hfocus hk hbody hasync ?_
          rw [hside]
          exact filled_of_insertFirst (by simpa using hblock) hroot₂
        next hblock =>
          obtain ⟨root₂, hroot₂, h⟩ := Logged.result_bind_eq_ok.1 h
          cases h
          rw [← hside]
          refine .filled hbound hfocus hk hbody hasync ?_
          rw [hside]
          exact filled_of_expandBody (by simpa using hblock) hroot₂
    next hnone =>
      cases h
      refine .unplaced hbound hfocus (.inl ?_)
      cases hk : bodyIndex? focus.node with
      | none => rfl
      | some k =>
        obtain ⟨body, -, hbody, -⟩ := body_of_bodyIndex? hk
        exact (hnone k body hk hbody).elim

theorem MadeAsync.body {path : Path} {fn root₁ : Node} {k k₁ : Nat}
    (h : MadeAsync root path k root₁ k₁) (hat : root.at? path = some fn) (hk : bodyIndex? fn = some k) :
    ∃ fn₁, root₁.at? path = some fn₁ ∧ bodyIndex? fn₁ = some k₁ ∧
      fn₁.children[k₁]? = fn.children[k]? := by
  cases h with
  | already => exact ⟨fn, hat, hk, rfl⟩
  | now h =>
    obtain ⟨i, items, items', hat', hitems, hat₁⟩ := at?_of_editAt h
    cases hat.symm.trans hat'
    cases hitems
    have hzero : clampIndex 0 (items.countP isChild) = 0 := by simp [clampIndex]
    have hchildren : (branch { i with dirty := true } (insertItem
        ((leaf "async ").mapInfo fun n => { n with standing := sideStanding i })
        (clampIndex 0 (items.countP isChild)) items)).children =
        ((leaf "async ").mapInfo fun n => { n with standing := sideStanding i }) ::
          (branch i items).children := by
      rw [hzero]
      exact filter_insertItem_zero (isChild_inserted _ i) items
    refine ⟨_, hat₁, ?_, by rw [hchildren, List.getElem?_cons_succ]⟩
    rw [bodyIndex?, hchildren, List.findIdx?_cons]
    rw [bodyIndex?] at hk
    rw [hk]
    rfl

theorem MadeAsync.grows {path : Path} {k k₁ : Nat} {root₁ : Node}
    (h : MadeAsync root path k root₁ k₁) : Grows root root₁ := by
  cases h with
  | already => exact .refl root
  | now h => exact grows_insertAt h

theorem Injects.grows (h : Injects source v mode injected root target root' outcome) :
    Grows root root' := by
  cases h with
  | bound => exact .refl root
  | absent => exact .refl root
  | unplaced => exact .refl root
  | filled _ hat hk _ hasync hfilled =>
    refine hasync.grows.trans ?_
    cases hfilled with
    | first _ _ _ h => exact grows_insertAt h
    | expanded _ _ h =>
      refine grows_wrapAt ?_ h
      intro n c hn hc
      obtain ⟨fn₁, hat₁, -, hchild⟩ := hasync.body hat hk
      obtain ⟨body, hbody, -, hfield⟩ := body_of_bodyIndex? hk
      cases hn.symm.trans hat₁
      cases hc.symm.trans (hchild.trans hbody)
      rw [hfield]
      exact Option.some_ne_none _

end Phrasebook.Binding
