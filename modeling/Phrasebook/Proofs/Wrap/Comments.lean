import Phrasebook.Proofs.Wrap.Exclusion

/-! Marker comments during the walk. The search for them reads the siblings before a node, and when
the walk comes to the node these have been walked. What the walk leaves of them shows the search the
same comments as the tree as parsed, as long as no template on the way up became a call. -/

namespace Phrasebook

open Node

namespace Node

def literalKinds : List String := "string" :: "template_string" :: Literal.jsxTextKinds

def noTextPairs : List Node → Bool
  | a :: b :: rest => !(a.kind == "jsx_text" && b.kind == "jsx_text") && noTextPairs (b :: rest)
  | _ => true

/-- What the grammars of scripts promise of JSX and of templates: JSX text is one token, and plain
text of it is not followed by more, the braces of JSX have no literal beside their named children, and
a substitution of a template holds an expression, which is neither a list of arguments nor such
braces. -/
def isTidy (n : Node) : Bool :=
  (!Literal.isJsxText n || n.items.isEmpty) && noTextPairs n.items &&
  (n.kind != "jsx_expression" || n.items.all fun c => c.named || !literalKinds.contains c.kind) &&
  (n.kind != "template_substitution" ||
    n.items.all fun c => c.kind != "arguments" && c.kind != "jsx_expression")

mutual

/-- Whether a node and all below it are tidy. -/
def areTidy : Node → Bool
  | text _ => true
  | branch i items => isTidy (branch i items) && itemsTidy items

def itemsTidy : List Node → Bool
  | [] => true
  | n :: rest => areTidy n && itemsTidy rest

end

theorem itemsTidy_iff {items : List Node} : itemsTidy items = true ↔ ∀ n ∈ items, n.areTidy = true := by
  induction items with
  | nil => simp [itemsTidy]
  | cons n rest ih => simp [itemsTidy, ih]

section Tidy

variable {n c : Node}

theorem isTidy_of_areTidy (h : n.areTidy = true) (hn : n.isLaid = true) : n.isTidy = true := by
  cases n with
  | text t => simp [isLaid] at hn
  | branch i items => exact (Bool.and_eq_true_iff.1 h).1

theorem areTidy_of_mem_items (h : n.areTidy = true) (hc : c ∈ n.items) : c.areTidy = true := by
  cases n with
  | text t => simp [items] at hc
  | branch i items => exact itemsTidy_iff.1 (Bool.and_eq_true_iff.1 h).2 c hc

theorem isTidy_iff : n.isTidy = true ↔
    (Literal.isJsxText n = true → n.items = []) ∧ noTextPairs n.items = true ∧
    (n.kind = "jsx_expression" → ∀ c ∈ n.items, c.named = true ∨ literalKinds.contains c.kind = false) ∧
    (n.kind = "template_substitution" →
      ∀ c ∈ n.items, c.kind ≠ "arguments" ∧ c.kind ≠ "jsx_expression") := by
  simp only [isTidy, Bool.and_eq_true, Bool.or_eq_true, Bool.not_eq_true', List.isEmpty_iff,
    bne_iff_ne, ne_eq, List.all_eq_true, and_assoc]
  cases Literal.isJsxText n <;> by_cases hj : n.kind = "jsx_expression" <;>
    by_cases ht : n.kind = "template_substitution" <;> simp [hj, ht]

theorem noTextPairs_tail {rest : List Node} (h : noTextPairs (n :: rest) = true) :
    noTextPairs rest = true := by
  cases rest with
  | nil => rfl
  | cons m rest =>
    rw [noTextPairs, Bool.and_eq_true] at h
    exact h.2

theorem noTextPairs_append_left {xs ys : List Node} (h : noTextPairs (xs ++ ys) = true) :
    noTextPairs xs = true := by
  induction xs with
  | nil => rfl
  | cons n xs ih =>
    cases xs with
    | nil => rfl
    | cons m xs =>
      rw [List.cons_append, List.cons_append, noTextPairs, Bool.and_eq_true] at h
      rw [noTextPairs, Bool.and_eq_true]
      exact ⟨h.1, ih h.2⟩

theorem noTextPairs_append_right {xs ys : List Node} (h : noTextPairs (xs ++ ys) = true) :
    noTextPairs ys = true := by
  induction xs with
  | nil => exact h
  | cons n xs ih => exact ih (noTextPairs_tail h)

end Tidy
end Node

namespace Literal

variable {source : Bytes}

structure Stops (source : Bytes) (n : Node) : Prop where
  comment : n.kind ≠ "comment"
  text : n.kind = "jsx_text" → Text.isBlank (n.textD source) = false
  container : commentContainer? n = none

theorem Stops.commentsIn {n : Node} (h : Stops source n) (rest : List Node) :
    commentsIn source (n :: rest) = [] := by
  have hblank : ¬ ((n.kind == "jsx_text" && Text.isBlank (n.textD source)) = true) := by
    intro hn
    rw [Bool.and_eq_true, beq_iff_eq] at hn
    rw [h.text hn.1] at hn
    exact absurd hn.2 (by decide)
  rw [Literal.commentsIn, if_neg (by simpa using h.comment), if_neg hblank, h.container]

theorem commentContainer?_of_kind {n : Node} (h : n.kind ≠ "jsx_expression") :
    commentContainer? n = none := by
  simp [commentContainer?, h]

theorem stops_of_kind {n : Node} (hcomment : n.kind ≠ "comment") (htext : n.kind ≠ "jsx_text")
    (hbraces : n.kind ≠ "jsx_expression") : Stops source n :=
  ⟨hcomment, fun h => (htext h).elim, commentContainer?_of_kind hbraces⟩

theorem stops_of_reference {n : Node} (h : n.kind = "html_character_reference") : Stops source n := by
  refine stops_of_kind ?_ ?_ ?_ <;>
  · rw [h]
    decide

theorem commentsIn_of_run {run : List Node} (hjsx : ∀ n ∈ run, isJsxText n = true)
    (hstops : ∃ n ∈ run, Stops source n) (rest : List Node) :
    commentsIn source (run ++ rest) = [] := by
  induction run with
  | nil => simp at hstops
  | cons n run ih =>
    rw [List.forall_mem_cons] at hjsx
    by_cases hn : Stops source n
    · exact hn.commentsIn _
    have hrun : ∃ m ∈ run, Stops source m := by
      obtain ⟨m, hm, hstop⟩ := hstops
      rcases List.mem_cons.1 hm with rfl | hm
      · exact (hn hstop).elim
      · exact ⟨m, hm, hstop⟩
    have hkind : n.kind = "jsx_text" := by
      have hn' := hjsx.1
      simp only [isJsxText, jsxTextKinds, List.contains_cons, List.contains_nil, Bool.or_false,
        Bool.or_eq_true, beq_iff_eq] at hn'
      rcases hn' with h | h
      · exact h
      · exact (hn (stops_of_reference h)).elim
    have hblank : Text.isBlank (n.textD source) = true := by
      by_contra hblank
      refine hn ⟨by rw [hkind]; decide, fun _ => by simpa using hblank, ?_⟩
      exact commentContainer?_of_kind (by rw [hkind]; decide)
    rw [List.cons_append, commentsIn, if_neg (by rw [hkind]; decide),
      if_pos (by rw [hkind, hblank]; rfl)]
    exact ih hjsx.2 hrun

end Literal

namespace Pass

structure IsNew (n : Node) : Prop where
  isChild : n.isChild = true
  named : n.named = true
  kind : newKinds.contains n.kind = true
  container : Literal.commentContainer? n = none

mutual

inductive Became (source : Bytes) : Node → Node → Prop
  | same (n : Node) : Became source n n
  | entered {i : Info} {dirty : Bool} {items items' : List Node} (hcomment : i.kind ≠ "comment")
      (htext : i.kind ≠ "jsx_text") (h : Behind source items.reverse items'.reverse) :
      Became source (.branch i items) (.branch { i with dirty } items')
  | wrapped {n new : Node} (hn : literalKinds.contains n.kind = true)
      (hjsx : Literal.isJsxText n = false) (hnew : IsNew new) : Became source n new

/-- Siblings as parsed and what the walk left of them, nearest first. -/
inductive Behind (source : Bytes) : List Node → List Node → Prop
  | nil : Behind source [] []
  | node {n n' : Node} {past before : List Node} (hn : Became source n n')
      (h : Behind source past before) : Behind source (n :: past) (n' :: before)
  | run {run past before : List Node} {new : Node}
      (hjsx : ∀ n ∈ run, Literal.isJsxText n = true) (hstops : ∃ n ∈ run, Literal.Stops source n)
      (hnew : IsNew new) (h : Behind source past before) :
      Behind source (run ++ past) (new :: before)

end

theorem Behind.append_same {source : Bytes} {past before : List Node} (h : Behind source past before)
    (run : List Node) : Behind source (run ++ past) (run ++ before) := by
  induction run with
  | nil => exact h
  | cons n run ih => exact .node (.same n) ih

section Search

variable {source : Bytes}

theorem IsNew.kind_ne {n : Node} (h : IsNew n) {kind : String} (hkind : newKinds.contains kind = false) :
    n.kind ≠ kind := by
  rintro rfl
  rw [h.kind] at hkind
  cases hkind

theorem IsNew.stops {n : Node} (h : IsNew n) : Literal.Stops source n :=
  ⟨h.kind_ne (by decide), fun hn => (h.kind_ne (by decide) hn).elim, h.container⟩

theorem kind_of_literal {n : Node} (h : literalKinds.contains n.kind = true) :
    n.kind ≠ "comment" ∧ n.kind ≠ "jsx_expression" := by
  constructor <;>
  · intro hn
    rw [hn] at h
    exact absurd h (by decide)

def namedIn (items : List Node) : List Node := (items.filter Node.isChild).filter Node.named

theorem namedIn_cons (n : Node) (items : List Node) :
    namedIn (n :: items) = if n.isChild && n.named then n :: namedIn items else namedIn items := by
  cases hchild : n.isChild <;> cases hnamed : n.named <;>
    simp [namedIn, hchild, hnamed]

theorem namedIn_append (xs ys : List Node) : namedIn (xs ++ ys) = namedIn xs ++ namedIn ys := by
  simp [namedIn, List.filter_append]

theorem namedIn_reverse (items : List Node) : namedIn items.reverse = (namedIn items).reverse := by
  simp [namedIn, List.filter_reverse]

theorem Behind.namedIn {past before : List Node} (h : Behind source past before)
    (hpast : ∀ n ∈ past, n.isLaid = true)
    (hnamed : ∀ n ∈ past, n.named = true ∨ literalKinds.contains n.kind = false) :
    namedIn before = namedIn past ∨
      ((∃ n ∈ namedIn before, n.kind ≠ "comment") ∧ ∃ n ∈ namedIn past, n.kind ≠ "comment") := by
  -- Each node that the walk left stands for one or more as parsed.
  induction before generalizing past with
  | nil =>
    cases h
    exact .inl rfl
  | cons n' before ih =>
  cases h with
  | @node n _ past _ hn h =>
    replace ih := ih h
    rw [List.forall_mem_cons] at hpast hnamed
    have hchild : n.isChild = true := isChild_of_isLaid hpast.1
    have hmore : (∃ m ∈ Pass.namedIn before, m.kind ≠ "comment") →
        ∃ m ∈ Pass.namedIn (n' :: before), m.kind ≠ "comment" := by
      rintro ⟨m, hm, hkind⟩
      refine ⟨m, ?_, hkind⟩
      rw [namedIn_cons]
      split
      · exact List.mem_cons_of_mem _ hm
      · exact hm
    have hmore' : (∃ m ∈ Pass.namedIn past, m.kind ≠ "comment") →
        ∃ m ∈ Pass.namedIn (n :: past), m.kind ≠ "comment" := by
      rintro ⟨m, hm, hkind⟩
      refine ⟨m, ?_, hkind⟩
      rw [namedIn_cons]
      split
      · exact List.mem_cons_of_mem _ hm
      · exact hm
    cases hn with
    | same =>
      rcases ih hpast.2 hnamed.2 with h | h
      · left
        rw [namedIn_cons, namedIn_cons, h]
      · exact .inr ⟨hmore h.1, hmore' h.2⟩
    | @entered i dirty items items' hcomment htext _ =>
      by_cases hname : i.named = true
      · refine .inr ⟨⟨.branch { i with dirty } items', ?_, hcomment⟩, ⟨.branch i items, ?_, hcomment⟩⟩
        · rw [namedIn_cons, if_pos]
          · exact List.mem_cons_self
          · rw [Bool.and_eq_true]
            exact ⟨hchild, hname⟩
        · rw [namedIn_cons, if_pos]
          · exact List.mem_cons_self
          · rw [Bool.and_eq_true]
            exact ⟨hchild, hname⟩
      · have hskip : Pass.namedIn (Node.branch { i with dirty } items' :: before) =
            Pass.namedIn before := by
          rw [namedIn_cons, if_neg]
          rw [Bool.and_eq_true]
          exact fun h => hname h.2
        have hskip' : Pass.namedIn (Node.branch i items :: past) = Pass.namedIn past := by
          rw [namedIn_cons, if_neg]
          rw [Bool.and_eq_true]
          exact fun h => hname h.2
        rw [hskip, hskip']
        exact ih hpast.2 hnamed.2
    | wrapped hliteral hjsx hnew =>
      have hname : n.named = true := by
        rcases hnamed.1 with h | h
        · exact h
        · rw [hliteral] at h
          cases h
      refine .inr ⟨⟨n', ?_, hnew.kind_ne (by decide)⟩, ⟨n, ?_, (kind_of_literal hliteral).1⟩⟩
      · rw [namedIn_cons, hnew.isChild, hnew.named]
        exact List.mem_cons_self
      · rw [namedIn_cons, hchild, hname]
        exact List.mem_cons_self
  | @run nodes past _ _ hjsx hstops hnew h =>
    obtain ⟨m, hm, -⟩ := hstops
    have hliteral : literalKinds.contains m.kind = true := by
      have hm' := hjsx m hm
      simp only [Literal.isJsxText] at hm'
      simp only [literalKinds, List.contains_cons, hm', Bool.or_true]
    have hname : m.named = true := by
      rcases hnamed m (List.mem_append_left _ hm) with h | h
      · exact h
      · rw [hliteral] at h
        cases h
    have hchild := isChild_of_isLaid (hpast m (List.mem_append_left _ hm))
    refine .inr ⟨⟨n', ?_, hnew.kind_ne (by decide)⟩, ⟨m, ?_, (kind_of_literal hliteral).1⟩⟩
    · rw [namedIn_cons, hnew.isChild, hnew.named]
      exact List.mem_cons_self
    · rw [namedIn_append]
      refine List.mem_append_left _ ?_
      simp only [Pass.namedIn, List.mem_filter]
      exact ⟨⟨hm, hchild⟩, hname⟩

theorem commentContainer?_entered (dirty : Bool) {i : Info} {items items' : List Node}
    (h : Behind source items.reverse items'.reverse) (hn : (branch i items).isLaid = true)
    (htidy : (branch i items).isTidy = true) :
    Literal.commentContainer? (branch { i with dirty } items') =
      Literal.commentContainer? (branch i items) := by
  by_cases hkind : i.kind = "jsx_expression"
  · have hitems : ∀ c ∈ items, c.isLaid = true := fun c hc => isLaid_of_mem_items hn hc
    have hnamed := (isTidy_iff.1 htidy).2.2.1 hkind
    have hcases := h.namedIn (fun c hc => hitems c (List.mem_reverse.1 hc))
      fun c hc => hnamed c (List.mem_reverse.1 hc)
    rw [namedIn_reverse, namedIn_reverse, List.reverse_inj] at hcases
    have hall {named : List Node} (h : ∃ n ∈ named.reverse, n.kind ≠ "comment") :
        named.all (fun c => c.kind == "comment") = false := by
      obtain ⟨m, hm, hm'⟩ := h
      rw [List.all_eq_false]
      exact ⟨m, List.mem_reverse.1 hm, by simpa using hm'⟩
    rcases hcases with hsame | ⟨hleft, hright⟩
    · rw [Literal.commentContainer?, Literal.commentContainer?]
      change (if (i.kind == "jsx_expression" && !(namedIn items').isEmpty &&
        (namedIn items').all fun c => c.kind == "comment") = true then some (namedIn items') else none) = _
      rw [hsame]
      rfl
    · rw [Literal.commentContainer?, Literal.commentContainer?]
      change (if (i.kind == "jsx_expression" && !(namedIn items').isEmpty &&
          (namedIn items').all fun c => c.kind == "comment") = true then some (namedIn items') else none) =
        (if (i.kind == "jsx_expression" && !(namedIn items).isEmpty &&
          (namedIn items).all fun c => c.kind == "comment") = true then some (namedIn items) else none)
      rw [hall hleft, hall hright, Bool.and_false, Bool.and_false]
      rfl
  · rw [Literal.commentContainer?_of_kind (n := branch { i with dirty } items') hkind,
      Literal.commentContainer?_of_kind (n := branch i items) hkind]

theorem Became.isChild {n n' : Node} (h : Became source n n') (hn : n.isChild = true) :
    n'.isChild = true := by
  cases h with
  | same => exact hn
  | entered _ _ _ => exact hn
  | wrapped _ _ hnew => exact hnew.isChild

theorem Behind.commentsIn {past before : List Node} (h : Behind source past before)
    (hpast : ∀ n ∈ past, n.isLaid = true) (htidy : ∀ n ∈ past, n.isTidy = true) :
    Literal.commentsIn source (before.filter Node.isChild) =
      Literal.commentsIn source (past.filter Node.isChild) := by
  induction before generalizing past with
  | nil =>
    cases h
    rfl
  | cons n' before ih =>
  cases h with
  | @node n _ past _ hn h =>
    rw [List.forall_mem_cons] at hpast htidy
    have hchild := isChild_of_isLaid hpast.1
    have hrest := ih h hpast.2 htidy.2
    rw [List.filter_cons_of_pos hchild, List.filter_cons_of_pos (hn.isChild hchild)]
    cases hn with
    | same =>
      rw [Literal.commentsIn.eq_def source (n' :: _), Literal.commentsIn.eq_def source (n' :: _)]
      simp only [hrest]
    | @entered i dirty items items' hcomment htext hbehind =>
      have hcontainer := commentContainer?_entered dirty hbehind hpast.1 htidy.1
      have hkind : ∀ (m : Node) (tail : List Node), m.kind = i.kind →
          Literal.commentsIn source (m :: tail) =
            (Literal.commentContainer? m).elim [] (· ++ Literal.commentsIn source tail) := by
        intro m tail hm
        rw [Literal.commentsIn, if_neg (by simpa [hm] using hcomment), if_neg (by simp [hm, htext])]
        cases Literal.commentContainer? m <;> rfl
      rw [hkind _ _ rfl, hkind (branch i items) _ rfl, hcontainer, hrest]
    | wrapped hliteral hjsx hnew =>
      have hstops : Literal.Stops source n := by
        refine Literal.stops_of_kind (kind_of_literal hliteral).1 ?_ (kind_of_literal hliteral).2
        intro hn
        rw [Literal.isJsxText, hn] at hjsx
        exact absurd hjsx (by decide)
      rw [hnew.stops.commentsIn, hstops.commentsIn]
  | @run nodes past _ _ hjsx hstops hnew h =>
    have hnodes : nodes.filter Node.isChild = nodes :=
      filter_isChild fun n hn => hpast n (List.mem_append_left _ hn)
    rw [List.filter_cons_of_pos hnew.isChild, hnew.stops.commentsIn, List.filter_append, hnodes,
      Literal.commentsIn_of_run hjsx hstops]

end Search

section New

variable {new old : Node}

theorem named_inPlaceOf (hnew : new.isChild = true) : (new.inPlaceOf old).named = new.named := by
  cases new with
  | text t => simp [Node.isChild] at hnew
  | branch i items =>
    show (Info.inherit i old.info).named = i.named
    unfold Info.inherit
    split <;> rfl

theorem commentContainer?_eq_none {n c : Node} (hc : c ∈ n.namedChildren) (hkind : c.kind ≠ "comment") :
    Literal.commentContainer? n = none := by
  have hall : n.namedChildren.all (fun c => c.kind == "comment") = false :=
    List.all_eq_false.2 ⟨c, hc, by simpa using hkind⟩
  rw [Literal.commentContainer?, hall, Bool.and_false]
  rfl

theorem namedChildren_inPlaceOf (new old : Node) :
    (new.inPlaceOf old).namedChildren = new.namedChildren := by
  cases new <;> rfl

theorem isNew_ofString (function value : Text) (inAttribute : Bool) (hold : old.isLaid = true) :
    IsNew ((Wrap.ofString function value inAttribute).inPlaceOf old) where
  isChild := by
    rw [isChild_inPlaceOf (isChild_ofString _ _ _) hold]
    exact isChild_of_isLaid hold
  named := by
    rw [named_inPlaceOf (isChild_ofString _ _ _)]
    cases inAttribute <;> rfl
  kind := by rw [kind_inPlaceOf, kind_ofString]
  container := by
    have hkind : (Wrap.lookupCall function value []).kind = "call_expression" := rfl
    cases inAttribute with
    | false =>
      refine Literal.commentContainer?_of_kind ?_
      rw [kind_inPlaceOf, Wrap.ofString, if_neg (by decide), hkind]
      decide
    | true =>
      -- Inside the braces stands the call.
      refine commentContainer?_eq_none (c := Wrap.lookupCall function value []) ?_ (by rw [hkind]; decide)
      rw [namedChildren_inPlaceOf]
      exact List.mem_singleton_self _

theorem isNew_ofTemplate {env : Env} {key : Text} {names : List Text} {below : Made (List Node)}
    (hold : old.isLaid = true) (hkind : old.kind = "template_string") :
    IsNew (ofTemplate env key old names below).part where
  isChild := by
    rw [(stays_ofTemplate hold hkind).isChild]
    exact isChild_of_isLaid hold
  named := rfl
  kind := rfl
  container := by
    have hcall : (ofTemplate env key old names below).part.kind = "call_expression" := rfl
    exact Literal.commentContainer?_of_kind (by rw [hcall]; decide)

theorem isNew_placedRun {function raw value : Text} {more : List Node} (hold : old.isLaid = true) :
    IsNew (placedRun (Wrap.ofJsxText function raw value) old more) := by
  have hkind : (placedRun (Wrap.ofJsxText function raw value) old more).kind = "synthetic" := by
    unfold placedRun
    split <;> rfl
  refine ⟨?_, ?_, by rw [hkind]; decide, Literal.commentContainer?_of_kind (by rw [hkind]; decide)⟩
  · unfold placedRun
    split
    · rw [isChild_inPlaceOf rfl hold]
      exact isChild_of_isLaid hold
    · rfl
  · unfold placedRun
    split <;> rfl

end New

section Runs

theorem isBlank_trim {t : Text} (h : Text.isBlank t = true) : Text.isBlank (Text.trim t) = true := by
  rw [Text.isBlank, List.all_eq_true] at h ⊢
  intro c hc
  have hleft : (Text.trimLeft t).Sublist t := List.dropWhile_sublist _
  have hright : (Text.trim t).Sublist (Text.trimLeft t) := by
    rw [← List.reverse_sublist]
    simpa [Text.trim, Text.trimRight] using List.dropWhile_sublist _
  exact h c ((hright.trans hleft).subset hc)

theorem isBlank_collapseFrom {t : Text} (h : Text.isBlank t = true) (skip : Nat) :
    Text.isBlank (Literal.collapseFrom skip t) = true := by
  induction t generalizing skip with
  | nil => cases skip <;> rfl
  | cons c rest ih =>
    rw [Text.isBlank, List.all_cons, Bool.and_eq_true] at h
    cases skip with
    | succ skip => exact ih h.2 skip
    | zero =>
      rw [Literal.collapseFrom]
      split
      · rw [Text.isBlank, List.all_cons, h.1]
        exact ih h.2 0
      · rw [Text.isBlank, List.all_cons]
        exact ih h.2 _

theorem decode_of_isBlank {t : Text} (h : Text.isBlank t = true) : CharRef.decode t = .ok t := by
  rw [CharRef.decode]
  induction t with
  | nil => rfl
  | cons c rest ih =>
    rw [Text.isBlank, List.all_cons, Bool.and_eq_true] at h
    have hc : c.val ≠ 0x26 := by
      intro hc
      rw [CodePoint.isBlank, hc] at h
      exact absurd h.1 (by decide)
    rw [CharRef.decodeFrom, if_neg hc, ih h.2]
    rfl

theorem isPhrase_jsxValue_of_isBlank {script : Pattern} {raw value : Text}
    (hraw : Text.isBlank raw = true) (hvalue : Literal.jsxValue raw = .ok value) :
    Literal.isPhrase script [value] = .ok false := by
  rw [Literal.jsxValue, decode_of_isBlank hraw] at hvalue
  cases hvalue
  have hblank := isBlank_trim (isBlank_collapseFrom hraw 0)
  rw [Literal.isPhrase, if_pos (show Text.isBlank (Text.trim (Literal.collapseBreaks raw)) = true from hblank)]
  rfl

theorem textD_of_isLaid {source : Bytes} {n : Node} (h : n.isLaid = true) :
    n.textD source = Literal.runSource source [n] := by
  cases n with
  | text t => simp [isLaid] at h
  | branch i items =>
    obtain ⟨hbuilt, hdirty, -, m, e, hm, he, -⟩ := isLaid_branch.1 h
    have hrender : (branch i items).render source = .ok (source.slice (some m.offset) i.stop) := by
      rw [render, hbuilt, hdirty, hm]
      rfl
    rw [textD, text?, hrender]
    simp only [Literal.runSource, List.head?_cons, List.getLast?_singleton, Option.bind_some,
      Node.info, hm, Option.map_some, Utf8.decodeD, bind, Except.bind, Utf8.decodeFault]
    cases Utf8.decode (source.slice (some m.offset) i.stop) <;> rfl

theorem exists_stops_of_run {env : Env} {owner : Text} {f : Focus} {more : List Node} {new : Node}
    (hlaid : f.node.isLaid = true) (hjsx : ∀ n ∈ f.node :: more, Literal.isJsxText n = true)
    (hpairs : noTextPairs (f.node :: more) = true)
    (hwrap : (wrapRun? env owner f more).result = .ok (some new)) :
    ∃ n ∈ f.node :: more, Literal.Stops env.source n := by
  have hkind {n : Node} (hn : Literal.isJsxText n = true) :
      n.kind = "jsx_text" ∨ n.kind = "html_character_reference" := by
    simpa [Literal.isJsxText, Literal.jsxTextKinds] using hn
  rcases hkind (hjsx f.node List.mem_cons_self) with htext | href
  · cases more with
    | nil =>
      obtain ⟨value, hvalue, hphrase, -, -⟩ := wrapRun?_eq_some hwrap
      refine ⟨f.node, List.mem_cons_self, by rw [htext]; decide, fun _ => ?_,
        Literal.commentContainer?_of_kind (by rw [htext]; decide)⟩
      by_contra hblank
      rw [Bool.not_eq_false, textD_of_isLaid hlaid] at hblank
      rw [isPhrase_jsxValue_of_isBlank hblank hvalue] at hphrase
      cases hphrase
    | cons m more =>
      -- The second piece is no plain text, for the first one is.
      rw [noTextPairs, Bool.and_eq_true, htext] at hpairs
      refine ⟨m, List.mem_cons_of_mem _ List.mem_cons_self, Literal.stops_of_reference ?_⟩
      rcases hkind (hjsx m (List.mem_cons_of_mem _ List.mem_cons_self)) with hm | hm
      · rw [hm] at hpairs
        exact absurd hpairs.1 (by decide)
      · exact hm
  · exact ⟨f.node, List.mem_cons_self, Literal.stops_of_reference href⟩

end Runs

section Left

theorem became_reassemble {source : Bytes} {n : Node} {below : Made (List Node)}
    (hn : n.isLaid = true) (htidy : n.isTidy = true) (hkind : n.kind ≠ "comment")
    (hbelow : Behind source n.items.reverse below.part.reverse)
    (hnil : n.items = [] → below = .same []) : Became source n (reassemble n.info below).part := by
  cases n with
  | text t => simp [isLaid] at hn
  | branch i items =>
    by_cases hjsx : Literal.isJsxText (branch i items) = true
    · have hitems : items = [] := (isTidy_iff.1 htidy).1 hjsx
      subst hitems
      rw [hnil rfl]
      have hsame : (reassemble (branch i []).info (.same [])).part = branch i [] := by
        simp [reassemble, Made.same, Node.info]
      rw [hsame]
      exact .same _
    · refine .entered hkind (fun htext => hjsx ?_) hbelow
      rw [Literal.isJsxText, Node.kind, Node.info, htext]
      decide

variable {env : Env}

theorem became_of_children {owner owner' : Option Text} {frames : List Frame} {f : Focus}
    {below : Made (List Node)} {ws : List Wrapped} (hsees : Sees env owner frames f)
    (htidy : f.node.areTidy = true) (hskip : skippedKinds.contains f.node.kind = false)
    (hbelow : Visits env owner' f.node.info frames [] 0 f.children below ws)
    (hbehind : Behind env.source ((f.children.map (·.node)).reverse ++ []) (below.part.reverse ++ [])) :
    Became env.source f.node (reassemble f.node.info below).part := by
  have hlaid := hsees.parsed.laid
  rw [List.append_nil, List.append_nil, Focus.map_node_children hlaid] at hbehind
  refine became_reassemble hlaid (isTidy_of_areTidy htidy hlaid) ?_ hbehind fun hitems => ?_
  · intro hkind
    rw [hkind] at hskip
    exact absurd hskip (by decide)
  · have hchildren : f.children = [] := by
      rw [← List.map_eq_nil_iff, Focus.map_node_children hlaid, hitems]
    rw [hchildren] at hbelow
    exact hbelow.eq_of_nil.1

theorem tidy_children {f : Focus} (hlaid : f.node.isLaid = true) (htidy : f.node.areTidy = true) :
    (∀ p ∈ f.children, p.node.isLaid = true ∧ p.node.areTidy = true) ∧
      noTextPairs (f.children.map (·.node)) = true := by
  constructor
  · intro p hp
    have hmem : p.node ∈ f.node.items := by
      rw [← Focus.map_node_children hlaid]
      exact List.mem_map_of_mem hp
    exact ⟨isLaid_of_mem_items hlaid hmem, areTidy_of_mem_items htidy hmem⟩
  · rw [Focus.map_node_children hlaid]
    exact (isTidy_iff.1 (isTidy_of_areTidy htidy hlaid)).2.1

theorem isJsxText_of_run {f : Focus} {more rest : List Focus}
    (hjsx : Literal.isJsxText f.node = true)
    (hmore : more = rest.takeWhile fun p => isRunItem p.node) :
    ∀ n ∈ f.node :: more.map (·.node), Literal.isJsxText n = true := by
  refine List.forall_mem_cons.2 ⟨hjsx, fun n hn => ?_⟩
  obtain ⟨p, hp, rfl⟩ := List.mem_map.1 hn
  rw [hmore] at hp
  have hitem : isRunItem p.node = true := List.all_eq_true.1 List.all_takeWhile p hp
  exact (Bool.and_eq_true_iff.1 hitem).2

theorem Behind.of_wrapRun? {name : Text} {f : Focus} {more : List Node} {new : Node}
    {past before : List Node} (h : Behind env.source past before)
    (hwrap : (wrapRun? env name f more).result = .ok (some new)) (hlaid : f.node.isLaid = true)
    (hjsx : ∀ n ∈ f.node :: more, Literal.isJsxText n = true)
    (hpairs : noTextPairs (f.node :: more) = true) :
    Behind env.source ((f.node :: more).reverse ++ past) (new :: before) := by
  obtain ⟨n, hn, hstops⟩ := exists_stops_of_run hlaid hjsx hpairs hwrap
  refine .run (fun m hm => hjsx m (List.mem_reverse.1 hm)) ⟨n, List.mem_reverse.2 hn, hstops⟩ ?_ h
  obtain ⟨value, -, -, -, rfl⟩ := wrapRun?_eq_some hwrap
  exact isNew_placedRun hlaid

theorem map_node_reverse_run {f : Focus} {more rest : List Focus} {past : List Node}
    (hsplit : more ++ rest.drop more.length = rest) :
    ((f :: rest).map (·.node)).reverse ++ past =
      ((rest.drop more.length).map (·.node)).reverse ++
        ((f.node :: more.map (·.node)).reverse ++ past) := by
  conv_lhs => rw [← hsplit]
  simp only [List.map_cons, List.map_append, List.reverse_cons, List.reverse_append,
    List.append_assoc]

mutual

theorem Visit.became {env : Env} {owner : Option Text} {frames : List Frame} {f : Focus}
    {made : Made Node} {ws : List Wrapped} : Visit env owner frames f made ws →
      f.node.areTidy = true → Became env.source f.node made.part
  | .skipped _ _, _ => .same _
  | .otherString _ _ _ _ _, _ => .same _
  | .component hsees hskip _ _ hbelow, htidy => by
    obtain ⟨hplaces, hpairs⟩ := tidy_children hsees.parsed.laid htidy
    exact became_of_children hsees htidy hskip hbelow (hbelow.behind hplaces hpairs .nil)
  | .entered hsees henter hbelow, htidy => by
    obtain ⟨hplaces, hpairs⟩ := tidy_children hsees.parsed.laid htidy
    exact became_of_children hsees htidy henter.1 hbelow (hbelow.behind hplaces hpairs .nil)
  | .string hsees _ _ hkind hwrap, _ => by
    obtain ⟨value, -, -, -, rfl⟩ := wrapString?_eq_some hwrap
    refine .wrapped ?_ ?_ (isNew_ofString _ _ _ hsees.parsed.laid)
    all_goals
      simp only [Literal.isJsxText, hkind]
      decide
  | .template hsees _ _ hkind _ _, _ => by
    refine .wrapped ?_ ?_ (isNew_ofTemplate hsees.parsed.laid hkind)
    all_goals
      simp only [Literal.isJsxText, hkind]
      decide

theorem Visits.behind {env : Env} {owner : Option Text} {parent : Info} {frames : List Frame}
    {before : List Node} {k : Nat} {places : List Focus} {made : Made (List Node)}
    {ws : List Wrapped} : Visits env owner parent frames before k places made ws →
      (∀ p ∈ places, p.node.isLaid = true ∧ p.node.areTidy = true) →
      noTextPairs (places.map (·.node)) = true → ∀ {past : List Node},
      Behind env.source past before →
      Behind env.source ((places.map (·.node)).reverse ++ past) (made.part.reverse ++ before)
  | .nil, _, _, _, h => h
  | .run hsees _ hjsx hmore hwrap hrest, hplaces, hpairs, past, h => by
    have hsplit := append_drop_takeWhile hmore
    have hlaid := hsees.parsed.laid
    rw [map_node_reverse_run hsplit]
    rw [← hsplit, ← List.cons_append, List.map_append] at hpairs
    have hnew := h.of_wrapRun? hwrap hlaid (isJsxText_of_run hjsx hmore)
      (noTextPairs_append_left hpairs)
    have hbehind := hrest.behind
      (fun p hp => hplaces p (List.mem_cons_of_mem _ (List.mem_of_mem_drop hp)))
      (noTextPairs_append_right hpairs) hnew
    simpa using hbehind
  | .otherRun _ hmore _ hrest, hplaces, hpairs, past, h => by
    have hsplit := append_drop_takeWhile hmore
    rw [map_node_reverse_run hsplit]
    rw [← hsplit, ← List.cons_append, List.map_append] at hpairs
    have hbehind := hrest.behind
      (fun p hp => hplaces p (List.mem_cons_of_mem _ (List.mem_of_mem_drop hp)))
      (noTextPairs_append_right hpairs) (h.append_same _)
    simpa using hbehind
  | .node _ hfirst hrest, hplaces, hpairs, past, h => by
    rw [List.forall_mem_cons] at hplaces
    have hnode := hfirst.became hplaces.1.2
    have hbehind := hrest.behind hplaces.2 (noTextPairs_tail hpairs) (.node hnode h)
    simpa using hbehind

end

end Left

end Pass
end Phrasebook
