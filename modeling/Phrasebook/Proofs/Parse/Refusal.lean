import Phrasebook.Parse.Answer
import Phrasebook.Proofs.Log
import Phrasebook.Proofs.Text.Utf8

/-! Where a source is refused. The search for the first fault keeps a stack of the nodes it has still to
look at, and goes below flagged nodes only. On an answer whose flags are right it finds what a search
through all nodes in preorder finds. -/

namespace Phrasebook

namespace Answer

def children : Answer → List Answer
  | node _ _ _ _ _ children => children

/-- Whether a node is itself in error or missing. -/
def isFaulty (a : Answer) : Bool := a.flags.isError || a.flags.isMissing

mutual

/-- The node and all nodes below it, each before its children, in order. -/
def preorder : Answer → List Answer
  | node kind flags start stop field children =>
    node kind flags start stop field children :: preorderIn children

def preorderIn : List Answer → List Answer
  | [] => []
  | a :: rest => preorder a ++ preorderIn rest

end

mutual

def size : Answer → Nat
  | node _ _ _ _ _ children => 1 + sizeIn children

def sizeIn : List Answer → Nat
  | [] => 0
  | a :: rest => size a + sizeIn rest

end

/-- The flags of all nodes are right: a node has one exactly when there is a fault at or below it. -/
def IsFlagged (a : Answer) : Prop := ∀ b ∈ a.preorder, b.flags.hasError = b.preorder.any isFaulty

instance (a : Answer) : Decidable a.IsFlagged := inferInstanceAs (Decidable (∀ b ∈ a.preorder, _))

theorem size_eq (a : Answer) : a.size = 1 + sizeIn a.children := by cases a; rfl

theorem sizeIn_append (as bs : List Answer) : sizeIn (as ++ bs) = sizeIn as + sizeIn bs := by
  induction as with
  | nil => simp [sizeIn]
  | cons a as ih => rw [List.cons_append, sizeIn, sizeIn, ih, Nat.add_assoc]

/-- The search with a stack, the node to be looked at next on top. -/
def search : List Answer → Option Answer
  | [] => none
  | a :: stack =>
    if a.isFaulty then some a
    else if a.flags.hasError then search (a.children ++ stack)
    else search stack
termination_by stack => sizeIn stack
decreasing_by
  · rw [sizeIn_append, sizeIn, size_eq]
    omega
  · rw [sizeIn, size_eq]
    omega

section Searches

variable {a : Answer} {as bs : List Answer}

theorem preorder_eq (a : Answer) : a.preorder = a :: preorderIn a.children := by cases a; rfl

theorem firstFault?_eq (a : Answer) : a.firstFault? =
    if a.isFaulty then some a else if a.flags.hasError then firstFaultIn? a.children else none := by
  cases a
  rw [firstFault?]
  rfl

theorem firstFaultIn?_append (as bs : List Answer) :
    firstFaultIn? (as ++ bs) = (firstFaultIn? as).or (firstFaultIn? bs) := by
  induction as with
  | nil => rfl
  | cons a as ih => rw [List.cons_append, firstFaultIn?, firstFaultIn?, ih, Option.or_assoc]

theorem search_eq_firstFaultIn? (stack : List Answer) : search stack = firstFaultIn? stack := by
  induction stack using search.induct with
  | case1 => rw [search, firstFaultIn?]
  | case2 a stack hfaulty =>
    rw [search, if_pos hfaulty, firstFaultIn?, firstFault?_eq, if_pos hfaulty, Option.some_or]
  | case3 a stack hfaulty hflag ih =>
    rw [search, if_neg hfaulty, if_pos hflag, ih, firstFaultIn?_append, firstFaultIn?, firstFault?_eq,
      if_neg hfaulty, if_pos hflag]
  | case4 a stack hfaulty hflag ih =>
    rw [search, if_neg hfaulty, if_neg hflag, ih, firstFaultIn?, firstFault?_eq, if_neg hfaulty,
      if_neg hflag, Option.none_or]

theorem mem_preorder_self (a : Answer) : a ∈ a.preorder := by
  rw [preorder_eq]
  exact List.mem_cons_self

theorem mem_preorderIn {b : Answer} : b ∈ preorderIn as ↔ ∃ a ∈ as, b ∈ a.preorder := by
  induction as with
  | nil => simp [preorderIn]
  | cons a as ih => simp [preorderIn, ih]

theorem IsFlagged.children (h : a.IsFlagged) : ∀ c ∈ a.children, c.IsFlagged := by
  intro c hc b hb
  refine h b ?_
  rw [preorder_eq]
  exact List.mem_cons_of_mem _ (mem_preorderIn.2 ⟨c, hc, hb⟩)

mutual

theorem firstFault?_eq_find? : ∀ {a : Answer}, a.IsFlagged →
    a.firstFault? = a.preorder.find? isFaulty
  | node kind flags start stop field children, h => by
    have hbelow := firstFaultIn?_eq_find? h.children
    rw [firstFault?_eq, preorder_eq, List.find?_cons]
    cases hfaulty : (node kind flags start stop field children).isFaulty with
    | true => rfl
    | false =>
      rw [if_neg Bool.false_ne_true, hbelow]
      split
      next => rfl
      next hflag =>
        -- Without the flag nothing below is faulty, so there is nothing that the search misses.
        symm
        rw [h _ (mem_preorder_self _), preorder_eq, List.any_cons, hfaulty, Bool.false_or,
          Bool.not_eq_true, List.any_eq_false] at hflag
        exact List.find?_eq_none.2 hflag

theorem firstFaultIn?_eq_find? : ∀ {as : List Answer}, (∀ a ∈ as, a.IsFlagged) →
    firstFaultIn? as = (preorderIn as).find? isFaulty
  | [], _ => rfl
  | a :: rest, h => by
    obtain ⟨ha, hrest⟩ := List.forall_mem_cons.1 h
    rw [firstFaultIn?, preorderIn, List.find?_append, firstFault?_eq_find? ha,
      firstFaultIn?_eq_find? hrest]

end

end Searches

/-- What is said of a faulty node, and where: what is missing, or else that something is unexpected, at
the row and the column where the node begins, rows counted from one. -/
def faultAt (source : Bytes) (path : Option Text) (bad : Answer) : ParseFault where
  reason := if bad.flags.isMissing then "Missing " ++ bad.kind else "Unexpected token"
  path := path
  line := some ((markOf source bad.start).row + 1)
  column := some (markOf source bad.start).column

end Answer

section Parsing

variable {parser : Parser} {backend : Backend} {code : Text} {path : Option Text} {source : Bytes}
  {answer : Answer}

theorem parse_of_isFlagged (hcode : Utf8.encode? code = some source)
    (hanswer : parser (backend.grammar path) code = some answer) (hflags : answer.IsFlagged) :
    parse parser backend code path = match answer.preorder.find? Answer.isFaulty with
      | some bad => .error (.parse (bad.faultAt source path))
      | none => .ok ⟨source, answer.toNode source⟩ := by
  have hroot := hflags answer answer.mem_preorder_self
  rw [parse, Utf8.encode_eq_ok.2 hcode]
  dsimp only [bind, Except.bind]
  rw [hanswer]
  dsimp only
  cases hfirst : answer.preorder.find? Answer.isFaulty with
  | none =>
    have hclean : answer.preorder.any Answer.isFaulty = false :=
      List.any_eq_false.2 (List.find?_eq_none.1 hfirst)
    rw [hroot, hclean, if_neg Bool.false_ne_true]
  | some bad =>
    have hfaulty : answer.preorder.any Answer.isFaulty = true :=
      List.any_eq_true.2 ⟨bad, List.mem_of_find?_eq_some hfirst, List.find?_some hfirst⟩
    rw [hroot, hfaulty, if_pos rfl, Answer.refusal, Answer.firstFault?_eq_find? hflags, hfirst]
    rfl

/-- **Where a source is refused.** A source is refused exactly when some node of the parser's answer is
in error or missing. The search that goes below flagged nodes only finds the first such node of all
nodes in preorder, and the fault tells what is wrong with this node and where it begins. -/
theorem parse_refuses (hcode : Utf8.encode? code = some source)
    (hanswer : parser (backend.grammar path) code = some answer) (hflags : answer.IsFlagged) :
    ((∃ fault, parse parser backend code path = .error (.parse fault)) ↔
      ∃ a ∈ answer.preorder, a.isFaulty = true) ∧
    ∀ bad, answer.preorder.find? Answer.isFaulty = some bad → Answer.search [answer] = some bad ∧
      parse parser backend code path = .error (.parse (bad.faultAt source path)) := by
  have hparse := parse_of_isFlagged hcode hanswer hflags
  refine ⟨⟨?_, ?_⟩, fun bad hbad => ⟨?_, ?_⟩⟩
  · rintro ⟨fault, hfault⟩
    cases hfirst : answer.preorder.find? Answer.isFaulty with
    | none =>
      rw [hparse, hfirst] at hfault
      cases hfault
    | some bad => exact ⟨bad, List.mem_of_find?_eq_some hfirst, List.find?_some hfirst⟩
  · rintro ⟨a, ha, hfaulty⟩
    obtain ⟨bad, hbad⟩ := Option.isSome_iff_exists.1 (List.find?_isSome.2 ⟨a, ha, hfaulty⟩)
    rw [hbad] at hparse
    exact ⟨_, hparse⟩
  · rw [Answer.search_eq_firstFaultIn?, Answer.firstFaultIn?, Answer.firstFaultIn?, Option.or_none,
      Answer.firstFault?_eq_find? hflags, hbad]
  · rw [hparse, hbad]

end Parsing

namespace Sample

/-- An answer for `a(` and `;` on the next line: an error behind a parenthesis that is missing. -/
def broken : Answer :=
  .node "program" ⟨true, false, false, true⟩ 0 4 none [
    .node "expression_statement" ⟨true, false, false, true⟩ 0 4 none [
      .node "call_expression" ⟨true, false, false, true⟩ 0 3 none [
        .node "identifier" ⟨true, false, false, false⟩ 0 1 (some "function") [],
        .node "arguments" ⟨true, false, false, true⟩ 1 3 (some "arguments") [
          .node "(" ⟨false, false, false, false⟩ 1 2 none [],
          .node ")" ⟨false, false, true, true⟩ 3 3 none []]],
      .node "ERROR" ⟨true, true, false, true⟩ 3 4 none []]]

/-- The parenthesis that is missing in it. -/
def missing : Answer := .node ")" ⟨false, false, true, true⟩ 3 3 none []

end Sample

theorem parse_refuses_missing : Sample.broken.IsFlagged ∧
    Answer.search [Sample.broken] = some Sample.missing ∧
    parse (fun _ _ => some Sample.broken) .tsx "a(\n;" none =
      .error (.parse ⟨"Missing " ++ ")", none, some 2, some 0⟩) := by
  have hflags : Sample.broken.IsFlagged := by decide +kernel
  have hcode : Utf8.encode? "a(\n;" = some [0x61, 0x28, 0x0A, 0x3B] := by decide +kernel
  obtain ⟨hsearch, hparse⟩ := (@parse_refuses (fun _ _ => some Sample.broken) .tsx "a(\n;" none
    [0x61, 0x28, 0x0A, 0x3B] Sample.broken hcode rfl hflags).2 Sample.missing rfl
  exact ⟨hflags, hsearch, hparse⟩

end Phrasebook
