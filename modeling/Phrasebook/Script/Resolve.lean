import Phrasebook.Script.Reader

/-!
From the written form of a pattern to the pattern: flags are applied, and what must have a fixed
width is checked.
-/

namespace Phrasebook

def PatternFlag.combine (flags on off : List PatternFlag) : List PatternFlag :=
  let isAlphabet (f : PatternFlag) : Bool := f == latin || f == unicode
  let kept := if on.any isAlphabet then flags.filter fun f => !isAlphabet f else flags
  (kept ++ on).filter fun f => !off.contains f

def CaseRule.ofFlags (flags : List PatternFlag) : CaseRule :=
  if flags.contains .ignoreCase then if flags.contains .latin then latin else free else exact

def AnchorSign.resolve (flags : List PatternFlag) : AnchorSign → Anchor
  | caret => if flags.contains .multiline then .lineStart else .textStart
  | dollar => if flags.contains .multiline then .lineEnd else .lastLineEnd
  | textStart => .textStart
  | textEnd => .textEnd
  | edge => .wordEdge (flags.contains .latin) false
  | noEdge => .wordEdge (flags.contains .latin) true

def Atom.resolve (flags : List PatternFlag) : Atom → PatternTree
  | point n => .one (CharSet.ofPoint (.ofFlags flags) false n)
  | otherThan n => .one (CharSet.ofPoint (.ofFlags flags) true n)
  | set negated members =>
    .one (CharSet.ofMembers (.ofFlags flags) (flags.contains .latin) negated members)
  | any => .one (CharSet.any (flags.contains .dotAll))
  | anchor sign => .anchor (sign.resolve flags)
  | again group => .again (.ofFlags flags) group

def Greed.name : Greed → String
  | most => "MAX_REPEAT"
  | fewest => "MIN_REPEAT"
  | possessive => "POSSESSIVE_REPEAT"

namespace PatternSyntax

def resolve (groups : Nat → Nat × Nat) (flags : List PatternFlag) :
    PatternSyntax → Except PatternRefusal PatternTree
  | empty => return .empty
  | never => return .never
  | atom a => return a.resolve flags
  | seq first second => do return .seq (← resolve groups flags first) (← resolve groups flags second)
  | alt left right => do return .alt (← resolve groups flags left) (← resolve groups flags right)
  | rep greed least most body => do
    if flags.contains .template then
      throw (.general ("internal: unsupported template operator " ++ greed.name : String))
    return .rep greed least most (← resolve groups flags body)
  | group index on off body => do
    let p ← resolve groups (PatternFlag.combine flags on off) body
    match index with
    | some i => return .group i p
    | none => return p
  | given index yes no => do
    let yes' ← resolve groups flags yes
    match no with
    | empty => return .given index yes'
    | _ => return .givenElse index yes' (← resolve groups flags no)
  | look behind negated body => do
    if behind then
      let (low, high) := body.width groups
      if low ≠ high then throw (.general "look-behind requires fixed-width pattern")
      return .look negated (some low) (← resolve groups flags body)
    else return .look negated none (← resolve groups flags body)
  | atomic body => do return .atomic (← resolve groups flags body)

/-- What is known of the characters at which a match may begin. -/
inductive Opening
  | nothing
  | literal (value : Nat)
  | unknown

/-- The literal that every match begins with; groups are looked into, and empty ones passed over. -/
def openingLiteral (flags : List PatternFlag) : PatternSyntax → Opening
  | empty => .nothing
  | atom (.point n) => if (CaseRule.ofFlags flags).isCased n then .unknown else .literal n
  | seq first second =>
    match openingLiteral flags first with
    | .nothing => openingLiteral flags second
    | found => found
  | group _ on off body => openingLiteral (PatternFlag.combine flags on off) body
  | _ => .unknown

/-- The literals with which alternatives begin, if each begins with one that has no case. -/
def choiceLiterals? (rule : CaseRule) : PatternSyntax → Option (List Member)
  | never => some []
  | alt left right =>
    match left.first with
    | atom (.point n) =>
      if rule.isCased n then none else (choiceLiterals? rule right).map (.point n :: ·)
    | _ => none
  | _ => none

def isOpen (rule : CaseRule) : Member → Bool
  | .point n => !rule.isCased n
  | .range low high => rule = .exact || (high ≤ 0xFFFF && !rule.someCased low high)
  | .kind _ _ => true

/-- The set that the first item is, groups looked into; whether it is inverted, and its members. -/
def openingSet? (flags : List PatternFlag) : PatternSyntax → Option (Bool × List Member)
  | atom (.set negated members) =>
    if members.all (isOpen (.ofFlags flags)) then some (negated, members) else none
  | alt left right => (choiceLiterals? (.ofFlags flags) (alt left right)).map fun all => (false, all)
  | seq first _ => openingSet? flags first
  | group _ on off body => openingSet? (PatternFlag.combine flags on off) body
  | _ => none

/-- The characters at which a match may begin, where they can be told from the first items. The
kinds of characters are taken as the flags of the whole pattern say, also inside groups that
change them. -/
def start? (flags : List PatternFlag) (form : PatternSyntax) : Option CharSet :=
  match form.openingLiteral flags with
  | .literal n => some { members := [.point n] }
  | _ => (form.openingSet? flags).map fun (negated, members) =>
    { latin := flags.contains .latin, negated, members }

end PatternSyntax

namespace PatternTree

def reach : PatternTree → Nat
  | look _ back body => max (back.getD 0) body.reach
  | seq first second => max first.reach second.reach
  | alt left right => max left.reach right.reach
  | rep _ _ _ body => body.reach
  | group _ body => body.reach
  | given _ yes => yes.reach
  | givenElse _ yes no => max yes.reach no.reach
  | atomic body => body.reach
  | _ => 0

def reachLimit : Nat := 2147483648

end PatternTree

def Pattern.read (t : Text) : Except PatternRefusal Pattern := do
  let (form, draft) ← PatternSyntax.read t
  let groups (g : Nat) : Nat × Nat := (draft.closed? g).getD (0, 0)
  let tree ← form.resolve groups draft.flags
  if PatternTree.reachLimit ≤ tree.reach then throw .tooWide
  let least := (form.width groups).1
  return { tree, least, start := if least = 0 then none else form.start? draft.flags }

end Phrasebook
