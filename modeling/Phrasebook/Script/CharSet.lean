import Phrasebook.Text.Casing
import Phrasebook.Text.Basic
import Phrasebook.Text.Letter

/-!
Sets of characters, and when two characters count as the same.
-/

namespace Phrasebook

/-- How much case counts when characters are compared. -/
inductive CaseRule
  | exact
  | latin
  | free
deriving DecidableEq

namespace CaseRule

def form (r : CaseRule) (n : Nat) : Nat :=
  match r with
  | exact => n
  | latin => if 0x41 ≤ n ∧ n ≤ 0x5A then n + 0x20 else n
  | free => CodePoint.lowerCase n

/-- The characters of the basic plane whose form counts as the same as `n`, which is a form. -/
def variants (r : CaseRule) (n : Nat) : List Nat :=
  match r with
  | exact => [n]
  | latin => if 0x61 ≤ n ∧ n ≤ 0x7A then [n, n - 0x20] else if n ≤ 0xFFFF then [n] else []
  | free => (CodePoint.casings n).filter (· ≤ 0xFFFF)

def isCased (r : CaseRule) (n : Nat) : Bool :=
  match r with
  | exact => false
  | latin => (0x41 ≤ n && n ≤ 0x5A) || (0x61 ≤ n && n ≤ 0x7A)
  | free => CodePoint.isCased n

def someCased (r : CaseRule) (low high : Nat) : Bool :=
  match r with
  | exact => false
  | latin => (low ≤ 0x5A && 0x41 ≤ high) || (low ≤ 0x7A && 0x61 ≤ high)
  | free => CodePoint.someCased low high

def hasFamily (r : CaseRule) (n : Nat) : Bool :=
  match r with
  | exact | latin => false
  | free => caseFamilies.any fun f => f.contains n

end CaseRule

/-- The classes of characters that have a letter of their own in patterns. -/
inductive CharKind
  | digit
  | blank
  | word
deriving DecidableEq

def CharKind.has (k : CharKind) (latin : Bool) (n : Nat) : Bool :=
  let c := CodePoint.ofNat n
  match k, latin with
  | digit, true => c.isDigit
  | digit, false => c.digitValue?.isSome
  | blank, true => (0x09 ≤ n && n ≤ 0x0D) || n == 0x20
  | blank, false => c.isBlank
  | word, true => c.isLatinWord
  | word, false => c.isWord

inductive Member
  | point (value : Nat)
  | range (low high : Nat)
  | kind (kind : CharKind) (negated : Bool)
deriving DecidableEq

namespace Member

/-- Whether a member holds a character in the form in which it is compared. Beyond the basic plane
a single character has to be the form itself, and a range may hold either case of it. -/
def has (m : Member) (rule : CaseRule) (latin : Bool) (n : Nat) : Bool :=
  let within (low high n : Nat) : Bool := low ≤ n && n ≤ high
  match m, rule with
  | point v, .exact => n == v
  | point v, _ => if v ≤ 0xFFFF then (rule.variants n).contains v else n == v
  | range low high, .exact => within low high n
  | range low high, _ =>
    (rule.variants n).any (within low high) ||
      (0xFFFF < high && (within low high n || within low high (CodePoint.upperCase n)))
  | kind k negated, _ => k.has latin n != negated

def isCased (m : Member) (rule : CaseRule) : Bool :=
  match m with
  | point v => rule.isCased v || (rule != .exact && 0xFFFF < v)
  | range low high => rule.someCased low high || (rule != .exact && 0xFFFF < high)
  | kind _ _ => false

end Member

/-- How a set was written, as far as a search makes use of it. -/
inductive CharSet.Style
  | literal
  | plain
  | folded
  | other
deriving DecidableEq

structure CharSet where
  style : CharSet.Style := .plain
  rule : CaseRule := .exact
  latin : Bool := false
  negated : Bool := false
  members : List Member

namespace CharSet

def has (s : CharSet) (c : CodePoint) : Bool :=
  (s.members.any fun m => m.has s.rule s.latin (s.rule.form c.val)) != s.negated

/-- The set of some members. A set that holds no cased character compares as if case counted. -/
def ofMembers (rule : CaseRule) (latin negated : Bool) (members : List Member) : CharSet :=
  if members.any fun m => m.isCased rule then { style := .folded, rule, latin, negated, members }
  else { latin, negated, members }

def ofPoint (rule : CaseRule) (negated : Bool) (n : Nat) : CharSet :=
  if rule.isCased n then
    { style := if rule.hasFamily (rule.form n) then .folded else .other
      rule, negated, members := [.point (if n ≤ 0xFFFF then n else rule.form n)] }
  else { style := if negated then .other else .literal, negated, members := [.point n] }

def any (lineFeeds : Bool) : CharSet :=
  { style := .other, negated := true, members := if lineFeeds then [] else [.point 0x0A] }

end CharSet
end Phrasebook
