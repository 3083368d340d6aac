import Phrasebook.Script.Syntax
import Phrasebook.Text.Quoted

/-!
The text of a pattern while it is read, token by token, and how a text that is no pattern is
refused: with a reason and, mostly, the place it is about.
-/

namespace Phrasebook

inductive PatternRefusal
  | located (reason : Text) (position : Nat)
  | general (reason : Text)
  /-- A bound of a repetition, or the number of a character, that is too large. -/
  | tooLarge
  | tooLong (digits : Nat)
  | tooWide
  | clash

/-- The wording of a place; in a pattern of several lines it is also told by line and column. -/
def PatternRefusal.placeMessage (source reason : Text) (position : Nat) : Text :=
  let newline := CodePoint.ofNat 0x0A
  let base := reason ++ " at position " ++ Text.ofNat position
  if newline ∈ source then
    let lines := Text.cut newline (source.take position)
    base ++ " (line " ++ Text.ofNat lines.length ++ ", column " ++
      Text.ofNat ((lines.getLastD []).length + 1) ++ ")"
  else base

/-- What has been read of a pattern, apart from its items. -/
structure PatternDraft where
  position : Nat
  ahead : Text
  flags : List PatternFlag := []
  names : List (Text × Nat) := []
  widths : List (Option (Nat × Nat)) := []
  /-- Inside a look behind, the number that the next group had when it was opened. -/
  behind : Option Nat := none
  /-- Groups that conditions name by number, and the places where they first do. -/
  promised : List (Nat × Nat) := []

namespace PatternDraft

def groups (d : PatternDraft) : Nat := d.widths.length + 1

def closed? (d : PatternDraft) (group : Nat) : Option (Nat × Nat) :=
  if group = 0 then none else (d.widths[group - 1]?).join

def token? (d : PatternDraft) : Option Text :=
  match d.ahead with
  | [] => none
  | c :: rest => some (c :: if c.val = 0x5C then rest.take 1 else [])

end PatternDraft

abbrev PatternReader := StateT PatternDraft (Except PatternRefusal)

namespace PatternReader

def refuse {α : Type} (reason : Text) (back : Nat := 0) : PatternReader α := do
  throw (.located reason ((← get).position - back))

def refuseAt {α : Type} (reason : Text) (position : Nat) : PatternReader α :=
  throw (.located reason position)

def check : PatternReader Unit := do
  let d ← get
  match d.ahead with
  | [c] => if c.val = 0x5C then refuse "bad escape (end of pattern)" else return
  | _ => return

def next? : PatternReader (Option Text) := do return (← get).token?

def take? : PatternReader (Option Text) := do
  let token ← next?
  let size := (token.getD []).length
  modify fun d => { d with position := d.position + size, ahead := d.ahead.drop size }
  check
  return token

def atChar (c : Char) : PatternReader Bool := do return (← next?) == some [CodePoint.ofChar c]

def accept (c : Char) : PatternReader Bool := do
  if ← atChar c then
    let _ ← take?
    return true
  else return false

def takeWhile (ok : CodePoint → Bool) : Nat → PatternReader Text
  | 0 => return []
  | n + 1 => do
    match ← next? with
    | some [c] =>
      if ok c then
        let _ ← take?
        return c :: (← takeWhile ok n)
      else return []
    | _ => return []

def takeUntilFrom (close : Char) (what : String) (found : Text) : Nat → PatternReader Text
  | 0 => return found
  | fuel + 1 => do
    match ← take? with
    | none =>
      let reason := "missing " ++ String.singleton close ++ ", unterminated name"
      if found.isEmpty then refuse ("missing " ++ what : String) else refuse reason found.length
    | some token =>
      if token = [CodePoint.ofChar close] then
        if found.isEmpty then refuse ("missing " ++ what : String) 1 else return found
      else takeUntilFrom close what (found ++ token) fuel

def takeUntil (close : Char) (what : String) : PatternReader Text := do
  takeUntilFrom close what [] ((← get).ahead.length + 1)

/-- Passes everything up to a character and that character too; tells whether it was there. -/
def skipPast (c : Char) : Nat → PatternReader Bool
  | 0 => return false
  | fuel + 1 => do
    match ← take? with
    | none => return false
    | some token => if token = [CodePoint.ofChar c] then return true else skipPast c fuel

end PatternReader
end Phrasebook
