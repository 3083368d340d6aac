import Phrasebook.Script.Escape
import Phrasebook.Text.Identifier

/-!
Reading the written form of a pattern: sets, repetitions, groups, flags and alternatives.
-/

namespace Phrasebook

namespace PatternReader

def element (token : Text) : PatternReader Member :=
  match token with
  | c :: _ :: _ => if c.val = 0x5C then setEscape token else return .point c.val
  | [c] => return .point c.val
  | [] => return .point 0

def members (opening : Nat) (found : List Member) : Nat → PatternReader (List Member)
  | 0 => refuseAt "unterminated character set" opening
  | fuel + 1 => do
    match ← take? with
    | none => refuseAt "unterminated character set" opening
    | some token =>
      if token = "]" ∧ found ≠ [] then return found
      let low ← element token
      if ← accept '-' then
        match ← take? with
        | none => refuseAt "unterminated character set" opening
        | some other =>
          if other = "]" then return found ++ [low, .point 0x2D]
          let high ← element other
          let range := token ++ "-" ++ other
          match low, high with
          | .point a, .point b =>
            if b < a then refuse ("bad character range " ++ range) range.length
            else members opening (found ++ [.range a b]) fuel
          | _, _ => refuse ("bad character range " ++ range) range.length
      else members opening (found ++ [low]) fuel

def charSet (opening : Nat) : PatternReader Atom := do
  let negated ← accept '^'
  let found ← members opening [] ((← get).ahead.length + 1)
  match found.eraseDups with
  | [.point n] => return if negated then .otherThan n else .point n
  | all => return .set negated all

structure Bounds where
  least : Nat
  most : Option Nat

def boundLimit : Nat := 4294967295

def bound (digits : Text) : PatternReader Nat := do
  if digitLimit < digits.length then throw (.tooLong digits.length)
  let n := Text.digitNumber 10 digits
  if boundLimit ≤ n then throw .tooLarge else return n

/-- The bounds in braces, the opening one already read; none when the brace is a plain
character, and then nothing is read. -/
def braces : PatternReader (Option Bounds) := do
  let before ← get
  if ← atChar '\x7d' then return none
  let size := before.ahead.length
  let low ← takeWhile CodePoint.isDigit size
  let high ← if ← accept ',' then takeWhile CodePoint.isDigit size else pure low
  if !(← accept '\x7d') then
    set before
    return none
  let least ← if low.isEmpty then pure 0 else bound low
  if high.isEmpty then return some ⟨least, none⟩
  let most ← bound high
  if most < least then refuseAt "min repeat greater than max repeat" before.position
  return some ⟨least, some most⟩

def repeatLast (items : List PatternSyntax) (bounds : Bounds) (position : Nat) :
    PatternReader (List PatternSyntax) := do
  match items.getLast? with
  | none | some (.atom (.anchor _)) => refuseAt "nothing to repeat" position
  | some (.rep _ _ _ _) => refuseAt "multiple repeat" position
  | some item =>
    let repeated (greed : Greed) := items.dropLast ++ [.rep greed bounds.least bounds.most item]
    if ← accept '?' then return repeated .fewest
    if ← accept '+' then return repeated .possessive
    return repeated .most

def flag? (token : Text) : Option (Option PatternFlag) :=
  if token = "i" then some (some .ignoreCase)
  else if token = "m" then some (some .multiline)
  else if token = "s" then some (some .dotAll)
  else if token = "x" then some (some .verbose)
  else if token = "a" then some (some .latin)
  else if token = "u" then some (some .unicode)
  else if token = "t" then some (some .template)
  else if token = "L" then some none
  else none

def isAlphabet (f : PatternFlag) : Bool := f == .latin || f == .unicode

def refuseFlag {α : Type} (token : Text) (expected : String) : PatternReader α :=
  let isLetter : Bool := match token with
    | [c] => c.isLetter
    | _ => false
  refuse (if isLetter then "unknown flag" else expected) token.length

def flagsOn (found : List PatternFlag) (token : Text) : Nat → PatternReader (List PatternFlag × Text)
  | 0 => return (found, token)
  | fuel + 1 => do
    match flag? token with
    | none => refuseFlag token "missing -, : or )"
    | some none => refuse "bad inline flags: cannot use \x27L\x27 flag with a str pattern"
    | some (some f) =>
      if isAlphabet f ∧ found.any fun g => isAlphabet g && g != f then
        refuse "bad inline flags: flags \x27a\x27, \x27u\x27 and \x27L\x27 are incompatible"
      match ← take? with
      | none => refuse "missing -, : or )"
      | some next =>
        if next = ")" ∨ next = "-" ∨ next = ":" then return (found ++ [f], next)
        else flagsOn (found ++ [f]) next fuel

def flagsOff (found : List PatternFlag) (token : Text) (expected : String) :
    Nat → PatternReader (List PatternFlag)
  | 0 => return found
  | fuel + 1 => do
    let refused := "bad inline flags: cannot turn off flags \x27a\x27, \x27u\x27 and \x27L\x27"
    match flag? token with
    | none => refuseFlag token expected
    | some none => refuse refused
    | some (some f) =>
      if isAlphabet f then refuse refused
      match ← take? with
      | none => refuse "missing :"
      | some next =>
        if next = ":" then return found ++ [f]
        else flagsOff (found ++ [f]) next "missing :" fuel

/-- Flags after the opening of a group, the first token given: those to turn on and off inside the
group, or none when they are for the whole pattern. -/
def flags (token : Text) : PatternReader (Option (List PatternFlag × List PatternFlag)) := do
  let fuel := (← get).ahead.length + 1
  let (on, next) ← if token = "-" then pure ([], token) else flagsOn [] token fuel
  if next = ")" then
    modify fun d => { d with flags := d.flags ++ on }
    return none
  if PatternFlag.template ∈ on then refuse "bad inline flags: cannot turn on global flag" 1
  let off ← if next = "-" then
      match ← take? with
      | none => refuse "missing flag"
      | some first => flagsOff [] first "missing flag" fuel
    else pure []
  if PatternFlag.template ∈ off then refuse "bad inline flags: cannot turn off global flag" 1
  if on.any fun f => off.contains f then refuse "bad inline flags: flag turned on and off" 1
  return some (on, off)

def groupName (close : Char) : PatternReader Text := do
  let name ← takeUntil close "group name"
  if name.isIdentifier then return name
  else refuse ("bad character in group name " ++ Text.quoted name) (name.length + 1)

def groupNamed (name : Text) : PatternReader Nat := do
  match (← get).names.lookup name with
  | some group => return group
  | none => refuse ("unknown group name " ++ Text.quoted name) (name.length + 1)

def groupLimit : Nat := 1073741823

def groupNumbered (name : Text) : PatternReader Nat := do
  let back := name.length + 1
  match name.toInt? with
  | some (.ofNat 0) => refuse "bad group number" back
  | some (.ofNat n) =>
    if groupLimit ≤ n then refuse ("invalid group reference " ++ Text.ofNat n) back
    modify fun d =>
      if (d.promised.lookup n).isSome then d
      else { d with promised := d.promised ++ [(n, d.position - back)] }
    return n
  | _ => refuse ("bad character in group name " ++ Text.quoted name) back

def condition : PatternReader Nat := do
  let name ← takeUntil ')' "group name"
  let group ← if name.isIdentifier then groupNamed name else groupNumbered name
  checkBehind group
  return group

def openGroup (name : Option Text) : PatternReader Nat := do
  let d ← get
  let index := d.groups
  match name with
  | none => set { d with widths := d.widths ++ [none] }
  | some name =>
    match d.names.lookup name with
    | some other =>
      refuse ("redefinition of group name " ++ Text.quoted name ++ " as group " ++
        Text.ofNat index ++ "; was group " ++ Text.ofNat other) (name.length + 1)
    | none =>
      set { d with widths := d.widths ++ [none], names := d.names ++ [(name, index)] }
  return index

def closeGroup (index : Nat) (body : PatternSyntax) : PatternReader Unit :=
  modify fun d =>
    let known (g : Nat) : Nat × Nat := (d.closed? g).getD (0, 0)
    { d with widths := d.widths.set (index - 1) (some (body.width known)) }

inductive Opening
  | plain (name : Option Text)
  | uncounted (on off : List PatternFlag)
  | atomic
  | look (behind negated : Bool)
  | given (group : Nat)
  | again (group : Nat)
  | comment
  | global

def groupOpening (opening : Nat) : PatternReader Opening := do
  if !(← accept '?') then return .plain none
  match ← take? with
  | none => refuse "unexpected end of pattern"
  | some token =>
    if token = "P" then
      if ← accept '<' then return .plain (some (← groupName '>'))
      else if ← accept '=' then
        let name ← groupName ')'
        let group ← groupNamed name
        if ((← get).closed? group).isNone then
          refuse "cannot refer to an open group" (name.length + 1)
        checkBehind group
        return .again group
      else
        match ← take? with
        | none => refuse "unexpected end of pattern"
        | some other => refuse ("unknown extension ?P" ++ other) (other.length + 2)
    else if token = ":" then return .uncounted [] []
    else if token = "#" then
      let fuel := (← get).ahead.length + 1
      if ← skipPast ')' fuel then return .comment
      else refuseAt "missing ), unterminated comment" opening
    else if token = "=" then return .look false false
    else if token = "!" then return .look false true
    else if token = "<" then
      match ← take? with
      | none => refuse "unexpected end of pattern"
      | some other =>
        if other = "=" then return .look true false
        else if other = "!" then return .look true true
        else refuse ("unknown extension ?<" ++ other) (other.length + 2)
    else if token = "(" then return .given (← condition)
    else if token = ">" then return .atomic
    else if (flag? token).isSome ∨ token = "-" then
      match ← flags token with
      | none => return .global
      | some (on, off) => return .uncounted on off
    else refuse ("unknown extension ?" ++ token) (token.length + 1)

def closing (opening : Nat) : PatternReader Unit := do
  if !(← accept ')') then refuseAt "missing ), unterminated subpattern" opening

def isSpacing (token : Text) : Bool :=
  match token with
  | [c] => (0x09 ≤ c.val && c.val ≤ 0x0D) || c.val == 0x20
  | _ => false

mutual

/-- Alternatives up to a closing bracket or the end; `top` for those of the whole pattern. -/
def alternatives (verbose top : Bool) (found : List (List PatternSyntax)) :
    Nat → PatternReader (List PatternSyntax)
  | 0 => return []
  | fuel + 1 => do
    let items ← sequence verbose (top && found.isEmpty) [] fuel
    let found := found ++ [PatternSyntax.ungroup items]
    if ← accept '|' then
      let flags := (← get).flags
      alternatives (if top then flags.contains .verbose else verbose) top found fuel
    else return PatternSyntax.ofAlternatives found

/-- Items up to a bar, a closing bracket or the end; `first` when flags for the whole pattern may
stand here. -/
def sequence (verbose first : Bool) (items : List PatternSyntax) :
    Nat → PatternReader (List PatternSyntax)
  | 0 => return items
  | fuel + 1 => do
    let position := (← get).position
    if (← atChar '|') || (← atChar ')') then return items
    match ← take? with
    | none => return items
    | some token =>
      let go (items : List PatternSyntax) := sequence verbose first items fuel
      let repeated (bounds : Bounds) := do go (← repeatLast items bounds position)
      if verbose && isSpacing token then go items
      else if verbose && token == "#" then
        let _ ← skipPast '\n' ((← get).ahead.length + 1)
        go items
      else if token.head?.any (fun c => c.val == 0x5C) then
        go (items ++ [.atom (← escape token)])
      else if token = "[" then go (items ++ [.atom (← charSet position)])
      else if token = "?" then repeated ⟨0, some 1⟩
      else if token = "*" then repeated ⟨0, none⟩
      else if token = "+" then repeated ⟨1, none⟩
      else if token = "\x7b" then
        match ← braces with
        | some bounds => repeated bounds
        | none => go (items ++ [.atom (.point 0x7B)])
      else if token = "." then go (items ++ [.atom .any])
      else if token = "^" then go (items ++ [.atom (.anchor .caret)])
      else if token = "$" then go (items ++ [.atom (.anchor .dollar)])
      else if token = "(" then
        match ← groupOpening position with
        | .comment => go items
        | .again group => go (items ++ [.atom (.again group)])
        | .global =>
          if !first || !items.isEmpty then
            refuseAt "global flags not at the start of the expression" position
          sequence ((← get).flags.contains .verbose) first items fuel
        | .look behind negated =>
          let outer := (← get).behind
          if behind && outer.isNone then modify fun d => { d with behind := some d.groups }
          let body ← alternatives verbose false [] fuel
          modify fun d => { d with behind := outer }
          closing position
          go (items ++ [.look behind negated (.ofItems body)])
        | .given group =>
          let yes ← sequence verbose false [] fuel
          let no ← if ← accept '|' then
              let no ← sequence verbose false [] fuel
              if ← atChar '|' then refuse "conditional backref with more than two branches"
              pure no
            else pure []
          closing position
          go (items ++ [.given group (.ofItems (PatternSyntax.ungroup yes))
            (.ofItems (PatternSyntax.ungroup no))])
        | .atomic =>
          let body ← alternatives verbose false [] fuel
          closing position
          go (items ++ [.atomic (.ofItems body)])
        | .uncounted on off =>
          let inner := (verbose || on.contains .verbose) && !off.contains .verbose
          let body ← alternatives inner false [] fuel
          closing position
          go (items ++ [.group none on off (.ofItems body)])
        | .plain name =>
          let index ← openGroup name
          let body := PatternSyntax.ofItems (← alternatives verbose false [] fuel)
          closing position
          closeGroup index body
          go (items ++ [.group (some index) [] [] body])
      else go (items ++ [.atom (.point ((token.head?.map (·.val)).getD 0))])

end

end PatternReader

def PatternSyntax.read (t : Text) : Except PatternRefusal (PatternSyntax × PatternDraft) :=
  let reading : PatternReader PatternSyntax := do
    PatternReader.check
    let items ← PatternReader.alternatives false true [] (3 * t.length + 3)
    let d ← get
    if d.flags.contains .latin && d.flags.contains .unicode then throw .clash
    if !d.ahead.isEmpty then PatternReader.refuse "unbalanced parenthesis"
    match d.promised.find? fun (g, _) => d.groups ≤ g with
    | some (g, position) =>
      PatternReader.refuseAt ("invalid group reference " ++ Text.ofNat g) position
    | none => return .ofItems items
  reading.run { position := 0, ahead := t }

end Phrasebook
