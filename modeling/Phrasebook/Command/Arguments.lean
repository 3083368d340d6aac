import Phrasebook.Json.Writer
import Phrasebook.Text.Basic

/-!
Reading the arguments of a command. All arguments are classified first, and an ambiguous one is
refused then; after that they are taken from left to right, and what no option takes is refused at
the end.
-/

namespace Phrasebook.Command

inductive Kind
  | help
  | switch
  | text
  | choice (among : List String)
  | number
deriving DecidableEq

/-- An option: its spellings, the long one last, and what it takes. -/
structure Flag where
  names : List Text
  kind : Kind
deriving DecidableEq

namespace Flag

def takesValue (f : Flag) : Bool := f.kind != .help && f.kind != .switch

def key (f : Flag) : Text := f.names.getLastD []

def title (f : Flag) : Text := Text.join "/" f.names

end Flag

inductive UsageFault
  | ambiguous (given : Text) (candidates : List Text)
  | missingValue (flag : Flag)
  | strayValue (flag : Flag) (value : Text)
  | notAmong (flag : Flag) (value : Text) (among : List String)
  | notNumber (flag : Flag) (value : Text)
  | unrecognized (arguments : List Text)

def UsageFault.message : UsageFault → Text
  | ambiguous given candidates =>
    "ambiguous option: " ++ given ++ " could match " ++ Text.join ", " candidates
  | missingValue flag => "argument " ++ flag.title ++ ": expected one argument"
  | strayValue flag value =>
    "argument " ++ flag.title ++ ": ignored explicit argument " ++ Text.quoted value
  | notAmong flag value among =>
    "argument " ++ flag.title ++ ": invalid choice: " ++ Text.quoted value ++ " (choose from " ++
      Text.join ", " (among.map fun c => Text.quoted (Text.ofString c)) ++ ")"
  | notNumber flag value =>
    "argument " ++ flag.title ++ ": invalid int value: " ++ Text.quoted value
  | unrecognized arguments => "unrecognized arguments: " ++ Text.join " " arguments

/-- Why no run follows: help was asked for, or the arguments cannot be used. -/
inductive Stop
  | help
  | usage (fault : UsageFault)

abbrev Selection := List (Text × Json)

namespace Selection

def has (s : Selection) (key : Text) : Bool := s.any fun e => e.1 == key

def values (s : Selection) (key : Text) : List Json :=
  (s.filter fun e => e.1 == key).map (·.2)

def value (s : Selection) (key : Text) : Json := (s.values key).getLastD .null

end Selection

/-- An option in one of its spellings, with the value attached to it in the same argument. -/
structure Reading where
  flag : Flag
  spelling : Text
  attached : Option Text

inductive Token
  | word (t : Text)
  | option (reading : Reading)
  | unknown (t : Text)
  | divider

def dash : CodePoint := CodePoint.ofChar '-'

def splitEquals (t : Text) : Option (Text × Text) :=
  let equals := CodePoint.ofChar '='
  if equals ∈ t then
    let head := t.takeWhile (· != equals)
    some (head, t.drop (head.length + 1))
  else none

def findFlag? (flags : List Flag) (spelling : Text) : Option Flag :=
  flags.find? fun f => f.names.contains spelling

def isNegativeNumber (t : Text) : Bool :=
  let isDigit (c : CodePoint) : Bool := c.digitValue?.isSome
  let body := if t.getLast? = some (CodePoint.ofNat 0x0A) then t.dropLast else t
  match body with
  | [] => false
  | sign :: number =>
    let rest := number.dropWhile isDigit
    sign == dash &&
      ((rest.isEmpty && !number.isEmpty) ||
        match rest with
        | point :: places => point.val == 0x2E && !places.isEmpty && places.all isDigit
        | [] => false)

/-- The ways to read an argument as an option that is abbreviated or that is followed by its
value. -/
def readings (flags : List Flag) (t : Text) : List Reading :=
  let spelled : List (Flag × Text) := flags.flatMap fun f => f.names.map fun n => (f, n)
  match t with
  | _ :: second :: _ =>
    if second = dash then
      let (lead, attached) := match splitEquals t with
        | some (lead, value) => (lead, some value)
        | none => (t, none)
      spelled.filterMap fun (f, n) => if Text.startsWith n lead then some ⟨f, n, attached⟩ else none
    else
      spelled.filterMap fun (f, n) =>
        if n = t.take 2 then some ⟨f, n, some (t.drop 2)⟩
        else if Text.startsWith n t then some ⟨f, n, none⟩ else none
  | _ => []

/-- The option that an argument spells out in full, with the value behind an equals sign. -/
def exactReading? (flags : List Flag) (t : Text) : Option Reading :=
  match findFlag? flags t with
  | some f => some ⟨f, t, none⟩
  | none => do
    let (spelling, value) ← splitEquals t
    let f ← findFlag? flags spelling
    return ⟨f, spelling, some value⟩

def classify (flags : List Flag) (t : Text) : Except Stop Token :=
  if t.head? != some dash || t.length = 1 then .ok (.word t)
  else
    match exactReading? flags t with
    | some r => .ok (.option r)
    | none =>
      match readings flags t with
      | [r] => .ok (.option r)
      | [] =>
        if isNegativeNumber t || t.any (fun c => c.val == 0x20) then .ok (.word t)
        else .ok (.unknown t)
      | many => .error (.usage (.ambiguous t (many.map Reading.spelling)))

def classifyAll (flags : List Flag) : List Text → Except Stop (List Token)
  | [] => .ok []
  | t :: rest =>
    if t = "--" then .ok (.divider :: rest.map .word)
    else do
      let token ← classify flags t
      return token :: (← classifyAll flags rest)

abbrev Uses := List (Flag × Option Text)

/-- The options in one argument: short switches may stand together, and the last option of such a
cluster may take what is left as its value. -/
def spread (flags : List Flag) (isShort : Bool) (flag : Flag) : Text → Except UsageFault Uses
  | [] => if flag.takesValue then .ok [(flag, some [])] else .error (.strayValue flag [])
  | c :: rest =>
    if flag.takesValue then .ok [(flag, some (c :: rest))]
    else if !isShort then .error (.strayValue flag (c :: rest))
    else
      match findFlag? flags [dash, c], rest with
      | none, _ => .error (.strayValue flag (c :: rest))
      | some next, [] => .ok [(flag, none), (next, none)]
      | some next, rest => do return (flag, none) :: (← spread flags isShort next rest)

/-- What an option makes of its value. Two dashes as a value leave an empty list, whatever the
option is for. -/
def take (flag : Flag) (value : Text) : Except Stop Selection :=
  match flag.kind with
  | .help => .error .help
  | .switch => .ok [(flag.key, .bool true)]
  | kind =>
    if value = "--" then .ok [(flag.key, .arr [])]
    else
      match kind with
      | .choice among =>
        if among.any fun c => Text.ofString c == value then .ok [(flag.key, .str value)]
        else .error (.usage (.notAmong flag value among))
      | .number =>
        match Text.toInt? value with
        | some n => .ok [(flag.key, .int n)]
        | none => .error (.usage (.notNumber flag value))
      | _ => .ok [(flag.key, .str value)]

/-- Options and their values taken in order; the last one takes `next` when it still lacks a
value. -/
def takeAll (next : Text) : Uses → Except Stop Selection
  | [] => .ok []
  | (flag, value) :: rest => do
    let first ← take flag (value.getD next)
    return first ++ (← takeAll next rest)

def lacking? (uses : Uses) : Option Flag :=
  match uses.getLast? with
  | some (flag, none) => if flag.takesValue then some flag else none
  | _ => none

/-- Tokens taken from left to right; `extra` collects the arguments that no option takes. -/
def consume (flags : List Flag) (done : Selection) (extra : List Text) :
    List Token → Except Stop Selection
  | [] => if extra.isEmpty then .ok done else .error (.usage (.unrecognized extra))
  | .word t :: rest => consume flags done (extra ++ [t]) rest
  | .unknown t :: rest => consume flags done (extra ++ [t]) rest
  | .divider :: rest => consume flags done (extra ++ [Text.ofString "--"]) rest
  | .option r :: rest => do
    let asked : Uses ← match r.attached with
      | none => .ok [(r.flag, none)]
      | some value =>
        let isShort := (r.spelling.drop 1).head? != some dash
        (spread flags isShort r.flag value).mapError Stop.usage
    match lacking? asked, rest with
    | none, rest => consume flags (done ++ (← takeAll [] asked)) extra rest
    | some _, .word t :: rest => consume flags (done ++ (← takeAll t asked)) extra rest
    | some lacking, _ => .error (.usage (.missingValue lacking))

def readArguments (flags : List Flag) (arguments : List Text) : Except Stop Selection := do
  consume flags [] [] (← classifyAll flags arguments)

end Phrasebook.Command
