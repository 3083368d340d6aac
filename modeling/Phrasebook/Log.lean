import Phrasebook.Fault

/-!
Log entries, and computations that write them. What was logged stays logged when a computation
fails.
-/

namespace Phrasebook

inductive Level
  | debug
  | info
  | warning
  | error
deriving DecidableEq

def Level.rank : Level → Int
  | .debug => 10
  | .info => 20
  | .warning => 30
  | .error => 40

def Level.name : Level → Text
  | .debug => "DEBUG"
  | .info => "INFO"
  | .warning => "WARNING"
  | .error => "ERROR"

structure Entry where
  level : Level
  text : Text

def Entry.line (e : Entry) : Text := e.level.name ++ ": " ++ e.text

def logLines (rank : Int) (entries : List Entry) : List Text :=
  (entries.filter fun e => rank ≤ e.level.rank).map Entry.line

def ranks : List (Text × Int) :=
  [("CRITICAL", 50), ("FATAL", 50), ("ERROR", 40), ("WARNING", 30), ("WARN", 30), ("INFO", 20),
   ("DEBUG", 10), ("NOTSET", 0)]

/-- The rank that a word names, in capitals or not. The dotless i and the long s count as the
letters they are capitalised to. -/
def rankOfName? (name : Text) : Option Int :=
  let capital (c : CodePoint) : CodePoint :=
    if c.val = 0x131 then CodePoint.ofChar 'I'
    else if c.val = 0x17F then CodePoint.ofChar 'S'
    else c.toUpperLatin
  Json.find? ranks (name.map capital)

def rankOfName (default : Int) (name : Text) : Int := (rankOfName? name).getD default

def rankOf (v : Json) : Except Fault Json :=
  match v with
  | .int n => .ok (.int n)
  | .bool b => .ok (.bool b)
  | .str t =>
    match Json.find? ranks t with
    | some rank => .ok (.int rank)
    | none => .error (.unknownLevel t)
  | _ => .error .wrongType

def logLevelVariable : Text := "I18NEXUS_LOG_LEVEL"

def rankInForce (environment : Option Text) (default : Int) : Int :=
  match environment with
  | some (c :: rest) => rankOfName default (c :: rest)
  | _ => default

structure Logged (α : Type) where
  entries : List Entry
  result : Except Fault α

namespace Logged

variable {α β : Type}

def bind (x : Logged α) (f : α → Logged β) : Logged β :=
  match x.result with
  | .error fault => ⟨x.entries, .error fault⟩
  | .ok a => ⟨x.entries ++ (f a).entries, (f a).result⟩

instance : Monad Logged where
  pure a := ⟨[], .ok a⟩
  bind := bind

def of (r : Except Fault α) : Logged α := ⟨[], r⟩

instance : MonadLift (Except Fault) Logged := ⟨of⟩

def say (level : Level) (text : Text) : Logged Unit := ⟨[⟨level, text⟩], .ok ()⟩

def debug (text : Text) : Logged Unit := say .debug text

end Logged
end Phrasebook
