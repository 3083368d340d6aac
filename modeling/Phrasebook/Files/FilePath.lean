import Phrasebook.Text.Basic

/-!
Paths of files as lists of names. Reading a path drops empty names and single dots, and keeps
double dots.
-/

namespace Phrasebook

/-- A path: whether and how it is rooted, and its names. -/
structure FilePath where
  root : Nat
  names : List Text
deriving DecidableEq

namespace FilePath

def slash : CodePoint := CodePoint.ofChar '/'

def parse (t : Text) : FilePath :=
  let lead := (t.takeWhile (· == slash)).length
  let names := (Text.cut slash t).filter fun n => n != [] && n != "."
  ⟨if lead = 0 then 0 else if lead = 2 then 2 else 1, names⟩

/-- The names that a text spells one after the other, single dots kept. A slash at the end asks for
a folder, as a dot would. -/
def route (t : Text) : List Text :=
  let names := (Text.cut slash t).filter fun n => n != []
  if t.getLast? = some slash then names ++ [Text.ofString "."] else names

def toText (p : FilePath) : Text :=
  if p.root = 0 && p.names.isEmpty then "."
  else List.replicate p.root slash ++ Text.join [slash] p.names

def isAbsolute (p : FilePath) : Bool := p.root != 0

def join (p q : FilePath) : FilePath :=
  if q.isAbsolute then q else { p with names := p.names ++ q.names }

def child (p : FilePath) (name : Text) : FilePath := { p with names := p.names ++ [name] }

def name (p : FilePath) : Text := p.names.getLastD []

def parent (p : FilePath) : FilePath := { p with names := p.names.dropLast }

def withName (p : FilePath) (name : Text) : FilePath := p.parent.child name

def collapse (names : List Text) : List Text :=
  let step (done : List Text) (n : Text) := if n = ".." then done.dropLast else done ++ [n]
  names.foldl step []

def common : List Text → List Text → List Text
  | a :: as, b :: bs => if a = b then a :: common as bs else []
  | _, _ => []

def relativeTo (p base : FilePath) : Text :=
  let there := collapse p.names
  let start := collapse base.names
  let shared := (common there start).length
  let names := List.replicate (start.length - shared) (Text.ofString "..") ++ there.drop shared
  if names.isEmpty then "." else Text.join [slash] names

def leNames : List Text → List Text → Bool
  | [], _ => true
  | _ :: _, [] => false
  | a :: as, b :: bs => if a = b then leNames as bs else Text.le a b

def le (p q : FilePath) : Bool :=
  if p.root = q.root then leNames p.names q.names else p.root < q.root

end FilePath
end Phrasebook
