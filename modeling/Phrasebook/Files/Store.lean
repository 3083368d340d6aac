import Phrasebook.Fault
import Phrasebook.Files.FilePath

/-!
A file system as a value: files, links and folders by their names from the root. A folder is there
when it was made or when something is in it.
-/

namespace Phrasebook

inductive Item
  | file (content : Bytes)
  | link (target : Text)
  | folder
deriving DecidableEq

structure Store where
  items : List (List Text × Item)

namespace Store

def entry? (s : Store) (names : List Text) : Option Item :=
  (s.items.find? fun e => e.1 == names).map (·.2)

def hasBelow (s : Store) (names : List Text) : Bool :=
  s.items.any fun e => names.isPrefixOf e.1 && e.1 != names

def item? (s : Store) (names : List Text) : Option Item :=
  match s.entry? names with
  | some item => some item
  | none => if names.isEmpty || s.hasBelow names then some .folder else none

def namesBelow (s : Store) (names : List Text) : List Text :=
  (s.items.filterMap fun e =>
    if names.isPrefixOf e.1 then (e.1.drop names.length).head? else none).eraseDups

def put (s : Store) (names : List Text) (item : Item) : Store :=
  ⟨(s.items.filter fun e => e.1 != names) ++ [(names, item)]⟩

def erase (s : Store) (names : List Text) : Store := ⟨s.items.filter fun e => e.1 != names⟩

def longestName (s : Store) : Nat :=
  ((s.items.flatMap fun e => e.1).map List.length).foldl max 0

def freshName (s : Store) : Text :=
  "tmp" ++ List.replicate s.longestName (CodePoint.ofChar '_')

end Store
end Phrasebook
