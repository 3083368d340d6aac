import Phrasebook.Files.Braces
import Phrasebook.Files.Lookup
import Phrasebook.Files.Wildcard

/-!
Finding files. A pattern is expanded at its braces and matched name by name, where `**` stands for
any folders; hidden names are only matched by patterns that begin with a dot.
-/

namespace Phrasebook.Discover

def anyFolders : Text := "**"

def isHidden (name : Text) : Bool := name.head?.any fun c => c.val == 0x2E

def namesIn (s : Store) (foldersOnly : Bool) (folder : FilePath) : Except Fault (List Text) := do
  let names ← s.namesIn folder
  return if foldersOnly then names.filter fun n => s.leadsToFolder (folder.child n) else names

def matching (s : Store) (foldersOnly : Bool) (folder : FilePath) (pattern : Text) :
    Except Fault (List FilePath) := do
  let isMatch (n : Text) : Bool :=
    (isHidden pattern || !isHidden n) && matchesWildcard pattern n
  return ((← namesIn s foldersOnly folder).filter isMatch).map folder.child

def below (s : Store) (foldersOnly : Bool) : Nat → FilePath → Except Fault (List FilePath)
  | 0, _ => .ok []
  | fuel + 1, folder => do
    let seen := (← namesIn s foldersOnly folder).filter fun n => !isHidden n
    let found ← seen.mapM fun n => do
      return folder.child n :: (← below s foldersOnly fuel (folder.child n))
    return found.flatten

/-- The levels that a search goes down: no path has more names between two links than the longest
one in the store. -/
def depth (s : Store) : Nat :=
  ((s.items.map fun e => e.1.length).foldl max 0 + 1) * (Store.linkLimit + 1)

/-- What the patterns for the names ahead match from a place on. A plain name is looked up if it is
the last one or if a wildcard stands before it; `searching` says whether one does. The pattern for any
folders also matches no folder, whatever the place is. -/
def glob (s : Store) (searching : Bool) (place : FilePath) :
    List Text → Except Fault (List FilePath)
  | [] => .ok [place]
  | n :: rest => do
    let foldersOnly := !rest.isEmpty
    if n = anyFolders then
      let found ← (place :: (← below s foldersOnly (depth s) place)).mapM fun p => glob s true p rest
      return found.flatten
    else if isWildcard n then
      let found ← (← matching s foldersOnly place n).mapM fun p => glob s true p rest
      return found.flatten
    else if n = "." then
      if rest.isEmpty || (searching && !s.leadsToFolder place) then return []
      else glob s searching place rest
    else if (searching || rest.isEmpty) && !s.stands (place.child n) then return []
    else glob s searching (place.child n) rest

def matchesOf (s : Store) (base : FilePath) (pattern : Text) : Except Fault (List FilePath) :=
  let p := FilePath.parse pattern
  if p.isAbsolute then glob s false ⟨p.root, []⟩ (FilePath.route pattern)
  else glob s false ⟨base.root, []⟩ (base.join p).names

/-- A file as wildcards see it: from the base, links followed, if it is below the base; else as its
path is spelled. -/
def seenFrom (s : Store) (base path : FilePath) : Except Fault Text := do
  let place : Except Fault (Option Text) := do
    let real ← s.resolve path
    let home ← s.resolve base
    if home.names.isPrefixOf real.names then
      return some (FilePath.toText ⟨0, real.names.drop home.names.length⟩)
    else return none
  let shown ← match place with
    | .ok (some t) => .ok t
    | .ok none | .error .unencodable | .error .nullCharacter => .ok path.toText
    | .error fault => .error fault
  return shown.map fun c => if c.val = 0x5C then FilePath.slash else c

/-- Whether one of some wildcards matches. One that begins with `**/` also matches without it. What
comes before the first match must be texts. -/
def anyMatches (seen : Text) : List Json → Except Fault Bool
  | [] => .ok false
  | .str g :: rest =>
    if matchesWildcard g seen || (Text.startsWith g "**/" && matchesWildcard (g.drop 3) seen) then
      .ok true
    else anyMatches seen rest
  | _ :: _ => .error .wrongType

def isIgnored (s : Store) (base path : FilePath) (globs : List Json) : Except Fault Bool := do
  if globs.isEmpty then return false
  anyMatches (← seenFrom s base path) globs

def filesOf (s : Store) (base : FilePath) (pattern : Text) : Except Fault (List FilePath) := do
  (← matchesOf s base pattern).filterM s.isFile

def files (s : Store) (base : FilePath) (pattern : Text) (ignore : List Json) :
    Except Fault (List FilePath) := do
  let found ← (Braces.expand pattern).mapM (filesOf s base)
  let sorted := found.flatten.eraseDups.mergeSort FilePath.le
  sorted.filterM fun p => do return !(← isIgnored s base p ignore)

end Phrasebook.Discover
