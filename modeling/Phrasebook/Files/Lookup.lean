import Phrasebook.Files.Store

/-!
Finding what a path leads to. The names of a path are looked up from left to right, each in a
folder, and a link on the way is replaced by the names it holds. What stops a walk is an obstacle;
most obstacles only mean that nothing is there.
-/

namespace Phrasebook

inductive Obstacle
  | missing
  | notDirectory
  | tooManyLinks
  | nameTooLong
  | unencodable
  | nullCharacter
deriving DecidableEq

namespace Obstacle

def fault (p : FilePath) : Obstacle → Fault
  | missing => .system (.missing p.toText)
  | notDirectory => .system (.notDirectory p.toText)
  | tooManyLinks => .system (.tooManyLinks p.toText)
  | nameTooLong => .system (.nameTooLong p.toText)
  | unencodable => .unencodable
  | nullCharacter => .nullCharacter

def isAbsence (o : Obstacle) : Bool := o != .nameTooLong

end Obstacle

/-- The octets of a code point in the name of a file. The surrogates DC80 to DCFF stand for single
octets that are no UTF-8; the other ones have none. -/
def CodePoint.nameOctets? (c : CodePoint) : Option Nat :=
  if 0xDC80 ≤ c.val && c.val ≤ 0xDCFF then some 1 else (Utf8.encodePoint c).map List.length

def Text.nameOctets? (t : Text) : Option Nat := (t.mapM CodePoint.nameOctets?).map (·.foldl (· + ·) 0)

namespace Store

def nameLimit : Nat := 255

def pathLimit : Nat := 4096

def linkLimit : Nat := 40

def isLongName (n : Text) : Bool := nameLimit < n.nameOctets?.getD 0

def spellingOf (p : FilePath) : Except Obstacle Unit :=
  match p.toText.nameOctets? with
  | none => .error .unencodable
  | some octets =>
    if p.toText.any fun c => c.val == 0 then .error .nullCharacter
    else if pathLimit ≤ octets then .error .nameTooLong
    else .ok ()

/-- The names of what some names lead to from a place on. The last link is followed only if asked
for. -/
def walk (s : Store) (follow : Bool) (links : Nat) (here : List Text) :
    List Text → Except Obstacle (List Text)
  | [] => .ok here
  | n :: rest =>
    if s.item? here != some .folder then .error .notDirectory
    else if n = "." then s.walk follow links here rest
    else if n = ".." then s.walk follow links here.dropLast rest
    else if isLongName n then .error .nameTooLong
    else match s.item? (here ++ [n]), links with
      | none, _ => .error .missing
      | some (.link target), links =>
        if rest.isEmpty && !follow then .ok (here ++ [n])
        else match links with
          | 0 => .error .tooManyLinks
          | left + 1 =>
            let t := FilePath.parse target
            s.walk follow left (if t.isAbsolute then [] else here) (FilePath.route target ++ rest)
      | some _, links => s.walk follow links (here ++ [n]) rest
termination_by names => (links, names.length)

def locate (s : Store) (follow : Bool) (p : FilePath) : Except Obstacle (List Text) := do
  spellingOf p
  s.walk follow linkLimit [] p.names

def itemAt (s : Store) (names : List Text) : Except Obstacle Item :=
  match s.item? names with
  | some item => .ok item
  | none => .error .missing

def find (s : Store) (p : FilePath) : Except Obstacle Item := do
  s.itemAt (← s.locate true p)

def peek (s : Store) (p : FilePath) : Except Obstacle Item := do
  s.itemAt (← s.locate false p)

def holds (p : FilePath) (found : Except Obstacle Item) (kind : Item → Bool) : Except Fault Bool :=
  match found with
  | .ok item => .ok (kind item)
  | .error o => if o.isAbsence then .ok false else .error (o.fault p)

def isThere (s : Store) (p : FilePath) : Except Fault Bool := holds p (s.find p) fun _ => true

def isFile (s : Store) (p : FilePath) : Except Fault Bool :=
  holds p (s.find p) fun
    | .file _ => true
    | _ => false

def isFolder (s : Store) (p : FilePath) : Except Fault Bool :=
  holds p (s.find p) fun item => item == .folder

def isLink (s : Store) (p : FilePath) : Except Fault Bool :=
  holds p (s.peek p) fun
    | .link _ => true
    | _ => false

def leadsToFolder (s : Store) (p : FilePath) : Bool :=
  match s.find p with
  | .ok item => item == .folder
  | .error _ => false

/-- Whether something stands at a path, be it a link that leads nowhere; no obstacle is a fault. -/
def stands (s : Store) (p : FilePath) : Bool := (s.peek p).toOption.isSome

def checkSpelling (p : FilePath) : Except Fault Unit :=
  match spellingOf p with
  | .error .unencodable => .error .unencodable
  | .error .nullCharacter => .error .nullCharacter
  | _ => .ok ()

def namesIn (s : Store) (p : FilePath) : Except Fault (List Text) := do
  checkSpelling p
  match s.locate true p with
  | .ok here => return if s.item? here = some .folder then s.namesBelow here else []
  | .error _ => return []

def read (s : Store) (p : FilePath) : Except Fault Bytes :=
  match s.find p with
  | .ok (.file content) => .ok content
  | .ok _ => .error (.system (.isDirectory p.toText))
  | .error o => .error (o.fault p)

/-- The names of a path with every link followed, whether or not anything is there. A link that is
entered again while it is being followed is left as it stands, with all names after it. -/
def trace (s : Store) (fuel : Nat) (entered : List (List Text)) (here : List Text) :
    List Text → Except (List Text) (List Text)
  | [] => .ok here
  | n :: rest =>
    if n = "." then s.trace fuel entered here rest
    else if n = ".." then s.trace fuel entered here.dropLast rest
    else
      let next := here ++ [n]
      match s.entry? next, fuel with
      | some (.link target), left + 1 =>
        if entered.contains next then .error (next ++ rest)
        else
          let t := FilePath.parse target
          let start := if t.isAbsolute then [] else here
          match s.trace left (next :: entered) start (FilePath.route target) with
          | .error stuck => .error (stuck ++ rest)
          | .ok real => s.trace (left + 1) entered real rest
      | some (.link _), 0 => .error (next ++ rest)
      | _, fuel => s.trace fuel entered next rest
termination_by names => (fuel, names.length)

def resolve (s : Store) (p : FilePath) : Except Fault FilePath := do
  checkSpelling p
  match s.trace (s.items.length + 1) [] [] p.names with
  | .ok names => return ⟨1, names⟩
  | .error stuck =>
    let real : FilePath := ⟨1, FilePath.collapse stuck⟩
    if s.find real matches .error .tooManyLinks then throw (.linkLoop real.toText)
    return real

end Store
end Phrasebook
