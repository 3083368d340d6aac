import Phrasebook.Json.Reader
import Phrasebook.Json.Writer
import Phrasebook.Text.Utf8

/-!
What can go wrong, by cause, and the wording of each cause. A fault in one file is *contained*
when a run over many files goes on to the next one.
-/

namespace Phrasebook

structure ParseFault where
  reason : Text
  path : Option Text
  line : Option Int
  column : Option Int

def located (path : Option Text) (place : Option (Text × Text)) (reason : Text) : Text :=
  let file : Text := match path with
    | some (c :: rest) => c :: rest
    | _ => "<source>"
  match place with
  | none => file ++ ": " ++ reason
  | some (line, column) => file ++ ":" ++ line ++ ":" ++ column ++ ": " ++ reason

def ParseFault.message (f : ParseFault) : Text :=
  let place := f.line.map fun line => (Text.ofInt line, Text.ofInt (f.column.getD 0))
  located f.path place f.reason

inductive SystemFault
  | missing (path : Text)
  | exists (path : Text)
  | notDirectory (path : Text)
  | isDirectory (path : Text)
  | nameTooLong (path : Text)
  | tooManyLinks (path : Text)
  | busy (path : Text)
  | readOnly

def SystemFault.message : SystemFault → Text
  | .missing path => "[Errno 2] No such file or directory: " ++ Text.quoted path
  | .busy path => "[Errno 16] Device or resource busy: " ++ Text.quoted path
  | .exists path => "[Errno 17] File exists: " ++ Text.quoted path
  | .notDirectory path => "[Errno 20] Not a directory: " ++ Text.quoted path
  | .isDirectory path => "[Errno 21] Is a directory: " ++ Text.quoted path
  | .nameTooLong path => "[Errno 36] File name too long: " ++ Text.quoted path
  | .tooManyLinks path => "[Errno 40] Too many levels of symbolic links: " ++ Text.quoted path
  | .readOnly => "read-only file system"

inductive SettingsFault
  | choice (what : String) (value : Json) (choices : List String)
  | pattern (script reason : Text)
  | unknownOption (name : Text)
  | undecodable (path : Text) (fault : Utf8.DecodeFault)
  | malformed (path : Text) (fault : Json.ReadFault)
  | inaccessible (path : Text) (fault : SystemFault)
  | notObject (path : Text)
  | noLanguages (path : Text)
  | backend (name : Json) (choices : List String)
  | outputFormat (name : Json)

def SettingsFault.message : SettingsFault → Text
  | .choice what value choices =>
    "Invalid " ++ what ++ " " ++ value.shown ++ " (expected one of: " ++
      Text.join ", " (choices.map Text.ofString) ++ ")"
  | .pattern script reason =>
    "Invalid target script pattern " ++ Text.quoted script ++ ": " ++ reason
  | .unknownOption name => "Unknown option " ++ Text.quoted name
  | .undecodable path fault => "Failed to read " ++ path ++ ": " ++ fault.message
  | .malformed path fault => "Failed to read " ++ path ++ ": " ++ fault.message
  | .inaccessible path fault => "Failed to read " ++ path ++ ": " ++ fault.message
  | .notObject path => path ++ " must contain a JSON object"
  | .noLanguages path => path ++ ": \x27languages\x27 must be a non-empty list"
  | .backend name choices =>
    "Unknown parser backend " ++ name.shown ++ " (expected one of: " ++
      Text.join ", " (choices.map Text.ofString) ++ ")"
  | .outputFormat name => "Invalid output format " ++ name.shown

/-- Every way an operation of this library can fail. -/
inductive Fault
  | parse (fault : ParseFault)
  | write (path reason : Text)
  | settings (fault : SettingsFault)
  | system (fault : SystemFault)
  | undecodable (fault : Utf8.DecodeFault)
  | unencodable
  | nullCharacter
  /-- Links that lead back to themselves, where a real path was due. -/
  | linkLoop (path : Text)
  | codePointRange
  | overflow
  | tooManyDigits (count : Nat)
  | pattern (reason : Text)
  | alphabets
  | patternWidth
  | crossedGroup
  | emptyList
  | noEntry
  | replaceDetached
  | wrapDetached
  | noParent
  | endless
  | wrongType
  | noOperation
  | pairLength (index length : Nat)
  | noPair (length : Nat)
  | unknownLevel (name : Text)
  | nameless (path : Text)
  | noTree

namespace Fault

def message : Fault → Text
  | parse f => f.message
  | write path reason => path ++ ": " ++ reason
  | settings f => f.message
  | system f => f.message
  | undecodable f => f.message
  | unencodable => "the text holds a surrogate"
  | nullCharacter => "embedded null byte"
  | linkLoop path => "Symlink loop from " ++ Text.quoted path
  | codePointRange => "chr() arg not in range(0x110000)"
  | overflow => "a number is too large"
  | tooManyDigits count =>
    "Exceeds the limit (4300 digits) for integer string conversion: value has " ++
      Text.ofNat count ++ " digits; use sys.set_int_max_str_digits() to increase the limit"
  | pattern reason => reason
  | alphabets => "ASCII and UNICODE flags are incompatible"
  | patternWidth => "the pattern looks too far back"
  | crossedGroup => "a group begins after its end"
  | emptyList => "the list is empty"
  | noEntry => "the object lacks an entry"
  | replaceDetached => "cannot replace a detached node"
  | wrapDetached => "cannot wrap a detached node"
  | noParent => "the node has no parent"
  | endless => "the node is below itself"
  | wrongType => "a value has the wrong type"
  | noOperation => "a value lacks an operation"
  | pairLength index length =>
    "dictionary update sequence element #" ++ Text.ofNat index ++ " has length " ++
      Text.ofNat length ++ "; 2 is required"
  | noPair length =>
    if length < 2 then
      "not enough values to unpack (expected 2, got " ++ Text.ofNat length ++ ")"
    else "too many values to unpack (expected 2)"
  | unknownLevel name => "Unknown level: " ++ Text.quoted name
  | nameless path => "PosixPath(" ++ Text.quoted path ++ ") has an empty name"
  | noTree => "the parser gave no tree"

def isContained : Fault → Bool
  | parse _ | write _ _ | undecodable _ | system _ => true
  | _ => false

end Fault

def Utf8.encode (t : Text) : Except Fault Bytes :=
  match Utf8.encode? t with
  | some bytes => .ok bytes
  | none => .error .unencodable

def Utf8.decodeFault (bytes : Bytes) : Except Fault Text :=
  (Utf8.decode bytes).mapError Fault.undecodable

end Phrasebook
