import Phrasebook.Command.Arguments
import Phrasebook.Settings.File

/-!
What the commands have in common: the folders that are never searched, the options that say where
the project is, and how a command ends.
-/

namespace Phrasebook.Command

def defaultIgnores : List Text :=
  ["**/node_modules/**", "**/dist/**", "**/.git/**", "**/.next/**", "**/build/**",
   "**/coverage/**"].map Text.ofString

def helpFlag : Flag := ⟨["-h", "--help"], .help⟩

def patternFlag : Flag := ⟨["-p", "--pattern"], .text⟩

def parserFlag : Flag := ⟨["--parser"], .choice Backend.names⟩

def configFlag : Flag := ⟨["--config"], .text⟩

def folderFlag : Flag := ⟨["--cwd"], .text⟩

def ignoreFlag : Flag := ⟨["--ignore"], .text⟩

def verboseFlag : Flag := ⟨["-v", "--verbose"], .switch⟩

/-- Where the project is: its folder, and the path of its settings. -/
structure Site where
  base : FilePath
  settings : FilePath

/-- The folder of the project: the one that is given, links followed, or the current one. -/
def projectFolder (store : Store) (current : FilePath) (chosen : Selection) :
    Except Fault FilePath :=
  match chosen.value "--cwd" with
  | .str (c :: rest) => store.resolve (current.join (FilePath.parse (c :: rest)))
  | _ => .ok current

def settingsPath (base : FilePath) (chosen : Selection) : Except Fault FilePath :=
  match chosen.value "--config" with
  | .null => .ok (base.child settingsFile)
  | .str t => .ok (base.join (FilePath.parse t))
  | _ => .error .wrongType

def siteOf (current : FilePath) (chosen : Selection) : Session Site := do
  let base ← projectFolder (← get).store current chosen
  return ⟨base, ← settingsPath base chosen⟩

def ignoreGlobs (chosen : Selection) : List Json :=
  defaultIgnores.map Json.str ++ chosen.values "--ignore"

/-- A command with the options it is given. Its result is the exit status: 2 for arguments that
cannot be used, and 0 when only help was asked for. -/
def withArguments (program : Text) (flags : List Flag) (arguments : List Text)
    (body : Selection → Session Int) : Session Int :=
  match readArguments flags arguments with
  | .error .help => return 0
  | .error (.usage fault) => do
    Session.printError (program ++ ": error: " ++ fault.message)
    return 2
  | .ok chosen => do
    if chosen.has "--verbose" then modify fun w => { w with rank := Level.debug.rank }
    body chosen

/-- A command that first needs its settings: when they cannot be used that is printed, and the exit
status is 2. -/
def withSettings {α : Type} (settings : Session α) (body : α → Session Int) : Session Int := do
  match ← Session.attempt settings with
  | .ok a => body a
  | .error (.settings fault) => do
    Session.printError ("Configuration error: " ++ fault.message)
    return 2
  | .error fault => throw fault

end Phrasebook.Command
