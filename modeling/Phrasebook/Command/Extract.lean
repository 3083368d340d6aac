import Phrasebook.Command.Shared
import Phrasebook.Run.Harvest

/-!
The command that collects the keys of a project into locale files.
-/

namespace Phrasebook.Command.Extract

def program : Text := "i18n-extractor"

def flags : List Flag :=
  [helpFlag, patternFlag, ⟨["-o", "--output"], .text⟩, ⟨["-d", "--output-dir"], .text⟩,
   ⟨["--format"], .choice ["json", "csv"]⟩, ⟨["--languages"], .text⟩, ⟨["--dry-run"], .switch⟩,
   ⟨["--force"], .switch⟩, ⟨["--no-sort"], .switch⟩, ⟨["--include-paths"], .switch⟩,
   ⟨["--include-lines"], .switch⟩, parserFlag, configFlag, folderFlag, ignoreFlag, verboseFlag]

def languagesOf (t : Text) : List Text :=
  ((Text.cut (CodePoint.ofChar ',') t).map Text.trim).filter fun l => !l.isEmpty

def optionsOf (chosen : Selection) (members : List (Text × Json)) : List (Text × Json) :=
  let member (name : Text) : Json := (Json.find? members name).getD .null
  let given (key : Text) (default : Json) : Json :=
    if chosen.has key then chosen.value key else default
  let on (key : Text) : Json := .bool (chosen.has key)
  let languages : Json := match chosen.value "--languages" with
    | .str (c :: rest) => .arr ((languagesOf (c :: rest)).map Json.str)
    | _ => member "languages"
  [("source_pattern", orElse (chosen.value "--pattern") (member "sourcePattern")),
   ("output_file", given "--output" (.str "extracted-translations.json")),
   ("output_dir", orElse (chosen.value "--output-dir") (member "localesDir")),
   ("include_line_numbers", on "--include-lines"), ("include_file_paths", on "--include-paths"),
   ("sort_keys", .bool !(chosen.has "--no-sort")), ("dry_run", on "--dry-run"),
   ("output_format", given "--format" (.str "json")), ("languages", languages),
   ("default_language", member "defaultLanguage"), ("force", on "--force"),
   ("parser_type", orElse (chosen.value "--parser") (orElse (member "parserType") (.str "tsx"))),
   ("ignore_globs", .arr (ignoreGlobs chosen))]

def planOf (site : Site) (chosen : Selection) : Session Harvest.Plan := do
  let members ← loadMembers site.settings true
  let options ← Harvest.resolveOptions (optionsOf chosen members)
  Harvest.planOf options

def perform (parser : Parser) (base : FilePath) (plan : Harvest.Plan) : Session Int := do
  match ← Session.attempt (Harvest.run parser plan base) with
  | .ok _ => return 0
  | .error (.system fault) => do
    Session.say .error ("Extraction failed: " ++ fault.message)
    return 1
  | .error fault => throw fault

def run (parser : Parser) (current : FilePath) (arguments : List Text) : Session Int :=
  withArguments program flags arguments fun chosen => do
    let site ← siteOf current chosen
    withSettings (planOf site chosen) (perform parser site.base)

end Phrasebook.Command.Extract
