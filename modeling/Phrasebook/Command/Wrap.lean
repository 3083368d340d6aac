import Phrasebook.Command.Shared
import Phrasebook.Run.Batch

/-!
The command that wraps the literals of a project.
-/

namespace Phrasebook.Command.Wrap

def program : Text := "i18n-wrapper"

def defaultSizeLimit : Int := 2 * 1024 * 1024

def flags : List Flag :=
  [helpFlag, patternFlag, ⟨["-d", "--dry-run"], .switch⟩,
   ⟨["--mode"], .choice ["client", "server"]⟩,
   ⟨["--framework"], .choice ["nextjs", "react", "other"]⟩,
   ⟨["--server-fn"], .text⟩, ⟨["--import-source"], .text⟩, parserFlag, configFlag, folderFlag,
   ignoreFlag, ⟨["--diff"], .switch⟩, ⟨["--backup"], .switch⟩, ⟨["--max-file-size"], .number⟩,
   ⟨["--no-perf"], .switch⟩, ⟨["--quiet-config"], .switch⟩, verboseFlag]

def optionsOf (chosen : Selection) : List (Text × Json) :=
  let on (key : Text) : Json := .bool (chosen.has key)
  let limit := if chosen.has "--max-file-size" then chosen.value "--max-file-size"
    else .int defaultSizeLimit
  [("source_pattern", chosen.value "--pattern"),
   ("translation_import_source", chosen.value "--import-source"),
   ("server_function", chosen.value "--server-fn"), ("mode", chosen.value "--mode"),
   ("framework", chosen.value "--framework"), ("parser_type", chosen.value "--parser"),
   ("dry_run", on "--dry-run"), ("emit_diff", on "--diff"), ("backup", on "--backup"),
   ("max_file_size", if limit.isSet then limit else .null),
   ("ignore_globs", .arr (ignoreGlobs chosen)),
   ("enable_performance_monitoring", if chosen.has "--no-perf" then .bool false else .null)]

def settingsOf (site : Site) (chosen : Selection) : Session Settings := do
  let members ← loadMembers site.settings (chosen.has "--quiet-config")
  resolveSettings members (← get).environment (optionsOf chosen)

def printFailed (failed : List Text) : Session Unit := do
  if !failed.isEmpty then
    Session.print ("\nFailed files (" ++ Text.ofNat failed.length ++ "):")
    Session.printRaw (failed.flatMap fun f => "  " ++ f ++ "\n")

def perform (parser : Parser) (base : FilePath) (chosen : Selection) (settings : Settings) :
    Session Int := do
  modify fun w => { w with
    monitor := { enabled := settings.monitoring, verbose := settings.verboseMonitoring } }
  Session.print ("Pattern: " ++ textOf settings.sourcePattern)
  if settings.dryRun then Session.print "Dry run: no files will be written"
  let result ← Batch.run parser settings base
  Session.print (← result.summary)
  if chosen.has "--diff" then Session.printRaw (Text.join "\n" result.diffs)
  printFailed result.failed
  return 0

def run (parser : Parser) (current : FilePath) (arguments : List Text) : Session Int :=
  withArguments program flags arguments fun chosen => do
    let site ← siteOf current chosen
    withSettings (settingsOf site chosen) (perform parser site.base chosen)

end Phrasebook.Command.Wrap
