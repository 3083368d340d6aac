import Phrasebook.Json.Access
import Phrasebook.Script.Resolve
import Phrasebook.Settings.Basic

/-!
Settings from the project file, the environment and explicit options. Values come in as JSON; only
the ones that name a choice, and the script pattern, are checked.
-/

namespace Phrasebook

def defaultMembers : List (Text × Json) :=
  [("languages", .arr [.str "en", .str "ko"]), ("defaultLanguage", .str "ko"),
   ("localesDir", .str "./locales"), ("sourcePattern", .str "src/**/*.\x7bjs,jsx,ts,tsx\x7d"),
   ("translationImportSource", .str "i18nexus"), ("clientTranslationHook", .str "useTranslation"),
   ("serverTranslationFunction", .str "getServerTranslation"),
   ("serverTranslationImportSource", .null)]

def optionNames : List String :=
  ["source_pattern", "translation_import_source", "server_import_source", "client_hook",
   "server_function", "translation_function", "mode", "framework", "dry_run", "parser_type",
   "target_script", "ignore_globs", "backup", "emit_diff", "max_file_size",
   "enable_performance_monitoring", "verbose_performance"]

abbrev Options := List (Text × Json)

abbrev Environment := List (Text × Text)

/-- A switch of the environment: off for four words, on for any other, `default` when unset. -/
def switch (env : Environment) (name : Text) (default : Bool) : Bool :=
  match Json.find? env name with
  | none => default
  | some value =>
    let word := Text.toLowerLatin (Text.trim value)
    !(["false", "0", "no", "off"].any fun off => Text.ofString off == word)

def orElse (value : Json) (default : Json) : Json := if value.isSet then value else default

/-- The options before any are given: from the project file's members and the environment. -/
def baseOptions (file : List (Text × Json)) (env : Environment) : Options :=
  let get (name : String) : Json := (Json.find? file name).getD .null
  let verbose := (Json.find? env "I18N_PERF_VERBOSE").map fun v => Text.toLowerLatin v
  [("source_pattern", get "sourcePattern"),
   ("translation_import_source", get "translationImportSource"),
   ("server_import_source", get "serverTranslationImportSource"),
   ("client_hook", orElse (get "clientTranslationHook") (.str "useTranslation")),
   ("server_function", orElse (get "serverTranslationFunction") (.str "getServerTranslation")),
   ("translation_function", .str "t"),
   ("mode", get "mode"),
   ("framework", get "framework"),
   ("dry_run", .bool false),
   ("parser_type", orElse (get "parserType") (.str "tsx")),
   ("target_script", .str "[가-힣]"),
   ("ignore_globs", .arr []),
   ("backup", .bool false),
   ("emit_diff", .bool false),
   ("max_file_size", .null),
   ("enable_performance_monitoring", .bool (switch env "I18N_PERF_MONITOR" true)),
   ("verbose_performance", .bool (verbose == some "true"))]

/-- The options with given ones put over them; null means not given, and an unknown name is
refused. -/
def putOptions : Options → List (Text × Json) → Except Fault Options
  | options, [] => .ok options
  | options, (name, value) :: rest => do
    if value.isNull then putOptions options rest
    else if (optionNames.map Text.ofString).contains name then
      let isList := name == ("ignore_globs" : Text)
      let value ← if isList then value.items.map Json.arr else .ok value
      putOptions (Json.put options name value) rest
    else throw (.settings (.unknownOption name))

def isChoice (choices : List String) : Json → Bool
  | .str t => choices.any fun c => Text.ofString c == t
  | _ => false

def checkChoice (what : String) (choices : List String) (value : Json) : Except Fault Unit :=
  if value.isNull || isChoice choices value then .ok ()
  else .error (.settings (.choice what value choices))

def sideOf? (v : Json) : Option Side :=
  match v with
  | .str t => if t = "client" then some .client else if t = "server" then some .server else none
  | _ => none

def frameworkOf? (v : Json) : Option Framework :=
  match v with
  | .str t =>
    if t = "nextjs" then some .nextjs
    else if t = "react" then some .react
    else if t = "other" then some .other else none
  | _ => none

def wordOf : Json → Word
  | .str t => .text t
  | .null => .absent
  | v => .other v.shown

def backendOf (v : Json) : Except Fault Backend :=
  match v, v.str?.bind Backend.ofName? with
  | _, some b => .ok b
  | .arr _, none | .obj _, none => .error .wrongType
  | _, none => .error (.settings (.backend v Backend.names))

def serverSource (options : Options) : Json :=
  let get (name : String) : Json := (Json.find? options name).getD .null
  orElse (get "server_import_source") (get "translation_import_source")

def PatternRefusal.fault (source : Text) : PatternRefusal → Fault
  | located reason position => .pattern (placeMessage source reason position)
  | general reason => .pattern reason
  | tooLarge => .overflow
  | tooLong digits => .tooManyDigits digits
  | tooWide => .patternWidth
  | clash => .alphabets

def scriptOf (value : Json) : Except Fault Pattern :=
  match value with
  | .str t => (Pattern.read t).mapError fun r => r.fault t
  | _ => .error .wrongType

def scriptOption (value : Json) : Except Fault Pattern :=
  match scriptOf value, value with
  | .error (.pattern reason), .str t => .error (.settings (.pattern t reason))
  | found, _ => found

def Options.check (options : Options) : Except Fault Settings := do
  let get (name : String) : Json := (Json.find? options name).getD .null
  checkChoice "mode" ["client", "server"] (get "mode")
  checkChoice "framework" ["nextjs", "react", "other"] (get "framework")
  checkChoice "parser type" Backend.names (get "parser_type")
  let script ← scriptOption (get "target_script")
  return {
    vocabulary := {
      function := wordOf (get "translation_function")
      hook := wordOf (get "client_hook")
      serverFunction := wordOf (get "server_function")
      importSource := wordOf (get "translation_import_source")
      serverImportSource := wordOf (serverSource options) }
    sourcePattern := get "source_pattern"
    mode := sideOf? (get "mode")
    framework := frameworkOf? (get "framework")
    dryRun := (get "dry_run").isSet
    backend := (Backend.ofName? (textOf (get "parser_type"))).getD .tsx
    script
    ignoreGlobs := match get "ignore_globs" with
      | .arr items => items
      | _ => []
    backup := (get "backup").isSet
    emitDiff := (get "emit_diff").isSet
    maxFileSize := get "max_file_size"
    monitoring := (get "enable_performance_monitoring").isSet
    verboseMonitoring := (get "verbose_performance").isSet }

/-- The name under which the project file's members are known, which is free for no option. -/
def membersName : Text := "file_config"

/-- The options of a run: the project file's members over the defaults, the environment, and the
given options over both. -/
def resolveOptions (file : List (Text × Json)) (env : Environment) (given : List (Text × Json)) :
    Except Fault Options := do
  if given.any fun g => g.1 == membersName then throw .wrongType
  putOptions (baseOptions (Json.putAll defaultMembers file) env) given

def resolveSettings (file : List (Text × Json)) (env : Environment) (given : List (Text × Json)) :
    Except Fault Settings := do
  let options ← resolveOptions file env given
  options.check

end Phrasebook
