import Phrasebook.Keys.Locale
import Phrasebook.Settings.File

/-!
Collecting the keys of all files of a project into locale files, or into one table.
-/

namespace Phrasebook.Harvest

def optionNames : List String :=
  ["source_pattern", "output_file", "output_dir", "include_line_numbers", "include_file_paths",
   "sort_keys", "dry_run", "output_format", "languages", "default_language", "force",
   "parser_type", "ignore_globs"]

def defaultOptions : Options :=
  [("source_pattern", .str "src/**/*.\x7bjs,jsx,ts,tsx\x7d"),
   ("output_file", .str "extracted-translations.json"), ("output_dir", .str "./locales"),
   ("include_line_numbers", .bool false), ("include_file_paths", .bool false),
   ("sort_keys", .bool true), ("dry_run", .bool false), ("output_format", .str "json"),
   ("languages", .arr [.str "en", .str "ko"]), ("default_language", .str "ko"),
   ("force", .bool false), ("parser_type", .str "tsx"), ("ignore_globs", .arr [])]

def putOptions : Options → List (Text × Json) → Except Fault Options
  | options, [] => .ok options
  | options, (name, value) :: rest =>
    if (optionNames.map Text.ofString).contains name then
      putOptions (Json.put options name value) rest
    else .error .wrongType

def resolveOptions (given : List (Text × Json)) : Except Fault Options := do
  let options ← putOptions defaultOptions given
  let format := (Json.find? options "output_format").getD .null
  if !isChoice ["json", "csv"] format then throw (.settings (.outputFormat format))
  let languages ← ((Json.find? options "languages").getD .null).items
  return Json.put options "languages" (.arr languages)

structure Plan where
  sourcePattern : Json
  outputFile : Json
  outputDir : Json
  recording : Keys.Recording
  sort : Bool
  dryRun : Bool
  asTable : Bool
  languages : List Json
  defaultLanguage : Json
  force : Bool
  backend : Backend
  ignoreGlobs : Json

def planOf (options : Options) : Except Fault Plan := do
  let get (name : String) : Json := (Json.find? options name).getD .null
  let backend ← backendOf (get "parser_type")
  let languages ← (get "languages").items
  return {
    sourcePattern := get "source_pattern"
    outputFile := get "output_file"
    outputDir := get "output_dir"
    recording := {
      files := (get "include_file_paths").isSet
      lines := (get "include_line_numbers").isSet }
    sort := (get "sort_keys").isSet
    dryRun := (get "dry_run").isSet
    asTable := isChoice ["csv"] (get "output_format")
    languages
    defaultLanguage := get "default_language"
    force := (get "force").isSet
    backend
    ignoreGlobs := get "ignore_globs" }

def discover (plan : Plan) (base : FilePath) : Session (List FilePath) := do
  let ignore ← plan.ignoreGlobs.items
  Session.discover base plan.sourcePattern ignore

def addKeys : List Keys.Key → List Keys.Key → Session (List Keys.Key)
  | found, [] => return found
  | found, k :: rest => do
    if found.any fun f => f.key == k.key then
      Session.say .info ("Duplicate key found: \"" ++ k.key ++ "\"")
      addKeys found rest
    else addKeys (found ++ [k]) rest

def parseFile (parser : Parser) (plan : Plan) (path : FilePath) : Session Tree := do
  let code ← Utf8.decodeFault (← Session.readFile path)
  Session.ofLogged (parseLogged parser plan.backend code (some path.toText))

/-- The keys of one file added to those found before. A file that cannot be read or parsed adds
none. -/
def harvestFile (parser : Parser) (plan : Plan) (found : List Keys.Key) (path : FilePath) :
    Session (List Keys.Key) := do
  match ← Session.attempt (parseFile parser plan path) with
  | .ok tree =>
    let keys ← Keys.extract tree (some path.toText) plan.recording
    addKeys found keys
  | .error fault =>
    if fault.isContained then
      Session.say .warning ("Failed to parse " ++ path.toText ++ ": " ++ fault.message)
      return found
    else throw fault

def harvestAll (parser : Parser) (plan : Plan) (trace : Bool) :
    List FilePath → List Keys.Key → Session (List Keys.Key)
  | [], found => return found
  | path :: rest, found => do
    if trace then Session.say .debug ("Analyzing: " ++ path.toText)
    harvestAll parser plan trace rest (← harvestFile parser plan found path)

def keysOnly (parser : Parser) (plan : Plan) (base : FilePath) : Session (List Keys.Key) := do
  let files ← discover plan base
  harvestAll parser plan false files []

def existingMembers (path : FilePath) : Session (List (Text × Json)) := do
  let store := (← get).store
  let isThere ← store.isThere path
  if !isThere then return []
  let unusable : Session (List (Text × Json)) := do
    Session.say .warning ("Failed to parse existing " ++ path.toText ++ ", will overwrite")
    return []
  match store.read path with
  | .error _ => unusable
  | .ok bytes =>
    match readDocument bytes with
    | .error (.tooManyDigits count) => throw (.tooManyDigits count)
    | .error _ => unusable
    | .ok (.obj members) => return members
    | .ok _ =>
      Session.say .warning ("Existing " ++ path.toText ++ " is not a JSON object, will overwrite")
      return []

def previewSize : Nat := 500

def preview (path : FilePath) (content : Text) : Session Unit := do
  Session.print ("Dry run - output would be written to: " ++ path.toText)
  Session.print "Content preview:"
  let mark : Text := if previewSize < content.length then "..." else []
  Session.print (content.take previewSize ++ mark)

def emit (plan : Plan) (path : FilePath) (content : Text) : Session Unit := do
  if plan.dryRun then preview path content
  else
    Session.writeFile path content
    Session.print ("Extracted translations written to: " ++ path.toText)

def emitLanguage (plan : Plan) (dir : FilePath) (data : Keys.Data) (language : Json) :
    Session FilePath := do
  let path := dir.join (FilePath.parse (textOf language ++ ".json"))
  let existing ← existingMembers path
  if plan.force then
    Session.print ("Force mode: overwriting all translations in " ++ path.toText)
  let merged := Keys.merge data existing language plan.defaultLanguage plan.force
  if !plan.force then
    let added := merged.length - existing.length
    if added = 0 then Session.print ("No new keys to add to " ++ path.toText)
    else Session.print ("Added " ++ Text.ofNat added ++ " new keys to " ++ path.toText)
  emit plan path (Json.indented 0 (.obj merged))
  return path

def emitLanguages (plan : Plan) (dir : FilePath) (data : Keys.Data) :
    List Json → Session (List FilePath)
  | [] => return []
  | language :: rest => do
    let path ← emitLanguage plan dir data language
    return path :: (← emitLanguages plan dir data rest)

def emitIndex (plan : Plan) (dir : FilePath) : Session FilePath := do
  let path := dir.child "index.ts"
  if plan.dryRun then
    Session.print ("Dry run - index file would be written to: " ++ path.toText)
  else
    Session.writeFile path (Keys.indexModule (plan.languages.map textOf))
    Session.print ("Generated index file: " ++ path.toText)
  return path

def tableName : Json → Except Fault Text
  | .str name => .ok (if Text.endsWith name ".json" then takeTo (-5) name ++ ".csv" else name)
  | _ => .error .noOperation

def emitAll (plan : Plan) (dir : FilePath) (keys : List Keys.Key) : Session (List FilePath) := do
  if !plan.dryRun then Session.makeFolders dir
  if plan.asTable then
    let path := dir.join (FilePath.parse (← tableName plan.outputFile))
    emit plan path (Keys.sheet keys)
    return [path]
  else
    let paths ← emitLanguages plan dir (Keys.texts keys) plan.languages
    let index ← emitIndex plan dir
    return paths ++ [index]

def run (parser : Parser) (plan : Plan) (base : FilePath) : Session (List FilePath) := do
  Session.print "Starting translation key extraction..."
  Session.print ("Pattern: " ++ textOf plan.sourcePattern)
  let files ← discover plan base
  if files.isEmpty then
    Session.say .warning ("No files found matching pattern: " ++ textOf plan.sourcePattern)
    return []
  Session.print ("Found " ++ Text.ofNat files.length ++ " files to analyze")
  let keys ← harvestAll parser plan true files []
  Session.print ("Found " ++ Text.ofNat keys.length ++ " unique translation keys")
  let dir ← Session.patternOf plan.outputDir
  let written ← emitAll plan (base.join (FilePath.parse dir)) (Keys.ordered plan.sort keys)
  Session.print "Translation extraction completed"
  return written

end Phrasebook.Harvest
