import Phrasebook.Parse.Answer
import Phrasebook.Script.Pattern
import Phrasebook.Text.Basic

/-!
The settings of a run over a project, resolved and checked.
-/

namespace Phrasebook

/-- The side of an application that code runs on: in the browser, or on the server. -/
inductive Side
  | client
  | server
deriving DecidableEq

def Side.name : Side → String
  | .client => "client"
  | .server => "server"

inductive Framework
  | nextjs
  | react
  | other
deriving DecidableEq

/-- The names that emitted code uses: the lookup function, the hook and the server function that
give it, and the modules these two come from. -/
structure Vocabulary where
  function : Word := .text "t"
  hook : Word := .text "useTranslation"
  serverFunction : Word := .text "getServerTranslation"
  importSource : Word := .text "i18nexus"
  serverImportSource : Word := .text "i18nexus"

structure Settings where
  vocabulary : Vocabulary := {}
  sourcePattern : Json
  mode : Option Side := none
  framework : Option Framework := none
  dryRun : Bool := false
  backend : Backend := .tsx
  script : Pattern := .hangul
  ignoreGlobs : List Json := []
  backup : Bool := false
  emitDiff : Bool := false
  /-- Files with more octets than this are passed over; null and zero mean no limit. -/
  maxFileSize : Json := .null
  monitoring : Bool := true
  verboseMonitoring : Bool := false

/-- A module gets the client directive only in client mode within the one framework that asks
for it. -/
def needsClientDirective (mode : Option Side) (framework : Option Framework) : Bool :=
  mode == some .client && framework == some .nextjs

end Phrasebook
