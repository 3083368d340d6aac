import Phrasebook.Decimal.Number
import Phrasebook.Json.Access
import Phrasebook.Log

/-!
Durations in milliseconds, and the summary of a run over many files.
-/

namespace Phrasebook.Timing

/-- A duration: whole milliseconds below a second, seconds with two places from there on. -/
def duration (ms : Number) : Except Fault Text := do
  if Number.le (.whole 1000) ms then return Decimal.fixed 2 (← ms.divNat 1000) ++ "s"
  else return (← ms.fixed 0) ++ "ms"

def ranked (timings : List (Text × Number)) : List (Text × Number) :=
  timings.mergeSort fun a b => !(a.2.lt b.2)

def fileLine (timing : Text × Number) : Except Fault Text := do
  return "    " ++ timing.1 ++ ": " ++ (← duration timing.2)

/-- The lines on the files of a run, when there are any: their average, and the slowest of them. -/
def fileLines (timings : List (Text × Number)) (slowest : Option Int) :
    Except Fault (List Text) := do
  if timings.isEmpty then return []
  let total ← Number.sum (timings.map (·.2))
  let average ← duration (.double (← total.divNat timings.length))
  let shown := (slowest.map fun n => takeTo n (ranked timings)).getD (ranked timings)
  return ("  Average per file: " ++ average) :: "  Slowest files:" :: (← shown.mapM fileLine)

/-- The summary of a run: how long it took, how many files were read and changed, and the slowest
of them. -/
def summary (total : Number) (timings : List (Text × Number)) (modified : Text)
    (slowest : Option Int) : Except Fault Text := do
  let whole ← duration total
  let head : List Text :=
    ["", "Translation wrapper completed", "  Total time: " ++ whole,
     "  Files scanned: " ++ Text.ofNat timings.length, "  Files modified: " ++ modified]
  return Text.join "\n" (head ++ (← fileLines timings slowest))

end Phrasebook.Timing

/-!
A monitor that times named spans of work. A monitor that is off records nothing.
-/

namespace Phrasebook.Timing

structure Metric where
  name : Json
  duration : Float
  metadata : List (Text × Json)

structure Span where
  id : Nat
  name : Json
  started : Float
  metadata : List (Text × Json)

structure Monitor where
  enabled : Bool
  verbose : Bool
  metrics : List Metric := []
  running : List Span := []
  nextId : Nat := 1

structure Totals where
  total : Float
  count : Nat
  average : Float
  slowest : Json
  fastest : Json

namespace Monitor

def start (m : Monitor) (now : Float) (name : Json) (metadata : List (Text × Json)) :
    Monitor × Option Nat :=
  if m.enabled then
    ({ m with running := m.running ++ [⟨m.nextId, name, now, metadata⟩], nextId := m.nextId + 1 },
      some m.nextId)
  else (m, none)

def note (m : Monitor) (metric : Metric) : Entry :=
  let took := textOf metric.name ++ " took " ++ Decimal.fixed 2 metric.duration ++ "ms"
  if m.verbose then ⟨.info, took ++ " " ++ Json.summary 1200 (.obj metric.metadata)⟩
  else ⟨.debug, took⟩

/-- The monitor with a span ended, its duration in milliseconds, and the entry for it. Nothing
happens for a span that is not running. -/
def finish (m : Monitor) (now : Float) (span : Option Nat) (metadata : List (Text × Json)) :
    Monitor × Float × List Entry :=
  match span.bind fun id => m.running.find? fun s => s.id == id with
  | none => (m, 0, [])
  | some s =>
    let members := Json.putAll s.metadata metadata
    let metric : Metric := ⟨s.name, (now - s.started) * 1000, members⟩
    ({ m with metrics := m.metrics ++ [metric], running := m.running.filter fun r => r.id != s.id },
      metric.duration, [m.note metric])

def extreme (less : Float → Float → Bool) : Metric → List Metric → Metric
  | best, [] => best
  | best, m :: rest => extreme less (if less best.duration m.duration then m else best) rest

def totals? (m : Monitor) : Option Totals :=
  match m.metrics with
  | [] => none
  | first :: rest =>
    let total := (m.metrics.map (·.duration)).foldl (· + ·) 0
    some {
      total
      count := m.metrics.length
      average := total / Float.ofNat m.metrics.length
      slowest := (extreme (fun a b => a < b) first rest).name
      fastest := (extreme (fun a b => b < a) first rest).name }

def report (m : Monitor) : Text :=
  match m.totals? with
  | none => []
  | some t =>
    Text.join "\n" ["", "Performance report", "  Operations: " ++ Text.ofNat t.count,
      "  Total: " ++ Decimal.fixed 2 t.total ++ "ms",
      "  Average: " ++ Decimal.fixed 2 t.average ++ "ms",
      "  Slowest: " ++ textOf t.slowest, "  Fastest: " ++ textOf t.fastest, ""]

def flush (m : Monitor) : Monitor × List Entry :=
  let entries : List Entry := match m.totals? with
    | none => []
    | some t =>
      let members : List (Text × Json) :=
        [("total_duration_ms", .float t.total), ("total_operations", .int t.count),
         ("average_duration_ms", .float t.average), ("slowest_operation", t.slowest),
         ("fastest_operation", t.fastest)]
      [⟨.info, "Performance summary " ++ Json.summary 1200 (.obj members)⟩]
  ({ m with metrics := [], running := [] }, entries)

end Monitor
end Phrasebook.Timing
