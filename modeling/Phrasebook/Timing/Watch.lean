import Phrasebook.Json.Access
import Phrasebook.Timing.Monitor

/-!
A monitor with a clock that is set by hand. Names and metadata are values of any type.
-/

namespace Phrasebook.Timing

structure Watch where
  monitor : Monitor
  now : Float := 0

abbrev Watched (α : Type) := Except Fault (α × List Entry)

namespace Watch

def tick (w : Watch) (seconds : Json) : Except Fault Watch := do
  return { w with now := w.now + (← (← seconds.asNumber).toFloat) }

def start (w : Watch) (name metadata : Json) : Watch × Watched (Option Nat) :=
  if !w.monitor.enabled then (w, .ok (none, []))
  else match metadata.toMembers with
    | .error fault =>
      ({ w with monitor := { w.monitor with nextId := w.monitor.nextId + 1 } }, .error fault)
    | .ok members =>
      let (monitor, span) := w.monitor.start w.now name members
      ({ w with monitor }, .ok (span, []))

def spanOf : Json → Except Fault (Option Nat)
  | .arr _ | .obj _ => .error .wrongType
  | v =>
    let whole := v.number?.bind fun n => n.truncate?.filter fun k => 0 ≤ k && n.same (.whole k)
    .ok (whole.map Int.toNat)

/-- A span ended, and its duration. One whose metadata cannot be used is gone, and nothing is
recorded of it. -/
def finish (w : Watch) (span metadata : Json) : Watch × Watched Float :=
  match spanOf span with
  | .error fault => (w, .error fault)
  | .ok span =>
    let isRunning := span.any fun id => w.monitor.running.any fun s => s.id == id
    match if isRunning then metadata.toMembers else .ok [] with
    | .error fault =>
      let running := w.monitor.running.filter fun s => some s.id != span
      ({ w with monitor := { w.monitor with running } }, .error fault)
    | .ok members =>
      let (monitor, took, entries) := w.monitor.finish w.now span members
      ({ w with monitor }, .ok (took, entries))

def reserved : List Text := [Text.ofString "name", Text.ofString "self"]

def measure (w : Watch) (name metadata seconds extra : Json) : Watch × Watched Unit :=
  let given : Except Fault (List (Text × Json) × Watch) := do
    let members ← metadata.asNamed
    if members.any fun m => reserved.contains m.1 then throw .wrongType
    return (members, ← w.tick seconds)
  match given with
  | .error fault => (w, .error fault)
  | .ok (members, later) =>
    let (monitor, span) := w.monitor.start w.now name members
    let more := extra.toMembers
    let (monitor, _, entries) := monitor.finish later.now span (more.toOption.getD [])
    ({ later with monitor }, more.map fun _ => ((), entries))

end Watch
end Phrasebook.Timing
