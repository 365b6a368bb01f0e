/-!
# Metrics

Counters of what an engine did, and the durations of its operations.  The counters are machine words:
they wrap around.  Percentiles are elements of the sorted durations.
-/

namespace LiveTree

/-- The counters. -/
structure Counters where
  fullParses : UInt64 := 0
  incrementalParses : UInt64 := 0
  parseFailures : UInt64 := 0
  parseTimeouts : UInt64 := 0
  editsApplied : UInt64 := 0
  editsDropped : UInt64 := 0
  debounceResets : UInt64 := 0
  scheduledFires : UInt64 := 0
  treeUpdates : UInt64 := 0
  verifications : UInt64 := 0
  deriving DecidableEq, Repr, Inhabited

/-- The counters in order. -/
def Counters.toList (c : Counters) : List UInt64 :=
  [c.fullParses, c.incrementalParses, c.parseFailures, c.parseTimeouts, c.editsApplied,
    c.editsDropped, c.debounceResets, c.scheduledFires, c.treeUpdates, c.verifications]

/-- Counters, and the recorded durations in microseconds, each with its operation, latest first. -/
structure Metrics where
  counters : Counters := {}
  timings : List (String × Nat) := []
  deriving DecidableEq, Repr, Inhabited

/-- What the durations of an operation amount to. -/
structure Stats where
  count : Nat
  least : Nat
  greatest : Nat
  mean : Nat
  p50 : Nat
  p95 : Nat
  p99 : Nat
  deriving DecidableEq, Repr

/-- Why there are no statistics of recorded durations. -/
inductive StatsError where
  | sumTooLarge
  deriving DecidableEq, Repr

namespace Metrics

/-- Changes the counters. -/
def count (m : Metrics) (f : Counters → Counters) : Metrics := { m with counters := f m.counters }

/-- Counts a parse that gave a tree. -/
def recordParse (m : Metrics) (incremental : Bool) : Metrics :=
  m.count fun c =>
    if incremental then { c with incrementalParses := c.incrementalParses + 1 }
    else { c with fullParses := c.fullParses + 1 }

/-- Counts a parse that gave none. -/
def recordParseFailure (m : Metrics) (timedOut : Bool) : Metrics :=
  m.count fun c => { c with
    parseFailures := c.parseFailures + 1
    parseTimeouts := if timedOut then c.parseTimeouts + 1 else c.parseTimeouts }

/-- Counts changes applied to a kept tree. -/
def recordEditsApplied (m : Metrics) (n : Nat) : Metrics :=
  m.count fun c => { c with editsApplied := c.editsApplied + UInt64.ofNat n }

/-- Counts changes that no kept tree could take. -/
def recordEditsDropped (m : Metrics) (n : Nat) : Metrics :=
  m.count fun c => { c with editsDropped := c.editsDropped + UInt64.ofNat n }

/-- Counts a timer that was replaced before it fired. -/
def recordDebounceReset (m : Metrics) : Metrics :=
  m.count fun c => { c with debounceResets := c.debounceResets + 1 }

/-- Counts a timer that fired. -/
def recordScheduledFire (m : Metrics) : Metrics :=
  m.count fun c => { c with scheduledFires := c.scheduledFires + 1 }

/-- Counts a tree that became current. -/
def recordTreeUpdate (m : Metrics) : Metrics :=
  m.count fun c => { c with treeUpdates := c.treeUpdates + 1 }

/-- Counts a verification. -/
def recordVerification (m : Metrics) : Metrics :=
  m.count fun c => { c with verifications := c.verifications + 1 }

/-- Parses that gave a tree. -/
def parses (m : Metrics) : UInt64 := m.counters.fullParses + m.counters.incrementalParses

/-- Records how many nanoseconds an operation took, in whole microseconds. -/
def recordTiming (m : Metrics) (operation : String) (nanos : Nat) : Metrics :=
  { m with timings := (operation, nanos / 1000) :: m.timings }

/-- The recorded durations of an operation, latest first. -/
def durations (m : Metrics) (operation : String) : List Nat :=
  (m.timings.filter (·.1 == operation)).map (·.2)

/-- The element of a sorted list at a position, or the last one when the position is past it. -/
def pick (sorted : List Nat) (position : Nat) : Nat :=
  sorted[min position (sorted.length - 1)]?.getD 0

/-- The sum of durations. -/
def total (durations : List Nat) : Nat := durations.foldl (· + ·) 0

/-- The statistics of a list of durations. -/
def summarize (durations : List Nat) : Stats :=
  let sorted := durations.mergeSort
  let n := sorted.length
  { count := n
    least := pick sorted 0
    greatest := pick sorted (n - 1)
    mean := total sorted / n
    p50 := pick sorted (n / 2)
    p95 := pick sorted (95 * n / 100)
    p99 := pick sorted (99 * n / 100) }

/-- The statistics of an operation, if it was ever recorded.  The sum of its durations has to be a
    64-bit word. -/
def stats (m : Metrics) (operation : String) : Except StatsError (Option Stats) :=
  match m.durations operation with
  | [] => .ok none
  | durations =>
    if total durations < UInt64.size then .ok (some (summarize durations)) else .error .sumTooLarge

/-- Forgets everything. -/
def reset (_ : Metrics) : Metrics := {}

end Metrics

end LiveTree
