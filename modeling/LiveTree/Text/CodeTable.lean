import LiveTree.Text.Fields

/-!
# Tables of code points

A property of characters is kept as a table of runs of code points, in increasing order, each with the
values that its code points share.  A table is written as a text with one word for each run:

* `ad` is a single code point, `41-5a` are all from the one to the other, and `100-12e/2` is every
  second of them;
* `300-314:e6` gives a run a value, and `fb01:66,69` gives it several.

All numbers are hexadecimal.  `CodeTable.find?` answers the run of a code point in logarithmic time.
-/

namespace LiveTree.Text

/-- Code points at equal distances, and what they have in common. -/
structure Run where
  first : Nat
  last : Nat
  step : Nat := 1
  values : List Nat := []
  deriving DecidableEq, Repr

namespace Run

/-- Whether a code point is one of the run. -/
def contains (run : Run) (point : Nat) : Bool :=
  run.first ≤ point && point ≤ run.last && (point - run.first) % run.step == 0

/-- Reads a run. -/
def read? (word : Text) : Option Run := do
  let parts := fields (· == ':') word
  let bounds ← (fields (fun c => c == '-' || c == '/') (parts.headD [])).mapM (number? 16)
  let values ← (parts.drop 1).mapM fun values => (fields (· == ',') values).mapM (number? 16)
  match bounds with
  | [point] => return { first := point, last := point, values := values.flatten }
  | [first, last] => return { first, last, values := values.flatten }
  | [first, last, step] => return { first, last, step, values := values.flatten }
  | _ => none

end Run

/-- Runs in increasing order. -/
structure CodeTable where
  runs : Array Run
  deriving Repr

namespace CodeTable

/-- Reads a table; words that are no runs are passed over. -/
def read (text : String) : CodeTable := ⟨((words text.toList).filterMap Run.read?).toArray⟩

/-- The run of a code point among those from `low` up to `high`. -/
def findFrom? (table : CodeTable) (point : Nat) (low high : Nat) (bounded : high ≤ table.runs.size) :
    Option Run :=
  if h : low < high then
    let middle := low + (high - low) / 2
    have : middle < table.runs.size := by omega
    let run := table.runs[middle]
    if point < run.first then table.findFrom? point low middle (by omega)
    else if run.last < point then table.findFrom? point (middle + 1) high bounded
    else if run.contains point then some run
    else none
  else none
termination_by high - low

/-- The run of a code point. -/
def find? (table : CodeTable) (point : Nat) : Option Run :=
  table.findFrom? point 0 table.runs.size (Nat.le_refl _)

/-- Whether a character is in one of the runs. -/
def contains (table : CodeTable) (c : Char) : Bool := (table.find? c.toNat).isSome

end CodeTable

end LiveTree.Text
