/-!
# Durations

The displayed form of a duration in whole milliseconds: seconds with up to three decimals from one
second on, milliseconds below, and nanoseconds for none at all.
-/

namespace LiveTree.Duration

/-- The decimals of a fraction of a thousand, without zeros at the end. -/
def decimals (thousandths : Nat) : String :=
  if thousandths % 1000 = 0 then ""
  else if thousandths % 100 = 0 then s!".{thousandths / 100}"
  else if thousandths % 10 = 0 then
    s!".{thousandths / 100}{thousandths / 10 % 10}"
  else s!".{thousandths / 100}{thousandths / 10 % 10}{thousandths % 10}"

/-- The displayed form of a number of milliseconds. -/
def render (ms : Nat) : String :=
  if ms = 0 then "0ns"
  else if ms < 1000 then s!"{ms}ms"
  else s!"{ms / 1000}{decimals (ms % 1000)}s"

end LiveTree.Duration
