/-!
# Clocks that move when told to

A clock reading is a count of milliseconds in a 64-bit word. Several handles may share one clock;
moving it through one of them is seen through all.

* `Reading.advance` wraps around at the end of the range; `Reading.advanceTo` never goes back.
* `ClockTable`: clocks and the handles on them.
-/

namespace OnScreen

/-- A count of milliseconds. -/
abbrev Reading := UInt64

namespace Reading

/-- The reading some milliseconds later, counted modulo the range (`advance`). -/
def advance (now ms : Reading) : Reading :=
  now + ms

/-- The reading of a clock that is told the time: an earlier time is ignored (`advance_to`). -/
def advanceTo (now ms : Reading) : Reading :=
  if now < ms then ms else now

end Reading

/-- Clocks, and for each handle the index of its clock. -/
structure ClockTable where
  readings : List Reading := [0]
  handles : List Nat := [0]

namespace ClockTable

/-- The clock behind a handle. -/
def clockOf? (table : ClockTable) (handle : Nat) : Option Nat :=
  table.handles[handle]?

/-- The table with the reading of the clock behind a handle changed. -/
def adjust (table : ClockTable) (handle : Nat) (f : Reading → Reading) : ClockTable :=
  match table.clockOf? handle with
  | some clock => { table with readings := table.readings.modify clock f }
  | none => table

/-- The table with one more handle on the clock behind a handle. -/
def share (table : ClockTable) (handle : Nat) : ClockTable :=
  match table.clockOf? handle with
  | some clock => { table with handles := table.handles ++ [clock] }
  | none => table

/-- The table with one more clock, at zero, and a handle on it. -/
def fresh (table : ClockTable) : ClockTable where
  readings := table.readings ++ [0]
  handles := table.handles ++ [table.readings.length]

/-- What each handle reads. -/
def now (table : ClockTable) : List Reading :=
  table.handles.map fun clock => table.readings.getD clock 0

end ClockTable

end OnScreen
