import Reckoner.Zone.Region

/-!
# Time zones

A `Zone` is a constant offset, a region with its timetable, or the host's own
zone with the timetable that the host keeps.  `Zone.wallClock` is what its
clocks show at an instant and `Zone.instantOf?` the instant at which they show
a reading.

The clocks show a reading at every instant here, also where the offset leads
past the ends of the calendar (`Wall.inRange`).  That it is a panic to read them
there is left out.
-/

namespace Reckoner

/-- A time zone. -/
inductive Zone where
  /-- Clocks that always run `seconds` ahead of universal time. -/
  | fixed (seconds : Int)
  /-- A region, under the name it was asked for by. -/
  | region (name : String) (table : Timetable)
  /-- The zone of the host, whose clocks keep a timetable of its own. -/
  | host (table : Timetable)
deriving DecidableEq, Repr

namespace Zone

/-- Universal time. -/
def utc : Zone := .fixed 0

/-- How many seconds the clocks are ahead at second `t` of universal time. -/
def offsetAt (z : Zone) (t : Int) : Int :=
  match z with
  | .fixed seconds => seconds
  | .region _ table => table.offsetAt t
  | .host table => table.offsetAt t

/-- What the clocks show at an instant. -/
def wallClock (z : Zone) (i : Instant) : Wall :=
  ⟨i.seconds + z.offsetAt i.seconds, i.nanos⟩

/-- The first second of universal time at which the clocks show second `w`. -/
def firstSecond? (z : Zone) (w : Int) : Option Int :=
  match z with
  | .fixed seconds => some (w - seconds)
  | .region _ table => table.earliest? w
  | .host table => table.earliest? w

/-- The first instant at which the clocks show a reading. -/
def earliest? (z : Zone) (w : Wall) : Option Instant :=
  match z.firstSecond? w.seconds with
  | some t => Instant.check? ⟨t, w.nanos⟩
  | none => none

/-- The instant at which the clocks show a reading.  A reading that comes twice
is the earlier one; one that a clock change skips is taken an hour later. -/
def instantOf? (z : Zone) (w : Wall) : Option Instant :=
  match z.earliest? w with
  | some i => some i
  | none => w.hourLater?.bind z.earliest?

end Zone

end Reckoner
