import Reckoner.Zone.Timetable

/-!
# Constant offsets

Zones of constant offset, named for it.
-/

namespace Reckoner.Zone.Data

/-- Zones of constant offset, named for it. -/
def etc : List RegionEntry := [
  { name := "Etc/GMT", initial := 0,
    rule := none,
    changes :=
      [] },
  { name := "Etc/GMT+1", initial := -3600,
    rule := none,
    changes :=
      [] },
  { name := "Etc/GMT+10", initial := -36000,
    rule := none,
    changes :=
      [] },
  { name := "Etc/GMT+11", initial := -39600,
    rule := none,
    changes :=
      [] },
  { name := "Etc/GMT+12", initial := -43200,
    rule := none,
    changes :=
      [] },
  { name := "Etc/GMT+2", initial := -7200,
    rule := none,
    changes :=
      [] },
  { name := "Etc/GMT+3", initial := -10800,
    rule := none,
    changes :=
      [] },
  { name := "Etc/GMT+4", initial := -14400,
    rule := none,
    changes :=
      [] },
  { name := "Etc/GMT+5", initial := -18000,
    rule := none,
    changes :=
      [] },
  { name := "Etc/GMT+6", initial := -21600,
    rule := none,
    changes :=
      [] },
  { name := "Etc/GMT+7", initial := -25200,
    rule := none,
    changes :=
      [] },
  { name := "Etc/GMT+8", initial := -28800,
    rule := none,
    changes :=
      [] },
  { name := "Etc/GMT+9", initial := -32400,
    rule := none,
    changes :=
      [] },
  { name := "Etc/GMT-1", initial := 3600,
    rule := none,
    changes :=
      [] },
  { name := "Etc/GMT-10", initial := 36000,
    rule := none,
    changes :=
      [] },
  { name := "Etc/GMT-11", initial := 39600,
    rule := none,
    changes :=
      [] },
  { name := "Etc/GMT-12", initial := 43200,
    rule := none,
    changes :=
      [] },
  { name := "Etc/GMT-13", initial := 46800,
    rule := none,
    changes :=
      [] },
  { name := "Etc/GMT-14", initial := 50400,
    rule := none,
    changes :=
      [] },
  { name := "Etc/GMT-2", initial := 7200,
    rule := none,
    changes :=
      [] },
  { name := "Etc/GMT-3", initial := 10800,
    rule := none,
    changes :=
      [] },
  { name := "Etc/GMT-4", initial := 14400,
    rule := none,
    changes :=
      [] },
  { name := "Etc/GMT-5", initial := 18000,
    rule := none,
    changes :=
      [] },
  { name := "Etc/GMT-6", initial := 21600,
    rule := none,
    changes :=
      [] },
  { name := "Etc/GMT-7", initial := 25200,
    rule := none,
    changes :=
      [] },
  { name := "Etc/GMT-8", initial := 28800,
    rule := none,
    changes :=
      [] },
  { name := "Etc/GMT-9", initial := 32400,
    rule := none,
    changes :=
      [] },
  { name := "Etc/UTC", initial := 0,
    rule := none,
    changes :=
      [] }]

end Reckoner.Zone.Data
