import Reckoner.Zone.Timetable

/-!
# The Indian Ocean

The regions of the Indian Ocean and when their clocks changed.
-/

namespace Reckoner.Zone.Data

/-- The regions of the Indian Ocean and when their clocks changed. -/
def indian : List RegionEntry := [
  { name := "Indian/Chagos", initial := 17380,
    rule := none,
    changes :=
      ["-1988167780:18000 820436400:21600"] },
  { name := "Indian/Maldives", initial := 17640,
    rule := none,
    changes :=
      ["-315636840:18000"] },
  { name := "Indian/Mauritius", initial := 13800,
    rule := none,
    changes :=
      ["-1988164200:14400 403041600:18000 417034800:14400 1224972000:18000 1238274000:14400"] }]

end Reckoner.Zone.Data
