import Reckoner.Zone.Data.Africa
import Reckoner.Zone.Data.Aliases
import Reckoner.Zone.Data.America
import Reckoner.Zone.Data.Antarctica
import Reckoner.Zone.Data.Asia
import Reckoner.Zone.Data.Atlantic
import Reckoner.Zone.Data.Australia
import Reckoner.Zone.Data.Etc
import Reckoner.Zone.Data.Europe
import Reckoner.Zone.Data.Indian
import Reckoner.Zone.Data.Pacific

/-!
# Regions

The table of all regions and the look-up of a region's timetable by name.
Names are case-sensitive.
-/

namespace Reckoner.Zone

/-- The regions that have a timetable of their own. -/
def regions : List RegionEntry :=
  Data.europe ++ Data.america ++ Data.asia ++ Data.africa ++ Data.australia ++ Data.pacific ++
    Data.atlantic ++ Data.indian ++ Data.antarctica ++ Data.etc

/-- The name under which the timetable of `name` stands. -/
def mainName (name : String) : String := (Data.aliases.lookup name).getD name

/-- The timetable of the region with the given name. -/
def timetable? (name : String) : Option Timetable :=
  (regions.find? (·.name == mainName name)).map (·.timetable)

end Reckoner.Zone
