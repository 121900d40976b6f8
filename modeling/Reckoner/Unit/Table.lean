import Reckoner.Decimal.Power
import Reckoner.Text.Casing

/-!
# Units of measure

The units the language knows, each with its spellings, the category it
measures and its size in the category's base unit: metre, kilogram, second,
kelvin, byte, square metre and litre.  `MeasureUnit.find?` looks a spelling
up.
-/

namespace Reckoner

/-- What a unit measures.  A quantity has at most one unit of each category. -/
inductive Category where
  | length
  | mass
  | time
  | temperature
  | data
  | area
  | volume
  | currency
deriving DecidableEq, Repr

namespace Category

/-- The name of a category. -/
def name : Category → String
  | length => "length"
  | mass => "mass"
  | time => "time"
  | temperature => "temperature"
  | data => "data"
  | area => "area"
  | volume => "volume"
  | currency => "currency"

/-- The place of a category in a list of dimensions. -/
def rank : Category → Nat
  | length => 0
  | mass => 1
  | time => 2
  | temperature => 3
  | data => 4
  | area => 5
  | volume => 6
  | currency => 7

end Category

/-- The units that dates can be shifted by. -/
inductive CalendarUnit where
  | second
  | minute
  | hour
  | day
  | week
  | month
  | year
deriving DecidableEq, Repr

/-- A unit of measure. -/
structure MeasureUnit where
  /-- The short form, which is the first spelling. -/
  symbol : String
  /-- The other spellings. -/
  aliases : List String
  category : Category
  /-- The size in the base unit of the category. -/
  factor : Decimal
deriving DecidableEq, Repr

namespace MeasureUnit

/-- All spellings. -/
def names (u : MeasureUnit) : List String := u.symbol :: u.aliases

/-- The calendar unit that a unit of time is, if it is one. -/
def calendarUnit? (u : MeasureUnit) : Option CalendarUnit :=
  match u.symbol with
  | "s" => some .second
  | "min" => some .minute
  | "h" => some .hour
  | "d" => some .day
  | "wk" => some .week
  | "mo" => some .month
  | "yr" => some .year
  | _ => none

/-- Units of length. -/
def lengthUnits : List MeasureUnit := [
  ⟨"nm", ["nanometer", "nanometers", "nanometre", "nanometres"], .length, .ofScaled 1 9⟩,
  ⟨"um", ["µm", "micrometer", "micrometers", "micron", "microns"], .length, .ofScaled 1 6⟩,
  ⟨"mm", ["millimeter", "millimeters", "millimetre", "millimetres"], .length, .ofScaled 1 3⟩,
  ⟨"cm", ["centimeter", "centimeters", "centimetre", "centimetres"], .length, .ofScaled 1 2⟩,
  ⟨"dm", ["decimeter", "decimeters", "decimetre", "decimetres"], .length, .ofScaled 1 1⟩,
  ⟨"m", ["meter", "meters", "metre", "metres"], .length, .ofScaled 1 0⟩,
  ⟨"km", ["kilometer", "kilometers", "kilometre", "kilometres"], .length, .ofScaled 1000 0⟩,
  ⟨"inch", ["inches"], .length, .ofScaled 254 4⟩,
  ⟨"ft", ["foot", "feet"], .length, .ofScaled 3048 4⟩,
  ⟨"yd", ["yard", "yards"], .length, .ofScaled 9144 4⟩,
  ⟨"mi", ["mile", "miles"], .length, .ofScaled 1609344 3⟩,
  ⟨"nmi", ["nauticalmile", "nauticalmiles"], .length, .ofScaled 1852 0⟩,
  ⟨"ly", ["lightyear", "lightyears"], .length, .ofScaled 9460730472580800 0⟩]

/-- Units of mass. -/
def massUnits : List MeasureUnit := [
  ⟨"mg", ["milligram", "milligrams"], .mass, .ofScaled 1 6⟩,
  ⟨"g", ["gram", "grams", "gramme", "grammes"], .mass, .ofScaled 1 3⟩,
  ⟨"kg", ["kilogram", "kilograms", "kilo", "kilos"], .mass, .ofScaled 1 0⟩,
  ⟨"tonne", ["tonnes", "ton", "tons"], .mass, .ofScaled 1000 0⟩,
  ⟨"lb", ["lbs", "pound", "pounds"], .mass, .ofScaled 45359237 8⟩,
  ⟨"oz", ["ounce", "ounces"], .mass, .ofScaled 28349523125 12⟩,
  ⟨"st", ["stone", "stones"], .mass, .ofScaled 635029318 8⟩,
  ⟨"ct", ["carat", "carats"], .mass, .ofScaled 2 4⟩]

/-- Units of time. -/
def timeUnits : List MeasureUnit := [
  ⟨"ns", ["nanosecond", "nanoseconds"], .time, .ofScaled 1 9⟩,
  ⟨"us", ["µs", "microsecond", "microseconds"], .time, .ofScaled 1 6⟩,
  ⟨"ms", ["millisecond", "milliseconds"], .time, .ofScaled 1 3⟩,
  ⟨"s", ["sec", "secs", "second", "seconds"], .time, .ofScaled 1 0⟩,
  ⟨"min", ["mins", "minute", "minutes"], .time, .ofScaled 60 0⟩,
  ⟨"h", ["hr", "hrs", "hour", "hours"], .time, .ofScaled 3600 0⟩,
  ⟨"d", ["day", "days"], .time, .ofScaled 86400 0⟩,
  ⟨"wk", ["week", "weeks"], .time, .ofScaled 604800 0⟩,
  ⟨"mo", ["month", "months"], .time, .ofScaled 2629746 0⟩,
  ⟨"yr", ["yrs", "year", "years"], .time, .ofScaled 31556952 0⟩]

/-- Units of temperature.  Readings convert with an offset, so only differences go by
the factor. -/
def temperatureUnits : List MeasureUnit := [
  ⟨"K", ["kelvin", "kelvins"], .temperature, .ofScaled 1 0⟩,
  ⟨"celsius", ["degC", "centigrade"], .temperature, .ofScaled 1 0⟩,
  ⟨"fahrenheit", ["degF"], .temperature, .ofScaled 5 0⟩]

/-- Units of data. -/
def dataUnits : List MeasureUnit := [
  ⟨"bit", ["bits"], .data, .ofScaled 125 3⟩,
  ⟨"B", ["byte", "bytes"], .data, .ofScaled 1 0⟩,
  ⟨"kB", ["KB", "kilobyte", "kilobytes"], .data, .ofScaled 1000 0⟩,
  ⟨"MB", ["megabyte", "megabytes"], .data, .ofScaled 1000000 0⟩,
  ⟨"GB", ["gigabyte", "gigabytes"], .data, .ofScaled 1000000000 0⟩,
  ⟨"TB", ["terabyte", "terabytes"], .data, .ofScaled 1000000000000 0⟩,
  ⟨"PB", ["petabyte", "petabytes"], .data, .ofScaled 1000000000000000 0⟩,
  ⟨"KiB", ["kibibyte", "kibibytes"], .data, .ofScaled 1024 0⟩,
  ⟨"MiB", ["mebibyte", "mebibytes"], .data, .ofScaled 1048576 0⟩,
  ⟨"GiB", ["gibibyte", "gibibytes"], .data, .ofScaled 1073741824 0⟩,
  ⟨"TiB", ["tebibyte", "tebibytes"], .data, .ofScaled 1099511627776 0⟩]

/-- Units of area. -/
def areaUnits : List MeasureUnit := [
  ⟨"sqmm", ["mm2"], .area, .ofScaled 1 6⟩,
  ⟨"sqcm", ["cm2"], .area, .ofScaled 1 4⟩,
  ⟨"sqm", ["m2"], .area, .ofScaled 1 0⟩,
  ⟨"sqkm", ["km2"], .area, .ofScaled 1000000 0⟩,
  ⟨"ha", ["hectare", "hectares"], .area, .ofScaled 10000 0⟩,
  ⟨"acre", ["acres"], .area, .ofScaled 40468564224 7⟩,
  ⟨"sqin", ["in2"], .area, .ofScaled 64516 8⟩,
  ⟨"sqft", ["ft2"], .area, .ofScaled 9290304 8⟩,
  ⟨"sqmi", ["mi2"], .area, .ofScaled 2589988110336 6⟩]

/-- Units of volume. -/
def volumeUnits : List MeasureUnit := [
  ⟨"ml", ["mL", "milliliter", "milliliters", "millilitre", "millilitres"], .volume, .ofScaled 1 3⟩,
  ⟨"cl", ["centiliter", "centiliters", "centilitre", "centilitres"], .volume, .ofScaled 1 2⟩,
  ⟨"dl", ["deciliter", "deciliters", "decilitre", "decilitres"], .volume, .ofScaled 1 1⟩,
  ⟨"l", ["L", "liter", "liters", "litre", "litres"], .volume, .ofScaled 1 0⟩,
  ⟨"m3", ["cbm"], .volume, .ofScaled 1000 0⟩,
  ⟨"gal", ["gallon", "gallons"], .volume, .ofScaled 3785411784 9⟩,
  ⟨"qt", ["quart", "quarts"], .volume, .ofScaled 946352946 9⟩,
  ⟨"pt", ["pint", "pints"], .volume, .ofScaled 473176473 9⟩,
  ⟨"cup", ["cups"], .volume, .ofScaled 2365882365 10⟩,
  ⟨"floz", [], .volume, .ofScaled 295735295625 13⟩,
  ⟨"tbsp", ["tablespoon", "tablespoons"], .volume, .ofScaled 1478676478125 14⟩,
  ⟨"tsp", ["teaspoon", "teaspoons"], .volume, .ofScaled 492892159375 14⟩]

/-- All units, in the order in which spellings are looked up. -/
def all : List MeasureUnit :=
  lengthUnits ++ massUnits ++ timeUnits ++ temperatureUnits ++ dataUnits ++ areaUnits ++
    volumeUnits

/-- A spelling of at least this many characters may be written in any case. -/
def anyCaseLength : Nat := 3

/-- The long spellings in lower case. -/
def longNames : List (String × MeasureUnit) :=
  all.flatMap fun u =>
    (u.names.filter fun n => decide (anyCaseLength ≤ n.length)).map fun n => (Text.toLower n, u)

/-- The unit of a spelling.  Exact spellings come first; a long one also
matches in any case, so `Meters` is a unit and `mb` is not `MB`. -/
def find? (name : String) : Option MeasureUnit :=
  match all.find? (fun u => u.names.contains name) with
  | some u => some u
  | none =>
    if name.length < anyCaseLength then none
    else
      let lower := Text.toLower name
      (longNames.find? (fun entry => entry.1 == lower)).map (·.2)

end MeasureUnit

/-! ## Currencies -/

namespace Currency

/-- The codes of the currencies. -/
def codes : List String := [
  "USD", "EUR", "GBP", "JPY", "CHF", "CAD", "AUD", "NZD", "CNY", "HKD", "SGD", "INR",
  "KRW", "SEK", "NOK", "DKK", "PLN", "CZK", "HUF", "RON", "BGN", "TRY", "RUB", "UAH",
  "BRL", "MXN", "ARS", "CLP", "COP", "ZAR", "ILS", "AED", "SAR", "THB", "IDR", "MYR",
  "PHP", "VND", "TWD", "ISK", "BTC", "ETH"]

/-- Whether a name is the code of a currency. -/
def isCode (name : String) : Bool := codes.contains name

/-- The code that a currency sign stands for. -/
def ofSign? (sign : String) : Option String :=
  match sign with
  | "$" => some "USD"
  | "€" => some "EUR"
  | "£" => some "GBP"
  | "¥" => some "JPY"
  | _ => none

end Currency

end Reckoner
