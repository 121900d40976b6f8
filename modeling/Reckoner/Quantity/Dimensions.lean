import Reckoner.Unit.Table

/-!
# Dimensions

The units of a quantity: at most one for each category, with its power.  The
terms stand in the order of the categories, each category once.

`Dimensions.render` writes positive powers joined by `*`, then the negative
ones behind a `/` each; when there are only negative powers they are written
with their sign.

Powers are meant for words of 32 bits, but are integers of any size here.  What
becomes of a power that has no room in a word is left out: where a sum, a
multiple or the other sign of a power leads there, checked arithmetic stops the
program and unchecked arithmetic wraps around.  Statements that depend on it ask
for powers that fit.
-/

namespace Reckoner

/-- A unit spelling as it stands in a source, with its power. -/
structure UnitTerm where
  unit : String
  exponent : Int
deriving DecidableEq, Repr

/-- A unit of one category, with its power. -/
structure Term where
  category : Category
  unit : String
  exponent : Int
deriving DecidableEq, Repr

/-- The units of a quantity. -/
structure Dimensions where
  terms : List Term
deriving DecidableEq, Repr

namespace Dimensions

/-- No unit at all. -/
def none : Dimensions := ⟨[]⟩

/-- Whether there is no unit. -/
def isEmpty (d : Dimensions) : Bool := d.terms.isEmpty

/-- The term of a category. -/
def find? (d : Dimensions) (c : Category) : Option Term :=
  d.terms.find? (fun t => t.category = c)

/-- The power of a category, zero where it is absent. -/
def exponent (d : Dimensions) (c : Category) : Int :=
  match d.find? c with
  | some t => t.exponent
  | .none => 0

/-- Inserts a term in front of those of later categories. -/
def insertTerm (t : Term) : List Term → List Term
  | [] => [t]
  | u :: rest =>
    if u.category.rank < t.category.rank then u :: insertTerm t rest else t :: u :: rest

/-- Adds the term of a category that has none yet. -/
def insert (d : Dimensions) (t : Term) : Dimensions := ⟨insertTerm t d.terms⟩

/-- Adds `n` to the power of a category; a power that becomes zero takes its
term away. -/
def shiftExponent (d : Dimensions) (c : Category) (n : Int) : Dimensions :=
  ⟨d.terms.filterMap fun t =>
    if t.category = c then
      if t.exponent + n = 0 then .none else some { t with exponent := t.exponent + n }
    else some t⟩

/-- The only term, if there is just one. -/
def single? (d : Dimensions) : Option Term :=
  match d.terms with
  | [t] => some t
  | _ => .none

/-- Whether two lists of units have the same categories with the same powers,
whatever the units. -/
def compatible (d e : Dimensions) : Bool :=
  d.terms.length == e.terms.length &&
    d.terms.all fun t =>
      match e.find? t.category with
      | some u => u.exponent = t.exponent
      | .none => false

/-- All powers with the other sign. -/
def negated (d : Dimensions) : Dimensions :=
  ⟨d.terms.map fun t => { t with exponent := -t.exponent }⟩

/-- All powers multiplied by `n`. -/
def scaled (d : Dimensions) (n : Int) : Dimensions :=
  ⟨(d.terms.map fun t => { t with exponent := t.exponent * n }).filter
    fun t => t.exponent ≠ 0⟩

/-! ## Text -/

/-- A unit with a power, the power one left out. -/
def renderPower (unit : String) (exponent : Int) : String :=
  if exponent = 1 then unit else unit ++ "^" ++ toString exponent

/-- The units as a quantity shows them. -/
def render (d : Dimensions) : String :=
  let positive := (d.terms.filter fun t => 0 < t.exponent).map fun t =>
    renderPower t.unit t.exponent
  let negative := (d.terms.filter fun t => t.exponent < 0).map fun t =>
    renderPower t.unit (-t.exponent)
  if negative.isEmpty then "*".intercalate positive
  else if positive.isEmpty then
    "*".intercalate (d.terms.map fun t => renderPower t.unit t.exponent)
  else "*".intercalate positive ++ "/" ++ "/".intercalate negative

end Dimensions

end Reckoner
