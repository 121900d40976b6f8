import Reckoner.Eval.Monad

/-!
# Parts of values

`x[key]` and `x.key`: items of arrays, characters of strings, values of
objects, parts of dates, magnitude and units of quantities.
-/

namespace Reckoner.Eval

/-- The place that an index means, a negative one counting from the end. -/
def resolveIndex (index : Int) (length : Nat) (offset : Nat) : Checked Nat :=
  if 0 ≤ index ∧ index < length then .ok index.toNat
  else if index < 0 ∧ -index ≤ length then .ok (length + index).toNat
  else failAt offset (.indexOutOfBounds index length)

/-- The part of a date that has the given name. -/
def datePart? (name : String) : Option DatePart :=
  match name with
  | "year" => some .year
  | "month" => some .month
  | "day" => some .day
  | "hour" => some .hour
  | "minute" => some .minute
  | "weekday" => some .weekday
  | _ => none

/-- A property that a value of this kind does not have. -/
def noProperty (v : Value) (key : String) (offset : Nat) : Checked Value :=
  failAt offset (.typing (.noProperty v.kind key))

/-- The part of a value that a key means. -/
def access (s : Session) (v key : Value) (offset : Nat) : Checked Value :=
  match v, key with
  | .array c, .number x => do
    let items := s.items c
    let i ← resolveIndex (← x.toInteger offset) items.size offset
    .ok (items[i]?.getD .null)
  | .string t, .number x => do
    let cs := t.toList
    let i ← resolveIndex (← x.toInteger offset) cs.length offset
    .ok (.string (String.ofList (cs[i]?).toList))
  | .array c, .string k =>
    if k == "length" then .ok (.ofNat (s.items c).size) else noProperty v k offset
  | .string t, .string k =>
    if k == "length" then .ok (.ofNat t.length) else noProperty v k offset
  | .object c, key => do
    let k ← key.asKey offset
    .ok (((s.entries c).find? k).getD .null)
  | .date d, .string k =>
    match datePart? k with
    | some part => .ok (.ofInt (d.part part))
    | none => noProperty v k offset
  | .quantity q, .string k =>
    match k with
    | "value" => .ok (.number q.magnitude)
    | "unit" => .ok (.string q.dims.render)
    | _ => noProperty v k offset
  | v, key => failAt offset (.typing (.notIndexable v.kind key.kind))

end Reckoner.Eval
