import Reckoner.Eval.Access
import Reckoner.Eval.Monad
import Reckoner.Text.Casing
import Reckoner.Text.Search
import Reckoner.Value.Equality

/-!
# Functions on strings

Length, case, cutting, joining, replacing and searching.  Lengths and indices
count characters.
-/

namespace Reckoner.Eval

/-- The number of characters, items or entries. -/
def length (s : Session) (v : Value) (offset : Nat) : Checked Value :=
  match v with
  | .string t => .ok (.ofNat t.length)
  | .array c => .ok (.ofNat (s.items c).size)
  | .object c => .ok (.ofNat (s.entries c).length)
  | v => v.wrongKind "string, array or object" offset

/-- Works on the text of a string. -/
def mapText (f : String → String) (v : Value) (offset : Nat) : Checked Value := do
  return .string (f (← v.asString offset))

/-- The pieces between the separators; the characters if the separator is
empty. -/
def splitText (text sep : String) : List Value :=
  if sep.isEmpty then text.toList.map fun c => .string c.toString
  else (Text.cut sep.toList text.toList).map fun piece => .string (String.ofList piece)

/-- Cuts a string at a separator. -/
def split (v sep : Value) (offset : Nat) : EvalM Value := do
  newList (splitText (← v.asString offset) (← sep.asString offset))

/-- Joins the texts of the items of an array. -/
def join (v : Value) (sep : Option Value) (offset : Nat) : EvalM Value := do
  let items ← itemsOf v offset
  let sep ←
    match sep with
    | some sep => sep.asString offset
    | none => (.ok "" : Checked String)
  let s ← get
  return .string (sep.intercalate (items.toList.map s.render))

/-- Replaces each occurrence of a text. -/
def replace (v old new : Value) (offset : Nat) : Checked Value := do
  let text ← v.asString offset
  let old ← old.asString offset
  let new ← new.asString offset
  if old.isEmpty then failAt offset (.argument .replaceEmpty)
  else return .string (String.ofList (Text.replaceAll old.toList new.toList text.toList))

/-- Whether a text occurs in a string, an item in an array, a key in an
object. -/
def contains (s : Session) (v part : Value) (offset : Nat) : Checked Value :=
  match v, part with
  | .string t, part => .ok (.bool (Text.occurs (s.render part).toList t.toList))
  | .array c, part => .ok (.bool ((s.items c).toList.any fun item => s.same item part))
  | .object c, .string key => .ok (.bool ((s.entries c).hasKey key))
  | v, _ => v.wrongKind "string or array" offset

/-- Whether a string starts with a text. -/
def startsWith (v part : Value) (offset : Nat) : Checked Value := do
  let text ← v.asString offset
  let part ← part.asString offset
  return .bool (part.toList.isPrefixOf text.toList)

/-- Whether a string ends with a text. -/
def endsWith (v part : Value) (offset : Nat) : Checked Value := do
  let text ← v.asString offset
  let part ← part.asString offset
  return .bool (part.toList.isSuffixOf text.toList)

/-- An index kept within a length. -/
def boundOf (v : Value) (length : Nat) (offset : Nat) : Checked Nat := do
  let n ← (← v.asNumber offset).toInteger offset
  return min n.toNat length

/-- The characters from one index up to another, in either order. -/
def substring (v start : Value) (stop : Option Value) (offset : Nat) : Checked Value := do
  let cs := (← v.asString offset).toList
  let a ← boundOf start cs.length offset
  let b ←
    match stop with
    | some stop => boundOf stop cs.length offset
    | none => .ok cs.length
  return .string (String.ofList ((cs.take (max a b)).drop (min a b)))

end Reckoner.Eval
