import Reckoner.Session
import Reckoner.Text.Quoted

/-!
# The text of values

How a value is shown.  Strings stand alone as they are and inside arrays and
objects in quotes.
-/

namespace Reckoner

/-- The text of a function that a source defines. -/
def Closure.render (f : Closure) : String :=
  let params := ", ".intercalate f.params
  match f.name with
  | some name => "<function " ++ name ++ "(" ++ params ++ ")>"
  | none => "<lambda(" ++ params ++ ")>"

namespace Session

/-- The text of a value inside an array or an object. -/
def renderItem (inner : Value → String) : Value → String
  | .string t => Text.quote t
  | v => inner v

/-- The text of a value, given that of the values inside arrays and
objects. -/
def renderWith (s : Session) (inner : Value → String) : Value → String
  | .number x => x.shown
  | .quantity q => q.render
  | .string t => t
  | .markdown t => t
  | .bool b => if b then "true" else "false"
  | .null => "null"
  | .date d => d.render
  | .closure _ f => f.render
  | .builtin _ b => "<builtin " ++ b.name ++ ">"
  | .applied _ callee bound =>
    "<partial " ++ renderWith s inner callee ++ " with " ++ toString bound.length ++ " bound>"
  | .array c => "[" ++ ", ".intercalate ((s.items c).toList.map (renderItem inner)) ++ "]"
  | .object c =>
    "\x7b" ++
      ", ".intercalate ((s.entries c).map fun (key, v) => key ++ ": " ++ renderItem inner v) ++
      "\x7d"

/-- The text of a value of which arrays and objects nest at most `nesting`
deep. -/
def renderTo (s : Session) : (nesting : Nat) → Value → String
  | 0 => s.renderWith fun _ => ""
  | n + 1 => s.renderWith (s.renderTo n)

/-- The text of a value. -/
def render (s : Session) (v : Value) : String := s.renderTo s.nesting v

end Session

end Reckoner
