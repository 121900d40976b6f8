/-!
# Kinds of values

The kinds a value can have, with the names the language itself uses for them:
`type(x)` answers with one, `is` and `as` are followed by one, and error
messages speak of them.
-/

namespace Reckoner

/-- The kind of a value. -/
inductive Kind where
  | number
  | quantity
  | string
  | boolean
  | null
  | date
  | array
  | object
  | function
  | markdown
deriving DecidableEq, Repr

namespace Kind

/-- The name of a kind. -/
def name : Kind → String
  | number => "number"
  | quantity => "quantity"
  | string => "string"
  | boolean => "boolean"
  | null => "null"
  | date => "date"
  | array => "array"
  | object => "object"
  | function => "function"
  | markdown => "markdown"

/-- The kind that can be written behind `is` and `as`: its name or a second
name, in any mixture of cases.  No source text asks for markdown. -/
def ofName? (text : String) : Option Kind :=
  match String.ofList (text.toList.map Char.toLower) with
  | "number" => some number
  | "quantity" => some quantity
  | "unit" => some quantity
  | "string" => some string
  | "text" => some string
  | "boolean" => some boolean
  | "bool" => some boolean
  | "null" => some null
  | "date" => some date
  | "array" => some array
  | "list" => some array
  | "object" => some object
  | "function" => some function
  | _ => none

end Kind

end Reckoner
