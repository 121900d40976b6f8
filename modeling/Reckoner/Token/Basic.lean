import Reckoner.Unit.Table

/-!
# Tokens

The words and marks a source text is made of.  A `Token` says what it is; a
`Placed` token also where it starts, in bytes from the start of the source.

Names are sorted by what they stand for: a variable, a built-in function, a
unit, a currency, a time zone or a constant.  Some sorts can still be used as
names of the user's own (`Token.bindingName?`).
-/

namespace Reckoner

/-- Reserved words. -/
inductive Keyword where
  | to_ | in_ | as_ | of_ | is_
  | true_ | false_ | null
  | now | today | tomorrow | yesterday
  | total | sum | average | avg
deriving DecidableEq, Repr

namespace Keyword

/-- How a keyword is written. -/
def name : Keyword → String
  | to_ => "to"
  | in_ => "in"
  | as_ => "as"
  | of_ => "of"
  | is_ => "is"
  | true_ => "true"
  | false_ => "false"
  | null => "null"
  | now => "now"
  | today => "today"
  | tomorrow => "tomorrow"
  | yesterday => "yesterday"
  | total => "total"
  | sum => "sum"
  | average => "average"
  | avg => "avg"

/-- All keywords. -/
def all : List Keyword :=
  [to_, in_, as_, of_, is_, true_, false_, null, now, today, tomorrow, yesterday, total, sum,
    average, avg]

/-- The keyword that is written so. -/
def ofName? (text : String) : Option Keyword := all.find? (·.name == text)

/-- Whether a keyword asks for a conversion. -/
def isConversion : Keyword → Bool
  | to_ | in_ | as_ => true
  | _ => false

end Keyword

/-- Operators, brackets and other marks. -/
inductive Mark where
  | plus | minus | star | slash | caret | percent | mod
  | ampersand | pipe | shiftLeft | shiftRight
  | and | or | not
  | equals | plusAssign | minusAssign
  | equalEqual | notEqual | less | lessEqual | greater | greaterEqual
  | question | colon | arrow | dot | comma
  | leftParen | rightParen | leftBracket | rightBracket | leftBrace | rightBrace
deriving DecidableEq, Repr

/-- How a mark is shown. -/
def Mark.text : Mark → String
  | plus => "+"
  | minus => "-"
  | star => "*"
  | slash => "/"
  | caret => "^"
  | percent => "%"
  | mod => "mod"
  | ampersand => "&"
  | pipe => "|"
  | shiftLeft => "<<"
  | shiftRight => ">>"
  | and => "and"
  | or => "or"
  | not => "not"
  | equals => "="
  | plusAssign => "+="
  | minusAssign => "-="
  | equalEqual => "=="
  | notEqual => "!="
  | less => "<"
  | lessEqual => "<="
  | greater => ">"
  | greaterEqual => ">="
  | question => "?"
  | colon => ":"
  | arrow => "=>"
  | dot => "."
  | comma => ","
  | leftParen => "("
  | rightParen => ")"
  | leftBracket => "["
  | rightBracket => "]"
  | leftBrace => "\x7b"
  | rightBrace => "\x7d"

/-- The quotes a string can stand in. -/
inductive Quote where
  | double
  | single
  /-- Backticks: the string may hold expressions to be filled in. -/
  | template
deriving DecidableEq, Repr

/-- A piece of a string. -/
inductive Segment where
  /-- Text, with escapes already read. -/
  | text (content : String)
  /-- The source of an expression and where in the whole source it starts. -/
  | code (source : String) (offset : Nat)
deriving DecidableEq, Repr

/-- A word or mark of a source. -/
inductive Token where
  | number (text : String)
  | day (text : String)
  | time (text : String)
  | dayTime (text : String)
  | string (quote : Quote) (segments : List Segment)
  | name (text : String)
  | function (text : String)
  | keyword (k : Keyword)
  | unit (text : String)
  | currency (text : String)
  | zone (text : String)
  | constant (text : String)
  | mark (m : Mark)
  /-- The end of the source. -/
  | finish
deriving DecidableEq, Repr

/-- A token and where it starts. -/
structure Placed where
  token : Token
  offset : Nat
deriving DecidableEq, Repr

namespace Token

/-- The name, for a token that can be the name of a binding. -/
def bindingName? : Token → Option String
  | name text | unit text | zone text | constant text => some text
  | _ => none

/-- The unit, for a token that can stand where a unit is wanted.  A built-in
function qualifies if its name is that of a unit. -/
def unitName? : Token → Option String
  | unit text | currency text => some text
  | function text => if (MeasureUnit.find? text).isSome then some text else none
  | _ => none

/-- The name that a word has, whatever it stands for. -/
def wordText? : Token → Option String
  | name text | function text | unit text | currency text | zone text | constant text =>
    some text
  | keyword k => some k.name
  | _ => none

/-- How messages speak of a token. -/
def describe : Token → String
  | number text | day text | time text | dayTime text => "'" ++ text ++ "'"
  | name text | function text | unit text | currency text | zone text | constant text =>
    "'" ++ text ++ "'"
  | keyword k => "'" ++ k.name ++ "'"
  | string _ _ => "string literal"
  | mark m => "'" ++ m.text ++ "'"
  | finish => "end of input"

end Token

end Reckoner
