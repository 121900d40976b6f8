/-!
# Built-in functions

The functions that every source can call, their names and how many arguments
they take.  What they compute is in the modules under `Reckoner.Eval`.
-/

namespace Reckoner

/-- A built-in function. -/
inductive Builtin where
  | sqrt | cbrt | abs | round | floor | ceil
  | trunc | sign | min | max | clamp | exponential
  | ln | log | log10 | log2 | sin | cos
  | tan | asin | acos | atan | pow | factorial
  | gcd | lcm | sum | average | avg | len
  | upper | lower | trim | split | join | replace
  | contains | startsWith | endsWith | substring | stringOf | numberOf
  | map | filter | reduce | sort | groupBy | find
  | every | any | append | push | pop | first
  | last | reverse | range | slice | flatten | unique
  | count | keys | values | has | get | put
  | merge | year | month | day | hour | minute
  | weekday | timestamp | dateOf | bindArgs | typeName | env
  | arg
deriving DecidableEq, Repr

/-- How many arguments a function takes. -/
inductive Arity where
  | exact (n : Nat)
  | oneOf (counts : List Nat)
  | atLeast (n : Nat)
deriving DecidableEq, Repr

namespace Arity

/-- Whether a number of arguments is allowed. -/
def allows (a : Arity) (n : Nat) : Bool :=
  match a with
  | exact m => n == m
  | oneOf counts => counts.contains n
  | atLeast m => m ≤ n

/-- The allowed numbers in words. -/
def describe : Arity → String
  | exact m => toString m
  | oneOf counts => String.intercalate " or " (counts.map toString)
  | atLeast m => "at least " ++ toString m

end Arity

namespace Builtin

/-- The name that sources call a function by. -/
def name : Builtin → String
  | sqrt => "sqrt"
  | cbrt => "cbrt"
  | abs => "abs"
  | round => "round"
  | floor => "floor"
  | ceil => "ceil"
  | trunc => "trunc"
  | sign => "sign"
  | min => "min"
  | max => "max"
  | clamp => "clamp"
  | exponential => "exp"
  | ln => "ln"
  | log => "log"
  | log10 => "log10"
  | log2 => "log2"
  | sin => "sin"
  | cos => "cos"
  | tan => "tan"
  | asin => "asin"
  | acos => "acos"
  | atan => "atan"
  | pow => "pow"
  | factorial => "factorial"
  | gcd => "gcd"
  | lcm => "lcm"
  | sum => "sum"
  | average => "average"
  | avg => "avg"
  | len => "len"
  | upper => "upper"
  | lower => "lower"
  | trim => "trim"
  | split => "split"
  | join => "join"
  | replace => "replace"
  | contains => "contains"
  | startsWith => "startsWith"
  | endsWith => "endsWith"
  | substring => "substring"
  | stringOf => "str"
  | numberOf => "number"
  | map => "map"
  | filter => "filter"
  | reduce => "reduce"
  | sort => "sort"
  | groupBy => "groupBy"
  | find => "find"
  | every => "every"
  | any => "some"
  | append => "append"
  | push => "push"
  | pop => "pop"
  | first => "first"
  | last => "last"
  | reverse => "reverse"
  | range => "range"
  | slice => "slice"
  | flatten => "flatten"
  | unique => "unique"
  | count => "count"
  | keys => "keys"
  | values => "values"
  | has => "has"
  | get => "get"
  | put => "set"
  | merge => "merge"
  | year => "year"
  | month => "month"
  | day => "day"
  | hour => "hour"
  | minute => "minute"
  | weekday => "weekday"
  | timestamp => "timestamp"
  | dateOf => "date"
  | bindArgs => "partial"
  | typeName => "type"
  | env => "env"
  | arg => "arg"

/-- How many arguments a function takes. -/
def arity : Builtin → Arity
  | sqrt => .exact 1
  | cbrt => .exact 1
  | abs => .exact 1
  | round => .oneOf [1, 2]
  | floor => .exact 1
  | ceil => .exact 1
  | trunc => .exact 1
  | sign => .exact 1
  | min => .atLeast 1
  | max => .atLeast 1
  | clamp => .exact 3
  | exponential => .exact 1
  | ln => .exact 1
  | log => .oneOf [1, 2]
  | log10 => .exact 1
  | log2 => .exact 1
  | sin => .exact 1
  | cos => .exact 1
  | tan => .exact 1
  | asin => .exact 1
  | acos => .exact 1
  | atan => .exact 1
  | pow => .exact 2
  | factorial => .exact 1
  | gcd => .exact 2
  | lcm => .exact 2
  | sum => .atLeast 0
  | average => .atLeast 0
  | avg => .atLeast 0
  | len => .exact 1
  | upper => .exact 1
  | lower => .exact 1
  | trim => .exact 1
  | split => .exact 2
  | join => .oneOf [1, 2]
  | replace => .exact 3
  | contains => .exact 2
  | startsWith => .exact 2
  | endsWith => .exact 2
  | substring => .oneOf [2, 3]
  | stringOf => .exact 1
  | numberOf => .exact 1
  | map => .exact 2
  | filter => .exact 2
  | reduce => .oneOf [2, 3]
  | sort => .oneOf [1, 2]
  | groupBy => .exact 2
  | find => .exact 2
  | every => .exact 2
  | any => .exact 2
  | append => .atLeast 2
  | push => .atLeast 2
  | pop => .exact 1
  | first => .exact 1
  | last => .exact 1
  | reverse => .exact 1
  | range => .oneOf [1, 2, 3]
  | slice => .oneOf [2, 3]
  | flatten => .exact 1
  | unique => .exact 1
  | count => .oneOf [1, 2]
  | keys => .exact 1
  | values => .exact 1
  | has => .exact 2
  | get => .oneOf [2, 3]
  | put => .exact 3
  | merge => .atLeast 1
  | year => .exact 1
  | month => .exact 1
  | day => .exact 1
  | hour => .exact 1
  | minute => .exact 1
  | weekday => .exact 1
  | timestamp => .exact 1
  | dateOf => .oneOf [0, 1, 3]
  | bindArgs => .atLeast 1
  | typeName => .exact 1
  | env => .exact 1
  | arg => .exact 0

/-- All functions. -/
def all : List Builtin := [
  .sqrt, .cbrt, .abs, .round, .floor, .ceil,
  .trunc, .sign, .min, .max, .clamp, .exponential,
  .ln, .log, .log10, .log2, .sin, .cos,
  .tan, .asin, .acos, .atan, .pow, .factorial,
  .gcd, .lcm, .sum, .average, .avg, .len,
  .upper, .lower, .trim, .split, .join, .replace,
  .contains, .startsWith, .endsWith, .substring, .stringOf, .numberOf,
  .map, .filter, .reduce, .sort, .groupBy, .find,
  .every, .any, .append, .push, .pop, .first,
  .last, .reverse, .range, .slice, .flatten, .unique,
  .count, .keys, .values, .has, .get, .put,
  .merge, .year, .month, .day, .hour, .minute,
  .weekday, .timestamp, .dateOf, .bindArgs, .typeName, .env,
  .arg]

/-- The function with the given name. -/
def ofName? (name : String) : Option Builtin := all.find? (·.name == name)

end Builtin

end Reckoner
