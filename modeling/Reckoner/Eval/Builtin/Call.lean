import Reckoner.Eval.Builtin.Array
import Reckoner.Eval.Builtin.Host
import Reckoner.Eval.Builtin.Number
import Reckoner.Eval.Builtin.Object
import Reckoner.Eval.Builtin.Text

/-!
# Calling built-in functions

`callBuiltin` checks the number of arguments and then runs the function
(`runBuiltin`).  Functions that call back do so through `call`.
-/

namespace Reckoner.Eval

/-! ## Arguments by number -/

/-- Fails because of the number of arguments. -/
def wrongCount {α : Type} (b : Builtin) (args : List Value) (offset : Nat) : EvalM α :=
  fail offset (.argumentCount b.name b.arity.describe args.length)

/-- Runs a function of one argument. -/
def withOne (b : Builtin) (args : List Value) (offset : Nat) (f : Value → EvalM Value) :
    EvalM Value :=
  match args with
  | [x] => f x
  | args => wrongCount b args offset

/-- Runs a function of two arguments. -/
def withTwo (b : Builtin) (args : List Value) (offset : Nat) (f : Value → Value → EvalM Value) :
    EvalM Value :=
  match args with
  | [x, y] => f x y
  | args => wrongCount b args offset

/-- Runs a function of three arguments. -/
def withThree (b : Builtin) (args : List Value) (offset : Nat)
    (f : Value → Value → Value → EvalM Value) : EvalM Value :=
  match args with
  | [x, y, z] => f x y z
  | args => wrongCount b args offset

/-- Runs a function of one argument and one more that may be missing. -/
def withOneOrTwo (b : Builtin) (args : List Value) (offset : Nat)
    (f : Value → Option Value → EvalM Value) : EvalM Value :=
  match args with
  | [x] => f x none
  | [x, y] => f x (some y)
  | args => wrongCount b args offset

/-- Runs a function of two arguments and one more that may be missing. -/
def withTwoOrThree (b : Builtin) (args : List Value) (offset : Nat)
    (f : Value → Value → Option Value → EvalM Value) : EvalM Value :=
  match args with
  | [x, y] => f x y none
  | [x, y, z] => f x y (some z)
  | args => wrongCount b args offset

/-- Runs a function of an argument and any number of further ones. -/
def withRest (b : Builtin) (args : List Value) (offset : Nat)
    (f : Value → List Value → EvalM Value) : EvalM Value :=
  match args with
  | x :: rest => f x rest
  | [] => wrongCount b [] offset

/-! ## The functions -/

/-- Today, the date that a value stands for, or the day with the given
parts. -/
def dateOf (ctx : Context) (args : List Value) (offset : Nat) : EvalM Value :=
  match args with
  | [] => dayValue ctx .today none offset
  | [v] => toDate ctx v offset
  | [year, month, day] => dayOfParts ctx year month day offset
  | args => wrongCount .dateOf args offset

/-- Runs a built-in function. -/
def runBuiltin (ctx : Context) (call : Caller) (b : Builtin) (args : List Value) (offset : Nat) :
    EvalM Value :=
  match b with
  | .sqrt => withOne b args offset fun x => sqrt x offset
  | .cbrt => withOne b args offset fun x => viaFloat Float.cbrt x offset
  | .abs => withOne b args offset fun x => mapMagnitude x offset Decimal.abs
  | .round => withOneOrTwo b args offset fun x places => round x places offset
  | .floor => withOne b args offset fun x => mapMagnitude x offset Decimal.floor
  | .ceil => withOne b args offset fun x => mapMagnitude x offset Decimal.ceil
  | .trunc => withOne b args offset fun x => mapMagnitude x offset Decimal.trunc
  | .sign => withOne b args offset fun x => sign x offset
  | .min => extreme ctx .lt args offset
  | .max => extreme ctx .gt args offset
  | .clamp => withThree b args offset fun x low high => clamp ctx x low high offset
  | .exponential => withOne b args offset fun x => exponential x offset
  | .ln => withOne b args offset fun x => ln x offset
  | .log => withOneOrTwo b args offset fun x base => log x base .ten offset
  | .log10 => withOne b args offset fun x => log x none .ten offset
  | .log2 => withOne b args offset fun x => log x none .two offset
  | .sin => withOne b args offset fun x => viaFloat Float.sin x offset
  | .cos => withOne b args offset fun x => viaFloat Float.cos x offset
  | .tan => withOne b args offset fun x => viaFloat Float.tan x offset
  | .asin => withOne b args offset fun x => viaFloat Float.asin x offset
  | .acos => withOne b args offset fun x => viaFloat Float.acos x offset
  | .atan => withOne b args offset fun x => viaFloat Float.atan x offset
  | .pow => withTwo b args offset fun x y => binary ctx .pow x y offset
  | .factorial => withOne b args offset fun x => factorial x offset
  | .gcd => withTwo b args offset fun x y => gcd x y offset
  | .lcm => withTwo b args offset fun x y => lcm x y offset
  | .sum => sumValues ctx args offset
  | .average | .avg => averageValues ctx args offset
  | .len => withOne b args offset fun x => do length (← get) x offset
  | .upper => withOne b args offset fun x => mapText Text.toUpper x offset
  | .lower => withOne b args offset fun x => mapText Text.toLower x offset
  | .trim => withOne b args offset fun x => mapText Text.trim x offset
  | .split => withTwo b args offset fun x sep => split x sep offset
  | .join => withOneOrTwo b args offset fun x sep => join x sep offset
  | .replace => withThree b args offset fun x old new => replace x old new offset
  | .contains => withTwo b args offset fun x part => do contains (← get) x part offset
  | .startsWith => withTwo b args offset fun x part => startsWith x part offset
  | .endsWith => withTwo b args offset fun x part => endsWith x part offset
  | .substring => withTwoOrThree b args offset fun x start stop => substring x start stop offset
  | .stringOf => withOne b args offset fun x => return .string (← textOf x)
  | .numberOf => withOne b args offset fun x => toNumber x offset
  | .map => withTwo b args offset fun xs f => map call xs f offset
  | .filter => withTwo b args offset fun xs f => filter call xs f offset
  | .reduce => withTwoOrThree b args offset fun xs f start => reduce call xs f start offset
  | .sort => withOneOrTwo b args offset fun xs f => sort ctx call xs f offset
  | .groupBy => withTwo b args offset fun xs f => groupBy call xs f offset
  | .find => withTwo b args offset fun xs f => find call xs f offset
  | .every => withTwo b args offset fun xs f => every call xs f offset
  | .any => withTwo b args offset fun xs f => any call xs f offset
  | .append | .push => withRest b args offset fun xs more => push xs more offset
  | .pop => withOne b args offset fun xs => pop xs offset
  | .first => withOne b args offset fun xs => first xs offset
  | .last => withOne b args offset fun xs => last xs offset
  | .reverse => withOne b args offset fun x => reverse x offset
  | .range => range args offset
  | .slice => withTwoOrThree b args offset fun x start stop => slice x start stop offset
  | .flatten => withOne b args offset fun xs => flatten xs offset
  | .unique => withOne b args offset fun xs => unique xs offset
  | .count => withOneOrTwo b args offset fun xs f => count call xs f offset
  | .keys => withOne b args offset fun o => keys o offset
  | .values => withOne b args offset fun o => values o offset
  | .has => withTwo b args offset fun o key => has o key offset
  | .get => withTwoOrThree b args offset fun o key other => lookup o key other offset
  | .put => withThree b args offset fun o key v => put o key v offset
  | .merge => mergeObjects args offset
  | .year => withOne b args offset fun d => partOf .year d offset
  | .month => withOne b args offset fun d => partOf .month d offset
  | .day => withOne b args offset fun d => partOf .day d offset
  | .hour => withOne b args offset fun d => partOf .hour d offset
  | .minute => withOne b args offset fun d => partOf .minute d offset
  | .weekday => withOne b args offset fun d => partOf .weekday d offset
  | .timestamp => withOne b args offset fun d => timestamp d offset
  | .dateOf => dateOf ctx args offset
  | .bindArgs => bindArgs args offset
  | .typeName => withOne b args offset fun x => pure (.string x.kind.name)
  | .env => withOne b args offset fun x => envValue ctx x offset
  | .arg => argument ctx

/-- Calls a built-in function. -/
def callBuiltin (ctx : Context) (call : Caller) (b : Builtin) (args : List Value) (offset : Nat) :
    EvalM Value :=
  if b.arity.allows args.length then runBuiltin ctx call b args offset
  else wrongCount b args offset

end Reckoner.Eval
