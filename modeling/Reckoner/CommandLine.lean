import Reckoner.Evaluate
import Reckoner.Zone.Name

/-!
# The command line

One expression with options: an external argument, exchange rates and the zone
of literals without one.  `Options.read` reads the arguments and `run` says
what the program writes and which code it ends with.

An option is written `--name value`, `--name=value`, `-n value`, `-nvalue` or
`-n=value`, before or behind the expression.  Whatever starts with a dash is
an option, also where a value is expected, until `--` ends the options.
-/

namespace Reckoner

/-- What the arguments ask for. -/
structure Options where
  /-- The external argument. -/
  argument : Option String
  rates : RateTable
  /-- The name of the zone. -/
  zone : Option String
  expression : Option String

namespace Options

/-- No arguments. -/
def none : Options := { argument := .none, rates := .empty, zone := .none, expression := .none }

/-! ## Single options -/

/-- An option with a value. -/
inductive Key where
  | argument
  | rate
  | zone
deriving DecidableEq, Repr

/-- A request that ends the reading of arguments. -/
inductive Notice where
  | help
  | version
deriving DecidableEq, Repr

/-- The option with a long name. -/
def Key.ofName? (name : String) : Option Key :=
  match name with
  | "arg" => some .argument
  | "rate" => some .rate
  | "timezone" => some .zone
  | _ => .none

/-- The option with a letter as its short name. -/
def Key.ofLetter? (letter : Char) : Option Key :=
  match letter with
  | 'a' => some .argument
  | 'r' => some .rate
  | 't' => some .zone
  | _ => .none

/-- An exchange rate, written as a code, an equals sign and a number. -/
def readRate? (text : String) : Option (String × Decimal) :=
  let cs := text.toList
  match cs.dropWhile (· != '=') with
  | [] => .none
  | _ :: value =>
    let code := String.ofList (Text.trimChars (cs.takeWhile (· != '=')))
    (Decimal.parseRounded? (Text.trimChars value)).map fun rate => (Text.toUpper code, rate)

/-- The options with one more; only rates may come more than once. -/
def give? (o : Options) (key : Key) (value : String) : Option Options :=
  match key with
  | .argument => if o.argument.isSome then .none else some { o with argument := some value }
  | .zone => if o.zone.isSome then .none else some { o with zone := some value }
  | .rate => (readRate? value).map fun (code, rate) => { o with rates := o.rates.insert code rate }

/-- The options with the expression, of which there is one. -/
def giveExpression? (o : Options) (text : String) : Option Options :=
  if o.expression.isSome then .none else some { o with expression := some text }

/-! ## Arguments -/

/-- What an argument is by its form. -/
inductive Form where
  | expression
  /-- An option whose value is the next argument. -/
  | key (key : Key)
  | keyValue (key : Key) (value : String)
  | notice (n : Notice)
  /-- `--`. -/
  | endOfOptions
  | unknown
deriving DecidableEq, Repr

/-- A long option behind its dashes. -/
def longForm (cs : List Char) : Form :=
  let name := String.ofList (cs.takeWhile (· != '='))
  match Key.ofName? name, cs.dropWhile (· != '=') with
  | some key, [] => .key key
  | some key, _ :: value => .keyValue key (String.ofList value)
  | .none, [] =>
    match name with
    | "help" => .notice .help
    | "version" => .notice .version
    | _ => .unknown
  | .none, _ :: _ => .unknown

/-- A short option behind its dash. -/
def shortForm (letter : Char) (rest : List Char) : Form :=
  match Key.ofLetter? letter, rest with
  | some key, [] => .key key
  | some key, '=' :: value => .keyValue key (String.ofList value)
  | some key, value => .keyValue key (String.ofList value)
  | .none, _ =>
    match letter with
    | 'h' => .notice .help
    | 'V' => .notice .version
    | _ => .unknown

/-- What an argument is by its form.  A lone dash is no option. -/
def Form.ofArg (arg : String) : Form :=
  match arg.toList with
  | ['-', '-'] => .endOfOptions
  | '-' :: '-' :: rest => longForm rest
  | '-' :: letter :: rest => shortForm letter rest
  | _ => .expression

/-- What reading the arguments gives. -/
inductive Reading where
  | options (o : Options)
  | notice (n : Notice)
  | misuse

/-- Goes on with options that could be read. -/
def Reading.andThen (o? : Option Options) (next : Options → Reading) : Reading :=
  match o? with
  | some o => next o
  | .none => .misuse

/-- Reads arguments behind the end of the options. -/
def readPlain (o : Options) (args : List String) : Reading :=
  .andThen (args.foldlM giveExpression? o) .options

/-- Reads arguments. -/
def readFrom (o : Options) : List String → Reading
  | [] => .options o
  | arg :: rest =>
    match Form.ofArg arg with
    | .expression => .andThen (o.giveExpression? arg) (readFrom · rest)
    | .keyValue key value => .andThen (o.give? key value) (readFrom · rest)
    | .key key =>
      match rest with
      | [] => .misuse
      | value :: rest =>
        if Form.ofArg value = .expression then .andThen (o.give? key value) (readFrom · rest)
        else .misuse
    | .notice n => .notice n
    | .endOfOptions => readPlain o rest
    | .unknown => .misuse

/-- Reads all arguments. -/
def read (args : List String) : Reading := readFrom .none args

end Options

/-! ## Running -/

/-- What the program leaves behind. -/
structure Report where
  code : Nat
  out : String
  err : String
deriving DecidableEq, Repr

namespace Report

/-- A line on the standard output. -/
def success (line : String) : Report := { code := 0, out := line ++ "\n", err := "" }

/-- A line on the standard error. -/
def failure (code : Nat) (line : String) : Report := { code, out := "", err := line ++ "\n" }

/-- The use of the program in one line. -/
def usage : String :=
  "Usage: reckoner [-a <ARG>] [-r <CODE=RATE>]... [-t <TIMEZONE>] <EXPRESSION>"

/-- The report on arguments that cannot be used. -/
def misuse : Report := failure 2 usage

end Report

/-- What stopped an evaluation. -/
def Stop.message : Stop → String
  | .fault e => e.message
  | .exhausted => "Calls nest too deep."

/-- Evaluates an expression in a new session. -/
def runExpression (ctx : Context) (source : String) : Report :=
  match evaluate ctx source Session.empty with
  | .ok v s => .success (s.render v)
  | .error stop _ => .failure 1 stop.message

/-- Runs the program with its arguments, its standard input, and a context
with the clock and the environment variables. -/
def run (ctx : Context) (input : String) (args : List String) : Report :=
  match Options.read args with
  | .misuse => .misuse
  | .notice .help => .success Report.usage
  | .notice .version => .success "reckoner"
  | .options o =>
    match o.expression with
    | .none => .misuse
    | some source =>
      let ctx := { ctx.withArgument [some input, o.argument] with rates := o.rates }
      match o.zone with
      | .none => runExpression ctx source
      | some name =>
        match Zone.parse? name with
        | some zone => runExpression { ctx with zone } source
        | .none => .failure 1 ("Unknown timezone " ++ inQuotes name ++ ".")

end Reckoner
