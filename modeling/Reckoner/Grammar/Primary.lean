import Reckoner.Grammar.Cursor
import Reckoner.Grammar.Literal
import Reckoner.Grammar.Units

/-!
# Operands

Literals, names, calls, functions, parentheses, arrays and objects, with what
may follow them: properties, indices, calls, units, zones and percent signs.

Everything here takes the reader of a whole expression, `expr`, which stands
for what is inside brackets.
-/

namespace Reckoner.Grammar

/-- A whole list of tokens as one expression. -/
def complete (expr : Reader Expr) (ts : List Placed) : Checked Expr :=
  match expr ts with
  | .error e => .error e
  | .ok (e, []) => .ok e
  | .ok (e, t :: _) =>
    if t.token = .finish then .ok e else failAt t.offset (.trailingTokens t.token.describe)

/-! ## Functions -/

/-- Whether a function starts here: a parameter or a list of parameters and an
arrow. -/
def lambdaAhead (ts : List Placed) : Bool :=
  match ts with
  | t :: rest =>
    if t.token.bindingName?.isSome then (eat? .arrow rest).isSome
    else if t.token = .mark .leftParen then
      match parameters rest with
      | .ok (_, rest) => (eat? .arrow rest).isSome
      | .error _ => false
    else false
  | [] => false

/-- A function: its parameters, an arrow and its body. -/
def lambda (expr : Reader Expr) : Reader Expr
  | [] => failAt 0 .unexpectedEnd
  | t :: rest => do
    let (params, rest) ←
      if t.token = .mark .leftParen then parameters rest
      else
        match t.token.bindingName? with
        | some name => .ok ([name], rest)
        | none => failAt t.offset (.expectedToken "lambda parameters" t.token.describe)
    let rest ← expect .arrow "'=>'" rest
    let (body, rest) ← expr rest
    .ok (.lambda none params body t.offset, rest)

/-! ## Words -/

/-- Arguments behind their opening parenthesis. -/
def arguments (expr : Reader Expr) : Reader (List Expr) := items expr .rightParen

/-- The units of an aggregate, behind `in` or `to`. -/
def aggregateTarget? : List Placed → Option (List UnitTerm × List Placed)
  | ⟨.keyword .in_, _⟩ :: rest | ⟨.keyword .to_, _⟩ :: rest => takeUnits? rest
  | _ => none

/-- An aggregate of the earlier results, or a call of the built-in function
`function` if parentheses follow. -/
def aggregate (expr : Reader Expr) (kind : Aggregate) (function : String) (offset : Nat) :
    Reader Expr := fun ts =>
  match eat? .leftParen ts with
  | some rest => do
    let (args, rest) ← arguments expr rest
    .ok (.call function args offset, rest)
  | none =>
    match aggregateTarget? ts with
    | some (units, rest) => .ok (.aggregate kind (some units) offset, rest)
    | none => .ok (.aggregate kind none offset, ts)

/-- What starts with a keyword; `ts` are the tokens behind it. -/
def keyword (expr : Reader Expr) (k : Keyword) (offset : Nat) : Reader Expr := fun ts =>
  match k with
  | .true_ => .ok (.constant .true_ offset, ts)
  | .false_ => .ok (.constant .false_ offset, ts)
  | .null => .ok (.constant .null offset, ts)
  | .today => .ok (.day .today none offset, ts)
  | .tomorrow => .ok (.day .tomorrow none offset, ts)
  | .yesterday => .ok (.day .yesterday none offset, ts)
  | .now => .ok (.moment .now none offset, ts)
  | .total | .sum => aggregate expr .total "sum" offset ts
  | .average | .avg => aggregate expr .average "average" offset ts
  | .to_ | .in_ | .as_ | .of_ | .is_ =>
    failAt offset (.unexpectedToken (Token.keyword k).describe)

/-- A name, or a call if parentheses follow. -/
def nameOrCall (expr : Reader Expr) (name : String) (offset : Nat) : Reader Expr := fun ts =>
  match eat? .leftParen ts with
  | some rest => do
    let (args, rest) ← arguments expr rest
    .ok (.call name args offset, rest)
  | none => .ok (.name name offset, ts)

/-! ## Strings and objects -/

/-- A token moved `distance` bytes further. -/
def Placed.later (distance : Nat) (t : Placed) : Placed := { t with offset := t.offset + distance }

/-- The tokens of a text that stands at `offset` in the whole source. -/
def tokensAt (text : String) (offset : Nat) : List Placed :=
  (Token.tokenize text).map (Placed.later offset)

/-- A piece of a string; what is to be filled in is read on its own. -/
def part (expr : Reader Expr) : Segment → Checked (Part Expr)
  | .text content => .ok (.text content)
  | .code source offset => do
    let e ← complete expr (tokensAt source offset)
    .ok (.code e)

/-- The key of an entry. -/
def entryKey : Reader String
  | [] => failAt 0 .unexpectedEnd
  | t :: rest =>
    match t.token with
    | .string _ segments => .ok (plainText segments, rest)
    | .number text => .ok (text, rest)
    | token =>
      match token.wordText? with
      | some name => .ok (name, rest)
      | none => failAt t.offset (.expectedToken "object key" token.describe)

/-- A key, a colon and a value. -/
def entry (expr : Reader Expr) : Reader (String × Expr) := fun ts => do
  let (key, ts) ← entryKey ts
  let ts ← expect .colon "':' after object key" ts
  let (value, ts) ← expr ts
  .ok ((key, value), ts)

/-! ## Operands -/

/-- A currency and a number, or a currency's name. -/
def currency (code : String) (offset : Nat) : Reader Expr
  | ⟨.number text, _⟩ :: rest => do
    let e ← numberLiteral text [{ unit := code, exponent := 1 }] offset
    .ok (e, rest)
  | ts => .ok (.name code offset, ts)

/-- What starts with the token `t`, no function with an arrow. -/
def operandAt (expr : Reader Expr) (t : Placed) : Reader Expr := fun ts =>
  match t.token with
  | .number text => return (← numberLiteral text [] t.offset, ts)
  | .currency code => currency code t.offset ts
  | .string _ segments => return (.string (← segments.mapM (part expr)) t.offset, ts)
  | .day text => return (← dayLiteral text t.offset, ts)
  | .time text => return (← timeLiteral text t.offset, ts)
  | .dayTime text => return (← momentLiteral text t.offset, ts)
  | .keyword k => keyword expr k t.offset ts
  | .constant text =>
    match Constant.ofName? text with
    | some c => .ok (.constant c t.offset, ts)
    | none => .ok (.name text t.offset, ts)
  | .function text | .name text | .unit text | .zone text => nameOrCall expr text t.offset ts
  | .mark .leftParen => do
    let (e, ts) ← expr ts
    let ts ← expect .rightParen "')'" ts
    .ok (e, ts)
  | .mark .leftBracket => do
    let (elements, ts) ← items expr .rightBracket ts
    .ok (.array elements t.offset, ts)
  | .mark .leftBrace => do
    let (entries, ts) ← items (entry expr) .rightBrace ts
    .ok (.object entries t.offset, ts)
  | .mark _ => failAt t.offset (.unexpectedToken t.token.describe)
  | .finish => failAt t.offset .unexpectedEnd

/-- An operand without what may follow it. -/
def operand (expr : Reader Expr) : Reader Expr := fun ts =>
  if lambdaAhead ts then lambda expr ts
  else
    match ts with
    | [] => failAt 0 .unexpectedEnd
    | t :: rest => operandAt expr t rest

/-! ## What follows an operand -/

/-- The name behind a dot, as a string. -/
def property : Reader Expr
  | [] => failAt 0 .unexpectedEnd
  | t :: rest =>
    match t.token.wordText? with
    | some name => .ok (.string [.text name] t.offset, rest)
    | none => failAt t.offset (.expectedToken "property name after '.'" t.token.describe)

/-- Whether a percent sign before these tokens means a percentage; else it is
the remainder of a division. -/
def percentAhead : List Placed → Bool
  | [] => true
  | t :: _ =>
    match t.token with
    | .finish | .keyword _ => true
    | .mark m =>
      match m with
      | .rightParen | .rightBracket | .rightBrace | .comma | .question | .colon | .plus | .minus
      | .star | .slash | .caret | .mod | .ampersand | .pipe | .shiftLeft | .shiftRight | .and | .or
      | .equalEqual | .notEqual | .less | .lessEqual | .greater | .greaterEqual => true
      | .percent | .not | .equals | .plusAssign | .minusAssign | .arrow | .dot | .leftParen
      | .leftBracket | .leftBrace => false
    | _ => false

/-- The kind that a token names. -/
def kindOf? (t : Placed) : Option Kind := t.token.wordText?.bind Kind.ofName?

/-- Whether a token asks for a conversion. -/
def isConversion : Token → Bool
  | .keyword k => k.isConversion
  | _ => false

/-- The target of a conversion of units that comes right behind a number, if
the source goes on behind it. -/
def conversionAhead? : List Placed → Option (List UnitTerm × List Placed)
  | t :: rest =>
    if isConversion t.token && (rest.head?.bind kindOf?).isNone then
      match takeUnits? rest with
      | some (_, []) => none
      | some (units, next :: rest) =>
        if next.token = .finish then none else some (units, next :: rest)
      | none => none
    else none
  | [] => none

/-- A number with the units behind it, or converted to those behind `in`. -/
def numberSuffix? (e : Expr) (ts : List Placed) : Option (Expr × List Placed) :=
  match e with
  | .number value [] o => (takeUnits? ts).map fun (units, rest) => (.number value units o, rest)
  | .number _ (_ :: _) _ =>
    match ts with
    | t :: _ => (conversionAhead? ts).map fun (units, rest) => (.convertUnits e units t.offset, rest)
    | [] => none
  | _ => none

/-- Whatever follows an operand, in at most `rounds` rounds. -/
def suffixes (expr : Reader Expr) : (rounds : Nat) → Expr → Reader Expr
  | 0, e, ts => .ok (e, ts)
  | _, e, [] => .ok (e, [])
  | rounds + 1, e, t :: rest =>
    match t.token with
    | .mark .dot => do
      let (key, rest) ← property rest
      suffixes expr rounds (.access e key t.offset) rest
    | .mark .leftBracket => do
      let (key, rest) ← expr rest
      let rest ← expect .rightBracket "']' after index" rest
      suffixes expr rounds (.access e key t.offset) rest
    | .mark .leftParen =>
      if e.isCallable then do
        let (args, rest) ← arguments expr rest
        suffixes expr rounds (.apply e args t.offset) rest
      else .ok (e, t :: rest)
    | .mark .percent =>
      if percentAhead rest then suffixes expr rounds (.unary .percent e t.offset) rest
      else .ok (e, t :: rest)
    | .zone name =>
      match e.inZone? name with
      | some e => suffixes expr rounds e rest
      | none => .ok (e, t :: rest)
    | _ =>
      match numberSuffix? e (t :: rest) with
      | some (e, rest) => suffixes expr rounds e rest
      | none => .ok (e, t :: rest)

/-- An operand with whatever follows it. -/
def suffixed (expr : Reader Expr) : Reader Expr := fun ts => do
  let (e, ts) ← operand expr ts
  suffixes expr ts.length e ts

end Reckoner.Grammar
