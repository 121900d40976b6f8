import Reckoner.Grammar.Primary

/-!
# Operators

One reader for each level of precedence, from signs in front of an operand up
to the logical operators.  Each takes the reader of the level below it, or of a
whole expression.

Some sums stand for something else (`combineSum`):

* a date literal and an amount of a calendar unit is a shift of the date;
* `x + y%` is `x + x * y%`, and `y% + z%` is `(y + z)%`.
-/

namespace Reckoner.Grammar

/-- Operands with operators between them, grouped from the left: what follows
`left`, in at most `rounds` rounds. -/
def chain (operand : Reader Expr) (combine? : Placed → Option (Expr → Expr → Expr)) :
    (rounds : Nat) → Expr → Reader Expr
  | 0, left, ts => .ok (left, ts)
  | _, left, [] => .ok (left, [])
  | rounds + 1, left, t :: rest =>
    match combine? t with
    | some combine => do
      let (right, rest) ← operand rest
      chain operand combine? rounds (combine left right) rest
    | none => .ok (left, t :: rest)

/-- Operands with operators between them, grouped from the left. -/
def leftGrouped (operand : Reader Expr) (combine? : Placed → Option (Expr → Expr → Expr)) :
    Reader Expr := fun ts => do
  let (left, ts) ← operand ts
  chain operand combine? ts.length left ts

/-! ## Signs, bits and powers -/

/-- The operator that a token is in front of an operand. -/
def unaryOp? : Token → Option UnaryOp
  | .mark .minus => some .negate
  | .mark .plus => some .plus
  | .mark .not => some .not
  | _ => none

/-- Signs in front of an operand. -/
def unary (expr : Reader Expr) : Reader Expr
  | [] => suffixed expr []
  | t :: rest =>
    match unaryOp? t.token with
    | some op => do
      let (e, rest) ← unary expr rest
      .ok (.unary op e t.offset, rest)
    | none => suffixed expr (t :: rest)

/-- The operators on bits. -/
def bitOp? : Token → Option BinaryOp
  | .mark .ampersand => some .bitAnd
  | .mark .pipe => some .bitOr
  | .mark .shiftLeft => some .shiftLeft
  | .mark .shiftRight => some .shiftRight
  | _ => none

/-- A node for an operator that stands for itself. -/
def plain? (op? : Token → Option BinaryOp) (t : Placed) : Option (Expr → Expr → Expr) :=
  (op? t.token).map fun op left right => .binary op left right t.offset

/-- Operators on bits. -/
def bitwise (expr : Reader Expr) : Reader Expr := leftGrouped (unary expr) (plain? bitOp?)

/-- Powers, grouped from the right, in at most `rounds` rounds. -/
def powerChain (expr : Reader Expr) : (rounds : Nat) → Reader Expr
  | 0, ts => bitwise expr ts
  | rounds + 1, ts => do
    let (left, ts) ← bitwise expr ts
    match ts with
    | ⟨.mark .caret, offset⟩ :: rest => do
      let (right, rest) ← powerChain expr rounds rest
      .ok (.binary .pow left right offset, rest)
    | ts => .ok (left, ts)

/-- Powers, grouped from the right. -/
def power (expr : Reader Expr) : Reader Expr := fun ts => powerChain expr ts.length ts

/-! ## Products and sums -/

/-- The operators of a product. -/
def productOp? : Token → Option BinaryOp
  | .mark .star => some .mul
  | .mark .slash => some .div
  | .mark .percent => some .mod
  | .mark .mod => some .mod
  | _ => none

/-- Products. -/
def product (expr : Reader Expr) : Reader Expr := leftGrouped (power expr) (plain? productOp?)

/-- The calendar unit of a number that has only this one. -/
def calendarAmount? : Expr → Option (Expr × CalendarUnit)
  | .number value [term] o =>
    if term.exponent = 1 then
      ((MeasureUnit.find? term.unit).bind (·.calendarUnit?)).map fun unit =>
        (.number value [] o, unit)
    else none
  | _ => none

/-- A sum or a difference of which percentages are taken as shares. -/
def combineShares (op : BinaryOp) (offset : Nat) (left right : Expr) : Expr :=
  match left, right with
  | .unary .percent x o, .unary .percent y _ => .unary .percent (.binary op x y offset) o
  | left, .unary .percent y o =>
    .binary op left (.binary .mul left (.unary .percent y o) offset) offset
  | left, right => .binary op left right offset

/-- A sum or a difference. -/
def combineSum (op : BinaryOp) (offset : Nat) (left right : Expr) : Expr :=
  if left.isDateLiteral then
    match calendarAmount? right with
    | some (amount, unit) => .dateShift left op amount unit offset
    | none => combineShares op offset left right
  else combineShares op offset left right

/-- The operators of a sum. -/
def sumOp? : Token → Option BinaryOp
  | .mark .plus => some .add
  | .mark .minus => some .sub
  | _ => none

/-- Sums and differences. -/
def sum (expr : Reader Expr) : Reader Expr :=
  leftGrouped (product expr) fun t => (sumOp? t.token).map fun op => combineSum op t.offset

/-- The operator `of`, which multiplies. -/
def ofOp? : Token → Option BinaryOp
  | .keyword .of_ => some .mul
  | _ => none

/-- Shares of something, with `of`. -/
def share (expr : Reader Expr) : Reader Expr := leftGrouped (sum expr) (plain? ofOp?)

/-! ## Conversions -/

/-- The conversion of `e` that a keyword at `offset` and the token behind it
ask for.  In this order: a kind makes it a cast; a zone converts what may be a
date; units convert anything but a date literal; any other word behind what
may be a date is taken for a zone. -/
def convert? (e : Expr) (offset : Nat) (target : Placed) (rest : List Placed) :
    Option (Expr × List Placed) :=
  match kindOf? target with
  | some kind => some (.cast e kind offset, rest)
  | none =>
    let units? := if e.isDateLiteral then none else takeUnits? (target :: rest)
    let word? := if e.mayBeDate then target.token.wordText? else none
    match target.token, e.mayBeDate with
    | .zone name, true => some (.convertZone e name offset, rest)
    | _, _ =>
      match units?, word? with
      | some (units, rest), _ => some (.convertUnits e units offset, rest)
      | none, some name => some (.convertZone e name offset, rest)
      | none, none => none

/-- Conversions of `e`, in at most `rounds` rounds.  A keyword that asks for
none is dropped. -/
def conversions : (rounds : Nat) → Expr → List Placed → Expr × List Placed
  | 0, e, ts => (e, ts)
  | _, e, [] => (e, [])
  | rounds + 1, e, t :: rest =>
    if isConversion t.token then
      match rest with
      | [] => (e, [])
      | target :: rest' =>
        match convert? e t.offset target rest' with
        | some (e, rest) => conversions rounds e rest
        | none => conversions rounds e rest
    else (e, t :: rest)

/-- Conversions. -/
def conversion (expr : Reader Expr) : Reader Expr := fun ts => do
  let (e, ts) ← share expr ts
  .ok (conversions ts.length e ts)

/-! ## Comparisons and logic -/

/-- The comparisons. -/
def compareOp? : Token → Option CompareOp
  | .mark .equalEqual => some .equal
  | .mark .notEqual => some .notEqual
  | .mark .less => some .less
  | .mark .lessEqual => some .lessEqual
  | .mark .greater => some .greater
  | .mark .greaterEqual => some .greaterEqual
  | _ => none

/-- Comparisons and tests of kind behind `left`, in at most `rounds`
rounds. -/
def comparisons (expr : Reader Expr) : (rounds : Nat) → Expr → Reader Expr
  | 0, left, ts => .ok (left, ts)
  | _, left, [] => .ok (left, [])
  | rounds + 1, left, t :: rest =>
    if t.token = .keyword .is_ then
      match rest with
      | [] => failAt t.offset .unexpectedEnd
      | target :: rest =>
        match kindOf? target with
        | some kind => comparisons expr rounds (.isKind left kind t.offset) rest
        | none =>
          failAt target.offset (.expectedToken "type name after 'is'" target.token.describe)
    else
      match compareOp? t.token with
      | some op => do
        let (right, rest) ← conversion expr rest
        comparisons expr rounds (.compare op left right t.offset) rest
      | none => .ok (left, t :: rest)

/-- Comparisons and tests of kind. -/
def comparison (expr : Reader Expr) : Reader Expr := fun ts => do
  let (left, ts) ← conversion expr ts
  comparisons expr ts.length left ts

/-- A node for a logical operator. -/
def logical? (op : LogicalOp) (m : Mark) (t : Placed) : Option (Expr → Expr → Expr) :=
  if t.token = .mark m then some fun left right => .logical op left right t.offset else none

/-- Conjunctions. -/
def conjunction (expr : Reader Expr) : Reader Expr :=
  leftGrouped (comparison expr) (logical? .and .and)

/-- Disjunctions. -/
def disjunction (expr : Reader Expr) : Reader Expr :=
  leftGrouped (conjunction expr) (logical? .or .or)

end Reckoner.Grammar
