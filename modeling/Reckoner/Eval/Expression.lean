import Reckoner.Eval.Builtin.Call
import Reckoner.Eval.History

/-!
# Evaluating expressions

`evalExpr` follows the tree of an expression.  Operands, arguments, items and
entries are evaluated from left to right, and the first error ends it.
Functions are called through `call`, so the recursion here is on the tree
alone.

Names are looked up in the current scope and those around it.  A binding hides
a built-in function of the same name, in a call only if it can be called.
-/

namespace Reckoner.Eval

/-! ## Names -/

/-- What a constant stands for. -/
def constantMeaning : Constant → Value
  | .pi => .number Constant.piValue
  | .e => .number Constant.eValue
  | .tau => .number Constant.tauValue
  | .phi => .number Constant.phiValue
  | .true_ => .bool true
  | .false_ => .bool false
  | .null => .null

/-- The value of a constant.  A binding hides the numbers, but neither the
truth values nor null. -/
def constantValue (s : Session) (scope : Nat) (c : Constant) : Value :=
  match c with
  | .true_ | .false_ | .null => constantMeaning c
  | c => (s.lookup scope c.name).getD (constantMeaning c)

/-- The value of a name: what it is bound to, or the built-in function. -/
def nameValue (scope : Nat) (name : String) (offset : Nat) : EvalM Value := do
  match (← get).lookup scope name with
  | some v => return v
  | none =>
    match Builtin.ofName? name with
    | some b => return .builtin (← newIdentity) b
    | none => fail offset (.unknownVariable name)

/-- What a call by name calls. -/
inductive Callee where
  | value (v : Value)
  | builtin (b : Builtin)

/-- What a call by name calls: what the name is bound to if that can be
called, else the built-in function. -/
def calleeOf (s : Session) (scope : Nat) (name : String) (offset : Nat) : Checked Callee :=
  match s.lookup scope name, Builtin.ofName? name with
  | none, none => failAt offset (.unknownFunction name)
  | none, some b => .ok (.builtin b)
  | some v, b? =>
    if v.isCallable then .ok (.value v)
    else
      match b? with
      | some b => .ok (.builtin b)
      | none => failAt offset (.typing (.notAFunction name v.kind))

/-- Calls what a name stands for. -/
def callCallee (ctx : Context) (call : Caller) (callee : Callee) (args : List Value)
    (offset : Nat) : EvalM Value :=
  match callee with
  | .value v => call v args offset
  | .builtin b => callBuiltin ctx call b args offset

/-- Binds a value to a name, combined with what the name was bound to if an
operator is given.  The name is bound to a copy. -/
def assign (ctx : Context) (scope : Nat) (name : String) (compound : Option BinaryOp) (v : Value)
    (offset : Nat) : EvalM Value := do
  let v ←
    match compound with
    | none => pure v
    | some op =>
      match (← get).lookup scope name with
      | some current => binary ctx op current v offset
      | none => fail offset (.unknownVariable name)
  define scope name v
  return v

/-- A new function.  It keeps the scope it is made in, unless that is the
root. -/
def newClosure (scope : Nat) (name : Option String) (params : List String) (body : Expr) :
    EvalM Value := do
  let root := (← get).root
  let kept := if scope = root then none else some scope
  return .closure (← newIdentity) { name, params, body, scope := kept }

/-- A number with units. -/
def quantityOf (ctx : Context) (value : Decimal) (units : List UnitTerm) (offset : Nat) :
    Checked Value :=
  if units.isEmpty then .ok (.number value)
  else do return .ofAmount (← Quantity.ofTerms value units ctx.rates offset).toAmount

/-! ## Expressions -/

mutual

/-- The value of an expression in a scope. -/
def evalExpr (ctx : Context) (call : Caller) (scope : Nat) : Expr → EvalM Value
  | .number value units offset => quantityOf ctx value units offset
  | .string parts _ => return .string (← evalParts ctx call scope "" parts)
  | .constant c _ => return constantValue (← get) scope c
  | .name text offset => nameValue scope text offset
  | .unary op operand offset => do
    let v ← evalExpr ctx call scope operand
    unary (← get) op v offset
  | .binary op left right offset => do
    let l ← evalExpr ctx call scope left
    let r ← evalExpr ctx call scope right
    binary ctx op l r offset
  | .logical op left right _ => do
    let l ← isTrue (← evalExpr ctx call scope left)
    match op, l with
    | .and, false => return .bool false
    | .or, true => return .bool true
    | _, _ => return .bool (← isTrue (← evalExpr ctx call scope right))
  | .compare op left right offset => do
    let l ← evalExpr ctx call scope left
    let r ← evalExpr ctx call scope right
    comparison ctx op l r offset
  | .conditional condition yes no _ => do
    let c ← isTrue (← evalExpr ctx call scope condition)
    if c then evalExpr ctx call scope yes else evalExpr ctx call scope no
  | .isKind operand kind _ => do
    let v ← evalExpr ctx call scope operand
    return .bool (v.kind = kind)
  | .cast operand kind offset => do
    let v ← evalExpr ctx call scope operand
    cast ctx v kind offset
  | .convertUnits operand units offset => do
    let v ← evalExpr ctx call scope operand
    convertUnits ctx v units offset
  | .convertZone operand zone offset => do
    let v ← evalExpr ctx call scope operand
    convertZone v zone offset
  | .call name args offset => do
    let callee ← calleeOf (← get) scope name offset
    let args ← evalList ctx call scope #[] args
    callCallee ctx call callee args.toList offset
  | .apply callee args offset => do
    let f ← evalExpr ctx call scope callee
    let args ← evalList ctx call scope #[] args
    call f args.toList offset
  | .access container key offset => do
    let v ← evalExpr ctx call scope container
    let k ← evalExpr ctx call scope key
    access (← get) v k offset
  | .assign name value compound offset => do
    let v ← evalExpr ctx call scope value
    assign ctx scope name compound v offset
  | .aggregate kind target offset => aggregate ctx kind target offset
  | .day spec zone offset => dayValue ctx spec zone offset
  | .time hour minute zone offset => timeValue ctx hour minute zone offset
  | .moment spec zone offset => momentValue ctx spec zone offset
  | .dateShift date op amount unit offset => do
    let d ← evalExpr ctx call scope date
    let a ← evalExpr ctx call scope amount
    shiftBy d op a unit offset
  | .array elements _ => do newArray (← evalList ctx call scope #[] elements)
  | .object entries _ => do newObject (← evalEntries ctx call scope [] entries)
  | .lambda name params body _ => newClosure scope name params body

/-- The values of expressions, appended to `done`. -/
def evalList (ctx : Context) (call : Caller) (scope : Nat) (done : Array Value) :
    List Expr → EvalM (Array Value)
  | [] => pure done
  | e :: rest => do
    let v ← evalExpr ctx call scope e
    evalList ctx call scope (done.push v) rest

/-- The entries of an object, inserted into `done`. -/
def evalEntries (ctx : Context) (call : Caller) (scope : Nat) (done : Entries Value) :
    List (String × Expr) → EvalM (Entries Value)
  | [] => pure done
  | (key, e) :: rest => do
    let v ← evalExpr ctx call scope e
    evalEntries ctx call scope (done.insert key v) rest

/-- The text of the parts of a string, appended to `done`. -/
def evalParts (ctx : Context) (call : Caller) (scope : Nat) (done : String) :
    List (Part Expr) → EvalM String
  | [] => pure done
  | .text t :: rest => evalParts ctx call scope (done ++ t) rest
  | .code e :: rest => do
    let t ← textOf (← evalExpr ctx call scope e)
    evalParts ctx call scope (done ++ t) rest

end

end Reckoner.Eval
