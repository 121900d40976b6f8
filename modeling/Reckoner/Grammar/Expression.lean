import Reckoner.Grammar.Operators

/-!
# Whole expressions

Conditionals, assignments and definitions of functions, and the reading of a
whole source.

`expression depth` reads an expression whose brackets, functions, assignments
and strings nest at most `depth` deep.  `Expr.ofTokens` takes a depth that no
list of tokens exceeds (`depthBound`).
-/

namespace Reckoner

namespace Grammar

/-- Conditionals, grouped from the right, in at most `rounds` rounds. -/
def conditionals (expr : Reader Expr) : (rounds : Nat) → Reader Expr
  | 0, ts => disjunction expr ts
  | rounds + 1, ts => do
    let (condition, ts) ← disjunction expr ts
    match ts with
    | ⟨.mark .question, offset⟩ :: rest => do
      let (yes, rest) ← conditionals expr rounds rest
      let rest ← expect .colon "':' in conditional expression" rest
      let (no, rest) ← conditionals expr rounds rest
      .ok (.conditional condition yes no offset, rest)
    | ts => .ok (condition, ts)

/-- Conditionals. -/
def conditional (expr : Reader Expr) : Reader Expr := fun ts => conditionals expr ts.length ts

/-- The head of a definition: a name, parameters and an equals sign. -/
def definitionHead? : List Placed → Option (String × List String × List Placed)
  | t :: rest =>
    match t.token.bindingName?, eat? .leftParen rest with
    | some name, some rest =>
      match parameters rest with
      | .ok (params, rest) => (eat? .equals rest).map fun rest => (name, params, rest)
      | .error _ => none
    | _, _ => none
  | [] => none

/-- What an assignment does besides assigning. -/
def assignOp? : Token → Option (Option BinaryOp)
  | .mark .equals => some none
  | .mark .plusAssign => some (some .add)
  | .mark .minusAssign => some (some .sub)
  | _ => none

/-- The name that an expression stands for as the target of an assignment. -/
def targetName? : Expr → Option String
  | .name text _ => some text
  | .constant c _ => some c.name
  | _ => none

/-- A conditional, or an assignment to one that is a name. -/
def assignment (expr : Reader Expr) : Reader Expr := fun ts => do
  let (target, ts) ← conditional expr ts
  match ts with
  | [] => .ok (target, [])
  | t :: rest =>
    match assignOp? t.token with
    | none => .ok (target, t :: rest)
    | some compound =>
      match targetName? target with
      | none => failAt t.offset .invalidTarget
      | some name => do
        let (value, rest) ← expr rest
        .ok (.assign name value compound t.offset, rest)

/-- A definition of a function, or an assignment. -/
def statement (expr : Reader Expr) : Reader Expr := fun ts =>
  match definitionHead? ts with
  | some (name, params, rest) => do
    let offset := (ts.head?.map (·.offset)).getD 0
    let (body, rest) ← expr rest
    .ok (.assign name (.lambda (some name) params body offset) none offset, rest)
  | none => assignment expr ts

/-- An expression that nests at most `depth` deep. -/
def expression : (depth : Nat) → Reader Expr
  | 0 => fun _ => failAt 0 .unexpectedEnd
  | depth + 1 => statement (expression depth)

/-- How deep a piece of a string can nest. -/
def segmentDepth : Segment → Nat
  | .text _ => 0
  | .code source _ => source.length + 2

/-- How deep a token can nest: once, and for a string as deep as the sources
in it are long. -/
def tokenDepth : Token → Nat
  | .string _ segments =>
    segments.foldl (fun n segment => n + segmentDepth segment) 1
  | _ => 1

/-- A depth that the expressions in a list of tokens do not exceed. -/
def depthBound (ts : List Placed) : Nat := ts.foldl (fun n t => n + tokenDepth t.token) 1

end Grammar

namespace Expr

/-- The expression that a list of tokens writes. -/
def ofTokens (ts : List Placed) : Checked Expr :=
  Grammar.complete (Grammar.expression (Grammar.depthBound ts)) ts

/-- The expression that a source writes. -/
def parse (source : String) : Checked Expr := ofTokens (Token.tokenize source)

end Expr

end Reckoner
