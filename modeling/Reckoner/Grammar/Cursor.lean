import Reckoner.Error
import Reckoner.Token.Basic

/-!
# Cursors

A `Reader` takes something from the front of a list of tokens and gives back
the tokens behind it.  This module holds the readers for single tokens and for
lists with commas.

Where tokens run out without the final one, errors are at offset zero.
-/

namespace Reckoner.Grammar

/-- Reads from the front of a list of tokens. -/
abbrev Reader (α : Type) := List Placed → Checked (α × List Placed)

/-- What follows the mark `m`, if that comes next. -/
def eat? (m : Mark) : List Placed → Option (List Placed)
  | t :: rest => if t.token = .mark m then some rest else none
  | [] => none

/-- What follows the mark `m`, which has to come next; `wanted` describes it
in messages. -/
def expect (m : Mark) (wanted : String) : List Placed → Checked (List Placed)
  | t :: rest =>
    if t.token = .mark m then .ok rest
    else failAt t.offset (.expectedToken wanted t.token.describe)
  | [] => failAt 0 .unexpectedEnd

/-- Items with commas between them up to the mark `closing`, in at most
`rounds` rounds.  A comma may follow the last one. -/
def itemsUntil {α : Type} (item : Reader α) (closing : Mark) : (rounds : Nat) → Reader (List α)
  | 0, _ => failAt 0 .unexpectedEnd
  | rounds + 1, ts =>
    match eat? closing ts with
    | some rest => .ok ([], rest)
    | none =>
      match item ts with
      | .error e => .error e
      | .ok (_, []) => failAt 0 .unexpectedEnd
      | .ok (x, t :: rest) =>
        if t.token = .mark .comma then
          match itemsUntil item closing rounds rest with
          | .ok (xs, rest) => .ok (x :: xs, rest)
          | .error e => .error e
        else if t.token = .mark closing then .ok ([x], rest)
        else if t.token = .finish then failAt t.offset .unexpectedEnd
        else failAt t.offset (.expectedToken "',' or closing bracket" t.token.describe)

/-- Items with commas between them up to the mark `closing`. -/
def items {α : Type} (item : Reader α) (closing : Mark) : Reader (List α) := fun ts =>
  itemsUntil item closing (ts.length + 1) ts

/-- The name of a parameter. -/
def parameter : Reader String
  | t :: rest =>
    match t.token.bindingName? with
    | some name => .ok (name, rest)
    | none => failAt t.offset (.expectedToken "parameter name" t.token.describe)
  | [] => failAt 0 .unexpectedEnd

/-- A list of parameters behind its opening parenthesis. -/
def parameters : Reader (List String) := items parameter .rightParen

end Reckoner.Grammar
