import Reckoner.Eval.Expression

/-!
# Calling functions

`callValue` calls a value.  How deep calls nest depends on what they compute,
so it takes a bound; every call made inside another one has a bound less by
one, and beyond it evaluation stops with `Stop.exhausted`.

Functions from sources have a limit of their own, `maxDepth`, beyond which a
call is an error.  `Session.depth` counts them: it is the same after a call as
before, also if the call fails.  Only these calls get new stacks; built-in
functions that call back without end run out of the one they are on.
-/

namespace Reckoner.Eval

/-- How many calls of functions from sources may go on at once. -/
def maxDepth : Nat := 10000

/-- A callee without its given arguments, and all the arguments. -/
def unfoldApplied : Value → List Value → Value × List Value
  | .applied _ callee bound, args => unfoldApplied callee (bound ++ args)
  | v, args => (v, args)

/-- How many nested calls of functions from sources share a stack. -/
def callsPerStack : Nat := 256

/-- Computes something at a depth of nesting, now and then on a stack of its
own. -/
def onStack {α : Type} (depth : Nat) (f : Unit → α) : α :=
  if depth % callsPerStack = callsPerStack - 1 then
    (Task.spawn f Task.Priority.dedicated).get
  else f ()

@[simp] theorem onStack_eq {α : Type} (depth : Nat) (f : Unit → α) : onStack depth f = f () := by
  unfold onStack
  split <;> rfl

/-- Runs the body of a function as one more call. -/
def nested {α : Type} (body : EvalM α) : EvalM α := fun s =>
  onStack s.depth fun _ =>
    match body { s with depth := s.depth + 1 } with
    | .ok x s => .ok x { s with depth := s.depth - 1 }
    | .error e s => .error e { s with depth := s.depth - 1 }

/-- A new scope inside another one, with parameters bound to arguments. -/
def enterScope (parent : Nat) (params : List String) (args : List Value) : EvalM Nat :=
  modifyGet fun s =>
    let bindings := (params.zip args).foldl (fun es (name, v) => Entries.insert es name v) []
    (s.scopes.size, s.newScope { bindings, parent := some parent })

/-- Calls a function from a source. -/
def callClosure (ctx : Context) (call : Caller) (f : Closure) (args : List Value) (offset : Nat) :
    EvalM Value := do
  if args.length ≠ f.params.length then
    fail offset
      (.argumentCount (f.name.getD "<lambda>") (toString f.params.length) args.length)
  else if maxDepth ≤ (← get).depth then fail offset (.callDepth maxDepth)
  else
    let scope ← enterScope (f.scope.getD (← get).root) f.params args
    nested (evalExpr ctx call scope f.body)

/-- Calls a value that is no function with given arguments. -/
def callPlain (ctx : Context) (call : Caller) (callee : Value) (args : List Value)
    (offset : Nat) : EvalM Value :=
  match callee with
  | .closure _ f => callClosure ctx call f args offset
  | .builtin _ b => callBuiltin ctx call b args offset
  | v => fail offset (.typing (.notCallable v.kind))

/-- Calls a value; calls nest at most `bound` deep. -/
def callValue (ctx : Context) : (bound : Nat) → Caller
  | 0, _, _, _ => throw .exhausted
  | bound + 1, callee, args, offset =>
    let (callee, args) := unfoldApplied callee args
    callPlain ctx (callValue ctx bound) callee args offset

end Reckoner.Eval
