import Reckoner.Proofs.Atomic

/-!
# Disciplines

A discipline is a property of sessions that evaluation keeps, with all that is
needed to carry it through: which values may turn up (`Fits`), how a session
leads to a later one (`Leads`), what the nodes of expressions are like
(`FitsNode`), where errors may point to (`FitsOffset`).  Its laws are about
the few ways in which a session changes: a new cell, a new identity, a binding
to a copy, the three changes of cells, and the start and end of a call.

That evaluation keeps a discipline is proved once, in the modules that follow
this one.  What is to be shown of all evaluations is then shown of these few
changes alone.

* `Expr.Every`: a property of every node of an expression.
* `Discipline` and `Discipline.Keeps`: a computation that starts from a session
  of the discipline ends in one, whether it succeeds or fails.
* `Discipline.Keeps.bind` and its kin follow a computation step by step.
-/

namespace Reckoner

/-! ## Nodes of expressions -/

/-- What is to be filled in. -/
def Part.code? {α : Type} : Part α → Option α
  | text _ => none
  | code e => some e

namespace Expr

/-- The expressions right below a node. -/
def children : Expr → List Expr
  | number _ _ _ | constant _ _ | name _ _ | aggregate _ _ _ | day _ _ _ | time _ _ _ _
  | moment _ _ _ => []
  | string parts _ => parts.filterMap Part.code?
  | unary _ e _ | isKind e _ _ | cast e _ _ | convertUnits e _ _ | convertZone e _ _
  | assign _ e _ _ | lambda _ _ e _ => [e]
  | binary _ l r _ | logical _ l r _ | compare _ l r _ | access l r _ | dateShift l _ r _ _ =>
    [l, r]
  | conditional c yes no _ => [c, yes, no]
  | call _ args _ => args
  | apply callee args _ => callee :: args
  | array elements _ => elements
  | object entries _ => entries.map (·.2)

/-- The expressions right below a node that are evaluated with it.  The body of a
function is not. -/
def operands : Expr → List Expr
  | lambda _ _ _ _ => []
  | e => e.children

/-- The units that are written at a node. -/
def units : Expr → List UnitTerm
  | number _ units _ | convertUnits _ units _ | aggregate _ (some units) _ => units
  | _ => []

/-- A property of all the nodes of an expression. -/
inductive Every (P : Expr → Prop) : Expr → Prop where
  | node {e : Expr} (here : P e) (below : ∀ c ∈ e.children, Every P c) : Every P e

theorem Every.here {P : Expr → Prop} {e : Expr} (h : e.Every P) : P e := by
  cases h with
  | node here below => exact here

theorem Every.child {P : Expr → Prop} {e : Expr} (h : e.Every P) :
    ∀ c ∈ e.children, c.Every P := by
  cases h with
  | node here below => exact below

theorem Every.imp {P Q : Expr → Prop} (hPQ : ∀ n, P n → Q n) {e : Expr} (h : e.Every P) :
    e.Every Q := by
  induction h with
  | node here below ih => exact .node (hPQ _ here) ih

theorem sizeOf_child_lt {e c : Expr} (h : c ∈ e.children) : sizeOf c < sizeOf e := by
  cases e with
  | string parts offset =>
    obtain ⟨part, hpart, hcode⟩ := List.mem_filterMap.1 h
    cases part with
    | text t => cases hcode
    | code e =>
      cases hcode
      have := List.sizeOf_lt_of_mem hpart
      simp only [Part.code.sizeOf_spec, string.sizeOf_spec] at this ⊢
      omega
  | object entries offset =>
    obtain ⟨entry, hentry, rfl⟩ := List.mem_map.1 h
    have := List.sizeOf_lt_of_mem hentry
    rcases entry with ⟨key, e⟩
    simp only [Prod.mk.sizeOf_spec, object.sizeOf_spec] at this ⊢
    omega
  | call name args offset | array elements offset =>
    have := List.sizeOf_lt_of_mem h
    simp only [children, call.sizeOf_spec, array.sizeOf_spec] at this ⊢
    omega
  | apply callee args offset =>
    rcases List.mem_cons.1 h with rfl | h
    · simp only [apply.sizeOf_spec]
      omega
    · have := List.sizeOf_lt_of_mem h
      simp only [apply.sizeOf_spec]
      omega
  | _ =>
    simp only [children, List.mem_cons, List.not_mem_nil, or_false] at h
    all_goals grind

/-- What the expressions right below a node inherit holds of every node. -/
theorem every_of_inherited {P : Expr → Prop} (h : ∀ e, P e → ∀ c ∈ e.children, P c) {e : Expr}
    (he : P e) : e.Every P :=
  .node he fun c hc =>
    have := sizeOf_child_lt hc
    every_of_inherited h (h e he c hc)
termination_by sizeOf e

/-- The expression assigns the name in the scope that it is evaluated in; what
the bodies of functions in it assign, they assign in scopes of their own. -/
inductive Assigns (name : String) : Expr → Prop where
  | here {value : Expr} {compound : Option BinaryOp} {offset : Nat} :
    Assigns name (assign name value compound offset)
  | operand {e c : Expr} (hc : c ∈ e.operands) (h : Assigns name c) : Assigns name e

theorem mem_children_of_mem_operands {e c : Expr} (h : c ∈ e.operands) : c ∈ e.children := by
  cases e with
  | lambda name params body offset => cases h
  | _ => exact h

/-- What holds of all expressions holds of every node. -/
theorem every_of_forall {P : Expr → Prop} (h : ∀ e, P e) (e : Expr) : e.Every P :=
  every_of_inherited (fun _ _ c _ => h c) (h e)

end Expr

/-! ## Runs of computations -/

namespace Eval

variable {α β : Type} {m : EvalM α} {f : α → EvalM β} {s t : Session}

theorem get_bind_run (f : Session → EvalM β) (s : Session) : (get >>= f) s = f s s := rfl

theorem bind_of_ok {x : α} (h : m s = .ok x t) : (m >>= f) s = f x t := by
  show EStateM.bind m f s = _
  rw [EStateM.bind, h]

theorem bind_of_error {stop : Stop} (h : m s = .error stop t) : (m >>= f) s = .error stop t := by
  show EStateM.bind m f s = _
  rw [EStateM.bind, h]

/-- A checked computation leaves the session alone. -/
theorem lift_run_eq_ok_iff {c : Checked α} {x : α} :
    (liftM c : EvalM α) s = .ok x t ↔ c = .ok x ∧ t = s := by
  cases c with
  | error e => exact iff_of_false (fun h => nomatch h) (fun h => nomatch h.1)
  | ok y =>
    constructor
    · intro h
      cases h
      exact ⟨rfl, rfl⟩
    · rintro ⟨h, rfl⟩
      cases h
      rfl

theorem lift_run_eq_error_iff {c : Checked α} {e : Error} :
    (liftM c : EvalM α) s = .error (.fault e) t ↔ c = .error e ∧ t = s := by
  cases c with
  | ok y => exact iff_of_false (fun h => nomatch h) (fun h => nomatch h.1)
  | error e' =>
    constructor
    · intro h
      cases h
      exact ⟨rfl, rfl⟩
    · rintro ⟨h, rfl⟩
      cases h
      rfl

theorem nameValue_of_lookup {scope : Nat} {name : String} {v : Value}
    (h : s.lookup scope name = some v) (offset : Nat) : nameValue scope name offset s = .ok v s := by
  rw [nameValue, get_bind_run, h]
  rfl

end Eval

/-! ## Disciplines -/

/-- The values of a cell. -/
def Cell.values : Cell → List Value
  | .array items => items.toList
  | .object entries => entries.values

namespace Session

/-- Copies of values, made one after the other. -/
def copyList : List Value → Session → List Value × Session
  | [], s => ([], s)
  | v :: rest, s =>
    let (w, s) := copy v s
    let (ws, s) := copyList rest s
    (w :: ws, s)

/-- The session in which a name is bound to a copy of a value. -/
def withBinding (s : Session) (scope : Nat) (name : String) (v : Value) : Session :=
  let (w, s) := copy v s
  s.bind scope name w

/-- The session in which copies of values are appended to an array. -/
def withItems (s : Session) (cell : Nat) (more : List Value) : Session :=
  let (ws, s) := copyList more s
  s.setCell cell (.array (s.items cell ++ ws))

/-- The session in which an array has lost its last item. -/
def withoutLast (s : Session) (cell : Nat) : Session :=
  s.setCell cell (.array (s.items cell).pop)

/-- The session in which an object has a copy of a value under a key. -/
def withEntry (s : Session) (cell : Nat) (key : String) (v : Value) : Session :=
  let (w, s) := copy v s
  s.setCell cell (.object ((s.entries cell).insert key w))

/-- The session in which a call has started, in a scope of its own. -/
def entered (s : Session) (sc : Scope) : Session :=
  { s.newScope sc with depth := s.depth + 1 }

/-- In a new scope names are found that it binds. -/
theorem lookup_entered {bindings : Entries Value} {parent : Option Nat} {name : String} {v : Value}
    (h : bindings.find? name = some v) (s : Session) :
    (s.entered { bindings, parent }).lookup s.scopes.size name = some v := by
  have hsize : (s.entered { bindings, parent }).scopes.size = s.scopes.size + 1 := by
    simp [entered, newScope]
  rw [lookup, hsize, lookupFrom]
  simp [entered, newScope, h]

/-- The session in which a call has ended. -/
def left (s : Session) : Session := { s with depth := s.depth - 1 }

end Session

/-- What evaluation is to keep. -/
structure Discipline extends Care where
  /-- The offsets of errors. -/
  FitsOffset : Nat → Prop
  /-- The nodes of the expressions that are evaluated. -/
  FitsNode : Expr → Prop
  /-- The built-in functions that may be called. -/
  Allows : Builtin → Prop
  Holds : Session → Prop
  /-- What holds of a session and a later one, if of the scopes that were there
  before at most the given one has got other bindings. -/
  Leads : Option Nat → Session → Session → Prop
  /-- The values that turn up. -/
  Fits : Session → Value → Prop
  /-- Calls may nest too deep. -/
  deep : Prop := True

namespace Discipline

/-- A step to a later session. -/
structure Step (D : Discipline) (sc : Option Nat) (s t : Session) : Prop where
  holds : D.Holds t
  leads : D.Leads sc s t

/-- The laws of a discipline. -/
structure Lawful (D : Discipline) : Prop where
  offset_of_node {e : Expr} : D.FitsNode e → D.FitsOffset e.offset
  units_of_node {e : Expr} : D.FitsNode e → D.known → ∀ t ∈ e.units, t.Resolves
  allows_of_name {name : String} {b : Builtin} {offset : Nat} :
    D.FitsNode (.name name offset) → Builtin.ofName? name = some b → D.Allows b
  allows_of_call {name : String} {b : Builtin} {args : List Expr} {offset : Nat} :
    D.FitsNode (.call name args offset) → Builtin.ofName? name = some b → D.Allows b
  leads_refl {sc : Option Nat} {s : Session} : D.Leads sc s s
  leads_trans {sc : Option Nat} {s t u : Session} :
    D.Leads sc s t → D.Leads sc t u → D.Leads sc s u
  leads_of_none {sc : Option Nat} {s t : Session} : D.Leads none s t → D.Leads sc s t
  fits_of_leads {sc : Option Nat} {s t : Session} {v : Value} :
    D.Leads sc s t → D.Fits s v → D.Fits t v
  fits_atomic {s : Session} {v : Value} : v.Atomic D.toCare → D.Fits s v
  measured_of_fits {s : Session} {v : Value} : D.Fits s v → v.Measured D.toCare
  fits_builtin {s : Session} {i : Nat} {b : Builtin} : D.Fits s (.builtin i b) ↔ D.Allows b
  fits_closure {s : Session} {i : Nat} {f : Closure} :
    D.Fits s (.closure i f) ↔ f.body.Every D.FitsNode
  fits_applied {s : Session} {i : Nat} {callee : Value} {bound : List Value} :
    D.Fits s (.applied i callee bound) ↔ D.Fits s callee ∧ ∀ v ∈ bound, D.Fits s v
  fits_item {s : Session} {c : Nat} {v : Value} :
    D.Holds s → D.Fits s (.array c) → v ∈ s.items c → D.Fits s v
  fits_entry {s : Session} {c : Nat} {v : Value} :
    D.Holds s → D.Fits s (.object c) → v ∈ (s.entries c).values → D.Fits s v
  fits_lookup {s : Session} {scope : Nat} {name : String} {v : Value} :
    D.Holds s → s.lookup scope name = some v → D.Fits s v
  newArray {s : Session} {items : Array Value} :
    D.Holds s → (∀ v ∈ items, D.Fits s v) →
      D.Step none s (s.newCell (.array items)) ∧
        D.Fits (s.newCell (.array items)) (.array s.cells.size)
  newObject {s : Session} {entries : Entries Value} :
    D.Holds s → entries.keys.Nodup → (∀ v ∈ entries.values, D.Fits s v) →
      D.Step none s (s.newCell (.object entries)) ∧
        D.Fits (s.newCell (.object entries)) (.object s.cells.size)
  newIdentity {s : Session} : D.Holds s → D.Step none s { s with identity := s.identity + 1 }
  withBinding {s : Session} {scope : Nat} {name : String} {v : Value} {e : Expr}
    {compound : Option BinaryOp} {offset : Nat} :
    D.FitsNode (.assign name e compound offset) → D.Holds s → D.Fits s v →
      D.Step (some scope) s (s.withBinding scope name v)
  withItems {s : Session} {c : Nat} {more : List Value} :
    D.Allows .push ∨ D.Allows .append → D.Holds s → D.Fits s (.array c) →
      (∀ v ∈ more, D.Fits s v) → D.Step none s (s.withItems c more)
  withoutLast {s : Session} {c : Nat} :
    D.Allows .pop → D.Holds s → D.Fits s (.array c) → D.Step none s (s.withoutLast c)
  withEntry {s : Session} {c : Nat} {key : String} {v : Value} :
    D.Allows .put → D.Holds s → D.Fits s (.object c) → D.Fits s v →
      D.Step none s (s.withEntry c key v)
  entered {s : Session} {bindings : Entries Value} {parent : Nat} :
    D.Holds s → s.depth < Eval.maxDepth → (∀ v ∈ bindings.values, D.Fits s v) →
      D.Holds (s.entered { bindings, parent := some parent })
  left {s t : Session} {bindings : Entries Value} {parent : Nat} :
    D.Holds s → s.depth < Eval.maxDepth → D.Holds t →
      D.Leads (some s.scopes.size) (s.entered { bindings, parent := some parent }) t →
      D.Step none s t.left
  fits_left {s : Session} {v : Value} : D.Fits s v → D.Fits s.left v

/-! ## Computations that keep a discipline -/

/-- The errors that an evaluation may end with. -/
structure Faults (D : Discipline) (e : Error) : Prop where
  offset : D.FitsOffset e.offset
  known : D.known → e.cause.isUnknownUnit = false
  deep : e.cause.isCallDepth = true → D.deep

/-- The ways in which an evaluation may stop. -/
def Permits (D : Discipline) : Stop → Prop
  | .fault e => D.Faults e
  | .exhausted => True

/-- What a computation that starts from `s` may end with. -/
inductive Ends {α : Type} (D : Discipline) (sc : Option Nat) (s : Session)
    (Q : Session → α → Prop) : EStateM.Result Stop Session α → Prop where
  | ok {x : α} {t : Session} (step : D.Step sc s t) (h : Q t x) : Ends D sc s Q (.ok x t)
  | error {stop : Stop} {t : Session} (step : D.Step sc s t) (h : D.Permits stop) :
    Ends D sc s Q (.error stop t)

/-- A computation from `s` takes a step of the discipline, also if it fails,
and its result has `Q` in the session it ends in. -/
def Keeps {α : Type} (D : Discipline) (sc : Option Nat) (s : Session) (m : EvalM α)
    (Q : Session → α → Prop) : Prop :=
  D.Ends sc s Q (m s)

/-- Calls that keep the discipline. -/
def Calls (D : Discipline) (call : Caller) : Prop :=
  ∀ {s : Session} {f : Value} {args : List Value} {offset : Nat}, D.Holds s → D.Fits s f →
    (∀ v ∈ args, D.Fits s v) → D.FitsOffset offset → D.Keeps none s (call f args offset) D.Fits

section

variable {D : Discipline} {sc : Option Nat} {s t u : Session}

theorem Lawful.refl (hD : D.Lawful) (hs : D.Holds s) : D.Step sc s s := ⟨hs, hD.leads_refl⟩

theorem Lawful.trans (hD : D.Lawful) (hst : D.Step sc s t) (htu : D.Step sc t u) :
    D.Step sc s u :=
  ⟨htu.holds, hD.leads_trans hst.leads htu.leads⟩

theorem Lawful.widen (hD : D.Lawful) (hst : D.Step none s t) : D.Step sc s t :=
  ⟨hst.holds, hD.leads_of_none hst.leads⟩

/-- A value goes on fitting. -/
theorem Lawful.still (hD : D.Lawful) (hst : D.Step sc s t) {v : Value} (hv : D.Fits s v) :
    D.Fits t v :=
  hD.fits_of_leads hst.leads hv

variable {α β : Type} {P Q R : Session → α → Prop} {S : Session → β → Prop} {offset : Nat}

theorem keeps_pure (hD : D.Lawful) (hs : D.Holds s) {x : α} (h : Q s x) :
    D.Keeps sc s (pure x) Q :=
  .ok (hD.refl hs) h

theorem Keeps.bind (hD : D.Lawful) {m : EvalM α} {f : α → EvalM β} (hm : D.Keeps sc s m Q)
    (hf : ∀ x t, D.Step sc s t → Q t x → D.Keeps sc t (f x) S) : D.Keeps sc s (m >>= f) S := by
  show D.Ends sc s S (EStateM.bind m f s)
  unfold EStateM.bind
  generalize hres : m s = res
  have hends : D.Ends sc s Q res := hres ▸ hm
  cases hends with
  | error step h => exact .error step h
  | @ok x t step h =>
    have hrest : D.Ends sc t S (f x t) := hf x t step h
    show D.Ends sc s S (f x t)
    generalize f x t = rest at hrest ⊢
    cases hrest with
    | ok step' h' => exact .ok (hD.trans step step') h'
    | error step' h' => exact .error (hD.trans step step') h'

/-- What binds no name in an earlier scope may stand where one is bound. -/
theorem Keeps.widen (hD : D.Lawful) {m : EvalM α} (hm : D.Keeps none s m Q) :
    D.Keeps sc s m Q := by
  unfold Keeps at hm ⊢
  generalize m s = res at hm
  cases hm with
  | ok step hx => exact .ok (hD.widen step) hx
  | error step hstop => exact .error (hD.widen step) hstop

theorem keeps_get_bind {f : Session → EvalM β} (h : D.Keeps sc s (f s) S) :
    D.Keeps sc s (get >>= f) S := h

theorem faults_of_raised (ho : D.FitsOffset offset) {e : Error}
    (he : Raised D.toCare offset e) : D.Faults e where
  offset := he.offset_eq ▸ ho
  known := he.known
  deep h := nomatch he.shallow.symm.trans h

theorem keeps_lift (hD : D.Lawful) (hs : D.Holds s) (ho : D.FitsOffset offset)
    {c : Checked α} {P : α → Prop} (hc : Yields D.toCare offset P c)
    (h : ∀ x, P x → Q s x) : D.Keeps sc s (liftM c) Q := by
  cases hc with
  | ok hx => exact .ok (hD.refl hs) (h _ hx)
  | error he => exact .error (hD.refl hs) (faults_of_raised ho he)

theorem keeps_lift_bind (hD : D.Lawful) (hs : D.Holds s) (ho : D.FitsOffset offset)
    {c : Checked α} {f : α → EvalM β} {P : α → Prop} (hc : Yields D.toCare offset P c)
    (hf : ∀ x, P x → D.Keeps sc s (f x) S) : D.Keeps sc s (liftM c >>= f) S := by
  cases hc with
  | ok hx => exact hf _ hx
  | error he => exact .error (hD.refl hs) (faults_of_raised ho he)

/-- A computation with an atomic result. -/
theorem keeps_atomic (hD : D.Lawful) (hs : D.Holds s) (ho : D.FitsOffset offset)
    {c : Checked Value} (hc : Yields D.toCare offset (Value.Atomic D.toCare) c) :
    D.Keeps sc s (liftM c) D.Fits :=
  keeps_lift hD hs ho hc fun _ hx => hD.fits_atomic hx

theorem keeps_fail (hD : D.Lawful) (hs : D.Holds s) (ho : D.FitsOffset offset) {cause : Cause}
    (h : cause.isForeign = false) : D.Keeps sc s (Eval.fail offset cause) Q := by
  obtain ⟨hunit, hdepth⟩ := Cause.isForeign_eq_false_iff.1 h
  exact .error (hD.refl hs) (faults_of_raised ho ⟨rfl, fun _ => hunit, hdepth⟩)

end

end Discipline

end Reckoner
