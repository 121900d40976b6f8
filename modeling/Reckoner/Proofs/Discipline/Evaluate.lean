import Reckoner.Proofs.Discipline.Builtin

/-!
# Evaluation keeps a discipline

* `keeps_evalExpr`: an expression whose nodes fit, evaluated with calls that
  keep the discipline, by induction on the expression.
* `calls_callValue`: calls keep the discipline, by induction on how deep they
  may nest.
* `keeps_evalCalls`: both together, from the root of a session, and
  `keeps_evaluate` for a source.
* A relation of a session to later ones, for which the values do not matter, is kept if every
  single change keeps it: `Tracks` lists the changes and `Tracks.lawful` makes a discipline of the
  relation.
-/

namespace Reckoner.Discipline

open Eval

variable {D : Discipline} {sc : Option Nat} {s : Session} {offset : Nat} {ctx : Context}
  {call : Caller}

/-! ## Names -/

theorem fits_constantValue (hD : D.Lawful) (hs : D.Holds s) (scope : Nat) (c : Constant) :
    D.Fits s (constantValue s scope c) := by
  have hmeaning (c : Constant) : D.Fits s (constantMeaning c) := by
    cases c with
    | _ => exact hD.fits_atomic trivial
  have hbound (c : Constant) : D.Fits s ((s.lookup scope c.name).getD (constantMeaning c)) := by
    cases hlookup : s.lookup scope c.name with
    | none => exact hmeaning c
    | some v => exact hD.fits_lookup hs hlookup
  cases c with
  | pi | e | tau | phi => exact hbound _
  | true_ => exact hmeaning .true_
  | false_ => exact hmeaning .false_
  | null => exact hmeaning .null

theorem keeps_nameValue (hD : D.Lawful) (hs : D.Holds s) (scope : Nat) {name : String}
    (hnode : D.FitsNode (.name name offset)) :
    D.Keeps sc s (nameValue scope name offset) D.Fits := by
  refine keeps_get_bind ?_
  cases hlookup : s.lookup scope name with
  | some v => exact keeps_pure hD hs (hD.fits_lookup hs hlookup)
  | none =>
    cases hb : Builtin.ofName? name with
    | some b =>
      exact (keeps_newIdentity hD hs).bind hD fun i t step _ =>
        keeps_pure hD step.holds (hD.fits_builtin.2 (hD.allows_of_name hnode hb))
    | none => exact keeps_fail hD hs (hD.offset_of_node hnode) rfl

/-- What may be called by name. -/
def FitsCallee (D : Discipline) (s : Session) : Callee → Prop
  | .value v => D.Fits s v
  | .builtin b => D.Allows b

theorem yields_calleeOf (hD : D.Lawful) (hs : D.Holds s) (scope : Nat) {name : String}
    {args : List Expr} (hnode : D.FitsNode (.call name args offset)) :
    Yields D.toCare offset (D.FitsCallee s) (calleeOf s scope name offset) := by
  unfold calleeOf
  cases hlookup : s.lookup scope name with
  | none =>
    cases hb : Builtin.ofName? name with
    | none => exact yields_failAt rfl
    | some b => exact yields_ok (hD.allows_of_call hnode hb)
  | some v =>
    dsimp only
    split
    · exact yields_ok (hD.fits_lookup hs hlookup)
    · cases hb : Builtin.ofName? name with
      | none => exact yields_failAt rfl
      | some b => exact yields_ok (hD.allows_of_call hnode hb)

theorem keeps_callCallee (hD : D.Lawful) (hcall : D.Calls call) (hs : D.Holds s)
    (ho : D.FitsOffset offset) {callee : Callee} {args : List Value}
    (hcallee : D.FitsCallee s callee) (hargs : ∀ v ∈ args, D.Fits s v) :
    D.Keeps none s (callCallee ctx call callee args offset) D.Fits := by
  cases callee with
  | value v => exact hcall hs hcallee hargs ho
  | builtin b => exact keeps_callBuiltin hD hcall hcallee hs ho hargs

theorem FitsCallee.still (hD : D.Lawful) {t : Session} (step : D.Step sc s t) {callee : Callee}
    (h : D.FitsCallee s callee) : D.FitsCallee t callee := by
  cases callee with
  | value v => exact hD.still step h
  | builtin b => exact h

/-- A name may be bound in a scope without leaving the discipline. -/
def Admits (D : Discipline) (sc : Option Nat) (scope : Nat) (name : String) : Prop :=
  ∀ {s : Session} {v : Value}, D.Holds s → D.Fits s v → D.Step sc s (s.withBinding scope name v)

theorem keeps_assign (hD : D.Lawful) (hs : D.Holds s) {scope : Nat} {name : String} {v : Value}
    (hadmits : D.Admits sc scope name) (ho : D.FitsOffset offset)
    (compound : Option BinaryOp) (hv : D.Fits s v) :
    D.Keeps sc s (assign ctx scope name compound v offset) D.Fits := by
  have hdefine {t : Session} {w : Value} (ht : D.Holds t) (hw : D.Fits t w) :
      D.Keeps sc t (define scope name w >>= fun _ => pure w) D.Fits := by
    have hbound : D.Keeps sc t (define scope name w) fun _ _ => True := .ok (hadmits ht hw) trivial
    exact hbound.bind hD fun _ u step _ => keeps_pure hD step.holds (hD.still step hw)
  cases compound with
  | none => exact hdefine hs hv
  | some op =>
    refine keeps_get_bind ?_
    cases hlookup : s.lookup scope name with
    | none => exact (keeps_fail (Q := D.Fits) hD hs ho rfl).bind hD fun w t step hw =>
        hdefine step.holds hw
    | some current =>
      exact (keeps_binary hD hs ho op (hD.fits_lookup hs hlookup) hv).bind hD fun w t step hw =>
        hdefine step.holds hw

theorem keeps_newClosure (hD : D.Lawful) (hs : D.Holds s) (scope : Nat) (name : Option String)
    (params : List String) {body : Expr} (hbody : body.Every D.FitsNode) :
    D.Keeps sc s (newClosure scope name params body) D.Fits :=
  keeps_get_bind <| (keeps_newIdentity hD hs).bind hD fun _ _ step _ =>
    keeps_pure hD step.holds (hD.fits_closure.2 hbody)

theorem yields_fits_access (hD : D.Lawful) (hs : D.Holds s) {v : Value} (hv : D.Fits s v)
    (key : Value) : Yields D.toCare offset (D.Fits s) (access s v key offset) := by
  refine (yields_access s v key).imp fun w hw => ?_
  rcases hw with hw | ⟨c, rfl, hw⟩ | ⟨c, k, rfl, hw⟩
  · exact hD.fits_atomic hw
  · exact hD.fits_item hs hv hw
  · exact hD.fits_entry hs hv (Entries.mem_values_of_find? hw)

/-! ## Expressions -/

/-- The history of a context, as far as units are looked at. -/
def FitsContext (D : Discipline) (ctx : Context) : Prop :=
  ∀ v ∈ ctx.history, v.Measured D.toCare

/-- What an expression evaluated in a scope has to be like: its nodes fit, and the
names that it assigns may be bound. -/
structure Suits (D : Discipline) (sc : Option Nat) (scope : Nat) (e : Expr) : Prop where
  every : e.Every D.FitsNode
  admits : ∀ name, e.Assigns name → D.Admits sc scope name

theorem Suits.operand {scope : Nat} {e : Expr} (h : D.Suits sc scope e) :
    ∀ c ∈ e.operands, D.Suits sc scope c := fun c hc =>
  ⟨h.every.child c (Expr.mem_children_of_mem_operands hc),
    fun name hname => h.admits name (.operand hc hname)⟩

/-- Nodes that fit may assign in the current scope. -/
theorem suits_of_every (hD : D.Lawful) (scope : Nat) {e : Expr} (he : e.Every D.FitsNode) :
    D.Suits (some scope) scope e := by
  refine ⟨he, fun name hname => ?_⟩
  induction hname with
  | here => exact fun hs hv => hD.withBinding he.here hs hv
  | operand hc _ ih => exact ih (he.child _ (Expr.mem_children_of_mem_operands hc))

mutual

/-- Evaluation keeps a discipline that the expression suits. -/
theorem keeps_evalExpr_of_suits {s : Session} (hD : D.Lawful) (hctx : D.FitsContext ctx)
    (hcall : D.Calls call) (scope : Nat) (hs : D.Holds s) (e : Expr) (he : D.Suits sc scope e) :
    D.Keeps sc s (evalExpr ctx call scope e) D.Fits := by
  have hnode := he.every.here
  have ho := hD.offset_of_node hnode
  have hunits := hD.units_of_node hnode
  cases e with
  | number value units offset => exact keeps_atomic hD hs ho (yields_quantityOf hunits)
  | string parts offset =>
    refine (keeps_evalParts hD hctx hcall scope hs "" parts he.operand).bind hD fun _ t step _ => ?_
    exact keeps_pure hD step.holds (hD.fits_atomic trivial)
  | constant c offset =>
    exact keeps_get_bind (keeps_pure hD hs (fits_constantValue hD hs scope c))
  | name text offset => exact keeps_nameValue hD hs scope hnode
  | unary op operand offset =>
    refine (keeps_evalExpr_of_suits hD hctx hcall scope hs operand (he.operand _ List.mem_cons_self)).bind hD
      fun v t step hv => ?_
    exact keeps_get_bind (keeps_atomic hD step.holds ho (yields_unary (hD.measured_of_fits hv)))
  | binary op left right offset =>
    refine (keeps_evalExpr_of_suits hD hctx hcall scope hs left (he.operand _ List.mem_cons_self)).bind hD
      fun l t step hl => ?_
    refine (keeps_evalExpr_of_suits hD hctx hcall scope step.holds right
      (he.operand _ (List.mem_cons_of_mem _ List.mem_cons_self))).bind hD fun r u step' hr => ?_
    exact keeps_binary hD step'.holds ho op (hD.still step' hl) hr
  | logical op left right offset =>
    refine (keeps_evalExpr_of_suits hD hctx hcall scope hs left (he.operand _ List.mem_cons_self)).bind hD
      fun l t step _ => ?_
    refine (keeps_isTrue hD step.holds l).bind hD fun holds u step' _ => ?_
    split
    · exact keeps_pure hD step'.holds (hD.fits_atomic trivial)
    · exact keeps_pure hD step'.holds (hD.fits_atomic trivial)
    · refine (keeps_evalExpr_of_suits hD hctx hcall scope step'.holds right
        (he.operand _ (List.mem_cons_of_mem _ List.mem_cons_self))).bind hD fun r w step _ => ?_
      exact (keeps_isTrue hD step.holds r).bind hD fun _ _ step _ =>
        keeps_pure hD step.holds (hD.fits_atomic trivial)
  | compare op left right offset =>
    refine (keeps_evalExpr_of_suits hD hctx hcall scope hs left (he.operand _ List.mem_cons_self)).bind hD
      fun l t step hl => ?_
    refine (keeps_evalExpr_of_suits hD hctx hcall scope step.holds right
      (he.operand _ (List.mem_cons_of_mem _ List.mem_cons_self))).bind hD fun r u step' hr => ?_
    exact keeps_comparison hD step'.holds ho op (hD.still step' hl) hr
  | conditional condition yes no offset =>
    refine (keeps_evalExpr_of_suits hD hctx hcall scope hs condition
      (he.operand _ List.mem_cons_self)).bind hD fun c t step _ => ?_
    refine (keeps_isTrue hD step.holds c).bind hD fun holds u step' _ => ?_
    split
    · exact keeps_evalExpr_of_suits hD hctx hcall scope step'.holds yes
        (he.operand _ (List.mem_cons_of_mem _ List.mem_cons_self))
    · exact keeps_evalExpr_of_suits hD hctx hcall scope step'.holds no
        (he.operand _ (List.mem_cons_of_mem _ (List.mem_cons_of_mem _ List.mem_cons_self)))
  | isKind operand kind offset =>
    refine (keeps_evalExpr_of_suits hD hctx hcall scope hs operand (he.operand _ List.mem_cons_self)).bind hD
      fun v t step hv => ?_
    exact keeps_pure hD step.holds (hD.fits_atomic trivial)
  | cast operand kind offset =>
    refine (keeps_evalExpr_of_suits hD hctx hcall scope hs operand (he.operand _ List.mem_cons_self)).bind hD
      fun v t step hv => ?_
    exact keeps_cast hD step.holds ho hv kind
  | convertUnits operand units offset =>
    refine (keeps_evalExpr_of_suits hD hctx hcall scope hs operand (he.operand _ List.mem_cons_self)).bind hD
      fun v t step hv => ?_
    exact keeps_atomic hD step.holds ho (yields_convertUnits (hD.measured_of_fits hv) hunits)
  | convertZone operand zone offset =>
    refine (keeps_evalExpr_of_suits hD hctx hcall scope hs operand (he.operand _ List.mem_cons_self)).bind hD
      fun v t step hv => ?_
    exact keeps_atomic hD step.holds ho (yields_convertZone v zone)
  | call name args offset =>
    refine keeps_get_bind (keeps_lift_bind hD hs ho (yields_calleeOf hD hs scope hnode)
      fun callee hcallee => ?_)
    refine (keeps_evalList hD hctx hcall scope hs (by simp) args he.operand).bind hD
      fun vs t step hvs => ?_
    exact (keeps_callCallee hD hcall step.holds ho (hcallee.still hD step)
      (by simpa using hvs)).widen hD
  | apply callee args offset =>
    refine (keeps_evalExpr_of_suits hD hctx hcall scope hs callee (he.operand _ List.mem_cons_self)).bind hD
      fun f t step hf => ?_
    refine (keeps_evalList hD hctx hcall scope step.holds (by simp) args
      fun e h => he.operand e (List.mem_cons_of_mem _ h)).bind hD fun vs u step' hvs => ?_
    exact (hcall step'.holds (hD.still step' hf) (by simpa using hvs) ho).widen hD
  | access container key offset =>
    refine (keeps_evalExpr_of_suits hD hctx hcall scope hs container (he.operand _ List.mem_cons_self)).bind hD
      fun l t step hl => ?_
    refine (keeps_evalExpr_of_suits hD hctx hcall scope step.holds key
      (he.operand _ (List.mem_cons_of_mem _ List.mem_cons_self))).bind hD fun r u step' hr => ?_
    exact keeps_get_bind (keeps_lift hD step'.holds ho
      (yields_fits_access hD step'.holds (hD.still step' hl) r) fun _ h => h)
  | assign name value compound offset =>
    refine (keeps_evalExpr_of_suits hD hctx hcall scope hs value (he.operand _ List.mem_cons_self)).bind hD
      fun v t step hv => ?_
    exact keeps_assign hD step.holds (he.admits name .here) ho compound hv
  | aggregate kind target offset =>
    refine keeps_atomic hD hs ho (yields_aggregate kind hctx fun hknown terms h => ?_)
    subst h
    exact hunits hknown
  | day spec zone offset => exact keeps_atomic hD hs ho (yields_dayValue ctx spec zone)
  | time hour minute zone offset =>
    exact keeps_atomic hD hs ho (yields_timeValue ctx hour minute zone)
  | moment spec zone offset => exact keeps_atomic hD hs ho (yields_momentValue ctx spec zone)
  | dateShift date op amount unit offset =>
    refine (keeps_evalExpr_of_suits hD hctx hcall scope hs date (he.operand _ List.mem_cons_self)).bind hD
      fun l t step hl => ?_
    refine (keeps_evalExpr_of_suits hD hctx hcall scope step.holds amount
      (he.operand _ (List.mem_cons_of_mem _ List.mem_cons_self))).bind hD fun r u step' hr => ?_
    exact keeps_atomic hD step'.holds ho (yields_shiftBy l op r unit)
  | array elements offset =>
    exact (keeps_evalList hD hctx hcall scope hs (by simp) elements he.operand).bind hD
      fun vs t step hvs => keeps_newArray hD step.holds hvs
  | object entries offset =>
    exact (keeps_evalEntries hD hctx hcall scope hs Entries.nodup_keys_nil (by simp [Entries.values])
      entries he.operand).bind hD fun es t step hes => keeps_newObject hD step.holds hes.1 hes.2
  | lambda name params body offset =>
    exact keeps_newClosure hD hs scope name params (he.every.child _ List.mem_cons_self)

theorem keeps_evalList {s : Session} (hD : D.Lawful) (hctx : D.FitsContext ctx)
    (hcall : D.Calls call) (scope : Nat) (hs : D.Holds s) {done : Array Value}
    (hdone : ∀ v ∈ done, D.Fits s v) (es : List Expr) (hes : ∀ e ∈ es, D.Suits sc scope e) :
    D.Keeps sc s (evalList ctx call scope done es)
      fun t vs => ∀ v ∈ vs, D.Fits t v := by
  cases es with
  | nil => exact keeps_pure hD hs hdone
  | cons e rest =>
    refine (keeps_evalExpr_of_suits hD hctx hcall scope hs e (hes e List.mem_cons_self)).bind hD
      fun v t step hv => ?_
    refine keeps_evalList hD hctx hcall scope step.holds ?_ rest
      fun e' he' => hes e' (List.mem_cons_of_mem _ he')
    intro w hw
    rcases Array.mem_push.1 hw with hw | rfl
    · exact hD.still step (hdone w hw)
    · exact hv

theorem keeps_evalEntries {s : Session} (hD : D.Lawful) (hctx : D.FitsContext ctx)
    (hcall : D.Calls call) (scope : Nat) (hs : D.Holds s) {done : Entries Value}
    (hkeys : done.keys.Nodup) (hdone : ∀ v ∈ done.values, D.Fits s v)
    (entries : List (String × Expr)) (hes : ∀ e ∈ entries.map (·.2), D.Suits sc scope e) :
    D.Keeps sc s (evalEntries ctx call scope done entries)
      fun t (es : Entries Value) => es.keys.Nodup ∧ ∀ v ∈ es.values, D.Fits t v := by
  cases entries with
  | nil => exact keeps_pure hD hs ⟨hkeys, hdone⟩
  | cons entry rest =>
    rcases entry with ⟨key, e⟩
    refine (keeps_evalExpr_of_suits hD hctx hcall scope hs e (hes e List.mem_cons_self)).bind hD
      fun v t step hv => ?_
    exact keeps_evalEntries hD hctx hcall scope step.holds (Entries.nodup_keys_insert hkeys)
      (Entries.forall_values_insert hv fun w hw => hD.still step (hdone w hw)) rest
      fun e' he' => hes e' (List.mem_cons_of_mem _ he')

theorem keeps_evalParts {s : Session} (hD : D.Lawful) (hctx : D.FitsContext ctx)
    (hcall : D.Calls call) (scope : Nat) (hs : D.Holds s) (done : String)
    (parts : List (Part Expr)) (hparts : ∀ e ∈ parts.filterMap Part.code?, D.Suits sc scope e) :
    D.Keeps sc s (evalParts ctx call scope done parts) fun _ _ => True := by
  cases parts with
  | nil => exact keeps_pure hD hs trivial
  | cons part rest =>
    cases part with
    | text t => exact keeps_evalParts hD hctx hcall scope hs _ rest hparts
    | code e =>
      refine (keeps_evalExpr_of_suits hD hctx hcall scope hs e (hparts e List.mem_cons_self)).bind hD
        fun v t step _ => ?_
      refine (keeps_textOf hD step.holds v).bind hD fun _ u step' _ => ?_
      exact keeps_evalParts hD hctx hcall scope step'.holds _ rest
        fun e' he' => hparts e' (List.mem_cons_of_mem _ he')

end

/-- Evaluation keeps a discipline that the nodes of the expression fit. -/
theorem keeps_evalExpr (hD : D.Lawful) (hctx : D.FitsContext ctx) (hcall : D.Calls call)
    (scope : Nat) (hs : D.Holds s) (e : Expr) (he : e.Every D.FitsNode) :
    D.Keeps (some scope) s (evalExpr ctx call scope e) D.Fits :=
  keeps_evalExpr_of_suits hD hctx hcall scope hs e (suits_of_every hD scope he)

/-! ## Calls -/

/-- Parameters bound to arguments. -/
def boundParams (params : List String) (args : List Value) : Entries Value :=
  (params.zip args).foldl (fun es (name, v) => Entries.insert es name v) []

theorem forall_values_boundParams {P : Value → Prop} (params : List String) {args : List Value}
    (hargs : ∀ v ∈ args, P v) : ∀ v ∈ (boundParams params args).values, P v := by
  suffices h : ∀ done : Entries Value, (∀ v ∈ done.values, P v) →
      ∀ v ∈ Entries.values ((params.zip args).foldl
        (fun es (name, v) => Entries.insert es name v) done), P v from
    h [] (by simp [Entries.values])
  induction params generalizing args with
  | nil => exact fun done hdone => hdone
  | cons name params ih =>
    intro done hdone
    cases args with
    | nil => exact hdone
    | cons v args =>
      refine ih (fun w hw => hargs w (List.mem_cons_of_mem _ hw)) _ ?_
      exact Entries.forall_values_insert (hargs v List.mem_cons_self) hdone

theorem nested_newScope {α : Type} (body : EvalM α) (s : Session) (around : Scope) :
    nested body (s.newScope around) =
      match body (s.entered around) with
      | .ok x t => .ok x t.left
      | .error stop t => .error stop t.left := by
  unfold nested
  rw [onStack_eq]
  change (match body (s.entered around) with | .ok x t => _ | .error stop t => _) = _
  cases body (s.entered around) with
  | ok x t => rfl
  | error stop t => rfl

/-- Calls a function from a source, with something else as its body. -/
def runClosure (body : Nat → EvalM Value) (f : Closure) (args : List Value) (offset : Nat) :
    EvalM Value := do
  if args.length ≠ f.params.length then
    fail offset
      (.argumentCount (f.name.getD "<lambda>") (toString f.params.length) args.length)
  else if maxDepth ≤ (← get).depth then fail offset (.callDepth maxDepth)
  else
    let scope ← enterScope (f.scope.getD (← get).root) f.params args
    nested (body scope)

/-- The scope of such a call. -/
def closureScope (s : Session) (f : Closure) (args : List Value) : Scope :=
  { bindings := boundParams f.params args, parent := some (f.scope.getD s.root) }

/-- What a call comes to once its body has come to a result. -/
def ended : EStateM.Result Stop Session Value → EStateM.Result Stop Session Value
  | .ok v t => .ok v t.left
  | .error stop t => .error stop t.left

section

variable {body : Nat → EvalM Value} {f : Closure} {args : List Value}

theorem callClosure_eq :
    callClosure ctx call f args offset =
      runClosure (fun scope => evalExpr ctx call scope f.body) f args offset := rfl

/-- The wrong number of arguments is an error at every depth. -/
theorem runClosure_of_ne (h : args.length ≠ f.params.length) :
    runClosure body f args offset s = .error (.fault
      ⟨.argumentCount (f.name.getD "<lambda>") (toString f.params.length) args.length, offset⟩)
      s := by
  rw [runClosure, if_pos h]
  rfl

theorem runClosure_of_full (h : args.length = f.params.length) (hd : maxDepth ≤ s.depth) :
    runClosure body f args offset s = .error (.fault ⟨.callDepth maxDepth, offset⟩) s := by
  rw [runClosure, if_neg (not_not.2 h), get_bind_run, if_pos hd]
  rfl

/-- The body is one call deeper, in a scope of its own. -/
theorem runClosure_of_lt (h : args.length = f.params.length) (hd : s.depth < maxDepth) :
    runClosure body f args offset s =
      ended (body s.scopes.size (s.entered (closureScope s f args))) := by
  rw [runClosure, if_neg (not_not.2 h), get_bind_run, if_neg (Nat.not_le_of_lt hd)]
  show nested (body s.scopes.size) (s.newScope (closureScope s f args)) = _
  rw [nested_newScope]
  cases body s.scopes.size (s.entered (closureScope s f args)) <;> rfl

/-- A function from a source keeps what its body keeps one call deeper. -/
theorem keeps_runClosure (hD : D.Lawful) (hs : D.Holds s) (ho : D.FitsOffset offset)
    (hargs : ∀ v ∈ args, D.Fits s v)
    (hfull : args.length = f.params.length → maxDepth ≤ s.depth → D.deep)
    (hbody : s.depth < maxDepth → D.Holds (s.entered (closureScope s f args)) →
      D.Keeps (some s.scopes.size) (s.entered (closureScope s f args)) (body s.scopes.size)
        D.Fits) :
    D.Keeps none s (runClosure body f args offset) D.Fits := by
  unfold Keeps
  by_cases harity : args.length = f.params.length
  · rcases Nat.lt_or_ge s.depth maxDepth with hdepth | hge
    · rw [runClosure_of_lt harity hdepth]
      have hends := hbody hdepth (hD.entered hs hdepth (forall_values_boundParams f.params hargs))
      unfold Keeps at hends
      generalize body s.scopes.size (s.entered (closureScope s f args)) = res at hends ⊢
      cases hends with
      | ok step hv => exact .ok (hD.left hs hdepth step.holds step.leads) (hD.fits_left hv)
      | error step hstop => exact .error (hD.left hs hdepth step.holds step.leads) hstop
    · rw [runClosure_of_full harity hge]
      exact .error (hD.refl hs) ⟨ho, fun _ => rfl, fun _ => hfull harity hge⟩
  · rw [runClosure_of_ne harity]
    exact keeps_fail hD hs ho rfl

theorem keeps_callClosure (hD : D.Lawful) (hctx : D.FitsContext ctx) (hcall : D.Calls call)
    (hs : D.Holds s) (ho : D.FitsOffset offset) (hf : f.body.Every D.FitsNode)
    (hargs : ∀ v ∈ args, D.Fits s v) (hdeep : D.deep := by trivial) :
    D.Keeps none s (callClosure ctx call f args offset) D.Fits := by
  rw [callClosure_eq]
  exact keeps_runClosure hD hs ho hargs (fun _ _ => hdeep) fun _ hentered =>
    keeps_evalExpr hD hctx hcall s.scopes.size hentered f.body hf

end

theorem fits_unfoldApplied (hD : D.Lawful) {callee : Value} {args : List Value}
    (hcallee : D.Fits s callee) (hargs : ∀ v ∈ args, D.Fits s v) :
    D.Fits s (unfoldApplied callee args).1 ∧ ∀ v ∈ (unfoldApplied callee args).2, D.Fits s v := by
  fun_induction unfoldApplied callee args with
  | case1 i callee bound args ih =>
    obtain ⟨hcallee, hbound⟩ := hD.fits_applied.1 hcallee
    refine ih hcallee fun v hv => ?_
    rcases List.mem_append.1 hv with hv | hv
    · exact hbound v hv
    · exact hargs v hv
  | case2 => exact ⟨hcallee, hargs⟩

theorem keeps_callPlain (hD : D.Lawful) (hctx : D.FitsContext ctx) (hcall : D.Calls call)
    (hs : D.Holds s) (ho : D.FitsOffset offset) {callee : Value} {args : List Value}
    (hcallee : D.Fits s callee) (hargs : ∀ v ∈ args, D.Fits s v)
    (hdeep : D.deep := by trivial) :
    D.Keeps none s (callPlain ctx call callee args offset) D.Fits := by
  unfold callPlain
  split
  · exact keeps_callClosure hD hctx hcall hs ho (hD.fits_closure.1 hcallee) hargs hdeep
  · exact keeps_callBuiltin hD hcall (hD.fits_builtin.1 hcallee) hs ho hargs
  · exact keeps_fail hD hs ho rfl

/-- Calls keep a discipline, however deep they may nest. -/
theorem calls_callValue (hD : D.Lawful) (hctx : D.FitsContext ctx) (bound : Nat)
    (hdeep : D.deep := by trivial) : D.Calls (callValue ctx bound) := by
  induction bound with
  | zero => exact fun hs _ _ _ => .error (hD.refl hs) trivial
  | succ bound ih =>
    intro s f args offset hs hf hargs ho
    obtain ⟨hcallee, hargs⟩ := fits_unfoldApplied hD hf hargs
    exact keeps_callPlain hD hctx ih hs ho hcallee hargs hdeep

/-- An expression at the root of a session, with calls up to any depth. -/
theorem keeps_evalCalls (hD : D.Lawful) (hctx : D.FitsContext ctx) (bound : Nat)
    (hs : D.Holds s) {e : Expr} (he : e.Every D.FitsNode) (hdeep : D.deep := by trivial) :
    D.Keeps (some s.root) s (evalExpr ctx (callValue ctx bound) s.root e) D.Fits :=
  keeps_evalExpr hD hctx (calls_callValue hD hctx bound hdeep) s.root hs e he

/-- A source keeps a discipline that its tree fits. -/
theorem keeps_evaluate (hD : D.Lawful) (hctx : D.FitsContext ctx) (hs : D.Holds s)
    {source : String} (hok : ∀ e, Expr.parse source = .ok e → e.Every D.FitsNode)
    (herror : ∀ e, Expr.parse source = .error e →
      D.FitsOffset e.offset ∧ (D.known → e.cause.isUnknownUnit = false))
    (hdeep : D.deep := by trivial) :
    D.Keeps (some s.root) s (evaluate ctx source) D.Fits := by
  unfold evaluate
  cases hparse : Expr.parse source with
  | error e =>
    obtain ⟨hoffset, hknown⟩ := herror e hparse
    exact .error (hD.refl hs) ⟨hoffset, hknown, fun _ => hdeep⟩
  | ok e => exact keeps_evalCalls hD hctx callBound hs (hok e hparse) hdeep

/-! ## Relations that every change of a session keeps -/

/-- A relation of a session to later ones is kept by every change.  It may depend on which
scope, if any, has other bindings. -/
structure Tracks (R : Option Nat → Session → Session → Prop) : Prop where
  refl {sc : Option Nat} {s : Session} : R sc s s
  trans {sc : Option Nat} {s t u : Session} : R sc s t → R sc t u → R sc s u
  of_none {sc : Option Nat} {s t : Session} : R none s t → R sc s t
  newCell (s : Session) (cell : Cell) : R none s (s.newCell cell)
  newIdentity (s : Session) : R none s { s with identity := s.identity + 1 }
  withBinding (s : Session) (scope : Nat) (name : String) (v : Value) :
    R (some scope) s (s.withBinding scope name v)
  withItems (s : Session) (c : Nat) (more : List Value) : R none s (s.withItems c more)
  withoutLast (s : Session) (c : Nat) : R none s (s.withoutLast c)
  withEntry (s : Session) (c : Nat) (key : String) (v : Value) : R none s (s.withEntry c key v)
  left {s t : Session} {bindings : Entries Value} {parent : Nat} :
    R (some s.scopes.size) (s.entered { bindings, parent := some parent }) t → R none s t.left

variable {R : Option Nat → Session → Session → Prop}

/-- The discipline that keeps a relation and with it a property of sessions, whatever the values.
Whether calls may nest too deep is left open. -/
def trackingWithin (H : Session → Prop) (deep : Prop)
    (R : Option Nat → Session → Session → Prop) : Discipline where
  units := False
  known := False
  units_of_known := id
  FitsOffset _ := True
  FitsNode _ := True
  Allows _ := True
  Holds := H
  Leads := R
  Fits _ _ := True
  deep := deep

theorem Tracks.lawful_within {H : Session → Prop} {deep : Prop} (h : Tracks R)
    (hstay : ∀ {sc : Option Nat} {s t : Session}, R sc s t → H s → H t)
    (hentered : ∀ {s : Session} {around : Scope}, H s → s.depth < maxDepth → H (s.entered around)) :
    (trackingWithin H deep R).Lawful where
  offset_of_node _ := trivial
  units_of_node _ h := h.elim
  allows_of_name _ _ := trivial
  allows_of_call _ _ := trivial
  leads_refl := h.refl
  leads_trans := h.trans
  leads_of_none := h.of_none
  fits_of_leads _ _ := trivial
  fits_atomic _ := trivial
  measured_of_fits _ _ _ h := h.elim
  fits_builtin := ⟨fun _ => trivial, fun _ => trivial⟩
  fits_closure := ⟨fun _ => Expr.every_of_forall (fun _ => trivial) _, fun _ => trivial⟩
  fits_applied := ⟨fun _ => ⟨trivial, fun _ _ => trivial⟩, fun _ => trivial⟩
  fits_item _ _ _ := trivial
  fits_entry _ _ _ := trivial
  fits_lookup _ _ := trivial
  newArray hs _ := ⟨⟨hstay (h.newCell _ _) hs, h.newCell _ _⟩, trivial⟩
  newObject hs _ _ := ⟨⟨hstay (h.newCell _ _) hs, h.newCell _ _⟩, trivial⟩
  newIdentity hs := ⟨hstay (h.newIdentity _) hs, h.newIdentity _⟩
  withBinding _ hs _ := ⟨hstay (h.withBinding _ _ _ _) hs, h.withBinding _ _ _ _⟩
  withItems _ hs _ _ := ⟨hstay (h.withItems _ _ _) hs, h.withItems _ _ _⟩
  withoutLast _ hs _ := ⟨hstay (h.withoutLast _ _) hs, h.withoutLast _ _⟩
  withEntry _ hs _ _ := ⟨hstay (h.withEntry _ _ _ _) hs, h.withEntry _ _ _ _⟩
  entered hs hdepth _ := hentered hs hdepth
  left hs _ _ hleads := ⟨hstay (h.left hleads) hs, h.left hleads⟩
  fits_left _ := trivial

/-- The discipline that keeps a relation, whatever the values. -/
def tracking (R : Option Nat → Session → Session → Prop) : Discipline :=
  trackingWithin (fun _ => True) True R

theorem Tracks.lawful (h : Tracks R) : (tracking R).Lawful :=
  h.lawful_within (fun _ _ => trivial) fun _ _ => trivial

end Reckoner.Discipline
