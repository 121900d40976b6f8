import Reckoner.Proofs.Renaming.Builtin

/-!
# Evaluation does not look at numbers

An expression, evaluated in two sessions that are the same but for the numbers of
cells, scopes and functions, ends alike.

* `mirrors_evalExpr`: with calls that do not look at numbers, by induction on the
  expression.
* `equivariant_callValue`: calls do not look at numbers, by induction on how deep
  they may nest.
* `mirrors_evalCalls`: both together.
-/

namespace Reckoner

open Eval Renamable

/-! ## Names -/

namespace Eval

/-- What may be called by name, with other numbers. -/
def Callee.renamed (ρ : Renaming) : Callee → Callee
  | value v => value (v.renamed ρ)
  | builtin b => builtin b

/-- What may be called by name is sound. -/
def Callee.Sound (size : Nat) : Callee → Prop
  | value v => v.Sound size
  | builtin _ => True

end Eval

instance : Renamable Callee where
  rename := Callee.renamed
  Sound := Callee.Sound
  sound_mono {_ _ callee} h hc := match callee, hc with
    | .value _, hc => hc.mono h
    | .builtin _, _ => trivial

section

variable {ρ : Renaming} {base s s' : Session} {offset : Nat} {ctx : Context} {call : Caller}

theorem constantMeaning_atomic (c : Constant) : (constantMeaning c).Atomic noCare := by
  cases c <;> trivial

theorem mirrors_constantValue (h : Alike ρ base s s') (scope : Nat) (c : Constant) :
    Mirrors ρ base s s' (pure (constantValue s scope c))
      (pure (constantValue s' (ρ.scope scope) c)) := by
  have hbound : Mirrors ρ base s s'
      (pure ((s.lookup scope c.name).getD (constantMeaning c)))
      (pure ((s'.lookup (ρ.scope scope) c.name).getD (constantMeaning c))) := by
    rw [h.embeds.lookup_renamed]
    cases hlookup : s.lookup scope c.name with
    | none => exact mirrors_pure_atomic h (constantMeaning_atomic c)
    | some v => exact mirrors_pure h (h.tidy.sound.lookup hlookup)
  cases c with
  | pi | e | tau | phi => exact hbound
  | true_ | false_ | null => exact mirrors_pure_atomic h trivial

theorem mirrors_nameValue (h : Alike ρ base s s') (scope : Nat) (name : String) :
    Mirrors ρ base s s' (nameValue scope name offset)
      (nameValue (ρ.scope scope) name offset) := by
  refine mirrors_get_bind ?_
  rw [h.embeds.lookup_renamed]
  cases hlookup : s.lookup scope name with
  | some v => exact mirrors_pure h (h.tidy.sound.lookup hlookup)
  | none =>
    cases Builtin.ofName? name with
    | none => exact mirrors_fail h _
    | some b =>
      exact mirrors_newIdentity_bind h fun i _ _ ht _ => mirrors_pure ht (Value.sound_builtin i b)

theorem calleeOf_renamed (h : Alike ρ base s s') (scope : Nat) (name : String) :
    calleeOf s' (ρ.scope scope) name offset =
      (calleeOf s scope name offset).map (rename ρ) := by
  unfold calleeOf
  rw [h.embeds.lookup_renamed]
  cases s.lookup scope name with
  | none => cases Builtin.ofName? name <;> rfl
  | some v =>
    simp only [Option.map_some, Value.isCallable_renamed, Value.kind_renamed]
    split
    · rfl
    · cases Builtin.ofName? name <;> rfl

theorem sound_calleeOf (h : Alike ρ base s s') {scope : Nat} {name : String} {callee : Callee}
    (hcallee : calleeOf s scope name offset = .ok callee) : Sound s.cells.size callee := by
  cases callee with
  | builtin b => trivial
  | value v =>
    unfold calleeOf at hcallee
    cases hlookup : s.lookup scope name with
    | none =>
      rw [hlookup] at hcallee
      cases hb : Builtin.ofName? name <;> rw [hb] at hcallee <;> cases hcallee
    | some w =>
      rw [hlookup] at hcallee
      dsimp only at hcallee
      split at hcallee
      · cases hcallee
        exact h.tidy.sound.lookup hlookup
      · cases hb : Builtin.ofName? name <;> rw [hb] at hcallee <;> cases hcallee

theorem mirrors_callCallee (hcall : Equivariant ρ base call) (h : Alike ρ base s s')
    {callee : Callee} (hcallee : Sound s.cells.size callee) {args : List Value}
    (hargs : Sound s.cells.size args) :
    Mirrors ρ base s s' (callCallee ctx call callee args offset)
      (callCallee ctx call (rename ρ callee) (rename ρ args) offset) := by
  cases callee with
  | value v => exact hcall h hcallee hargs
  | builtin b => exact mirrors_callBuiltin hcall h b hargs

theorem mirrors_assign (h : Alike ρ base s s') (scope : Nat) (name : String)
    (compound : Option BinaryOp) {v : Value} (hv : v.Sound s.cells.size) :
    Mirrors ρ base s s' (assign ctx scope name compound v offset)
      (assign ctx (ρ.scope scope) name compound (v.renamed ρ) offset) := by
  have hdefine : ∀ w t t', Alike ρ base t t' → s.cells.size ≤ t.cells.size → Sound t.cells.size w →
      Mirrors ρ base t t' (define scope name w >>= fun _ => pure w)
        (define (ρ.scope scope) name (rename ρ w) >>= fun _ => pure (rename ρ w)) :=
    fun w _ _ ht _ hw => (mirrors_define ht scope name hw).bind fun _ _ _ hu hle _ =>
      mirrors_pure hu (hw.mono hle)
  cases compound with
  | none => exact hdefine v s s' h le_rfl hv
  | some op =>
    refine mirrors_get_bind ?_
    rw [h.embeds.lookup_renamed]
    cases hlookup : s.lookup scope name with
    | none =>
      have hfail : Mirrors ρ base s s' (fail offset (.unknownVariable name) : EvalM Value)
        (fail offset (.unknownVariable name)) := mirrors_fail h _
      exact hfail.bind hdefine
    | some current =>
      exact (mirrors_binary h op (h.tidy.sound.lookup hlookup) hv).bind hdefine

theorem mirrors_newClosure (h : Alike ρ base s s') (scope : Nat) (name : Option String)
    (params : List String) (body : Expr) :
    Mirrors ρ base s s' (newClosure scope name params body)
      (newClosure (ρ.scope scope) name params body) := by
  have hkept : (if ρ.scope scope = s'.root then none else some (ρ.scope scope)) =
      Option.map ρ.scope (if scope = s.root then none else some scope) := by
    simp only [h.embeds.root_eq, h.embeds.injective.scope.eq_iff]
    split <;> rfl
  refine mirrors_get_bind ?_
  dsimp only
  rw [hkept]
  exact mirrors_newIdentity_bind h fun i _ _ ht _ => mirrors_pure ht (Value.sound_closure i _)

theorem mirrors_access (h : Alike ρ base s s') (v key : Value) :
    Mirrors ρ base s s' (liftM (access s v key offset))
      (liftM (access s' (v.renamed ρ) (key.renamed ρ) offset)) := by
  refine mirrors_lift h (fun w hw => ?_) (access_renamed h.embeds v key)
  have hyields : Yields noCare offset _ (access s v key offset) := yields_access s v key
  rcases hyields.ok_of_eq hw with hatomic | ⟨c, rfl, hitem⟩ | ⟨c, k, rfl, hentry⟩
  · exact Value.sound_of_atomic hatomic
  · exact h.tidy.sound.item hitem
  · exact h.tidy.sound.entry (Entries.mem_values_of_find? hentry)

end

/-! ## Expressions -/

section

variable {ρ : Renaming} {base : Session} {ctx : Context} {call : Caller}

mutual

/-- Evaluation does not look at numbers. -/
theorem mirrors_evalExpr {s s' : Session} (hcall : Equivariant ρ base call)
    (h : Alike ρ base s s') (scope : Nat) (e : Expr) :
    Mirrors ρ base s s' (evalExpr ctx call scope e) (evalExpr ctx call (ρ.scope scope) e) := by
  cases e with
  | number value units offset => exact mirrors_atomic h (yields_quantityOf nofun) rfl
  | string parts offset =>
    exact (mirrors_evalParts hcall h scope "" parts).bind fun _ _ _ ht _ _ =>
      mirrors_pure_atomic ht trivial
  | constant c offset => exact mirrors_get_bind (mirrors_constantValue h scope c)
  | name text offset => exact mirrors_nameValue h scope text
  | unary op operand offset =>
    refine (mirrors_evalExpr hcall h scope operand).bind fun v t t' ht _ _ => ?_
    exact mirrors_get_bind <| mirrors_atomic ht (yields_unary v.measured_noCare)
      (unary_renamed ht.embeds op v)
  | binary op left right offset =>
    refine (mirrors_evalExpr hcall h scope left).bind fun l t t' ht _ hl => ?_
    refine (mirrors_evalExpr hcall ht scope right).bind fun r u u' hu hle hr => ?_
    exact mirrors_binary hu op (hl.mono hle) hr
  | logical op left right offset =>
    refine (mirrors_evalExpr hcall h scope left).bind fun l t t' ht _ _ => ?_
    refine (mirrors_isTrue ht l).bind fun holds u u' hu _ _ => ?_
    have hright : Mirrors ρ base u u'
        (evalExpr ctx call scope right >>= fun r => isTrue r >>= fun b => pure (Value.bool b))
        (evalExpr ctx call (ρ.scope scope) right >>= fun r => isTrue r >>= fun b =>
          pure (Value.bool b)) :=
      (mirrors_evalExpr hcall hu scope right).bind fun r _ _ hw _ _ =>
        (mirrors_isTrue hw r).bind fun _ _ _ hw _ _ => mirrors_pure_atomic hw trivial
    cases op <;> cases holds
    · exact mirrors_pure_atomic hu trivial
    · exact hright
    · exact hright
    · exact mirrors_pure_atomic hu trivial
  | compare op left right offset =>
    refine (mirrors_evalExpr hcall h scope left).bind fun l t t' ht _ hl => ?_
    refine (mirrors_evalExpr hcall ht scope right).bind fun r u u' hu hle hr => ?_
    exact mirrors_comparison hu op (hl.mono hle) hr
  | conditional condition yes no offset =>
    refine (mirrors_evalExpr hcall h scope condition).bind fun c t t' ht _ _ => ?_
    refine (mirrors_isTrue ht c).bind fun holds u u' hu _ _ => ?_
    cases holds with
    | true => exact mirrors_evalExpr hcall hu scope yes
    | false => exact mirrors_evalExpr hcall hu scope no
  | isKind operand kind offset =>
    refine (mirrors_evalExpr hcall h scope operand).bind fun v t t' ht _ _ => ?_
    have hkind : (rename ρ v).kind = v.kind := Value.kind_renamed ρ v
    rw [hkind]
    exact mirrors_pure_atomic ht trivial
  | cast operand kind offset =>
    refine (mirrors_evalExpr hcall h scope operand).bind fun v t t' ht _ hv => ?_
    exact mirrors_cast ht hv kind
  | convertUnits operand units offset =>
    refine (mirrors_evalExpr hcall h scope operand).bind fun v t t' ht _ _ => ?_
    exact mirrors_atomic ht (yields_convertUnits v.measured_noCare nofun)
      (convertUnits_renamed v units)
  | convertZone operand zone offset =>
    refine (mirrors_evalExpr hcall h scope operand).bind fun v t t' ht _ _ => ?_
    exact mirrors_atomic ht (yields_convertZone v zone) (convertZone_renamed v zone)
  | call name args offset =>
    refine mirrors_get_bind ?_
    refine mirrors_map_bind h (calleeOf_renamed h scope name) fun callee hcallee => ?_
    have hlist := mirrors_evalList hcall h scope (sound_empty _) args
    rw [rename_empty] at hlist
    refine hlist.bind fun vs t t' ht hle hvs => ?_
    rw [rename_toList]
    exact mirrors_callCallee hcall ht (sound_mono hle (sound_calleeOf h hcallee))
      (sound_toList hvs)
  | apply callee args offset =>
    refine (mirrors_evalExpr hcall h scope callee).bind fun f t t' ht _ hf => ?_
    have hlist := mirrors_evalList hcall ht scope (sound_empty _) args
    rw [rename_empty] at hlist
    refine hlist.bind fun vs u u' hu hle hvs => ?_
    rw [rename_toList]
    exact hcall hu (hf.mono hle) (sound_toList hvs)
  | access container key offset =>
    refine (mirrors_evalExpr hcall h scope container).bind fun l t t' ht _ _ => ?_
    refine (mirrors_evalExpr hcall ht scope key).bind fun r u u' hu _ _ => ?_
    exact mirrors_get_bind (mirrors_access hu l r)
  | assign name value compound offset =>
    refine (mirrors_evalExpr hcall h scope value).bind fun v t t' ht _ hv => ?_
    exact mirrors_assign ht scope name compound hv
  | aggregate kind target offset =>
    exact mirrors_atomic h (yields_aggregate kind (fun v _ => v.measured_noCare) nofun) rfl
  | day spec zone offset => exact mirrors_atomic h (yields_dayValue ctx spec zone) rfl
  | time hour minute zone offset => exact mirrors_atomic h (yields_timeValue ctx hour minute zone) rfl
  | moment spec zone offset => exact mirrors_atomic h (yields_momentValue ctx spec zone) rfl
  | dateShift date op amount unit offset =>
    refine (mirrors_evalExpr hcall h scope date).bind fun l t t' ht _ _ => ?_
    refine (mirrors_evalExpr hcall ht scope amount).bind fun r u u' hu _ _ => ?_
    exact mirrors_atomic hu (yields_shiftBy l op r unit) (shiftBy_renamed l op r unit)
  | array elements offset =>
    have hlist := mirrors_evalList hcall h scope (sound_empty _) elements
    rw [rename_empty] at hlist
    exact hlist.bind fun _ _ _ ht _ hvs => mirrors_newArray ht hvs
  | object entries offset =>
    exact (mirrors_evalEntries hcall h scope (List.forall_mem_nil _) entries).bind
      fun _ _ _ ht _ hes => mirrors_newObject ht hes
  | lambda name params body offset => exact mirrors_newClosure h scope name params body

theorem mirrors_evalList {s s' : Session} (hcall : Equivariant ρ base call)
    (h : Alike ρ base s s') (scope : Nat) {done : Array Value} (hdone : Sound s.cells.size done)
    (es : List Expr) :
    Mirrors ρ base s s' (evalList ctx call scope done es)
      (evalList ctx call (ρ.scope scope) (rename ρ done) es) := by
  cases es with
  | nil => exact mirrors_pure h hdone
  | cons e rest =>
    refine (mirrors_evalExpr hcall h scope e).bind fun v t t' ht hle hv => ?_
    rw [show (rename ρ done).push (rename ρ v) = rename ρ (done.push v) from
      (rename_push ρ done v).symm]
    exact mirrors_evalList hcall ht scope (sound_push (sound_mono hle hdone) hv) rest

theorem mirrors_evalEntries {s s' : Session} (hcall : Equivariant ρ base call)
    (h : Alike ρ base s s') (scope : Nat) {done : Entries Value} (hdone : Sound s.cells.size done)
    (entries : List (String × Expr)) :
    Mirrors ρ base s s' (evalEntries ctx call scope done entries)
      (evalEntries ctx call (ρ.scope scope) (rename ρ done) entries) := by
  cases entries with
  | nil => exact mirrors_pure h hdone
  | cons entry rest =>
    rcases entry with ⟨key, e⟩
    refine (mirrors_evalExpr hcall h scope e).bind fun v t t' ht hle hv => ?_
    rw [Entries.insert_rename]
    refine mirrors_evalEntries hcall ht scope (Entries.sound_iff.2 ?_) rest
    exact Entries.forall_values_insert hv (Entries.sound_iff.1 (sound_mono hle hdone))

theorem mirrors_evalParts {s s' : Session} (hcall : Equivariant ρ base call)
    (h : Alike ρ base s s') (scope : Nat) (done : String) (parts : List (Part Expr)) :
    Mirrors ρ base s s' (evalParts ctx call scope done parts)
      (evalParts ctx call (ρ.scope scope) done parts) := by
  cases parts with
  | nil => exact mirrors_pure h trivial
  | cons part rest =>
    cases part with
    | text t => exact mirrors_evalParts hcall h scope _ rest
    | code e =>
      refine (mirrors_evalExpr hcall h scope e).bind fun v t t' ht _ hv => ?_
      refine (mirrors_textOf ht hv).bind fun text u u' hu _ _ => ?_
      exact mirrors_evalParts hcall hu scope _ rest

end

end

/-! ## Calls -/

section

variable {ρ : Renaming} {base s s' : Session} {ctx : Context} {call : Caller} {offset : Nat}

theorem boundParams_renamed (params : List String) (args : List Value) :
    Discipline.boundParams params (rename ρ args) =
      rename ρ (Discipline.boundParams params args) := by
  suffices h : ∀ done : Entries Value,
      (params.zip (rename ρ args)).foldl (fun es entry => Entries.insert es entry.1 entry.2)
          (rename ρ done) =
        rename ρ ((params.zip args).foldl (fun es entry => Entries.insert es entry.1 entry.2)
          done) from
    h []
  induction params generalizing args with
  | nil => exact fun done => rfl
  | cons name params ih =>
    intro done
    cases args with
    | nil => rfl
    | cons v args =>
      have hinsert : (rename ρ done : Entries Value).insert name (rename ρ v) = _ :=
        Entries.insert_rename done name v
      show List.foldl _ ((rename ρ done : Entries Value).insert name (rename ρ v)) _ = _
      rw [hinsert]
      exact ih args _

/-- One more call in a new scope. -/
theorem Alike.entered (h : Alike ρ base s s') {bindings : Entries Value}
    (hbindings : Sound s.cells.size bindings) (parent : Nat) :
    Alike ρ base (s.entered { bindings, parent := some parent })
      (s'.entered { bindings := rename ρ bindings, parent := some (ρ.scope parent) }) where
  embeds := (h.embeds.newScope _).atDepth (· + 1)
  tidy := (h.tidy.newScope (Entries.sound_iff.1 hbindings)).congr rfl
    (h.tidy.newScope (Entries.sound_iff.1 hbindings)).sound.bindings

theorem Alike.left (h : Alike ρ base s s') : Alike ρ base s.left s'.left where
  embeds := h.embeds.atDepth (· - 1)
  tidy := h.tidy.congr rfl h.tidy.sound.bindings

/-- The body of a function, run as one more call in a scope of its own. -/
theorem mirrored_nested {size : Nat} {around around' : Scope} {body body' : EvalM Value}
    (h : Mirrored ρ base size (body (s.entered around)) (body' (s'.entered around'))) :
    Mirrored ρ base size (nested body (s.newScope around)) (nested body' (s'.newScope around')) := by
  rw [Discipline.nested_newScope, Discipline.nested_newScope]
  generalize body (s.entered around) = res at h ⊢
  generalize body' (s'.entered around') = res' at h ⊢
  cases h with
  | ok ht hle hx => exact .ok ht.left hle hx
  | error ht hle => exact .error ht.left hle

theorem mirrors_callClosure (hcall : Equivariant ρ base call) (h : Alike ρ base s s')
    (f : Closure) {args : List Value} (hargs : Sound s.cells.size args) :
    Mirrors ρ base s s' (callClosure ctx call f args offset)
      (callClosure ctx call (f.renamed ρ) (rename ρ args) offset) := by
  have hlength : (rename ρ args).length = args.length := List.length_map _
  unfold callClosure
  rw [hlength]
  show Mirrors ρ base s s' _ (if args.length ≠ f.params.length then _ else _)
  split
  · exact mirrors_fail h _
  · refine mirrors_get_bind ?_
    rw [h.embeds.depth_eq]
    split
    · exact mirrors_fail h _
    · have hparent : (f.renamed ρ).scope.getD s'.root = ρ.scope (f.scope.getD s.root) := by
        rw [h.embeds.root_eq]
        cases hscope : f.scope <;> simp [Closure.renamed, hscope]
      have hbindings : Sound s.cells.size (Discipline.boundParams f.params args) :=
        Entries.sound_iff.2 (Discipline.forall_values_boundParams f.params hargs)
      have hentered := h.entered hbindings (f.scope.getD s.root)
      rw [← boundParams_renamed, ← hparent] at hentered
      refine mirrored_nested ?_
      show Mirrored ρ base s.cells.size _ (evalExpr ctx call s'.scopes.size f.body _)
      rw [← h.embeds.new_scope]
      exact mirrors_evalExpr hcall hentered s.scopes.size f.body

theorem unfoldApplied_renamed (callee : Value) (args : List Value) :
    unfoldApplied (callee.renamed ρ) (rename ρ args) =
      ((unfoldApplied callee args).1.renamed ρ, rename ρ (unfoldApplied callee args).2) := by
  fun_induction unfoldApplied callee args with
  | case1 i callee bound args ih =>
    rw [Value.renamed_applied, unfoldApplied]
    rw [show bound.map (Value.renamed ρ) ++ rename ρ args = rename ρ (bound ++ args) from
      List.map_append.symm]
    exact ih
  | case2 v args hv =>
    cases v with
    | applied i callee bound => exact absurd rfl (hv i callee bound)
    | _ => rfl

theorem sound_unfoldApplied {size : Nat} {callee : Value} {args : List Value}
    (hcallee : callee.Sound size) (hargs : Sound size args) :
    (unfoldApplied callee args).1.Sound size ∧ Sound size (unfoldApplied callee args).2 := by
  fun_induction unfoldApplied callee args with
  | case1 i callee bound args ih =>
    obtain ⟨-, hcallee, hbound⟩ := Value.sound_applied.1 hcallee
    refine ih hcallee fun v hv => ?_
    rcases List.mem_append.1 hv with hv | hv
    · exact hbound v hv
    · exact hargs v hv
  | case2 => exact ⟨hcallee, hargs⟩

theorem mirrors_callPlain (hcall : Equivariant ρ base call) (h : Alike ρ base s s')
    (callee : Value) {args : List Value} (hargs : Sound s.cells.size args) :
    Mirrors ρ base s s' (callPlain ctx call callee args offset)
      (callPlain ctx call (callee.renamed ρ) (rename ρ args) offset) := by
  cases callee with
  | closure i f => exact mirrors_callClosure hcall h f hargs
  | builtin i b => exact mirrors_callBuiltin hcall h b hargs
  | _ => exact mirrors_fail h _

/-- Calls do not look at numbers, however deep they may nest. -/
theorem equivariant_callValue (ρ : Renaming) (base : Session) (ctx : Context) (bound : Nat) :
    Equivariant ρ base (callValue ctx bound) := by
  induction bound with
  | zero => exact fun _ _ _ _ _ h _ _ => .error h le_rfl
  | succ bound ih =>
    intro s s' f args offset h hf hargs
    have hsound := (sound_unfoldApplied hf hargs).2
    unfold callValue
    rw [unfoldApplied_renamed]
    exact mirrors_callPlain ih h _ hsound

/-- An expression at the root of a session, with calls up to any depth. -/
theorem mirrors_evalCalls (h : Alike ρ base s s') (ctx : Context) (bound : Nat) (e : Expr) :
    Mirrors ρ base s s' (evalExpr ctx (callValue ctx bound) s.root e)
      (evalExpr ctx (callValue ctx bound) s'.root e) := by
  rw [h.embeds.root_eq]
  exact mirrors_evalExpr (equivariant_callValue ρ base ctx bound) h s.root e

end

end Reckoner
