import Reckoner.Proofs.Calls.Approximation

/-!
# Evaluation with callers that approximate each other

What calls back through one caller approximates what calls back through
another, if that caller is approximated at the same depth.  Only the body of a
function from a source is evaluated at another depth, one more.

* The functions on arrays go through a list of items; their lemmas are by
  induction on it, for any index and any accumulated result.
* `approximates_callBuiltin`: a built-in function.
* `approximates_evalExpr`: an expression, by induction on it.
* `approximates_callClosure`: a function from a source.
-/

namespace Reckoner.Eval

open Discipline

variable {Cut : Stop → Prop} {s : Session} {d offset : Nat} {ctx : Context} {call₁ call₂ : Caller}

/-! ## Reads and new cells -/

theorem approximates_isTrue (v : Value) : Approximates Cut s (isTrue v) (isTrue v) :=
  approximates_get.bind fun _ _ _ => approximates_pure _

theorem approximates_textOf (v : Value) : Approximates Cut s (textOf v) (textOf v) :=
  approximates_get.bind fun _ _ _ => approximates_pure _

theorem approximates_newArray (items : Array Value) :
    Approximates Cut s (newArray items) (newArray items) :=
  approximates_of_keeps none (keeps_newArray depthKept_lawful trivial fun _ _ => trivial)

theorem approximates_newObject (entries : Entries Value) :
    Approximates Cut s (newObject entries) (newObject entries) :=
  approximates_of_keeps none (Q := fun _ _ => True)
    (.ok ⟨trivial, tracks_depth.newCell s (.object entries)⟩ trivial)

theorem approximates_itemsOf (v : Value) :
    Approximates Cut s (itemsOf v offset) (itemsOf v offset) :=
  approximates_of_keeps none (keeps_itemsOf depthKept_lawful trivial trivial trivial)

theorem approximates_functionAndItems (xs f : Value) :
    Approximates Cut s (functionAndItems xs f offset) (functionAndItems xs f offset) :=
  approximates_of_keeps none
    (keeps_functionAndItems depthKept_lawful trivial trivial trivial trivial)

/-! ## Callbacks on each item -/

section

variable (hcall : ApproximatesAt Cut d call₁ call₂)

include hcall

theorem approximates_callIndexed (hd : s.depth = d) (f item : Value) (index : Nat) :
    Approximates Cut s (callIndexed call₁ f item index offset)
      (callIndexed call₂ f item index offset) := by
  unfold callIndexed
  split
  · exact hcall hd
  · exact hcall hd

theorem approximates_testIndexed (hd : s.depth = d) (f item : Value) (index : Nat) :
    Approximates Cut s (testIndexed call₁ f item index offset)
      (testIndexed call₂ f item index offset) :=
  (approximates_callIndexed hcall hd f item index).bind fun v _ _ => approximates_isTrue v

theorem approximates_mapFrom (hd : s.depth = d) (f : Value) (index : Nat) (done : Array Value)
    (items : List Value) :
    Approximates Cut s (mapFrom call₁ f offset index done items)
      (mapFrom call₂ f offset index done items) := by
  induction items generalizing index done s with
  | nil => exact approximates_pure done
  | cons item rest ih =>
    refine (approximates_callIndexed hcall hd f item index).bind fun v t ht => ?_
    exact ih (ht.trans hd) (index + 1) (done.push v)

theorem approximates_map (hd : s.depth = d) (xs f : Value) :
    Approximates Cut s (map call₁ xs f offset) (map call₂ xs f offset) := by
  refine (approximates_functionAndItems xs f).bind fun p t ht => ?_
  refine (approximates_mapFrom hcall (ht.trans hd) p.1 0 #[] p.2).bind fun vs u _ => ?_
  exact approximates_newArray vs

theorem approximates_filterFrom (hd : s.depth = d) (f : Value) (index : Nat)
    (kept : Array Value) (items : List Value) :
    Approximates Cut s (filterFrom call₁ f offset index kept items)
      (filterFrom call₂ f offset index kept items) := by
  induction items generalizing index kept s with
  | nil => exact approximates_pure kept
  | cons item rest ih =>
    refine (approximates_testIndexed hcall hd f item index).bind fun holds t ht => ?_
    exact ih (ht.trans hd) (index + 1) (if holds then kept.push item else kept)

theorem approximates_filter (hd : s.depth = d) (xs f : Value) :
    Approximates Cut s (filter call₁ xs f offset) (filter call₂ xs f offset) := by
  refine (approximates_functionAndItems xs f).bind fun p t ht => ?_
  refine (approximates_filterFrom hcall (ht.trans hd) p.1 0 #[] p.2).bind fun vs u _ => ?_
  exact approximates_newArray vs

theorem approximates_fold (hd : s.depth = d) (f acc : Value) (items : List Value) :
    Approximates Cut s (items.foldlM (fun acc item => call₁ f [acc, item] offset) acc)
      (items.foldlM (fun acc item => call₂ f [acc, item] offset) acc) := by
  induction items generalizing acc s with
  | nil => exact approximates_pure acc
  | cons item rest ih =>
    rw [List.foldlM_cons, List.foldlM_cons]
    exact Approximates.bind (hcall hd) fun v t ht => ih (ht.trans hd) v

theorem approximates_reduce (hd : s.depth = d) (xs f : Value) (start : Option Value) :
    Approximates Cut s (reduce call₁ xs f start offset) (reduce call₂ xs f start offset) := by
  refine (approximates_functionAndItems xs f).bind fun p t ht => ?_
  replace ht := ht.trans hd
  rcases p with ⟨f, items⟩
  cases start with
  | some start => exact approximates_fold hcall ht f start items
  | none =>
    cases items with
    | nil => exact approximates_fail offset _
    | cons first rest => exact approximates_fold hcall ht f first rest

theorem approximates_findFrom (hd : s.depth = d) (f : Value) (wanted : Bool) (index : Nat)
    (items : List Value) :
    Approximates Cut s (findFrom call₁ f wanted offset index items)
      (findFrom call₂ f wanted offset index items) := by
  induction items generalizing index s with
  | nil => exact approximates_pure none
  | cons item rest ih =>
    refine (approximates_testIndexed hcall hd f item index).bind fun holds t ht => ?_
    split
    · exact approximates_pure (some item)
    · exact ih (ht.trans hd) (index + 1)

/-- The functions that look for an item, whatever they make of it. -/
theorem approximates_search {β : Type} (hd : s.depth = d) (xs f : Value) (wanted : Bool)
    (g : Option Value → β) :
    Approximates Cut s
      (functionAndItems xs f offset >>= fun p =>
        findFrom call₁ p.1 wanted offset 0 p.2 >>= fun v? => pure (g v?))
      (functionAndItems xs f offset >>= fun p =>
        findFrom call₂ p.1 wanted offset 0 p.2 >>= fun v? => pure (g v?)) := by
  refine (approximates_functionAndItems xs f).bind fun p t ht => ?_
  refine (approximates_findFrom hcall (ht.trans hd) p.1 wanted 0 p.2).bind fun v? u _ => ?_
  exact approximates_pure (g v?)

theorem approximates_count (hd : s.depth = d) (xs : Value) (f : Option Value) :
    Approximates Cut s (count call₁ xs f offset) (count call₂ xs f offset) := by
  refine (approximates_itemsOf xs).bind fun items t ht => ?_
  cases f with
  | none => exact approximates_pure _
  | some f =>
    refine (approximates_lift (f.asCallable offset)).bind fun f u hu => ?_
    refine (approximates_filterFrom hcall (hu.trans (ht.trans hd)) f 0 #[] items.toList).bind
      fun vs _ _ => ?_
    exact approximates_pure _

/-! ## Groups -/

theorem approximates_groupFrom (hd : s.depth = d) (f : Value) (index : Nat)
    (groups : Entries (Array Value)) (items : List Value) :
    Approximates Cut s (groupFrom call₁ f offset index groups items)
      (groupFrom call₂ f offset index groups items) := by
  induction items generalizing index groups s with
  | nil => exact approximates_pure groups
  | cons item rest ih =>
    refine (approximates_callIndexed hcall hd f item index).bind fun key t ht => ?_
    split
    · exact approximates_fail offset _
    · refine (approximates_textOf _).bind fun k u hu => ?_
      exact ih (hu.trans (ht.trans hd)) (index + 1) (addToGroup groups k item)

theorem approximates_groupBy (hd : s.depth = d) (xs f : Value) :
    Approximates Cut s (groupBy call₁ xs f offset) (groupBy call₂ xs f offset) := by
  refine (approximates_functionAndItems xs f).bind fun p t ht => ?_
  refine (approximates_groupFrom hcall (ht.trans hd) p.1 0 [] p.2).bind fun groups u _ => ?_
  refine Approximates.bind ?_ fun entries _ _ => approximates_newObject entries
  exact approximates_of_keeps none
    (keeps_groupArrays depthKept_lawful trivial fun _ _ _ _ => trivial)

end

/-! ## Sorting -/

section

variable {cmp₁ cmp₂ : Value → Value → EvalM Ordering}
  (hcmp : ∀ {t : Session} {x y : Value}, t.depth = d → Approximates Cut t (cmp₁ x y) (cmp₂ x y))

include hcmp

theorem approximates_mergeFrom (rounds : Nat) (hd : s.depth = d) (done left right : List Value) :
    Approximates Cut s (mergeFrom cmp₁ rounds done left right)
      (mergeFrom cmp₂ rounds done left right) := by
  induction rounds generalizing s done left right with
  | zero =>
    unfold mergeFrom
    exact approximates_pure _
  | succ rounds ih =>
    cases left with
    | nil =>
      unfold mergeFrom
      exact approximates_pure _
    | cons x left =>
      cases right with
      | nil =>
        unfold mergeFrom
        exact approximates_pure _
      | cons y right =>
        refine (hcmp hd).bind fun order t ht => ?_
        split
        · exact ih (ht.trans hd) (y :: done) (x :: left) right
        · exact ih (ht.trans hd) (x :: done) left (y :: right)

theorem approximates_mergeSortTo (rounds : Nat) (hd : s.depth = d) (items : List Value) :
    Approximates Cut s (mergeSortTo cmp₁ rounds items) (mergeSortTo cmp₂ rounds items) := by
  induction rounds generalizing s items with
  | zero => exact approximates_pure items
  | succ rounds ih =>
    unfold mergeSortTo
    split
    · exact approximates_pure items
    · refine (ih hd _).bind fun left t ht => ?_
      refine (ih (ht.trans hd) _).bind fun right u hu => ?_
      exact approximates_mergeFrom hcmp _ (hu.trans (ht.trans hd)) [] left right

end

theorem approximates_sort (hcall : ApproximatesAt Cut d call₁ call₂) (hd : s.depth = d) (xs : Value)
    (f : Option Value) :
    Approximates Cut s (sort ctx call₁ xs f offset) (sort ctx call₂ xs f offset) := by
  refine (approximates_itemsOf xs).bind fun items t ht => ?_
  have hsorted {u : Session} (hu : u.depth = d) {cmp₁ cmp₂ : Value → Value → EvalM Ordering}
      (hcmp : ∀ {w : Session} {x y : Value}, w.depth = d →
        Approximates Cut w (cmp₁ x y) (cmp₂ x y)) :
      Approximates Cut u (mergeSort cmp₁ items.toList >>= newList)
        (mergeSort cmp₂ items.toList >>= newList) :=
    (approximates_mergeSortTo hcmp _ hu items.toList).bind fun vs _ _ => approximates_newArray _
  cases f with
  | none => exact hsorted (ht.trans hd) fun _ => approximates_lift _
  | some f =>
    refine (approximates_lift (f.asCallable offset)).bind fun f u hu => ?_
    replace hu := hu.trans (ht.trans hd)
    have horder {w : Session} {x y : Value} (hw : w.depth = d) :
        Approximates Cut w (orderBy call₁ f offset x y) (orderBy call₂ f offset x y) :=
      Approximates.bind (hcall hw) fun v _ _ =>
        (approximates_lift (v.asNumber offset)).bind fun n _ _ => approximates_pure _
    split
    · exact hsorted hu horder
    · exact hsorted hu horder
    · exact approximates_fail offset _

/-! ## Built-in functions -/

theorem approximates_withTwo {b : Builtin} {args : List Value}
    {f₁ f₂ : Value → Value → EvalM Value}
    (h : ∀ x y, Approximates Cut s (f₁ x y) (f₂ x y)) :
    Approximates Cut s (withTwo b args offset f₁) (withTwo b args offset f₂) := by
  unfold withTwo
  split
  · exact h _ _
  · exact approximates_fail offset _

theorem approximates_withOneOrTwo {b : Builtin} {args : List Value}
    {f₁ f₂ : Value → Option Value → EvalM Value}
    (h : ∀ x y?, Approximates Cut s (f₁ x y?) (f₂ x y?)) :
    Approximates Cut s (withOneOrTwo b args offset f₁) (withOneOrTwo b args offset f₂) := by
  unfold withOneOrTwo
  split
  · exact h _ none
  · exact h _ (some _)
  · exact approximates_fail offset _

theorem approximates_withTwoOrThree {b : Builtin} {args : List Value}
    {f₁ f₂ : Value → Value → Option Value → EvalM Value}
    (h : ∀ x y z?, Approximates Cut s (f₁ x y z?) (f₂ x y z?)) :
    Approximates Cut s (withTwoOrThree b args offset f₁) (withTwoOrThree b args offset f₂) := by
  unfold withTwoOrThree
  split
  · exact h _ _ none
  · exact h _ _ (some _)
  · exact approximates_fail offset _

theorem approximates_runBuiltin (hcall : ApproximatesAt Cut d call₁ call₂) (hd : s.depth = d)
    (b : Builtin) (args : List Value) :
    Approximates Cut s (runBuiltin ctx call₁ b args offset)
      (runBuiltin ctx call₂ b args offset) := by
  -- what is left of a function if no call succeeds is the same for both callers
  let never : Caller := fun _ _ _ => throw .exhausted
  have hnever : depthKept.Calls never :=
    fun hs _ _ _ => .error (depthKept_lawful.refl hs) trivial
  have hself : Approximates Cut s (runBuiltin ctx never b args offset)
      (runBuiltin ctx never b args offset) :=
    approximates_of_keeps none
      (keeps_runBuiltin depthKept_lawful hnever trivial trivial trivial fun _ _ => trivial)
  cases b with
  | map => exact approximates_withTwo (approximates_map hcall hd)
  | filter => exact approximates_withTwo (approximates_filter hcall hd)
  | reduce => exact approximates_withTwoOrThree (approximates_reduce hcall hd)
  | sort => exact approximates_withOneOrTwo (approximates_sort hcall hd)
  | groupBy => exact approximates_withTwo (approximates_groupBy hcall hd)
  | find => exact approximates_withTwo fun xs f => approximates_search hcall hd xs f true _
  | every => exact approximates_withTwo fun xs f => approximates_search hcall hd xs f false _
  | any => exact approximates_withTwo fun xs f => approximates_search hcall hd xs f true _
  | count => exact approximates_withOneOrTwo (approximates_count hcall hd)
  | _ => exact hself

theorem approximates_callBuiltin (hcall : ApproximatesAt Cut d call₁ call₂) (hd : s.depth = d)
    (b : Builtin) (args : List Value) :
    Approximates Cut s (callBuiltin ctx call₁ b args offset)
      (callBuiltin ctx call₂ b args offset) := by
  unfold callBuiltin
  split
  · exact approximates_runBuiltin hcall hd b args
  · exact approximates_fail offset _

/-! ## Expressions -/

theorem approximates_callCallee (hcall : ApproximatesAt Cut d call₁ call₂) (hd : s.depth = d)
    (callee : Callee) (args : List Value) :
    Approximates Cut s (callCallee ctx call₁ callee args offset)
      (callCallee ctx call₂ callee args offset) := by
  cases callee with
  | value v => exact hcall hd
  | builtin b => exact approximates_callBuiltin hcall hd b args

mutual

theorem approximates_evalExpr {s : Session} (hcall : ApproximatesAt Cut d call₁ call₂)
    (hd : s.depth = d) (scope : Nat) (e : Expr) :
    Approximates Cut s (evalExpr ctx call₁ scope e) (evalExpr ctx call₂ scope e) := by
  cases e with
  | number value units offset => exact approximates_lift _
  | string parts offset =>
    exact (approximates_evalParts hcall hd scope "" parts).bind fun _ _ _ => approximates_pure _
  | constant c offset => exact approximates_get.bind fun _ _ _ => approximates_pure _
  | name text offset =>
    exact approximates_of_keeps none (keeps_nameValue depthKept_lawful trivial scope trivial)
  | unary op operand offset =>
    refine (approximates_evalExpr hcall hd scope operand).bind fun v t _ => ?_
    exact approximates_get.bind fun _ _ _ => approximates_lift _
  | binary op left right offset =>
    refine (approximates_evalExpr hcall hd scope left).bind fun l t ht => ?_
    refine (approximates_evalExpr hcall (ht.trans hd) scope right).bind fun r u _ => ?_
    exact approximates_of_keeps none
      (keeps_binary depthKept_lawful trivial trivial op trivial trivial)
  | logical op left right offset =>
    refine (approximates_evalExpr hcall hd scope left).bind fun l t ht => ?_
    refine (approximates_isTrue l).bind fun holds u hu => ?_
    split
    · exact approximates_pure _
    · exact approximates_pure _
    · refine (approximates_evalExpr hcall (hu.trans (ht.trans hd)) scope right).bind
        fun r w _ => ?_
      exact (approximates_isTrue r).bind fun _ _ _ => approximates_pure _
  | compare op left right offset =>
    refine (approximates_evalExpr hcall hd scope left).bind fun l t ht => ?_
    refine (approximates_evalExpr hcall (ht.trans hd) scope right).bind fun r u _ => ?_
    exact approximates_of_keeps none
      (keeps_comparison depthKept_lawful trivial trivial op trivial trivial)
  | conditional condition yes no offset =>
    refine (approximates_evalExpr hcall hd scope condition).bind fun c t ht => ?_
    refine (approximates_isTrue c).bind fun holds u hu => ?_
    replace hu := hu.trans (ht.trans hd)
    split
    · exact approximates_evalExpr hcall hu scope yes
    · exact approximates_evalExpr hcall hu scope no
  | isKind operand kind offset =>
    exact (approximates_evalExpr hcall hd scope operand).bind fun _ _ _ => approximates_pure _
  | cast operand kind offset =>
    refine (approximates_evalExpr hcall hd scope operand).bind fun v t _ => ?_
    exact approximates_of_keeps none (keeps_cast depthKept_lawful trivial trivial trivial kind)
  | convertUnits operand units offset =>
    exact (approximates_evalExpr hcall hd scope operand).bind fun _ _ _ => approximates_lift _
  | convertZone operand zone offset =>
    exact (approximates_evalExpr hcall hd scope operand).bind fun _ _ _ => approximates_lift _
  | call name args offset =>
    refine approximates_get.bind fun _ t ht => ?_
    refine (approximates_lift _).bind fun callee u hu => ?_
    replace hu := hu.trans (ht.trans hd)
    refine (approximates_evalList hcall hu scope #[] args).bind fun vs w hw => ?_
    exact approximates_callCallee hcall (hw.trans hu) callee vs.toList
  | apply callee args offset =>
    refine (approximates_evalExpr hcall hd scope callee).bind fun f t ht => ?_
    refine (approximates_evalList hcall (ht.trans hd) scope #[] args).bind fun vs u hu => ?_
    exact hcall (hu.trans (ht.trans hd))
  | access container key offset =>
    refine (approximates_evalExpr hcall hd scope container).bind fun v t ht => ?_
    refine (approximates_evalExpr hcall (ht.trans hd) scope key).bind fun k u _ => ?_
    exact approximates_get.bind fun _ _ _ => approximates_lift _
  | assign name value compound offset =>
    refine (approximates_evalExpr hcall hd scope value).bind fun v t _ => ?_
    exact approximates_of_keeps (some scope)
      (keeps_assign depthKept_lawful trivial
        (fun _ _ => ⟨trivial, Session.depth_copyTo _ _ _⟩) trivial compound trivial)
  | aggregate kind target offset => exact approximates_lift _
  | day spec zone offset => exact approximates_lift _
  | time hour minute zone offset => exact approximates_lift _
  | moment spec zone offset => exact approximates_lift _
  | dateShift date op amount unit offset =>
    refine (approximates_evalExpr hcall hd scope date).bind fun l t ht => ?_
    refine (approximates_evalExpr hcall (ht.trans hd) scope amount).bind fun r u _ => ?_
    exact approximates_lift _
  | array elements offset =>
    exact (approximates_evalList hcall hd scope #[] elements).bind fun vs _ _ =>
      approximates_newArray vs
  | object entries offset =>
    exact (approximates_evalEntries hcall hd scope [] entries).bind fun es _ _ =>
      approximates_newObject es
  | lambda name params body offset =>
    exact approximates_of_keeps none (keeps_newClosure depthKept_lawful trivial scope name params
      (Expr.every_of_forall (fun _ => trivial) body))

theorem approximates_evalList {s : Session} (hcall : ApproximatesAt Cut d call₁ call₂)
    (hd : s.depth = d) (scope : Nat) (done : Array Value) (es : List Expr) :
    Approximates Cut s (evalList ctx call₁ scope done es) (evalList ctx call₂ scope done es) := by
  cases es with
  | nil => exact approximates_pure done
  | cons e rest =>
    refine (approximates_evalExpr hcall hd scope e).bind fun v t ht => ?_
    exact approximates_evalList hcall (ht.trans hd) scope (done.push v) rest

theorem approximates_evalEntries {s : Session} (hcall : ApproximatesAt Cut d call₁ call₂)
    (hd : s.depth = d) (scope : Nat) (done : Entries Value) (entries : List (String × Expr)) :
    Approximates Cut s (evalEntries ctx call₁ scope done entries)
      (evalEntries ctx call₂ scope done entries) := by
  cases entries with
  | nil => exact approximates_pure done
  | cons entry rest =>
    rcases entry with ⟨key, e⟩
    refine (approximates_evalExpr hcall hd scope e).bind fun v t ht => ?_
    exact approximates_evalEntries hcall (ht.trans hd) scope (done.insert key v) rest

theorem approximates_evalParts {s : Session} (hcall : ApproximatesAt Cut d call₁ call₂)
    (hd : s.depth = d) (scope : Nat) (done : String) (parts : List (Part Expr)) :
    Approximates Cut s (evalParts ctx call₁ scope done parts)
      (evalParts ctx call₂ scope done parts) := by
  cases parts with
  | nil => exact approximates_pure done
  | cons part rest =>
    cases part with
    | text t => exact approximates_evalParts hcall hd scope (done ++ t) rest
    | code e =>
      refine (approximates_evalExpr hcall hd scope e).bind fun v t ht => ?_
      refine (approximates_textOf v).bind fun text u hu => ?_
      exact approximates_evalParts hcall (hu.trans (ht.trans hd)) scope (done ++ text) rest

end

/-! ## Functions from sources -/

theorem approximates_runClosure {body₁ body₂ : Nat → EvalM Value} {f : Closure}
    {args : List Value} (hd : s.depth = d)
    (hbody : ∀ around, d < maxDepth → Approximates Cut (s.entered around) (body₁ s.scopes.size)
      (body₂ s.scopes.size)) :
    Approximates Cut s (runClosure body₁ f args offset) (runClosure body₂ f args offset) := by
  unfold Approximates
  by_cases harity : args.length = f.params.length
  · rcases Nat.lt_or_ge s.depth maxDepth with hdepth | hfull
    · rw [runClosure_of_lt harity hdepth, runClosure_of_lt harity hdepth]
      have hbody := hbody (closureScope s f args) (hd ▸ hdepth)
      unfold Approximates at hbody
      generalize body₁ s.scopes.size _ = r₁ at hbody ⊢
      generalize body₂ s.scopes.size _ = r₂ at hbody ⊢
      cases hbody with
      | cut h => exact .cut h
      | ok h => exact .ok (congrArg (· - 1) h)
      | error => exact .error
    · rw [runClosure_of_full harity hfull, runClosure_of_full harity hfull]
      exact .error
  · rw [runClosure_of_ne harity, runClosure_of_ne harity]
    exact .error

/-- The body of a function is one call deeper, and calls from no deeper than
that. -/
theorem approximates_callClosure (hcall : d < maxDepth → ApproximatesAt Cut (d + 1) call₁ call₂)
    (hd : s.depth = d) (f : Closure) (args : List Value) :
    Approximates Cut s (callClosure ctx call₁ f args offset)
      (callClosure ctx call₂ f args offset) := by
  rw [callClosure_eq, callClosure_eq]
  exact approximates_runClosure hd fun around hdepth =>
    approximates_evalExpr (hcall hdepth) (congrArg (· + 1) hd) s.scopes.size f.body

end Reckoner.Eval
