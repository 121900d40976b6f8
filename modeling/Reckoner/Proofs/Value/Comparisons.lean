import Reckoner.Proofs.Decimal.Order
import Reckoner.Proofs.Discipline.Evaluate
import Reckoner.Proofs.Value.Keys
import Reckoner.Proofs.Value.Sorting

/-!
# The comparisons that sorting makes

Which items sorting compares depends on the answers it has had so far and on
nothing else.  A `Plan` is such a course of comparisons, and sorting is a run of
one (`run_mergeSort`): the sort is the same program in every monad, and with
`Plan.compare` for the comparison it is its own plan.

* `Plan.All` says what holds of all results and of all comparisons of a plan,
  whatever the answers are.  `all_mergeSort` says that sorting only ever gives the
  items in another order, and compares items only.
* `Plan.Asks` are the comparisons that a run comes to, each with the session that
  it finds.  A run fails exactly if one of these fails (`run_error_iff`), and one in
  which each of these answers as `c` does comes to the same as a run of `c` itself
  (`run_of_answers`), whatever the comparisons do to the session.
* `Asks.holds`: what every comparison leaves true is true at every comparison.
* `sorts_stably` puts these together with the order of the result.
-/

namespace Reckoner.Eval

/-- A course of comparisons, each with what follows for each of its answers. -/
inductive Plan (α : Type) (β : Type) where
  | done (b : β)
  | ask (x y : α) (next : Ordering → Plan α β)

namespace Plan

variable {α β γ : Type}

/-- One plan after the other. -/
def bind : Plan α β → (β → Plan α γ) → Plan α γ
  | done b, f => f b
  | ask x y next, f => ask x y fun o => (next o).bind f

instance : Monad (Plan α) where
  pure := done
  bind := bind

/-- A single comparison. -/
def compare (x y : α) : Plan α Ordering := ask x y done

/-- A plan carried out with a comparison. -/
def run {m : Type → Type} [Monad m] (cmp : α → α → m Ordering) : Plan α β → m β
  | done b => pure b
  | ask x y next => do
    let o ← cmp x y
    (next o).run cmp

/-- All results have the property `P` and all comparisons the property `Q`. -/
def All (Q : α → α → Prop) (P : β → Prop) : Plan α β → Prop
  | done b => P b
  | ask x y next => Q x y ∧ ∀ o, (next o).All Q P

/-- The comparisons that a run from a session comes to, each with the session it finds. -/
inductive Asks (cmp : α → α → EvalM Ordering) :
    Plan α β → Session → α → α → Session → Prop where
  | here {x y : α} {next : Ordering → Plan α β} {s : Session} : Asks cmp (ask x y next) s x y s
  | later {x y x' y' : α} {next : Ordering → Plan α β} {s s' t : Session} {o : Ordering}
      (h : cmp x y s = .ok o s') (hnext : Asks cmp (next o) s' x' y' t) :
      Asks cmp (ask x y next) s x' y' t

/-! ## Runs -/

section

variable {m : Type → Type} [Monad m] [LawfulMonad m] (cmp : α → α → m Ordering)

theorem run_bind (p : Plan α β) (f : β → Plan α γ) :
    (p >>= f).run cmp = p.run cmp >>= fun b => (f b).run cmp := by
  induction p with
  | done b => exact (pure_bind b fun b => (f b).run cmp).symm
  | ask x y next ih =>
    show (do let o ← cmp x y; ((next o) >>= f).run cmp) = _
    rw [run, bind_assoc]
    exact bind_congr ih

theorem run_compare (x y : α) : (compare x y).run cmp = cmp x y := bind_pure _

theorem run_mergeFrom (rounds : Nat) (front left right : List α) :
    (mergeFrom compare rounds front left right).run cmp =
      mergeFrom cmp rounds front left right := by
  induction rounds generalizing front left right with
  | zero => rfl
  | succ rounds ih =>
    match left, right with
    | [], _ => rfl
    | _ :: _, [] => rfl
    | x :: left, y :: right =>
      rw [mergeFrom, mergeFrom, run_bind, run_compare]
      refine bind_congr fun o => ?_
      cases o
      · exact ih _ _ _
      · exact ih _ _ _
      · exact ih _ _ _

theorem run_mergeSortTo (rounds : Nat) (xs : List α) :
    (mergeSortTo compare rounds xs).run cmp = mergeSortTo cmp rounds xs := by
  induction rounds generalizing xs with
  | zero => rfl
  | succ rounds ih =>
    rw [mergeSortTo, mergeSortTo]
    split
    · rfl
    · rw [run_bind, ih]
      refine bind_congr fun left => ?_
      rw [run_bind, ih]
      exact bind_congr fun right => run_mergeFrom cmp _ _ _ _

/-- Sorting carries out its plan. -/
theorem run_mergeSort (xs : List α) : (mergeSort compare xs).run cmp = mergeSort cmp xs :=
  run_mergeSortTo cmp _ xs

end

/-! ## All courses -/

section

variable {Q : α → α → Prop} {P : β → Prop} {P' : γ → Prop}

theorem All.bind {p : Plan α β} {f : β → Plan α γ} (hp : p.All Q P)
    (hf : ∀ b, P b → (f b).All Q P') : (p >>= f).All Q P' := by
  induction p with
  | done b => exact hf b hp
  | ask x y next ih => exact ⟨hp.1, fun o => ih o (hp.2 o)⟩

/-- A merge gives the items of both lists and those that are merged already. -/
theorem all_mergeFrom {S : α → Prop} (rounds : Nat) {front left right xs : List α}
    (hleft : ∀ x ∈ left, S x) (hright : ∀ y ∈ right, S y)
    (hperm : (front ++ (left ++ right)).Perm xs) :
    (mergeFrom compare rounds front left right).All (fun x y => S x ∧ S y) (·.Perm xs) := by
  have hdone {front left right : List α} (h : (front ++ (left ++ right)).Perm xs) :
      (front.reverse ++ left ++ right).Perm xs := by
    rw [List.append_assoc]
    exact ((List.reverse_perm front).append_right _).trans h
  induction rounds generalizing front left right with
  | zero => exact hdone hperm
  | succ rounds ih =>
    match left, right with
    | [], _ => exact hdone hperm
    | _ :: _, [] => exact hdone hperm
    | x :: left, y :: right =>
      have htakeLeft : (x :: front ++ (left ++ y :: right)).Perm xs :=
        List.perm_middle.symm.trans hperm
      have htakeRight : (y :: front ++ (x :: left ++ right)).Perm xs := by
        have hmiddle : (y :: (front ++ x :: left ++ right)).Perm (front ++ x :: left ++ y :: right) :=
          List.perm_middle.symm
        rw [List.append_assoc, List.append_assoc] at hmiddle
        exact hmiddle.trans hperm
      have hfromLeft := ih (fun z hz => hleft z (List.mem_cons_of_mem _ hz)) hright htakeLeft
      have hfromRight := ih hleft (fun z hz => hright z (List.mem_cons_of_mem _ hz)) htakeRight
      refine ⟨⟨hleft x List.mem_cons_self, hright y List.mem_cons_self⟩, fun o => ?_⟩
      cases o
      · exact hfromLeft
      · exact hfromLeft
      · exact hfromRight

theorem all_mergeSortTo {S : α → Prop} (rounds : Nat) {xs : List α} (hxs : ∀ x ∈ xs, S x) :
    (mergeSortTo compare rounds xs).All (fun x y => S x ∧ S y) (·.Perm xs) := by
  induction rounds generalizing xs with
  | zero => exact .refl xs
  | succ rounds ih =>
    rw [mergeSortTo]
    split
    · exact .refl xs
    · refine (ih fun x hx => hxs x (List.mem_of_mem_take hx)).bind fun left hleft => ?_
      refine (ih fun x hx => hxs x (List.mem_of_mem_drop hx)).bind fun right hright => ?_
      have hperm := hleft.append hright
      rw [List.take_append_drop] at hperm
      exact all_mergeFrom _ (fun x hx => hxs x (List.mem_of_mem_take (hleft.mem_iff.1 hx)))
        (fun y hy => hxs y (List.mem_of_mem_drop (hright.mem_iff.1 hy))) hperm

/-- Whatever the answers are, sorting compares items and gives all of them. -/
theorem all_mergeSort (xs : List α) :
    (mergeSort compare xs).All (fun x y => x ∈ xs ∧ y ∈ xs) (·.Perm xs) :=
  all_mergeSortTo _ fun _ hx => hx

/-! ## Runs from a session -/

variable {cmp : α → α → EvalM Ordering} {p : Plan α β} {s t : Session}

theorem All.of_run (hp : p.All Q P) {b : β} (h : p.run cmp s = .ok b t) : P b := by
  induction p generalizing s with
  | done b' =>
    cases h
    exact hp
  | ask x y next ih =>
    cases ho : cmp x y s with
    | ok o s' => exact ih o (hp.2 o) (by rwa [run, bind_of_ok ho] at h)
    | error e s' => rw [run, bind_of_error ho] at h; cases h

theorem All.of_asks (hp : p.All Q P) {x y : α} (h : p.Asks cmp s x y t) : Q x y := by
  induction h with
  | here => exact hp.1
  | later _ _ ih => exact ih (hp.2 _)

/-- A run fails if a comparison that it comes to fails, and then with that error. -/
theorem run_error_iff {e : Stop} : p.run cmp s = .error e t ↔
    ∃ x y s', p.Asks cmp s x y s' ∧ cmp x y s' = .error e t := by
  induction p generalizing s with
  | done b =>
    refine iff_of_false (fun h => by cases h) ?_
    rintro ⟨x, y, s', h, -⟩
    cases h
  | ask x y next ih =>
    cases ho : cmp x y s with
    | ok o s' =>
      rw [run, bind_of_ok ho, ih]
      constructor
      · rintro ⟨x', y', s'', hasks, herror⟩
        exact ⟨x', y', s'', .later ho hasks, herror⟩
      · rintro ⟨x', y', s'', hasks, herror⟩
        cases hasks with
        | here =>
          rw [ho] at herror
          cases herror
        | later ho' hnext =>
          cases ho.symm.trans ho'
          exact ⟨x', y', s'', hnext, herror⟩
    | error e' s' =>
      rw [run, bind_of_error ho]
      constructor
      · intro h
        cases h
        exact ⟨x, y, s, .here, ho⟩
      · rintro ⟨x', y', s'', hasks, herror⟩
        cases hasks with
        | here =>
          cases ho.symm.trans herror
          rfl
        | later ho' _ =>
          rw [ho] at ho'
          cases ho'

/-- Comparisons that answer as `c` does give what `c` itself gives, whatever else they do. -/
theorem run_of_answers {c : α → α → Ordering}
    (h : ∀ x y u, p.Asks cmp s x y u → ∃ v, cmp x y u = .ok (c x y) v) :
    ∃ t, p.run cmp s = .ok (Id.run (p.run fun x y => pure (c x y))) t := by
  induction p generalizing s with
  | done b => exact ⟨s, rfl⟩
  | ask x y next ih =>
    obtain ⟨s', ho⟩ := h x y s .here
    obtain ⟨t, ht⟩ := ih (c x y) fun x' y' u hasks => h x' y' u (.later ho hasks)
    exact ⟨t, by rw [run, bind_of_ok ho, ht]; rfl⟩

/-- What every comparison leaves true is true at every comparison. -/
theorem Asks.holds {I : Session → Prop} {x y : α} (hp : p.All Q P) (hs : I s)
    (hstep : ∀ x y u o v, Q x y → I u → cmp x y u = .ok o v → I v) (h : p.Asks cmp s x y t) :
    I t := by
  induction h with
  | here => exact hs
  | later ho _ ih => exact ih (hp.2 _) (hstep _ _ _ _ _ hp.1 hs ho)

end

end Plan

/-! ## Sorting -/

/-- Sorting a list comes to the comparison of `x` and `y`, which finds the session `t`. -/
def Compares (cmp : Value → Value → EvalM Ordering) (xs : List Value) (s : Session) (x y : Value)
    (t : Session) : Prop := (mergeSort Plan.compare xs).Asks cmp s x y t

/-- An order of the members of a list is total and transitive. -/
structure Preorders (c : Value → Value → Ordering) (xs : List Value) : Prop where
  total : ∀ x ∈ xs, ∀ y ∈ xs, c x y ≠ .gt ∨ c y x ≠ .gt
  trans : ∀ x ∈ xs, ∀ y ∈ xs, ∀ z ∈ xs, c x y ≠ .gt → c y z ≠ .gt → c x z ≠ .gt

/-- The sign of the number that a call with two items gives. -/
def signOf (call : Caller) (f : Value) (offset : Nat) (x y : Value) : EvalM Ordering := do
  match ← call f [x, y] offset with
  | .number n => pure (cmp n.toRat 0)
  | v => v.wrongKind "number" offset

theorem signOf_of_ok {call : Caller} {f x y : Value} {offset : Nat} {n : Decimal} {s t : Session}
    (h : call f [x, y] offset s = .ok (.number n) t) :
    signOf call f offset x y s = .ok (cmp n.toRat 0) t := by
  rw [signOf, bind_of_ok h]
  rfl

theorem orderBy_eq_signOf (call : Caller) (f : Value) (offset : Nat) :
    orderBy call f offset = signOf call f offset := by
  funext x y
  unfold orderBy signOf
  refine bind_congr fun v => ?_
  cases v with
  | number n =>
    show (pure (n.compare .zero) : EvalM Ordering) = _
    rw [Decimal.compare_eq_cmp, (Decimal.toRat_eq_zero_iff .zero).2 rfl]
  | _ => rfl

/-- A preorder of the members of a list, extended to all values: the others come first. -/
theorem exists_extension {c : Value → Value → Ordering} {xs : List Value} (hc : Preorders c xs) :
    ∃ le : Value → Value → Bool,
      (∀ x ∈ xs, ∀ y ∈ xs, le x y = (c x y != .gt)) ∧
      (∀ x y z, le x y = true → le y z = true → le x z = true) ∧
      ∀ x y, (le x y || le y x) = true := by
  classical
  refine ⟨fun x y => decide (x ∈ xs → y ∈ xs ∧ c x y ≠ .gt), ?_, ?_, ?_⟩
  · intro x hx y hy
    cases hxy : c x y <;> simp [hx, hy, hxy]
  · intro x y z hxy hyz
    rw [decide_eq_true_iff] at hxy hyz ⊢
    intro hx
    obtain ⟨hy, hxy⟩ := hxy hx
    obtain ⟨hz, hyz⟩ := hyz hy
    exact ⟨hz, hc.trans x hx y hy z hz hxy hyz⟩
  · intro x y
    rw [Bool.or_eq_true, decide_eq_true_iff, decide_eq_true_iff]
    by_cases hx : x ∈ xs
    · by_cases hy : y ∈ xs
      · exact (hc.total x hx y hy).imp (fun h _ => ⟨hy, h⟩) (fun h _ => ⟨hx, h⟩)
      · exact .inr fun h => absurd h hy
    · exact .inl fun h => absurd h hx

/-- A list is the members of another one in order, and those that compare equal in the order they
had. -/
structure SortedStably (c : Value → Value → Ordering) (xs ys : List Value) : Prop where
  perm : ys.Perm xs
  ordered : ys.Pairwise fun x y => c x y ≠ .gt
  stable : ∀ x ∈ xs, ys.filter (fun y => c x y != .gt && c y x != .gt) =
    xs.filter fun y => c x y != .gt && c y x != .gt

/-- A comparison that does nothing but answer, and preorders the members of a list, sorts it. -/
theorem sortedStably_of_preorders {c : Value → Value → Ordering} {xs : List Value}
    (hc : Preorders c xs) :
    SortedStably c xs (Id.run (mergeSort (fun x y => pure (c x y)) xs)) := by
  obtain ⟨le, hle, htrans, htotal⟩ := exists_extension hc
  have hfollows : Follows (fun x y => (pure (c x y) : Id Ordering)) (· ∈ xs) le := by
    intro x y hx hy
    refine ⟨c x y, rfl, ?_⟩
    rw [hle x hx y hy, bne_eq_false_iff_eq]
  obtain ⟨ys, hrun, hperm, hsorted, hstable⟩ :=
    exists_mergeSort_stable hfollows htrans htotal fun x hx => hx
  have htied : ∀ x ∈ xs, ∀ y ∈ xs, tied le x y = (c x y != .gt && c y x != .gt) := by
    intro x hx y hy
    rw [tied, hle x hx y hy, hle y hy x hx]
  rw [hrun]
  refine ⟨hperm, ?_, fun x hx => ?_⟩
  · refine hsorted.imp_of_mem fun {x y} hx hy hxy => ?_
    rw [hle x (hperm.mem_iff.1 hx) y (hperm.mem_iff.1 hy)] at hxy
    simpa using hxy
  · have hys : ys.filter (tied le x) = ys.filter fun y => c x y != .gt && c y x != .gt :=
      List.filter_congr fun y hy => htied x hx y (hperm.mem_iff.1 hy)
    have hxs : xs.filter (tied le x) = xs.filter fun y => c x y != .gt && c y x != .gt :=
      List.filter_congr fun y hy => htied x hx y hy
    show ys.filter _ = _
    rw [← hys, ← hxs, hstable]

/-- A comparison that answers by a preorder wherever sorting comes to it sorts a list, whatever
effects it has. -/
theorem exists_mergeSort_of_preorders {cmp : Value → Value → EvalM Ordering} {xs : List Value}
    {s : Session} {c : Value → Value → Ordering} (hc : Preorders c xs)
    (hcmp : ∀ x y u, Compares cmp xs s x y u → ∃ v, cmp x y u = .ok (c x y) v) :
    ∃ ys t, mergeSort cmp xs s = .ok ys t ∧ SortedStably c xs ys := by
  obtain ⟨t, ht⟩ := Plan.run_of_answers hcmp
  rw [Plan.run_mergeSort, Plan.run_mergeSort] at ht
  exact ⟨_, t, ht, sortedStably_of_preorders hc⟩

/-- Sorting by a function of two parameters is sorting by the sign of what it gives. -/
theorem sort_of_arity_two {ctx : Context} {call : Caller} {f : Value} {a offset : Nat}
    {s : Session} (harity : f.declaredArity? = some 2) :
    sort ctx call (.array a) (some f) offset s =
      (mergeSort (signOf call f offset) (s.items a).toList >>= newList) s := by
  have hcallable : f.asCallable offset = .ok f := by
    have h : f.isCallable = true := by
      cases f with
      | closure i f => rfl
      | applied i callee bound => rfl
      | _ => cases harity
    rw [Value.asCallable, if_pos h]
  have hresolved (k : Value → EvalM Value) : EStateM.bind (liftM (f.asCallable offset)) k s =
      k f s := by
    rw [hcallable]
    rfl
  refine (hresolved _).trans ?_
  rw [harity, orderBy_eq_signOf]
  rfl

/-- Sorting gives the items in another order, or the error of the first comparison that fails,
whatever effects the comparison has and however it answers; one that answers by a preorder of the
items wherever sorting comes to it puts them in order and leaves those that compare equal in
theirs.  With a callback of two parameters the comparison is the sign of its result, and the
items of the new array are in the order of these signs. -/
theorem sorts_stably (order : Value → Value → EvalM Ordering) (xs : List Value) (s : Session) :
    (∀ ys t, mergeSort order xs s = .ok ys t → ys.Perm xs) ∧
    (∀ stop t, mergeSort order xs s = .error stop t ↔
      ∃ x y u, Compares order xs s x y u ∧ order x y u = .error stop t) ∧
    (∀ x y u, Compares order xs s x y u → x ∈ xs ∧ y ∈ xs) ∧
    (∀ c, Preorders c xs →
      (∀ x y u, Compares order xs s x y u → ∃ v, order x y u = .ok (c x y) v) →
      ∃ ys t, mergeSort order xs s = .ok ys t ∧ SortedStably c xs ys) ∧
    ∀ ctx call f a offset, f.declaredArity? = some 2 →
      sort ctx call (.array a) (some f) offset s =
        (mergeSort (signOf call f offset) (s.items a).toList >>= newList) s ∧
      ∀ c, Preorders c (s.items a).toList →
        (∀ x y u, Compares (signOf call f offset) (s.items a).toList s x y u →
          ∃ n v, call f [x, y] offset u = .ok (.number n) v ∧ cmp n.toRat 0 = c x y) →
        ∃ b t, sort ctx call (.array a) (some f) offset s = .ok (.array b) t ∧
          SortedStably c (s.items a).toList (t.items b).toList := by
  have hplan : mergeSort order xs = (mergeSort Plan.compare xs).run order :=
    (Plan.run_mergeSort order xs).symm
  refine ⟨?_, ?_, ?_, ?_, ?_⟩
  · intro ys t h
    rw [hplan] at h
    exact (Plan.all_mergeSort xs).of_run h
  · intro stop t
    rw [hplan]
    exact Plan.run_error_iff
  · intro x y u h
    exact (Plan.all_mergeSort xs).of_asks h
  · intro c hc hcmp
    exact exists_mergeSort_of_preorders hc hcmp
  · intro ctx call f a offset harity
    refine ⟨sort_of_arity_two harity, fun c hc hcall => ?_⟩
    have hsigns : ∀ x y u, Compares (signOf call f offset) (s.items a).toList s x y u →
        ∃ v, signOf call f offset x y u = .ok (c x y) v := by
      intro x y u hasks
      obtain ⟨n, v, hn, hsign⟩ := hcall x y u hasks
      exact ⟨v, by rw [signOf_of_ok hn, hsign]⟩
    obtain ⟨ys, t, hrun, hsorted⟩ := exists_mergeSort_of_preorders hc hsigns
    refine ⟨t.cells.size, t.newCell (.array ys.toArray), ?_, ?_⟩
    · rw [sort_of_arity_two harity, bind_of_ok hrun]
      rfl
    · rw [Session.items_newCell]
      exact hsorted

/-! ## A function that compares last digits -/

/-- The function `(a, b) => a % 10 - b % 10`. -/
def byLastDigit : Closure where
  name := none
  params := ["a", "b"]
  body :=
    .binary .sub (.binary .mod (.name "a" 10) (.number .ten [] 14) 12)
      (.binary .mod (.name "b" 19) (.number .ten [] 23) 21) 17
  scope := none

/-- The last digit of a number. -/
def lastDigit : Value → Nat
  | .number n => n.mantissa % 10
  | _ => 0

/-- The difference of the last digits of two numbers, as decimals have it. -/
def digitDifference? : Value → Value → Option Decimal
  | .number x, .number y => do
    let p ← x.rem? .ten
    let q ← y.rem? .ten
    p.sub? q
  | _, _ => none

/-- A call gives the difference of the digits and leaves the depth of calls as it was.  It does
leave a scope behind. -/
theorem callValue_byLastDigit (ctx : Context) (i offset : Nat) {v w : Value} {d : Decimal}
    {s : Session} (h : digitDifference? v w = some d) (hdepth : s.depth < maxDepth) :
    ∃ t, callValue ctx callBound (.closure i byLastDigit) [v, w] offset s = .ok (.number d) t ∧
      t.depth = s.depth := by
  obtain ⟨x, y, p, q, rfl, rfl, hp, hq, hd⟩ : ∃ x y p q, v = .number x ∧ w = .number y ∧
      x.rem? .ten = some p ∧ y.rem? .ten = some q ∧ p.sub? q = some d := by
    unfold digitDifference? at h
    split at h
    · rename_i x y
      obtain ⟨p, hp, h⟩ := Option.bind_eq_some_iff.1 h
      obtain ⟨q, hq, hd⟩ := Option.bind_eq_some_iff.1 h
      exact ⟨x, y, p, q, rfl, rfl, hp, hq, hd⟩
    · cases h
  have hbound : callBound = 999999999 + 1 := rfl
  let sc := Discipline.closureScope s byLastDigit [.number x, .number y]
  have hbody (call : Caller) : evalExpr ctx call s.scopes.size byLastDigit.body (s.entered sc) =
      .ok (.number d) (s.entered sc) := by
    have hremainder {name : String} {v w : Decimal} {o₁ o₂ o₃ : Nat}
        (hname : sc.bindings.find? name = some (.number v)) (hrem : v.rem? .ten = some w) :
        evalExpr ctx call s.scopes.size
          (.binary .mod (.name name o₁) (.number .ten [] o₂) o₃) (s.entered sc) =
          .ok (.number w) (s.entered sc) := by
      have hv : evalExpr ctx call s.scopes.size (.name name o₁) (s.entered sc) =
          .ok (.number v) (s.entered sc) := by
        rw [evalExpr]
        exact nameValue_of_lookup (Session.lookup_entered hname s) o₁
      have hresult : rem ctx (.number v) (.number .ten) o₃ = .ok (.number w) := by
        show numberOr o₃ (v.rem? .ten) = _
        rw [hrem]
        rfl
      rw [evalExpr, bind_of_ok hv, evalExpr]
      exact lift_run_eq_ok_iff.2 ⟨hresult, rfl⟩
    have hresult : sub ctx (.number p) (.number q) 17 = .ok (.number d) := by
      show numberOr 17 (p.sub? q) = _
      rw [hd]
      rfl
    rw [byLastDigit, evalExpr, bind_of_ok (hremainder rfl hp), bind_of_ok (hremainder rfl hq)]
    exact lift_run_eq_ok_iff.2 ⟨hresult, rfl⟩
  refine ⟨(s.entered sc).left, ?_, Nat.add_sub_cancel _ _⟩
  rw [hbound, callValue, unfoldApplied]
  · show callClosure ctx _ byLastDigit _ offset s = _
    rw [Discipline.callClosure_eq, Discipline.runClosure_of_lt rfl hdepth, hbody]
    rfl
  · simp

theorem sorts_stably_byLastDigit :
    let xs := [12, 3, 22, 13, 1].map Value.ofNat
    let s := Session.empty.newCell (.array xs.toArray)
    let ctx := Context.ofClock ⟨0, 0⟩ (.fixed 0)
    let call := callValue ctx callBound
    let f := Value.closure 0 byLastDigit
    let c := fun x y => compare (lastDigit x) (lastDigit y)
    f.declaredArity? = some 2 ∧ Preorders c xs ∧
      (∀ x y u, Compares (signOf call f 0) xs s x y u →
        ∃ n v, call f [x, y] 0 u = .ok (.number n) v ∧ cmp n.toRat 0 = c x y) ∧
      (∃ ys t, mergeSort (signOf call f 0) xs s = .ok ys t ∧ SortedStably c xs ys) ∧
      ∃ b t, sort ctx call (.array 0) (some f) 0 s = .ok (.array b) t ∧
        SortedStably c xs (t.items b).toList := by
  intro xs s ctx call f c
  have hc : Preorders c xs := by
    refine ⟨fun x _ y _ => ?_, fun x _ y _ z _ hxy hyz => ?_⟩
    · simp only [c, Nat.compare_ne_gt]
      omega
    · simp only [c, Nat.compare_ne_gt] at hxy hyz ⊢
      omega
  have hdigits : ∀ x ∈ xs, ∀ y ∈ xs,
      (digitDifference? x y).map (fun d => cmp d.toRat 0) = some (c x y) := by
    decide +kernel
  have hcalls : ∀ x ∈ xs, ∀ y ∈ xs, ∀ u : Session, u.depth = 0 →
      ∃ n v, call f [x, y] 0 u = .ok (.number n) v ∧ cmp n.toRat 0 = c x y ∧ v.depth = 0 := by
    intro x hx y hy u hu
    obtain ⟨n, hn, hsign⟩ := Option.map_eq_some_iff.1 (hdigits x hx y hy)
    obtain ⟨v, hv, hdepth⟩ := callValue_byLastDigit ctx 0 0 hn (s := u) (by rw [hu]; decide)
    exact ⟨n, v, hv, hsign, hdepth.trans hu⟩
  have hanswers : ∀ x y u, Compares (signOf call f 0) xs s x y u →
      ∃ n v, call f [x, y] 0 u = .ok (.number n) v ∧ cmp n.toRat 0 = c x y := by
    intro x y u hasks
    obtain ⟨hx, hy⟩ := (sorts_stably (signOf call f 0) xs s).2.2.1 x y u hasks
    have hu : u.depth = 0 := by
      refine hasks.holds (I := fun u => u.depth = 0) (Plan.all_mergeSort xs) rfl ?_
      intro x y u o v hmem hu ho
      obtain ⟨n, v', hn, -, hdepth⟩ := hcalls x hmem.1 y hmem.2 u hu
      rw [signOf_of_ok hn] at ho
      cases ho
      exact hdepth
    obtain ⟨n, v, hn, hsign, -⟩ := hcalls x hx y hy u hu
    exact ⟨n, v, hn, hsign⟩
  obtain ⟨-, -, -, hsorts, hsort⟩ := sorts_stably (signOf call f 0) xs s
  refine ⟨rfl, hc, hanswers, hsorts c hc ?_, (hsort ctx call f 0 0 rfl).2 c hc hanswers⟩
  intro x y u hasks
  obtain ⟨n, v, hn, hsign⟩ := hanswers x y u hasks
  exact ⟨v, by rw [signOf_of_ok hn, hsign]⟩

-- The function is written like this, and of two items with one last digit the first stays first.
example :
    let source := "sort([12, 3, 22, 13, 1], (a, b) => a % 10 - b % 10)"
    EStateM.run' (evaluate (.ofClock ⟨0, 0⟩ (.fixed 0)) source >>= textOf) .empty =
      some "[1, 12, 22, 3, 13]" := by
  decide +kernel

end Reckoner.Eval
