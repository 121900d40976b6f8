import Reckoner.Eval.Builtin.Call
import Reckoner.Proofs.Discipline.Basic

/-!
# The calls that a walk through items makes

A callback may do anything to the session, and the next call finds what the one before
has left.  `Visits` follows such calls one after the other, with nothing in between.

* `Course` and `Breaks`: calls with given arguments until one settles the matter, and
  until one fails.  `walk` makes such calls (`walk_eq_ok_iff`, `walk_eq_error_iff`).
* `Folds`: calls that are each passed what the one before has given (`folds_foldlM`).

The functions on arrays that call back walk through a list of items and make no further
calls for what the answers come to (`mapFrom_eq_walk`, `filterFrom_eq_walk`,
`findFrom_eq_walk`, `groupFrom_eq_walk`).
-/

namespace Reckoner.Eval

/-- A call that has returned: what it was passed, what it gave and the session it left. -/
structure Visit where
  args : List Value
  result : Value
  after : Session

namespace Visit

/-- Whether the result counts as true when the call returns. -/
def holds (v : Visit) : Bool := v.after.isTrue v.result

/-- The text of the result when the call returns. -/
def text (v : Visit) : String := v.after.render v.result

/-- Whether the result is an array. -/
def givesArray (v : Visit) : Bool := decide (v.result.kind = .array)

@[simp] theorem holds_mk (args : List Value) (result : Value) (u : Session) :
    (⟨args, result, u⟩ : Visit).holds = u.isTrue result := rfl

@[simp] theorem text_mk (args : List Value) (result : Value) (u : Session) :
    (⟨args, result, u⟩ : Visit).text = u.render result := rfl

@[simp] theorem givesArray_mk (args : List Value) (result : Value) (u : Session) :
    (⟨args, result, u⟩ : Visit).givesArray = decide (result.kind = .array) := rfl

end Visit

section

variable {call : Caller} {f : Value} {offset : Nat}

/-- Calls of a function that return, made one after the other from a session to another
one. -/
inductive Visits (call : Caller) (f : Value) (offset : Nat) :
    Session → List Visit → Session → Prop where
  | nil {s : Session} : Visits call f offset s [] s
  | cons {s u t : Session} {args : List Value} {result : Value} {visits : List Visit}
    (h : call f args offset s = .ok result u) (hrest : Visits call f offset u visits t) :
    Visits call f offset s (⟨args, result, u⟩ :: visits) t

/-- Calls with the first of the given arguments, up to the first that settles the matter, or
with all of them if none does. -/
structure Course (call : Caller) (f : Value) (offset : Nat) (settles : Visit → Bool)
    (all : List (List Value)) (s : Session) (visits : List Visit) (t : Session) : Prop where
  made : Visits call f offset s visits t
  args_eq : visits.map Visit.args = all.take visits.length
  undecided : ∀ v ∈ visits.dropLast, settles v = false
  ends : visits.length = all.length ∨ ∃ v ∈ visits.getLast?, settles v = true

/-- Calls with the first of the given arguments of which none settles the matter, and then one
that fails. -/
inductive Breaks (call : Caller) (f : Value) (offset : Nat) (settles : Visit → Bool)
    (all : List (List Value)) (s : Session) (stop : Stop) (t : Session) : Prop where
  | intro {visits : List Visit} {u : Session} {args : List Value}
    (hvisits : Visits call f offset s visits u)
    (hargs : visits.map Visit.args ++ [args] <+: all)
    (hundecided : ∀ v ∈ visits, settles v = false)
    (hfails : call f args offset u = .error stop t)

/-- Calls with the given arguments, one after the other, until one settles the matter. -/
def walk (call : Caller) (f : Value) (offset : Nat) (settles : Visit → Bool) :
    List (List Value) → EvalM (List Visit)
  | [] => pure []
  | args :: rest => do
    let result ← call f args offset
    let visit := ⟨args, result, ← get⟩
    if settles visit then pure [visit]
    else return visit :: (← walk call f offset settles rest)

/-! ## Walks -/

variable {settles : Visit → Bool} {all rest : List (List Value)} {args : List Value}
  {s t u : Session} {visits : List Visit} {result : Value} {stop : Stop}

theorem walk_cons_of_error (h : call f args offset s = .error stop t) :
    walk call f offset settles (args :: rest) s = .error stop t :=
  bind_of_error h

theorem walk_cons_of_settles (h : call f args offset s = .ok result u)
    (hsettles : settles ⟨args, result, u⟩ = true) :
    walk call f offset settles (args :: rest) s = .ok [⟨args, result, u⟩] u := by
  rw [walk, bind_of_ok h, get_bind_run]
  simp only [hsettles, if_true]
  rfl

theorem walk_cons_of_undecided (h : call f args offset s = .ok result u)
    (hsettles : settles ⟨args, result, u⟩ = false) :
    walk call f offset settles (args :: rest) s =
      (walk call f offset settles rest >>= fun visits =>
        pure (⟨args, result, u⟩ :: visits) : EvalM (List Visit)) u := by
  rw [walk, bind_of_ok h, get_bind_run]
  simp only [hsettles, Bool.false_eq_true, if_false]

theorem bind_pure_eq_ok_iff {α β : Type} {m : EvalM α} {g : α → β} {y : β} :
    (m >>= fun x => pure (g x) : EvalM β) s = .ok y t ↔ ∃ x, m s = .ok x t ∧ g x = y := by
  cases h : m s with
  | ok x u =>
    rw [bind_of_ok h]
    constructor
    · intro heq
      cases heq
      exact ⟨x, rfl, rfl⟩
    · rintro ⟨x', heq, rfl⟩
      cases heq
      rfl
  | error e u =>
    rw [bind_of_error h]
    refine iff_of_false (fun heq => nomatch heq) ?_
    rintro ⟨x', heq, -⟩
    cases heq

theorem bind_pure_eq_error_iff {α β : Type} {m : EvalM α} {g : α → β} :
    (m >>= fun x => pure (g x) : EvalM β) s = .error stop t ↔ m s = .error stop t := by
  cases h : m s with
  | ok x u =>
    rw [bind_of_ok h]
    exact iff_of_false (fun heq => nomatch heq) (fun heq => nomatch heq)
  | error e u =>
    rw [bind_of_error h]
    constructor
    · intro heq
      cases heq
      rfl
    · intro heq
      cases heq
      rfl

/-- A course is not empty if there are arguments. -/
theorem Course.exists_cons (h : Course call f offset settles (args :: rest) s visits t) :
    ∃ result u later, call f args offset s = .ok result u ∧
      visits = ⟨args, result, u⟩ :: later ∧ Visits call f offset u later t ∧
      later.map Visit.args = rest.take later.length := by
  obtain ⟨hvisits, hargs, -, hends⟩ := h
  cases hvisits with
  | nil => simp at hends
  | @cons _ u _ args' result later hcall hlater =>
    simp only [List.map_cons, List.length_cons, List.take_succ_cons, List.cons.injEq] at hargs
    obtain ⟨rfl, hargs⟩ := hargs
    exact ⟨result, u, later, hcall, rfl, hlater, hargs⟩

theorem course_cons_iff_of_undecided (h : call f args offset s = .ok result u)
    (hsettles : settles ⟨args, result, u⟩ = false) :
    Course call f offset settles (args :: rest) s visits t ↔
      ∃ later, Course call f offset settles rest u later t ∧
        ⟨args, result, u⟩ :: later = visits := by
  constructor
  · intro hcourse
    obtain ⟨result', u', later, hcall, rfl, hlater, hargs⟩ := hcourse.exists_cons
    obtain ⟨rfl, rfl⟩ := EStateM.Result.ok.inj (hcall.symm.trans h)
    refine ⟨later, ⟨hlater, hargs, fun v hv => hcourse.undecided v ?_, ?_⟩, rfl⟩
    · cases later with
      | nil => cases hv
      | cons w later => exact List.mem_cons_of_mem _ hv
    · refine hcourse.ends.imp (fun hlength => Nat.succ.inj hlength) ?_
      rintro ⟨v, hv, hdecided⟩
      cases later with
      | nil =>
        rw [List.getLast?_singleton, Option.mem_some_iff] at hv
        subst hv
        rw [hsettles] at hdecided
        cases hdecided
      | cons w later => exact ⟨v, by simpa using hv, hdecided⟩
  · rintro ⟨later, ⟨hlater, hargs, hundecided, hends⟩, rfl⟩
    refine ⟨.cons h hlater, by simp [hargs], ?_, ?_⟩
    · cases later with
      | nil => simp
      | cons w later =>
        intro v hv
        rcases List.mem_cons.1 hv with rfl | hv
        · exact hsettles
        · exact hundecided v hv
    · refine hends.imp (congrArg (· + 1)) ?_
      rintro ⟨v, hv, hdecided⟩
      cases later with
      | nil => cases hv
      | cons w later => exact ⟨v, by simpa using hv, hdecided⟩

theorem course_cons_iff_of_settles (h : call f args offset s = .ok result u)
    (hsettles : settles ⟨args, result, u⟩ = true) :
    Course call f offset settles (args :: rest) s visits t ↔
      visits = [⟨args, result, u⟩] ∧ t = u := by
  constructor
  · intro hcourse
    obtain ⟨result', u', later, hcall, rfl, hlater, -⟩ := hcourse.exists_cons
    obtain ⟨rfl, rfl⟩ := EStateM.Result.ok.inj (hcall.symm.trans h)
    cases hlater with
    | nil => exact ⟨rfl, rfl⟩
    | cons hnext hlast =>
      -- The call that settles the matter would not be the last one.
      have hundecided := hcourse.undecided _ List.mem_cons_self
      rw [hsettles] at hundecided
      cases hundecided
  · rintro ⟨rfl, rfl⟩
    exact ⟨.cons h .nil, rfl, by simp, .inr ⟨_, rfl, hsettles⟩⟩

/-- A walk succeeds with the calls that a course is made of. -/
theorem walk_eq_ok_iff : walk call f offset settles all s = .ok visits t ↔
    Course call f offset settles all s visits t := by
  induction all generalizing s visits with
  | nil =>
    constructor
    · intro h
      cases h
      exact ⟨.nil, rfl, by simp, .inl rfl⟩
    · rintro ⟨hvisits, hargs, -, -⟩
      cases hvisits with
      | nil => rfl
      | cons h hrest => simp at hargs
  | cons args rest ih =>
    cases hcall : call f args offset s with
    | error stop u =>
      rw [walk_cons_of_error hcall]
      refine iff_of_false (fun h => nomatch h) fun hcourse => ?_
      obtain ⟨result', u', later, hcall', -, -, -⟩ := hcourse.exists_cons
      rw [hcall] at hcall'
      cases hcall'
    | ok result u =>
      cases hsettles : settles ⟨args, result, u⟩ with
      | true =>
        rw [walk_cons_of_settles hcall hsettles, course_cons_iff_of_settles hcall hsettles]
        constructor
        · intro h
          cases h
          exact ⟨rfl, rfl⟩
        · rintro ⟨rfl, rfl⟩
          rfl
      | false =>
        rw [walk_cons_of_undecided hcall hsettles, course_cons_iff_of_undecided hcall hsettles,
          bind_pure_eq_ok_iff]
        exact exists_congr fun later => and_congr_left' ih

theorem breaks_cons_iff_of_error (h : call f args offset s = .error stop u) {stop' : Stop} :
    Breaks call f offset settles (args :: rest) s stop' t ↔ stop' = stop ∧ t = u := by
  constructor
  · rintro ⟨hvisits, hargs, -, hfails⟩
    cases hvisits with
    | nil =>
      obtain ⟨rfl, -⟩ := List.cons_prefix_cons.1 hargs
      rw [h] at hfails
      cases hfails
      exact ⟨rfl, rfl⟩
    | cons hcall hrest =>
      obtain ⟨rfl, -⟩ := List.cons_prefix_cons.1 hargs
      rw [h] at hcall
      cases hcall
  · rintro ⟨rfl, rfl⟩
    exact ⟨.nil, List.cons_prefix_cons.2 ⟨rfl, List.nil_prefix⟩, by simp, h⟩

theorem breaks_cons_iff_of_ok (h : call f args offset s = .ok result u) :
    Breaks call f offset settles (args :: rest) s stop t ↔
      settles ⟨args, result, u⟩ = false ∧ Breaks call f offset settles rest u stop t := by
  constructor
  · rintro ⟨hvisits, hargs, hundecided, hfails⟩
    cases hvisits with
    | nil =>
      obtain ⟨rfl, -⟩ := List.cons_prefix_cons.1 hargs
      rw [h] at hfails
      cases hfails
    | cons hcall hrest =>
      obtain ⟨rfl, hlater⟩ := List.cons_prefix_cons.1 hargs
      obtain ⟨rfl, rfl⟩ := EStateM.Result.ok.inj (hcall.symm.trans h)
      exact ⟨hundecided _ List.mem_cons_self, hrest, hlater,
        fun v hv => hundecided v (List.mem_cons_of_mem _ hv), hfails⟩
  · rintro ⟨hsettles, ⟨hvisits, hargs, hundecided, hfails⟩⟩
    refine ⟨.cons h hvisits, List.cons_prefix_cons.2 ⟨rfl, hargs⟩, fun v hv => ?_, hfails⟩
    rcases List.mem_cons.1 hv with rfl | hv
    · exact hsettles
    · exact hundecided v hv

/-- A walk fails with the first call that does, before any has settled the matter. -/
theorem walk_eq_error_iff : walk call f offset settles all s = .error stop t ↔
    Breaks call f offset settles all s stop t := by
  induction all generalizing s with
  | nil =>
    refine iff_of_false (fun h => nomatch h) ?_
    rintro ⟨-, hargs, -, -⟩
    simp at hargs
  | cons args rest ih =>
    cases hcall : call f args offset s with
    | error stop' u =>
      rw [walk_cons_of_error hcall, breaks_cons_iff_of_error hcall]
      constructor
      · intro h
        cases h
        exact ⟨rfl, rfl⟩
      · rintro ⟨rfl, rfl⟩
        rfl
    | ok result u =>
      rw [breaks_cons_iff_of_ok hcall]
      cases hsettles : settles ⟨args, result, u⟩ with
      | true =>
        rw [walk_cons_of_settles hcall hsettles]
        exact iff_of_false (fun h => nomatch h) fun h => nomatch h.1
      | false =>
        rw [walk_cons_of_undecided hcall hsettles, bind_pure_eq_error_iff, ih]
        exact (and_iff_right rfl).symm

/-- What a walk comes to that is concluded without further calls. -/
inductive Walks (call : Caller) (f : Value) (offset : Nat) (settles : Visit → Bool)
    (all : List (List Value)) (conclude : List Visit → EvalM Value) (s : Session) :
    EStateM.Result Stop Session Value → Prop where
  | concludes {visits : List Visit} {t : Session}
    (h : Course call f offset settles all s visits t) :
    Walks call f offset settles all conclude s (conclude visits t)
  | breaks {stop : Stop} {t : Session} (h : Breaks call f offset settles all s stop t) :
    Walks call f offset settles all conclude s (.error stop t)

theorem walks_walk_bind (conclude : List Visit → EvalM Value) (s : Session) :
    Walks call f offset settles all conclude s ((walk call f offset settles all >>= conclude) s) := by
  cases h : walk call f offset settles all s with
  | ok visits t =>
    rw [bind_of_ok h]
    exact .concludes (walk_eq_ok_iff.1 h)
  | error stop t =>
    rw [bind_of_error h]
    exact .breaks (walk_eq_error_iff.1 h)

/-- Where no answer settles the matter all calls are made. -/
theorem Course.args_eq_all (h : Course call f offset settles all s visits t)
    (hundecided : ∀ v ∈ visits, settles v = false) : visits.map Visit.args = all := by
  have hlength : visits.length = all.length := by
    rcases h.ends with hlength | ⟨v, hv, hsettles⟩
    · exact hlength
    · rw [hundecided v (List.mem_of_getLast? hv)] at hsettles
      cases hsettles
  rw [h.args_eq, hlength, List.take_length]

/-- Calls with all arguments, of which none settles the matter, are a course. -/
theorem Visits.course (h : Visits call f offset s visits t)
    (hargs : visits.map Visit.args = all) (hundecided : ∀ v ∈ visits, settles v = false) :
    Course call f offset settles all s visits t := by
  have hlength : visits.length = all.length := by
    rw [← hargs, List.length_map]
  refine ⟨h, ?_, fun v hv => hundecided v (List.dropLast_subset _ hv), .inl hlength⟩
  rw [hargs, hlength, List.take_length]

end

/-! ## The functions on arrays -/

/-- What is passed for an item: with its index if the function declares two parameters. -/
def indexed (f : Value) (p : Value × Nat) : List Value :=
  if f.declaredArity? = some 2 then [p.1, .ofNat p.2] else [p.1]

/-- What is passed for the items, whose indices start at the given one. -/
def passesFrom (f : Value) (index : Nat) (items : List Value) : List (List Value) :=
  (items.zipIdx index).map (indexed f)

section

variable (call : Caller) (f : Value) (offset : Nat)

theorem callIndexed_eq (item : Value) (index : Nat) :
    callIndexed call f item index offset = call f (indexed f (item, index)) offset := by
  unfold callIndexed indexed
  split
  · rfl
  · rfl

theorem passesFrom_cons (index : Nat) (item : Value) (rest : List Value) :
    passesFrom f index (item :: rest) =
      indexed f (item, index) :: passesFrom f (index + 1) rest := rfl

/-- The first answer decides how the rest of a computation on a walk goes on. -/
theorem walk_bind_cons {β : Type} (settles : Visit → Bool) (args : List Value)
    (rest : List (List Value)) (k : List Visit → EvalM β) :
    (walk call f offset settles (args :: rest) >>= k) =
      (call f args offset >>= fun result => get >>= fun u =>
        if settles ⟨args, result, u⟩ then k [⟨args, result, u⟩]
        else walk call f offset settles rest >>= fun visits => k (⟨args, result, u⟩ :: visits)) := by
  rw [walk, bind_assoc]
  refine bind_congr fun result => ?_
  rw [bind_assoc]
  refine bind_congr fun u => ?_
  by_cases hsettles : settles ⟨args, result, u⟩ = true
  · simp only [hsettles, if_true, pure_bind]
  · simp only [hsettles, Bool.false_eq_true, if_false, bind_assoc, pure_bind]

theorem mapFrom_eq_walk (index : Nat) (done : Array Value) (items : List Value) :
    mapFrom call f offset index done items = (do
      let visits ← walk call f offset (fun _ => false) (passesFrom f index items)
      pure (done ++ visits.map Visit.result)) := by
  induction items generalizing index done with
  | nil =>
    show pure done = pure (done ++ ([] : List Value))
    rw [Array.appendList_nil]
  | cons item rest ih =>
    rw [passesFrom_cons, walk_bind_cons, mapFrom, callIndexed_eq]
    refine bind_congr fun v => ?_
    rw [ih]
    funext s
    rw [get_bind_run]
    simp

theorem testIndexed_bind {β : Type} (item : Value) (index : Nat) (k : Bool → EvalM β) :
    (testIndexed call f item index offset >>= k) =
      (call f (indexed f (item, index)) offset >>= fun result => get >>= fun u =>
        k (u.isTrue result)) := by
  rw [testIndexed, callIndexed_eq, bind_assoc]
  rfl

theorem filterFrom_eq_walk (index : Nat) (kept : Array Value) (items : List Value) :
    filterFrom call f offset index kept items = (do
      let visits ← walk call f offset (fun _ => false) (passesFrom f index items)
      pure (kept ++ ((visits.zip items).filter (·.1.holds)).map (·.2))) := by
  induction items generalizing index kept with
  | nil =>
    show pure kept = pure (kept ++ ([] : List Value))
    rw [Array.appendList_nil]
  | cons item rest ih =>
    rw [passesFrom_cons, walk_bind_cons, filterFrom, testIndexed_bind]
    refine bind_congr fun result => bind_congr fun u => ?_
    rw [ih, if_neg Bool.false_ne_true]
    refine bind_congr fun visits => congrArg pure ?_
    rw [List.zip_cons_cons]
    by_cases hholds : u.isTrue result = true
    · rw [if_pos hholds, List.filter_cons_of_pos (by exact hholds), List.map_cons,
        Array.appendList_cons]
    · rw [if_neg hholds, List.filter_cons_of_neg (by exact hholds)]

theorem findFrom_eq_walk (wanted : Bool) (index : Nat) (items : List Value) :
    findFrom call f wanted offset index items = (do
      let visits ← walk call f offset (·.holds == wanted) (passesFrom f index items)
      pure (((visits.zip items).find? (·.1.holds == wanted)).map (·.2))) := by
  induction items generalizing index with
  | nil => rfl
  | cons item rest ih =>
    rw [passesFrom_cons, walk_bind_cons, findFrom, testIndexed_bind]
    refine bind_congr fun result => bind_congr fun u => ?_
    rw [ih]
    simp only [Visit.holds_mk, List.zip_cons_cons, List.find?_cons, beq_iff_eq]
    by_cases hholds : u.isTrue result = wanted
    · simp only [hholds, if_true, BEq.rfl, Option.map_some]
    · simp only [hholds, if_false, beq_eq_false_iff_ne.2 hholds]

/-- The groups after some answers, if none of them is an array. -/
def grouped (offset : Nat) (groups : Entries (Array Value)) (visits : List Visit)
    (items : List Value) : EvalM (Entries (Array Value)) :=
  if visits.any Visit.givesArray then fail offset (.typing .arrayAsGroupKey)
  else pure ((visits.zip items).foldl (fun groups p => addToGroup groups p.1.text p.2) groups)

theorem grouped_of_array {visits : List Visit} (h : ∃ v ∈ visits, v.givesArray = true)
    (groups : Entries (Array Value)) (items : List Value) (u : Session) :
    grouped offset groups visits items u =
      .error (.fault ⟨.typing .arrayAsGroupKey, offset⟩) u := by
  rw [grouped, if_pos (List.any_eq_true.2 h)]
  rfl

theorem groupFrom_cons (index : Nat) (groups : Entries (Array Value)) (item : Value)
    (rest : List Value) :
    groupFrom call f offset index groups (item :: rest) =
      (call f (indexed f (item, index)) offset >>= fun result => get >>= fun u =>
        if result.kind = .array then fail offset (.typing .arrayAsGroupKey)
        else groupFrom call f offset (index + 1) (addToGroup groups (u.render result) item) rest) := by
  rw [groupFrom, callIndexed_eq]
  refine bind_congr fun result => ?_
  cases result with
  | array c => rfl
  | _ => rfl

theorem groupFrom_eq_walk (index : Nat) (groups : Entries (Array Value)) (items : List Value) :
    groupFrom call f offset index groups items = (do
      let visits ← walk call f offset Visit.givesArray (passesFrom f index items)
      grouped offset groups visits items) := by
  induction items generalizing index groups with
  | nil => rfl
  | cons item rest ih =>
    rw [passesFrom_cons, walk_bind_cons, groupFrom_cons]
    refine bind_congr fun result => bind_congr fun u => ?_
    rw [ih]
    by_cases hkind : result.kind = .array
    · simp [grouped, hkind]
    · simp [grouped, hkind]

/-- A new object with an array for each of the given groups. -/
def newGroups (groups : Entries (Array Value)) : EvalM Value := do
  newObject (← groups.mapM fun (key, members) => return (key, ← newArray members))

/-- What is passed for the items of an array. -/
def passes (f : Value) (items : List Value) : List (List Value) := passesFrom f 0 items

theorem length_passes (items : List Value) : (passes f items).length = items.length := by
  rw [passes, passesFrom, List.length_map, List.length_zipIdx]

theorem functionAndItems_run (hf : f.isCallable = true) (a : Nat) (s : Session) :
    functionAndItems (.array a) f offset s = .ok (f, (s.items a).toList) s := by
  unfold functionAndItems
  rw [Value.asCallable, if_pos hf]
  rfl

theorem groupBy_eq_walk (hf : f.isCallable = true) (a : Nat) (s : Session) :
    groupBy call (.array a) f offset s =
      (walk call f offset Visit.givesArray (passes f (s.items a).toList) >>= fun visits => do
        newGroups (← grouped offset [] visits (s.items a).toList)) s := by
  rw [groupBy, bind_of_ok (functionAndItems_run f offset hf a s)]
  dsimp only
  rw [groupFrom_eq_walk, bind_assoc]
  rfl

/-! ## Folds -/

variable {call f offset}

/-- What a fold passes for the items: what the call before has given, or the start. -/
def foldPasses (start : Value) (results items : List Value) : List (List Value) :=
  List.zipWith (fun acc item => [acc, item]) (start :: results) items

theorem foldPasses_cons_cons (start result : Value) (results : List Value) (item : Value)
    (items : List Value) :
    foldPasses start (result :: results) (item :: items) =
      [start, item] :: foldPasses result results items := rfl

/-- What a fold comes to: the last result after a call for each item, or the stop of the first
call that fails. -/
inductive Folds (call : Caller) (f : Value) (offset : Nat) (start : Value) (items : List Value)
    (s : Session) : EStateM.Result Stop Session Value → Prop where
  | returns {visits : List Visit} {t : Session} (hvisits : Visits call f offset s visits t)
    (hargs : visits.map Visit.args = foldPasses start (visits.map Visit.result) items) :
    Folds call f offset start items s
      (.ok (((visits.map Visit.result).getLast?).getD start) t)
  | breaks {visits : List Visit} {u t : Session} {args : List Value} {stop : Stop}
    (hvisits : Visits call f offset s visits u)
    (hargs : visits.map Visit.args ++ [args] = foldPasses start (visits.map Visit.result) items)
    (hfails : call f args offset u = .error stop t) :
    Folds call f offset start items s (.error stop t)

theorem Folds.cons {start result item : Value} {items : List Value} {s u : Session}
    {r : EStateM.Result Stop Session Value} (hcall : call f [start, item] offset s = .ok result u)
    (h : Folds call f offset result items u r) :
    Folds call f offset start (item :: items) s r := by
  cases h with
  | @returns visits t hvisits hargs =>
    have hlast : ((visits.map Visit.result).getLast?).getD result =
        (((⟨[start, item], result, u⟩ :: visits).map Visit.result).getLast?).getD start := by
      rw [List.map_cons, List.getLast?_cons, Option.getD_some]
    rw [hlast]
    refine .returns (.cons hcall hvisits) ?_
    rw [List.map_cons, List.map_cons, foldPasses_cons_cons, hargs]
  | breaks hvisits hargs hfails =>
    refine .breaks (.cons hcall hvisits) ?_ hfails
    rw [List.map_cons, List.map_cons, foldPasses_cons_cons, List.cons_append, hargs]

theorem folds_foldlM (start : Value) (items : List Value) (s : Session) :
    Folds call f offset start items s
      (items.foldlM (fun acc item => call f [acc, item] offset) start s) := by
  induction items generalizing start s with
  | nil => exact .returns .nil rfl
  | cons item rest ih =>
    rw [List.foldlM_cons]
    cases hcall : call f [start, item] offset s with
    | error stop t =>
      rw [bind_of_error hcall]
      exact .breaks .nil rfl hcall
    | ok result u =>
      rw [bind_of_ok hcall]
      exact (ih result u).cons hcall

end

end Reckoner.Eval
