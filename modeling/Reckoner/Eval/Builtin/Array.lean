import Reckoner.Eval.Compare

/-!
# Functions on arrays

Functions that call back work on the items as they were at the start, so a
callback may change the array.  `mergeSort` is a stable sort by any
comparison, also one that has effects.

`push` copies the values first and changes the array then.  That the array is
already held for the change, so that a copy which looks into it panics, as that of
`push(a, a)` and of `push(a, [a])` does, is left out.
-/

namespace Reckoner.Eval

/-- Calls a function with an item, and with its index if the function declares
two parameters. -/
def callIndexed (call : Caller) (f item : Value) (index offset : Nat) : EvalM Value :=
  if f.declaredArity? = some 2 then call f [item, .ofNat index] offset else call f [item] offset

/-- Whether a callback gives a value that counts as true. -/
def testIndexed (call : Caller) (f item : Value) (index offset : Nat) : EvalM Bool := do
  isTrue (← callIndexed call f item index offset)

/-- The function and the items that a call works on. -/
def functionAndItems (xs f : Value) (offset : Nat) : EvalM (Value × List Value) := do
  let f ← f.asCallable offset
  return (f, (← itemsOf xs offset).toList)

/-! ## Callbacks on each item -/

/-- The results for the items from `index` on, appended to `done`. -/
def mapFrom (call : Caller) (f : Value) (offset : Nat) :
    (index : Nat) → (done : Array Value) → List Value → EvalM (Array Value)
  | _, done, [] => pure done
  | index, done, item :: rest => do
    let v ← callIndexed call f item index offset
    mapFrom call f offset (index + 1) (done.push v) rest

/-- The result of a function for each item. -/
def map (call : Caller) (xs f : Value) (offset : Nat) : EvalM Value := do
  let (f, items) ← functionAndItems xs f offset
  newArray (← mapFrom call f offset 0 #[] items)

/-- The items from `index` on for which a test holds, appended to `kept`. -/
def filterFrom (call : Caller) (f : Value) (offset : Nat) :
    (index : Nat) → (kept : Array Value) → List Value → EvalM (Array Value)
  | _, kept, [] => pure kept
  | index, kept, item :: rest => do
    let holds ← testIndexed call f item index offset
    filterFrom call f offset (index + 1) (if holds then kept.push item else kept) rest

/-- The items for which a test holds. -/
def filter (call : Caller) (xs f : Value) (offset : Nat) : EvalM Value := do
  let (f, items) ← functionAndItems xs f offset
  newArray (← filterFrom call f offset 0 #[] items)

/-- Folds the items with a function, from the left. -/
def reduce (call : Caller) (xs f : Value) (start : Option Value) (offset : Nat) :
    EvalM Value := do
  let (f, items) ← functionAndItems xs f offset
  let step := fun acc item => call f [acc, item] offset
  match start, items with
  | some start, items => items.foldlM step start
  | none, first :: rest => rest.foldlM step first
  | none, [] => fail offset (.argument .emptyReduce)

/-- The first of the items from `index` on for which a test gives `wanted`. -/
def findFrom (call : Caller) (f : Value) (wanted : Bool) (offset : Nat) :
    (index : Nat) → List Value → EvalM (Option Value)
  | _, [] => pure none
  | index, item :: rest => do
    let holds ← testIndexed call f item index offset
    if holds = wanted then pure (some item) else findFrom call f wanted offset (index + 1) rest

/-- The first item for which a test holds, or null. -/
def find (call : Caller) (xs f : Value) (offset : Nat) : EvalM Value := do
  let (f, items) ← functionAndItems xs f offset
  return (← findFrom call f true offset 0 items).getD .null

/-- Whether a test holds for every item. -/
def every (call : Caller) (xs f : Value) (offset : Nat) : EvalM Value := do
  let (f, items) ← functionAndItems xs f offset
  return .bool (← findFrom call f false offset 0 items).isNone

/-- Whether a test holds for some item. -/
def any (call : Caller) (xs f : Value) (offset : Nat) : EvalM Value := do
  let (f, items) ← functionAndItems xs f offset
  return .bool (← findFrom call f true offset 0 items).isSome

/-- The number of items, or of those for which a test holds. -/
def count (call : Caller) (xs : Value) (f : Option Value) (offset : Nat) : EvalM Value := do
  let items := (← itemsOf xs offset).toList
  match f with
  | none => return .ofNat items.length
  | some f =>
    let f ← f.asCallable offset
    return .ofNat (← filterFrom call f offset 0 #[] items).size

/-! ## Groups -/

/-- Puts an item into the group with the given key. -/
def addToGroup (groups : Entries (Array Value)) (key : String) (item : Value) :
    Entries (Array Value) :=
  groups.insert key (((groups.find? key).getD #[]).push item)

/-- The groups of the items from `index` on, added to those there are. -/
def groupFrom (call : Caller) (f : Value) (offset : Nat) :
    (index : Nat) → Entries (Array Value) → List Value → EvalM (Entries (Array Value))
  | _, groups, [] => pure groups
  | index, groups, item :: rest => do
    match ← callIndexed call f item index offset with
    | .array _ => fail offset (.typing .arrayAsGroupKey)
    | key => groupFrom call f offset (index + 1) (addToGroup groups (← textOf key) item) rest

/-- The items grouped by the text of a function's result. -/
def groupBy (call : Caller) (xs f : Value) (offset : Nat) : EvalM Value := do
  let (f, items) ← functionAndItems xs f offset
  let groups ← groupFrom call f offset 0 [] items
  let entries ← groups.mapM fun (key, members) => return (key, ← newArray members)
  newObject entries

/-! ## Sorting -/

/-- Two sorted lists merged behind `done`, which is in reverse, in at most
`rounds` rounds.  Of two items that compare equal the left one comes first. -/
def mergeFrom {α : Type} {m : Type → Type} [Monad m] (cmp : α → α → m Ordering) :
    (rounds : Nat) → (done left right : List α) → m (List α)
  | rounds + 1, done, x :: left, y :: right => do
    match ← cmp x y with
    | .gt => mergeFrom cmp rounds (y :: done) (x :: left) right
    | _ => mergeFrom cmp rounds (x :: done) left (y :: right)
  | _, done, left, right => pure (done.reverse ++ left ++ right)

/-- Two sorted lists merged. -/
def merge {α : Type} {m : Type → Type} [Monad m] (cmp : α → α → m Ordering)
    (left right : List α) : m (List α) :=
  mergeFrom cmp (left.length + right.length) [] left right

/-- A list sorted by a comparison, in at most `rounds` rounds of halving. -/
def mergeSortTo {α : Type} {m : Type → Type} [Monad m] (cmp : α → α → m Ordering) :
    (rounds : Nat) → List α → m (List α)
  | 0, xs => pure xs
  | rounds + 1, xs =>
    if xs.length ≤ 1 then pure xs
    else do
      let left ← mergeSortTo cmp rounds (xs.take (xs.length / 2))
      let right ← mergeSortTo cmp rounds (xs.drop (xs.length / 2))
      merge cmp left right

/-- A list sorted by a comparison. -/
def mergeSort {α : Type} {m : Type → Type} [Monad m] (cmp : α → α → m Ordering) (xs : List α) :
    m (List α) :=
  mergeSortTo cmp xs.length xs

/-- The order of values themselves. -/
def naturalOrder (ctx : Context) (offset : Nat) (x y : Value) : EvalM Ordering :=
  compareValues ctx x y offset

/-- The order that a callback gives by the sign of its result. -/
def orderBy (call : Caller) (f : Value) (offset : Nat) (x y : Value) : EvalM Ordering := do
  let v ← call f [x, y] offset
  return (← v.asNumber offset).compare .zero

/-- The items in order, by their own order or by a function. -/
def sort (ctx : Context) (call : Caller) (xs : Value) (f : Option Value) (offset : Nat) :
    EvalM Value := do
  let items := (← itemsOf xs offset).toList
  match f with
  | none => newList (← mergeSort (naturalOrder ctx offset) items)
  | some f =>
    let f ← f.asCallable offset
    match f.declaredArity? with
    | some 2 | none => newList (← mergeSort (orderBy call f offset) items)
    | some n => fail offset (.argument (.comparatorArity n))

/-! ## Changing an array -/

/-- Appends copies of values to an array. -/
def push (xs : Value) (more : List Value) (offset : Nat) : EvalM Value := do
  let cell ← xs.asArray offset
  let more ← more.mapM copy
  modify fun s => s.setCell cell (.array (s.items cell ++ more))
  return xs

/-- Takes the last item off an array. -/
def pop (xs : Value) (offset : Nat) : EvalM Value := do
  let cell ← xs.asArray offset
  let items := (← get).items cell
  modify fun s => s.setCell cell (.array items.pop)
  return items.back?.getD .null

/-! ## Arrays without callbacks -/

/-- The first item, or null. -/
def first (xs : Value) (offset : Nat) : EvalM Value := do
  return (← itemsOf xs offset)[0]?.getD .null

/-- The last item, or null. -/
def last (xs : Value) (offset : Nat) : EvalM Value := do
  return (← itemsOf xs offset).back?.getD .null

/-- An array or a string backwards. -/
def reverse (v : Value) (offset : Nat) : EvalM Value := do
  match v with
  | .string t => return .string (String.ofList t.toList.reverse)
  | v => newArray (← itemsOf v offset).reverse

/-- The most items that `range` makes. -/
def rangeLimit : Nat := 100000

/-- The number of items from `start` up to, but not including, `stop`. -/
def rangeLength (start stop step : Decimal) (offset : Nat) : Checked Nat := do
  let span ← orFail offset (.domain .rangeBounds) ((stop.sub? start).bind (·.div? step))
  let span := span.ceil
  if Decimal.zero.less span then span.toCount offset else .ok 0

/-- The item of a range with a given index. -/
def rangeItem (start step : Decimal) (offset index : Nat) : Checked Value := do
  let x ← orOverflow offset ((step.mul? (.ofNat index)).bind start.add?)
  return .number x

/-- The numbers of a range. -/
def rangeItems (start stop step : Decimal) (offset : Nat) : Checked (List Value) := do
  if step.isZero then failAt offset (.argument .zeroStep)
  else
    let n ← rangeLength start stop step offset
    if rangeLimit < n then failAt offset (.argument (.rangeLength n rangeLimit))
    else (List.range n).mapM (rangeItem start step offset)

/-- The numbers up to a stop, from a start or zero, by a step or one. -/
def range (args : List Value) (offset : Nat) : EvalM Value := do
  let numbers ← (args.mapM (·.asNumber offset) : Checked (List Decimal))
  match numbers with
  | [stop] => newList (← rangeItems .zero stop .one offset)
  | [start, stop] => newList (← rangeItems start stop .one offset)
  | [start, stop, step] => newList (← rangeItems start stop step offset)
  | _ => fail offset (.argument .rangeArity)

/-- A bound of a slice kept within a length, a negative one counting from the
end. -/
def sliceBound (v : Value) (length offset : Nat) : Checked Nat := do
  let n ← (← v.asNumber offset).toInteger offset
  return if n < 0 then (length + n).toNat else min n.toNat length

/-- Both bounds of a slice, the second one not before the first. -/
def sliceBounds (start : Value) (stop : Option Value) (length offset : Nat) :
    Checked (Nat × Nat) := do
  let a ← sliceBound start length offset
  let b ←
    match stop with
    | some stop => sliceBound stop length offset
    | none => .ok length
  return (a, max a b)

/-- The items or characters from one bound up to another. -/
def slice (v start : Value) (stop : Option Value) (offset : Nat) : EvalM Value := do
  match v with
  | .string t =>
    let cs := t.toList
    let (a, b) ← sliceBounds start stop cs.length offset
    return .string (String.ofList ((cs.take b).drop a))
  | v =>
    let items ← itemsOf v offset
    let (a, b) ← sliceBounds start stop items.size offset
    newArray (items.extract a b)

/-- The items, with those of inner arrays in place of these. -/
def flatten (xs : Value) (offset : Nat) : EvalM Value := do
  let items ← itemsOf xs offset
  let s ← get
  newArray (items.flatMap fun
    | .array c => s.items c
    | v => #[v])

/-- The items that equal none of `kept`, nor an earlier one of them. -/
def uniqueFrom (s : Session) (kept : Array Value) : List Value → Array Value
  | [] => kept
  | v :: rest =>
    if kept.any fun w => s.same w v then uniqueFrom s kept rest
    else uniqueFrom s (kept.push v) rest

/-- The items without those that equal an earlier one. -/
def unique (xs : Value) (offset : Nat) : EvalM Value := do
  let items ← itemsOf xs offset
  newArray (uniqueFrom (← get) #[] items.toList)

end Reckoner.Eval
