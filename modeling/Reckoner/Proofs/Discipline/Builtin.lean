import Reckoner.Proofs.Discipline.Array

/-!
# Built-in functions keep a discipline

Operators, and the built-in functions on numbers, texts, objects and the host
that read or change the session.  With the functions on arrays and those whose
results are atomic they make `keeps_callBuiltin`: a built-in function that the
discipline allows, called with values that fit, gives a value that fits.
-/

namespace Reckoner.Discipline

open Eval

variable {D : Discipline} {sc : Option Nat} {s : Session} {offset : Nat} {ctx : Context}
  {call : Caller}

/-! ## Operators -/

theorem keeps_add (hD : D.Lawful) (hs : D.Holds s) (ho : D.FitsOffset offset)
    {left right : Value} (hl : D.Fits s left) (hr : D.Fits s right) :
    D.Keeps sc s (add ctx left right offset) D.Fits := by
  have hml := hD.measured_of_fits hl
  have hmr := hD.measured_of_fits hr
  unfold add
  split
  · exact keeps_atomic hD hs ho (yields_numberOr _)
  · rename_i p q
    have hp := fun hunits => (hml p rfl hunits).dims
    have hq := fun hunits => (hmr q rfl hunits).dims
    refine keeps_lift_bind hD hs ho (Quantity.yields_add (fun h => hp (D.units_of_known h))
      (fun h => hq (D.units_of_known h))) fun r hdims => keeps_pure hD hs ?_
    exact hD.fits_atomic (Value.ofAmount_atomic fun hunits =>
      Quantity.toAmount_wellFormed (hdims ▸ hp hunits))
  · rename_i x q
    exact keeps_lift_bind hD hs ho (Quantity.yields_plus q x) fun r hdims =>
      keeps_pure hD hs (hD.fits_atomic fun hunits => (hmr q rfl hunits).of_dims_eq hdims)
  · rename_i q x
    exact keeps_lift_bind hD hs ho (Quantity.yields_plus q x) fun r hdims =>
      keeps_pure hD hs (hD.fits_atomic fun hunits => (hml q rfl hunits).of_dims_eq hdims)
  · exact keeps_atomic hD hs ho (yields_shiftDate _ _ _)
  · exact keeps_atomic hD hs ho (yields_shiftDate _ _ _)
  · exact (keeps_textOf hD hs _).bind hD fun _ t step _ =>
      keeps_pure hD step.holds (hD.fits_atomic trivial)
  · exact (keeps_textOf hD hs _).bind hD fun _ t step _ =>
      keeps_pure hD step.holds (hD.fits_atomic trivial)
  · refine keeps_get_bind (keeps_newArray hD hs fun v hv => ?_)
    rcases Array.mem_append.1 hv with hv | hv
    · exact hD.fits_item hs hl hv
    · exact hD.fits_item hs hr hv
  · exact keeps_atomic hD hs ho (yields_mismatch _ _ _)

theorem keeps_binary (hD : D.Lawful) (hs : D.Holds s) (ho : D.FitsOffset offset) (op : BinaryOp)
    {left right : Value} (hl : D.Fits s left) (hr : D.Fits s right) :
    D.Keeps sc s (binary ctx op left right offset) D.Fits := by
  have hml := hD.measured_of_fits hl
  have hmr := hD.measured_of_fits hr
  cases op with
  | add => exact keeps_add hD hs ho hl hr
  | sub => exact keeps_atomic hD hs ho (yields_sub hml hmr)
  | mul => exact keeps_atomic hD hs ho (yields_mul hml hmr)
  | div => exact keeps_atomic hD hs ho (yields_div hml hmr)
  | mod => exact keeps_atomic hD hs ho (yields_rem hml hmr)
  | pow => exact keeps_atomic hD hs ho (yields_pow hml)
  | bitAnd => exact keeps_atomic hD hs ho (yields_bitwise _ _ _)
  | bitOr => exact keeps_atomic hD hs ho (yields_bitwise _ _ _)
  | shiftLeft => exact keeps_atomic hD hs ho (yields_bitwise _ _ _)
  | shiftRight => exact keeps_atomic hD hs ho (yields_bitwise _ _ _)

theorem keeps_compareValues (hD : D.Lawful) (hs : D.Holds s) (ho : D.FitsOffset offset)
    {left right : Value} (hl : D.Fits s left) (hr : D.Fits s right) :
    D.Keeps sc s (liftM (compareValues ctx left right offset)) fun _ _ => True :=
  keeps_lift hD hs ho
    (yields_compareValues (hD.measured_of_fits hl) (hD.measured_of_fits hr)) fun _ _ => trivial

theorem keeps_comparison (hD : D.Lawful) (hs : D.Holds s) (ho : D.FitsOffset offset)
    (op : CompareOp) {left right : Value} (hl : D.Fits s left) (hr : D.Fits s right) :
    D.Keeps sc s (comparison ctx op left right offset) D.Fits := by
  have hbool (f : Ordering → Bool) :
      D.Keeps sc s (do return .bool (f (← liftM (compareValues ctx left right offset)))) D.Fits :=
    (keeps_compareValues hD hs ho hl hr).bind hD fun _ t step _ =>
      keeps_pure hD step.holds (hD.fits_atomic trivial)
  cases op with
  | equal => exact keeps_get_bind (keeps_pure hD hs (hD.fits_atomic trivial))
  | notEqual => exact keeps_get_bind (keeps_pure hD hs (hD.fits_atomic trivial))
  | less => exact hbool (· == .lt)
  | lessEqual => exact hbool (· != .gt)
  | greater => exact hbool (· == .gt)
  | greaterEqual => exact hbool (· != .lt)

/-! ## Numbers -/

theorem keeps_spread (hD : D.Lawful) (hs : D.Holds s) {args : List Value}
    (hargs : ∀ v ∈ args, D.Fits s v) :
    D.Keeps sc s (spread args) fun t vs => t = s ∧ ∀ v ∈ vs, D.Fits s v := by
  unfold spread
  split
  · rename_i c
    refine keeps_get_bind (keeps_pure hD hs ⟨rfl, fun v hv => ?_⟩)
    exact hD.fits_item hs (hargs _ List.mem_cons_self) (by simpa using hv)
  · exact keeps_pure hD hs ⟨rfl, hargs⟩

theorem keeps_extreme (hD : D.Lawful) (hs : D.Holds s) (ho : D.FitsOffset offset)
    (wanted : Ordering) {args : List Value} (hargs : ∀ v ∈ args, D.Fits s v) :
    D.Keeps none s (extreme ctx wanted args offset) D.Fits := by
  refine (keeps_spread hD hs hargs).bind hD fun vs t _ h => ?_
  obtain ⟨rfl, hvs⟩ := h
  cases vs with
  | nil => exact keeps_fail hD hs ho rfl
  | cons first rest =>
    refine keeps_foldlM hD (fun hu hacc hv _ _ => ?_) hs (hvs first List.mem_cons_self)
      fun v hv => hvs v (List.mem_cons_of_mem _ hv)
    refine (keeps_compareValues hD hu ho hv hacc).bind hD fun order u step _ =>
      keeps_pure hD step.holds ?_
    split
    · exact hD.still step hv
    · exact hD.still step hacc

theorem keeps_clamp (hD : D.Lawful) (hs : D.Holds s) (ho : D.FitsOffset offset)
    {v low high : Value} (hv : D.Fits s v) (hlow : D.Fits s low) (hhigh : D.Fits s high) :
    D.Keeps none s (clamp ctx v low high offset) D.Fits := by
  have hcompare {x y : Value} (hx : D.Fits s x) (hy : D.Fits s y) :
      Yields D.toCare offset (fun _ => True) (compareValues ctx x y offset) :=
    yields_compareValues (hD.measured_of_fits hx) (hD.measured_of_fits hy)
  refine keeps_lift_bind hD hs ho (hcompare hlow hhigh) fun order _ => ?_
  split
  · refine (keeps_textOf hD hs low).bind hD fun _ t step _ => ?_
    refine (keeps_textOf hD step.holds high).bind hD fun _ u step' _ => ?_
    exact keeps_fail hD step'.holds ho rfl
  · refine keeps_lift_bind hD hs ho (hcompare hv hlow) fun order _ => ?_
    split
    · exact keeps_pure hD hs hlow
    · refine keeps_lift_bind hD hs ho (hcompare hv hhigh) fun order _ => ?_
      split
      · exact keeps_pure hD hs hhigh
      · exact keeps_pure hD hs hv

theorem keeps_addNumeric (hD : D.Lawful) (hs : D.Holds s) (ho : D.FitsOffset offset)
    {total v : Value} (ht : D.Fits s total) (hv : D.Fits s v) :
    D.Keeps none s (addNumeric ctx offset total v) D.Fits := by
  unfold addNumeric
  split
  · exact keeps_add hD hs ho ht hv
  · exact keeps_atomic hD hs ho (yields_wrongKind _ _)

theorem keeps_addAll (hD : D.Lawful) (hs : D.Holds s) (ho : D.FitsOffset offset)
    {vs : List Value} (hvs : ∀ v ∈ vs, D.Fits s v) :
    D.Keeps none s (vs.foldlM (addNumeric ctx offset) (.number .zero)) D.Fits :=
  keeps_foldlM hD (fun hu hacc hv _ _ => keeps_addNumeric hD hu ho hacc hv) hs
    (hD.fits_atomic trivial) hvs

theorem keeps_sumValues (hD : D.Lawful) (hs : D.Holds s) (ho : D.FitsOffset offset)
    {args : List Value} (hargs : ∀ v ∈ args, D.Fits s v) :
    D.Keeps none s (sumValues ctx args offset) D.Fits := by
  refine (keeps_spread hD hs hargs).bind hD fun vs t _ h => ?_
  obtain ⟨rfl, hvs⟩ := h
  exact keeps_addAll hD hs ho hvs

theorem keeps_averageValues (hD : D.Lawful) (hs : D.Holds s) (ho : D.FitsOffset offset)
    {args : List Value} (hargs : ∀ v ∈ args, D.Fits s v) :
    D.Keeps none s (averageValues ctx args offset) D.Fits := by
  refine (keeps_spread hD hs hargs).bind hD fun vs t _ h => ?_
  obtain ⟨rfl, hvs⟩ := h
  split
  · exact keeps_fail hD hs ho rfl
  · refine (keeps_addAll hD hs ho hvs).bind hD fun total u step htotal => ?_
    exact keeps_atomic hD step.holds ho
      (yields_div (hD.measured_of_fits htotal) (Value.measured_number _))

/-! ## Texts and objects -/

theorem keeps_split (hD : D.Lawful) (hs : D.Holds s) (ho : D.FitsOffset offset)
    (v sep : Value) : D.Keeps none s (split v sep offset) D.Fits := by
  refine keeps_lift_bind hD hs ho (yields_asString v) fun text _ => ?_
  refine keeps_lift_bind hD hs ho (yields_asString sep) fun sep _ => ?_
  refine keeps_newList hD hs fun w hw => ?_
  unfold splitText at hw
  split at hw
  · obtain ⟨c, _, rfl⟩ := List.mem_map.1 hw
    exact hD.fits_atomic trivial
  · obtain ⟨piece, _, rfl⟩ := List.mem_map.1 hw
    exact hD.fits_atomic trivial

theorem keeps_join (hD : D.Lawful) (hs : D.Holds s) (ho : D.FitsOffset offset) {v : Value}
    (hv : D.Fits s v) (sep : Option Value) : D.Keeps none s (join v sep offset) D.Fits := by
  refine (keeps_itemsOf hD hs ho hv).bind hD fun items t _ h => ?_
  obtain ⟨rfl, _⟩ := h
  cases sep with
  | none => exact keeps_get_bind (keeps_pure hD hs (hD.fits_atomic trivial))
  | some sep =>
    exact keeps_lift_bind hD hs ho (yields_asString sep) fun _ _ =>
      keeps_get_bind (keeps_pure hD hs (hD.fits_atomic trivial))

theorem keeps_keys (hD : D.Lawful) (hs : D.Holds s) (ho : D.FitsOffset offset) {o : Value}
    (hobj : D.Fits s o) : D.Keeps none s (keys o offset) D.Fits := by
  refine (keeps_entriesOf hD hs ho hobj).bind hD fun entries t _ h => ?_
  obtain ⟨rfl, _⟩ := h
  refine keeps_newList hD hs fun v hv => ?_
  obtain ⟨key, _, rfl⟩ := List.mem_map.1 hv
  exact hD.fits_atomic trivial

theorem keeps_values (hD : D.Lawful) (hs : D.Holds s) (ho : D.FitsOffset offset) {o : Value}
    (hobj : D.Fits s o) : D.Keeps none s (values o offset) D.Fits := by
  refine (keeps_entriesOf hD hs ho hobj).bind hD fun entries t _ h => ?_
  obtain ⟨rfl, hentries⟩ := h
  exact keeps_newList hD hs hentries

theorem keeps_has (hD : D.Lawful) (hs : D.Holds s) (ho : D.FitsOffset offset) {o : Value}
    (hobj : D.Fits s o) (key : Value) : D.Keeps none s (has o key offset) D.Fits := by
  refine (keeps_entriesOf hD hs ho hobj).bind hD fun entries t _ h => ?_
  obtain ⟨rfl, _⟩ := h
  exact keeps_lift_bind hD hs ho (yields_asKey key) fun _ _ =>
    keeps_pure hD hs (hD.fits_atomic trivial)

theorem keeps_lookup (hD : D.Lawful) (hs : D.Holds s) (ho : D.FitsOffset offset)
    {o key : Value} {other : Option Value} (hobj : D.Fits s o) (hother : ∀ v ∈ other, D.Fits s v) :
    D.Keeps none s (lookup o key other offset) D.Fits := by
  refine (keeps_entriesOf hD hs ho hobj).bind hD fun entries t _ h => ?_
  obtain ⟨rfl, hentries⟩ := h
  refine keeps_lift_bind hD hs ho (yields_asKey key) fun k _ => keeps_pure hD hs ?_
  cases hk : entries.find? k with
  | none => exact hD.fits_getD hother
  | some v => exact hentries v (Entries.mem_values_of_find? hk)

theorem keeps_mergeEntries (hD : D.Lawful) (hs : D.Holds s) (ho : D.FitsOffset offset)
    {objects : List Value} {merged : Entries Value} (hkeys : merged.keys.Nodup)
    (hmerged : ∀ v ∈ merged.values, D.Fits s v) (hobjects : ∀ v ∈ objects, D.Fits s v) :
    D.Keeps none s (mergeEntries offset merged objects)
      fun t entries => entries.keys.Nodup ∧ ∀ v ∈ entries.values, D.Fits t v := by
  induction objects generalizing merged with
  | nil => exact keeps_pure hD hs ⟨hkeys, hmerged⟩
  | cons o rest ih =>
    refine (keeps_entriesOf hD hs ho (hobjects o List.mem_cons_self)).bind hD
      fun entries t _ h => ?_
    obtain ⟨rfl, hentries⟩ := h
    exact ih (Entries.nodup_keys_insertAll entries hkeys)
      (Entries.forall_values_insertAll hentries hmerged)
      fun v hv => hobjects v (List.mem_cons_of_mem _ hv)

theorem keeps_mergeObjects (hD : D.Lawful) (hs : D.Holds s) (ho : D.FitsOffset offset)
    {objects : List Value} (hobjects : ∀ v ∈ objects, D.Fits s v) :
    D.Keeps none s (mergeObjects objects offset) D.Fits :=
  (keeps_mergeEntries hD hs ho Entries.nodup_keys_nil (by simp [Entries.values]) hobjects).bind hD
    fun entries t step hentries => keeps_newObject hD step.holds hentries.1 hentries.2

/-! ## Functions, casts and the host -/

theorem keeps_bindArgs (hD : D.Lawful) (hs : D.Holds s) (ho : D.FitsOffset offset)
    {args : List Value} (hargs : ∀ v ∈ args, D.Fits s v) :
    D.Keeps none s (bindArgs args offset) D.Fits := by
  cases args with
  | nil => exact keeps_fail hD hs ho rfl
  | cons callee bound =>
    refine keeps_lift_bind hD hs ho (yields_asCallable callee) fun f hf => ?_
    subst hf
    refine (keeps_newIdentity hD hs).bind hD fun i t step _ => keeps_pure hD step.holds ?_
    refine hD.fits_applied.2 ⟨hD.still step (hargs f List.mem_cons_self), fun v hv => ?_⟩
    exact hD.still step (hargs v (List.mem_cons_of_mem _ hv))

theorem keeps_toArray (hD : D.Lawful) (hs : D.Holds s) {v : Value} (hv : D.Fits s v) :
    D.Keeps sc s (toArray v) D.Fits := by
  unfold toArray
  split
  · exact keeps_pure hD hs hv
  · exact keeps_newList hD hs (by simp)
  · exact keeps_get_bind (keeps_newList hD hs fun w hw => hD.fits_entry hs hv hw)
  · exact keeps_newList hD hs (by simpa using hv)

theorem keeps_cast (hD : D.Lawful) (hs : D.Holds s) (ho : D.FitsOffset offset) {v : Value}
    (hv : D.Fits s v) (kind : Kind) : D.Keeps sc s (cast ctx v kind offset) D.Fits := by
  have hsame (k : Kind) : D.Keeps sc s
      (if v.kind = k then pure v else fail offset (.typing (.cast v.kind k))) D.Fits := by
    split
    · exact keeps_pure hD hs hv
    · exact keeps_fail hD hs ho rfl
  cases kind with
  | number => exact keeps_atomic hD hs ho (yields_toNumber v)
  | string =>
    exact (keeps_textOf hD hs v).bind hD fun _ t step _ =>
      keeps_pure hD step.holds (hD.fits_atomic trivial)
  | boolean =>
    exact (keeps_isTrue hD hs v).bind hD fun _ t step _ =>
      keeps_pure hD step.holds (hD.fits_atomic trivial)
  | date => exact keeps_atomic hD hs ho (yields_toDate ctx v)
  | array => exact keeps_toArray hD hs hv
  | quantity => exact hsame .quantity
  | object => exact hsame .object
  | function => exact hsame .function
  | null => exact hsame .null
  | markdown => exact hsame .markdown

theorem ofJsonNumber_atomic {care : Care} (text : String) : (ofJsonNumber text).Atomic care := by
  unfold ofJsonNumber
  split
  · trivial
  · trivial

mutual

theorem keeps_ofJson {s : Session} (hD : D.Lawful) (hs : D.Holds s) (j : Json) :
    D.Keeps none s (ofJson j) D.Fits := by
  cases j with
  | null => exact keeps_pure hD hs (hD.fits_atomic trivial)
  | bool b => exact keeps_pure hD hs (hD.fits_atomic trivial)
  | number text => exact keeps_pure hD hs (hD.fits_atomic (ofJsonNumber_atomic text))
  | string text => exact keeps_pure hD hs (hD.fits_atomic trivial)
  | array items =>
    exact (keeps_ofJsonItems hD hs (by simp) items).bind hD fun vs t step hvs =>
      keeps_newArray hD step.holds hvs
  | object entries =>
    exact (keeps_ofJsonEntries hD hs Entries.nodup_keys_nil (by simp [Entries.values]) entries).bind hD
      fun es t step hes => keeps_newObject hD step.holds hes.1 hes.2

theorem keeps_ofJsonItems {s : Session} (hD : D.Lawful) (hs : D.Holds s)
    {done : Array Value} (hdone : ∀ v ∈ done, D.Fits s v) (items : List Json) :
    D.Keeps none s (ofJsonItems done items) fun t vs => ∀ v ∈ vs, D.Fits t v := by
  cases items with
  | nil => exact keeps_pure hD hs hdone
  | cons j rest =>
    refine (keeps_ofJson hD hs j).bind hD fun v t step hv => ?_
    refine keeps_ofJsonItems hD step.holds ?_ rest
    intro w hw
    rcases Array.mem_push.1 hw with hw | rfl
    · exact hD.still step (hdone w hw)
    · exact hv

theorem keeps_ofJsonEntries {s : Session} (hD : D.Lawful) (hs : D.Holds s)
    {done : Entries Value} (hkeys : done.keys.Nodup) (hdone : ∀ v ∈ done.values, D.Fits s v)
    (entries : List (String × Json)) :
    D.Keeps none s (ofJsonEntries done entries)
      fun t (es : Entries Value) => es.keys.Nodup ∧ ∀ v ∈ es.values, D.Fits t v := by
  cases entries with
  | nil => exact keeps_pure hD hs ⟨hkeys, hdone⟩
  | cons entry rest =>
    rcases entry with ⟨key, j⟩
    refine (keeps_ofJson hD hs j).bind hD fun v t step hv => ?_
    exact keeps_ofJsonEntries hD step.holds (Entries.nodup_keys_insert hkeys)
      (Entries.forall_values_insert hv fun w hw => hD.still step (hdone w hw)) rest

end

theorem keeps_argument (hD : D.Lawful) (hs : D.Holds s) :
    D.Keeps none s (argument ctx) D.Fits := by
  unfold argument
  split
  · exact keeps_pure hD hs (hD.fits_atomic trivial)
  · split
    · exact keeps_ofJson hD hs _
    · exact keeps_pure hD hs (hD.fits_atomic trivial)

theorem keeps_wrongCount (hD : D.Lawful) (hs : D.Holds s) (ho : D.FitsOffset offset)
    (b : Builtin) (args : List Value) :
    D.Keeps none s (wrongCount b args offset : EvalM Value) D.Fits :=
  keeps_fail hD hs ho rfl

theorem keeps_dateOf (hD : D.Lawful) (hs : D.Holds s) (ho : D.FitsOffset offset)
    (args : List Value) : D.Keeps none s (dateOf ctx args offset) D.Fits := by
  unfold dateOf
  split
  · exact keeps_atomic hD hs ho (yields_dayValue ctx _ _)
  · exact keeps_atomic hD hs ho (yields_toDate ctx _)
  · exact keeps_atomic hD hs ho (yields_dayOfParts ctx _ _ _)
  · exact keeps_wrongCount hD hs ho _ _

/-! ## Arguments by number -/

theorem keeps_withOne (hD : D.Lawful) (hs : D.Holds s) (ho : D.FitsOffset offset) {b : Builtin}
    {args : List Value} {f : Value → EvalM Value} (hargs : ∀ v ∈ args, D.Fits s v)
    (hf : ∀ x, D.Fits s x → D.Keeps none s (f x) D.Fits) :
    D.Keeps none s (withOne b args offset f) D.Fits := by
  unfold withOne
  split
  · exact hf _ (hargs _ (by simp))
  · exact keeps_wrongCount hD hs ho _ _

theorem keeps_withTwo (hD : D.Lawful) (hs : D.Holds s) (ho : D.FitsOffset offset) {b : Builtin}
    {args : List Value} {f : Value → Value → EvalM Value} (hargs : ∀ v ∈ args, D.Fits s v)
    (hf : ∀ x y, D.Fits s x → D.Fits s y → D.Keeps none s (f x y) D.Fits) :
    D.Keeps none s (withTwo b args offset f) D.Fits := by
  unfold withTwo
  split
  · exact hf _ _ (hargs _ (by simp)) (hargs _ (by simp))
  · exact keeps_wrongCount hD hs ho _ _

theorem keeps_withThree (hD : D.Lawful) (hs : D.Holds s) (ho : D.FitsOffset offset)
    {b : Builtin} {args : List Value} {f : Value → Value → Value → EvalM Value}
    (hargs : ∀ v ∈ args, D.Fits s v)
    (hf : ∀ x y z, D.Fits s x → D.Fits s y → D.Fits s z → D.Keeps none s (f x y z) D.Fits) :
    D.Keeps none s (withThree b args offset f) D.Fits := by
  unfold withThree
  split
  · exact hf _ _ _ (hargs _ (by simp)) (hargs _ (by simp)) (hargs _ (by simp))
  · exact keeps_wrongCount hD hs ho _ _

theorem keeps_withOneOrTwo (hD : D.Lawful) (hs : D.Holds s) (ho : D.FitsOffset offset)
    {b : Builtin} {args : List Value} {f : Value → Option Value → EvalM Value}
    (hargs : ∀ v ∈ args, D.Fits s v)
    (hf : ∀ x y?, D.Fits s x → (∀ y ∈ y?, D.Fits s y) → D.Keeps none s (f x y?) D.Fits) :
    D.Keeps none s (withOneOrTwo b args offset f) D.Fits := by
  unfold withOneOrTwo
  split
  · exact hf _ none (hargs _ (by simp)) (by simp)
  · rename_i x y
    exact hf _ (some y) (hargs _ (by simp)) (by simpa using hargs y (by simp))
  · exact keeps_wrongCount hD hs ho _ _

theorem keeps_withTwoOrThree (hD : D.Lawful) (hs : D.Holds s) (ho : D.FitsOffset offset)
    {b : Builtin} {args : List Value} {f : Value → Value → Option Value → EvalM Value}
    (hargs : ∀ v ∈ args, D.Fits s v)
    (hf : ∀ x y z?, D.Fits s x → D.Fits s y → (∀ z ∈ z?, D.Fits s z) →
      D.Keeps none s (f x y z?) D.Fits) :
    D.Keeps none s (withTwoOrThree b args offset f) D.Fits := by
  unfold withTwoOrThree
  split
  · exact hf _ _ none (hargs _ (by simp)) (hargs _ (by simp)) (by simp)
  · rename_i x y z
    exact hf _ _ (some z) (hargs _ (by simp)) (hargs _ (by simp))
      (by simpa using hargs z (by simp))
  · exact keeps_wrongCount hD hs ho _ _

theorem keeps_withRest (hD : D.Lawful) (hs : D.Holds s) (ho : D.FitsOffset offset)
    {b : Builtin} {args : List Value} {f : Value → List Value → EvalM Value}
    (hargs : ∀ v ∈ args, D.Fits s v)
    (hf : ∀ x rest, D.Fits s x → (∀ v ∈ rest, D.Fits s v) →
      D.Keeps none s (f x rest) D.Fits) :
    D.Keeps none s (withRest b args offset f) D.Fits := by
  unfold withRest
  split
  · exact hf _ _ (hargs _ List.mem_cons_self) fun v hv => hargs v (List.mem_cons_of_mem _ hv)
  · exact keeps_wrongCount hD hs ho _ _

/-! ## All functions -/

theorem keeps_runBuiltin (hD : D.Lawful) (hcall : D.Calls call) {b : Builtin} (hb : D.Allows b)
    (hs : D.Holds s) (ho : D.FitsOffset offset) {args : List Value}
    (hargs : ∀ v ∈ args, D.Fits s v) :
    D.Keeps none s (runBuiltin ctx call b args offset) D.Fits := by
  -- functions with an atomic result, by the number of their arguments
  have one {b : Builtin} {f : Value → Checked Value}
      (hf : ∀ x, x.Measured D.toCare → Yields D.toCare offset (Value.Atomic D.toCare) (f x)) :
      D.Keeps none s (withOne b args offset fun x => liftM (f x)) D.Fits :=
    keeps_withOne hD hs ho hargs fun x hx => keeps_atomic hD hs ho (hf x (hD.measured_of_fits hx))
  have two {b : Builtin} {f : Value → Value → Checked Value}
      (hf : ∀ x y, Yields D.toCare offset (Value.Atomic D.toCare) (f x y)) :
      D.Keeps none s (withTwo b args offset fun x y => liftM (f x y)) D.Fits :=
    keeps_withTwo hD hs ho hargs fun x y _ _ => keeps_atomic hD hs ho (hf x y)
  cases b with
  | sqrt => exact one fun x _ => yields_sqrt x
  | cbrt | sin | cos | tan | asin | acos | atan => exact one fun x _ => yields_viaFloat _ x
  | abs | floor | ceil | trunc => exact one fun x hx => yields_mapMagnitude hx _
  | sign => exact one fun x _ => yields_sign x
  | exponential => exact one fun x _ => yields_exponential x
  | ln => exact one fun x _ => yields_ln x
  | log10 | log2 => exact one fun x _ => yields_log x none _
  | factorial => exact one fun x _ => yields_factorial x
  | upper | lower | trim => exact one fun x _ => yields_mapText _ x
  | numberOf => exact one fun x _ => yields_toNumber x
  | year | month | day | hour | minute | weekday => exact one fun x _ => yields_partOf _ x
  | timestamp => exact one fun x _ => yields_timestamp x
  | env => exact one fun x _ => yields_envValue ctx x
  | gcd => exact two fun x y => yields_gcd x y
  | lcm => exact two fun x y => yields_lcm x y
  | startsWith => exact two fun x y => yields_startsWith x y
  | endsWith => exact two fun x y => yields_endsWith x y
  | round =>
    exact keeps_withOneOrTwo hD hs ho hargs fun x places hx _ =>
      keeps_atomic hD hs ho (yields_round (hD.measured_of_fits hx) places)
  | log =>
    exact keeps_withOneOrTwo hD hs ho hargs fun x base _ _ =>
      keeps_atomic hD hs ho (yields_log x base .ten)
  | replace =>
    exact keeps_withThree hD hs ho hargs fun x y z _ _ _ =>
      keeps_atomic hD hs ho (yields_replace x y z)
  | substring =>
    exact keeps_withTwoOrThree hD hs ho hargs fun x start stop _ _ _ =>
      keeps_atomic hD hs ho (yields_substring x start stop)
  | len =>
    exact keeps_withOne hD hs ho hargs fun x _ =>
      keeps_get_bind (keeps_atomic hD hs ho (yields_length s x))
  | contains =>
    exact keeps_withTwo hD hs ho hargs fun x y _ _ =>
      keeps_get_bind (keeps_atomic hD hs ho (yields_contains s x y))
  | stringOf =>
    exact keeps_withOne hD hs ho hargs fun x _ => (keeps_textOf hD hs x).bind hD
      fun _ _ step _ => keeps_pure hD step.holds (hD.fits_atomic trivial)
  | typeName =>
    exact keeps_withOne hD hs ho hargs fun _ _ => keeps_pure hD hs (hD.fits_atomic trivial)
  | min | max => exact keeps_extreme hD hs ho _ hargs
  | clamp => exact keeps_withThree hD hs ho hargs fun _ _ _ => keeps_clamp hD hs ho
  | pow => exact keeps_withTwo hD hs ho hargs fun _ _ => keeps_binary hD hs ho .pow
  | sum => exact keeps_sumValues hD hs ho hargs
  | average | avg => exact keeps_averageValues hD hs ho hargs
  | split => exact keeps_withTwo hD hs ho hargs fun x y _ _ => keeps_split hD hs ho x y
  | join => exact keeps_withOneOrTwo hD hs ho hargs fun _ sep hx _ => keeps_join hD hs ho hx sep
  | map => exact keeps_withTwo hD hs ho hargs fun _ _ => keeps_map hD hcall hs ho
  | filter => exact keeps_withTwo hD hs ho hargs fun _ _ => keeps_filter hD hcall hs ho
  | reduce => exact keeps_withTwoOrThree hD hs ho hargs fun _ _ _ => keeps_reduce hD hcall hs ho
  | sort => exact keeps_withOneOrTwo hD hs ho hargs fun _ _ => keeps_sort hD hcall hs ho
  | groupBy => exact keeps_withTwo hD hs ho hargs fun _ _ => keeps_groupBy hD hcall hs ho
  | find => exact keeps_withTwo hD hs ho hargs fun _ _ => keeps_find hD hcall hs ho
  | every => exact keeps_withTwo hD hs ho hargs fun _ _ => keeps_every hD hcall hs ho
  | any => exact keeps_withTwo hD hs ho hargs fun _ _ => keeps_any hD hcall hs ho
  | count => exact keeps_withOneOrTwo hD hs ho hargs fun _ _ => keeps_count hD hcall hs ho
  | append => exact keeps_withRest hD hs ho hargs fun _ _ => keeps_push hD (.inr hb) hs ho
  | push => exact keeps_withRest hD hs ho hargs fun _ _ => keeps_push hD (.inl hb) hs ho
  | pop => exact keeps_withOne hD hs ho hargs fun _ => keeps_pop hD hb hs ho
  | put => exact keeps_withThree hD hs ho hargs fun _ _ _ hx _ => keeps_put hD hb hs ho hx
  | first => exact keeps_withOne hD hs ho hargs fun _ => keeps_first hD hs ho
  | last => exact keeps_withOne hD hs ho hargs fun _ => keeps_last hD hs ho
  | reverse => exact keeps_withOne hD hs ho hargs fun _ => keeps_reverse hD hs ho
  | range => exact keeps_range hD hs ho args
  | slice =>
    exact keeps_withTwoOrThree hD hs ho hargs fun _ start stop hx _ _ =>
      keeps_slice hD hs ho hx start stop
  | flatten => exact keeps_withOne hD hs ho hargs fun _ => keeps_flatten hD hs ho
  | unique => exact keeps_withOne hD hs ho hargs fun _ => keeps_unique hD hs ho
  | keys => exact keeps_withOne hD hs ho hargs fun _ => keeps_keys hD hs ho
  | values => exact keeps_withOne hD hs ho hargs fun _ => keeps_values hD hs ho
  | has => exact keeps_withTwo hD hs ho hargs fun _ y hx _ => keeps_has hD hs ho hx y
  | get => exact keeps_withTwoOrThree hD hs ho hargs fun _ _ _ hx _ => keeps_lookup hD hs ho hx
  | merge => exact keeps_mergeObjects hD hs ho hargs
  | dateOf => exact keeps_dateOf hD hs ho args
  | bindArgs => exact keeps_bindArgs hD hs ho hargs
  | arg => exact keeps_argument hD hs

/-- A built-in function keeps a discipline that allows it. -/
theorem keeps_callBuiltin (hD : D.Lawful) (hcall : D.Calls call) {b : Builtin} (hb : D.Allows b)
    (hs : D.Holds s) (ho : D.FitsOffset offset) {args : List Value}
    (hargs : ∀ v ∈ args, D.Fits s v) :
    D.Keeps none s (callBuiltin ctx call b args offset) D.Fits := by
  unfold callBuiltin
  split
  · exact keeps_runBuiltin hD hcall hb hs ho hargs
  · exact keeps_wrongCount hD hs ho b args

end Reckoner.Discipline
