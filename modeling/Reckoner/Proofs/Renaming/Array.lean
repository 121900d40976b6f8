import Reckoner.Proofs.Renaming.Mirror

/-!
# Functions on arrays do not look at numbers

Each function on arrays, called with values and with the same values under other
numbers, ends alike.  The functions that call back go through a list of items;
their lemmas are by induction on it, for any index and any accumulated result.
-/

namespace Reckoner

open Eval Renamable

/-- Calls that end alike but for the numbers. -/
def Equivariant (ρ : Renaming) (base : Session) (call : Caller) : Prop :=
  ∀ ⦃s s' : Session⦄ ⦃f : Value⦄ ⦃args : List Value⦄ ⦃offset : Nat⦄, Alike ρ base s s' →
    f.Sound s.cells.size → Sound s.cells.size args →
      Mirrors ρ base s s' (call f args offset) (call (f.renamed ρ) (rename ρ args) offset)

section

variable {ρ : Renaming} {base s s' : Session} {offset : Nat} {ctx : Context} {call : Caller}

/-! ## Lists and arrays -/

theorem rename_push (ρ : Renaming) (done : Array Value) (v : Value) :
    rename ρ (done.push v) = (rename ρ done).push (v.renamed ρ) :=
  Array.map_push ..

theorem rename_empty (ρ : Renaming) : rename ρ (#[] : Array Value) = #[] := Array.map_empty

theorem rename_toList (ρ : Renaming) (items : Array Value) :
    (rename ρ items).toList = rename ρ items.toList :=
  Array.toList_map

theorem sound_push {size : Nat} {done : Array Value} {v : Value} (hdone : Sound size done)
    (hv : v.Sound size) : Sound size (done.push v) := by
  intro w hw
  rcases Array.mem_push.1 hw with hw | rfl
  · exact hdone w hw
  · exact hv

theorem sound_empty (size : Nat) : Sound size (#[] : Array Value) :=
  fun _ hv => absurd hv (Array.not_mem_empty _)

theorem sound_toList {size : Nat} {items : Array Value} (h : Sound size items) :
    Sound size items.toList :=
  fun v hv => h v (Array.mem_toList_iff.1 hv)

theorem sound_getD {size : Nat} {v? : Option Value} (h : Sound size v?) :
    (v?.getD .null).Sound size := by
  cases v? with
  | none => exact Value.sound_of_atomic trivial
  | some v => exact h v rfl

section

variable {size : Nat} {v w : Value} {vs : List Value}

theorem sound_head (h : Sound size (v :: vs)) : v.Sound size := h v List.mem_cons_self

theorem sound_tail (h : Sound size (v :: vs)) : Sound size vs :=
  fun w hw => h w (List.mem_cons_of_mem _ hw)

theorem sound_cons (hv : v.Sound size) (h : Sound size vs) : Sound size (v :: vs) :=
  List.forall_mem_cons.2 ⟨hv, h⟩

theorem sound_nil (size : Nat) : Sound size ([] : List Value) := List.forall_mem_nil _

theorem sound_pair (hv : v.Sound size) (hw : w.Sound size) : Sound size [v, w] :=
  sound_cons hv (sound_cons hw (sound_nil size))

end

/-! ## Callbacks on each item -/

theorem mirrors_callIndexed (hcall : Equivariant ρ base call) (h : Alike ρ base s s')
    {f item : Value} (hf : f.Sound s.cells.size) (hitem : item.Sound s.cells.size)
    (index : Nat) :
    Mirrors ρ base s s' (callIndexed call f item index offset)
      (callIndexed call (f.renamed ρ) (item.renamed ρ) index offset) := by
  unfold callIndexed
  rw [Value.declaredArity?_renamed]
  split
  · exact hcall h hf (sound_pair hitem (Value.sound_of_atomic trivial))
  · exact hcall h hf (List.forall_mem_singleton.2 hitem)

theorem mirrors_testIndexed (hcall : Equivariant ρ base call) (h : Alike ρ base s s')
    {f item : Value} (hf : f.Sound s.cells.size) (hitem : item.Sound s.cells.size)
    (index : Nat) :
    Mirrors ρ base s s' (testIndexed call f item index offset)
      (testIndexed call (f.renamed ρ) (item.renamed ρ) index offset) :=
  (mirrors_callIndexed hcall h hf hitem index).bind fun v _ _ ht _ _ => mirrors_isTrue ht v

theorem mirrors_asCallable (h : Alike ρ base s s') {f : Value} (hf : f.Sound s.cells.size) :
    Mirrors ρ base s s' (liftM (f.asCallable offset)) (liftM ((f.renamed ρ).asCallable offset)) :=
  have hsame : Yields noCare offset (fun g => g = f) (f.asCallable offset) := yields_asCallable f
  mirrors_lift h (fun _ hx => (hsame.ok_of_eq hx) ▸ hf) (Value.asCallable_renamed f)

theorem mirrors_functionAndItems (h : Alike ρ base s s') (xs : Value) {f : Value}
    (hf : f.Sound s.cells.size) :
    Mirrors ρ base s s' (functionAndItems xs f offset)
      (functionAndItems (xs.renamed ρ) (f.renamed ρ) offset) := by
  refine (mirrors_asCallable h hf).bind fun f t t' ht hle hf => ?_
  refine (mirrors_itemsOf ht xs).bind fun items u u' hu hle hitems => ?_
  rw [rename_toList]
  exact mirrors_pure hu (x := (f, items.toList)) ⟨hf.mono hle, sound_toList hitems⟩

theorem mirrors_mapFrom (hcall : Equivariant ρ base call) (h : Alike ρ base s s') {f : Value}
    {items : List Value} {done : Array Value} (index : Nat) (hf : f.Sound s.cells.size)
    (hdone : Sound s.cells.size done) (hitems : Sound s.cells.size items) :
    Mirrors ρ base s s' (mapFrom call f offset index done items)
      (mapFrom call (f.renamed ρ) offset index (rename ρ done) (rename ρ items)) := by
  induction items generalizing index done s s' with
  | nil => exact mirrors_pure h hdone
  | cons item rest ih =>
    refine (mirrors_callIndexed hcall h hf (sound_head hitems) index).bind
      fun v t t' ht hle hv => ?_
    have hnext := ih ht (index + 1) (hf.mono hle) (sound_push (sound_mono hle hdone) hv)
      (sound_mono hle (sound_tail hitems))
    rw [rename_push] at hnext
    exact hnext

theorem mirrors_mapAll (hcall : Equivariant ρ base call) (h : Alike ρ base s s') {f : Value}
    {items : List Value} (hf : f.Sound s.cells.size) (hitems : Sound s.cells.size items) :
    Mirrors ρ base s s' (mapFrom call f offset 0 #[] items)
      (mapFrom call (f.renamed ρ) offset 0 #[] (rename ρ items)) := by
  have hall : Mirrors ρ base s s' (mapFrom call f offset 0 #[] items)
      (mapFrom call (f.renamed ρ) offset 0 (rename ρ #[]) (rename ρ items)) :=
    mirrors_mapFrom hcall h 0 hf (sound_empty _) hitems
  rwa [rename_empty] at hall

theorem mirrors_map (hcall : Equivariant ρ base call) (h : Alike ρ base s s') (xs : Value)
    {f : Value} (hf : f.Sound s.cells.size) :
    Mirrors ρ base s s' (map call xs f offset) (map call (xs.renamed ρ) (f.renamed ρ) offset) := by
  refine (mirrors_functionAndItems h xs hf).bind fun ⟨f, items⟩ t t' ht hle hp => ?_
  refine (mirrors_mapAll hcall ht hp.1 hp.2).bind fun vs u u' hu _ hvs => ?_
  exact mirrors_newArray hu hvs

theorem mirrors_filterFrom (hcall : Equivariant ρ base call) (h : Alike ρ base s s') {f : Value}
    {items : List Value} {kept : Array Value} (index : Nat) (hf : f.Sound s.cells.size)
    (hkept : Sound s.cells.size kept) (hitems : Sound s.cells.size items) :
    Mirrors ρ base s s' (filterFrom call f offset index kept items)
      (filterFrom call (f.renamed ρ) offset index (rename ρ kept) (rename ρ items)) := by
  induction items generalizing index kept s s' with
  | nil => exact mirrors_pure h hkept
  | cons item rest ih =>
    have hitem := sound_head hitems
    refine (mirrors_testIndexed hcall h hf hitem index).bind fun holds t t' ht hle _ => ?_
    have hkept := sound_mono hle hkept
    have hrest := sound_mono hle (sound_tail hitems)
    cases holds with
    | true =>
      have hnext := ih ht (index + 1) (hf.mono hle) (sound_push hkept (hitem.mono hle)) hrest
      rw [rename_push] at hnext
      exact hnext
    | false => exact ih ht (index + 1) (hf.mono hle) hkept hrest

theorem mirrors_filterAll (hcall : Equivariant ρ base call) (h : Alike ρ base s s') {f : Value}
    {items : List Value} (hf : f.Sound s.cells.size) (hitems : Sound s.cells.size items) :
    Mirrors ρ base s s' (filterFrom call f offset 0 #[] items)
      (filterFrom call (f.renamed ρ) offset 0 #[] (rename ρ items)) := by
  have hall : Mirrors ρ base s s' (filterFrom call f offset 0 #[] items)
      (filterFrom call (f.renamed ρ) offset 0 (rename ρ #[]) (rename ρ items)) :=
    mirrors_filterFrom hcall h 0 hf (sound_empty _) hitems
  rwa [rename_empty] at hall

theorem mirrors_filter (hcall : Equivariant ρ base call) (h : Alike ρ base s s') (xs : Value)
    {f : Value} (hf : f.Sound s.cells.size) :
    Mirrors ρ base s s' (filter call xs f offset)
      (filter call (xs.renamed ρ) (f.renamed ρ) offset) := by
  refine (mirrors_functionAndItems h xs hf).bind fun ⟨f, items⟩ t t' ht hle hp => ?_
  refine (mirrors_filterAll hcall ht hp.1 hp.2).bind fun vs u u' hu _ hvs => ?_
  exact mirrors_newArray hu hvs

/-- A fold of a list, with a step that does not look at numbers. -/
theorem mirrors_foldlM {f f' : Value → Value → EvalM Value} {items : List Value} {start : Value}
    (hf : ∀ ⦃t t' acc v⦄, Alike ρ base t t' → s.cells.size ≤ t.cells.size →
      acc.Sound t.cells.size → v.Sound t.cells.size →
      Mirrors ρ base t t' (f acc v) (f' (acc.renamed ρ) (v.renamed ρ)))
    (h : Alike ρ base s s') (hstart : start.Sound s.cells.size)
    (hitems : Sound s.cells.size items) :
    Mirrors ρ base s s' (items.foldlM f start)
      ((rename ρ items).foldlM f' (start.renamed ρ)) := by
  induction items generalizing start s s' with
  | nil => exact mirrors_pure h hstart
  | cons v rest ih =>
    show Mirrors ρ base s s' _ ((v.renamed ρ :: rename ρ rest).foldlM f' (start.renamed ρ))
    rw [List.foldlM_cons, List.foldlM_cons]
    refine (hf h le_rfl hstart (sound_head hitems)).bind fun acc t t' ht hle hacc => ?_
    exact ih (fun u u' a w hu hle' => hf hu (hle.trans hle')) ht hacc
      (sound_mono hle (sound_tail hitems))

theorem mirrors_reduce (hcall : Equivariant ρ base call) (h : Alike ρ base s s') (xs : Value)
    {f : Value} {start : Option Value} (hf : f.Sound s.cells.size)
    (hstart : Sound s.cells.size start) :
    Mirrors ρ base s s' (reduce call xs f start offset)
      (reduce call (xs.renamed ρ) (f.renamed ρ) (rename ρ start) offset) := by
  refine (mirrors_functionAndItems h xs hf).bind fun ⟨f, items⟩ t t' ht hle hp => ?_
  have hstep ⦃u u' : Session⦄ ⦃acc v : Value⦄ (hu : Alike ρ base u u')
      (hle : t.cells.size ≤ u.cells.size) (hacc : acc.Sound u.cells.size)
      (hv : v.Sound u.cells.size) :
      Mirrors ρ base u u' (call f [acc, v] offset)
        (call (f.renamed ρ) [acc.renamed ρ, v.renamed ρ] offset) :=
    hcall hu (hp.1.mono hle) (sound_pair hacc hv)
  cases start with
  | some start => exact mirrors_foldlM hstep ht ((hstart start rfl).mono hle) hp.2
  | none =>
    cases items with
    | nil => exact mirrors_fail ht _
    | cons first rest => exact mirrors_foldlM hstep ht (sound_head hp.2) (sound_tail hp.2)

theorem mirrors_findFrom (hcall : Equivariant ρ base call) (h : Alike ρ base s s') {f : Value}
    {items : List Value} (wanted : Bool) (index : Nat) (hf : f.Sound s.cells.size)
    (hitems : Sound s.cells.size items) :
    Mirrors ρ base s s' (findFrom call f wanted offset index items)
      (findFrom call (f.renamed ρ) wanted offset index (rename ρ items)) := by
  induction items generalizing index s s' with
  | nil => exact mirrors_pure (x := (none : Option Value)) h (by simp [Sound])
  | cons item rest ih =>
    have hitem := sound_head hitems
    refine (mirrors_testIndexed hcall h hf hitem index).bind fun holds t t' ht hle _ => ?_
    show Mirrors ρ base t t' (if holds = wanted then _ else _) (if holds = wanted then _ else _)
    split
    · exact mirrors_pure (x := some item) ht (by simpa [Sound] using hitem.mono hle)
    · exact ih ht (index + 1) (hf.mono hle) (sound_mono hle (sound_tail hitems))

/-- The items before an index on are searched from the first one. -/
theorem mirrors_find (hcall : Equivariant ρ base call) (h : Alike ρ base s s') (xs : Value)
    {f : Value} (hf : f.Sound s.cells.size) :
    Mirrors ρ base s s' (find call xs f offset)
      (find call (xs.renamed ρ) (f.renamed ρ) offset) := by
  refine (mirrors_functionAndItems h xs hf).bind fun ⟨f, items⟩ t t' ht hle hp => ?_
  refine (mirrors_findFrom hcall ht true 0 hp.1 hp.2).bind fun v? u u' hu _ hv => ?_
  have hvalue : (rename ρ v?).getD .null = rename ρ (v?.getD .null) := Value.getD_renamed v? .null
  rw [hvalue]
  exact mirrors_pure hu (sound_getD hv)

theorem mirrors_every (hcall : Equivariant ρ base call) (h : Alike ρ base s s') (xs : Value)
    {f : Value} (hf : f.Sound s.cells.size) :
    Mirrors ρ base s s' (every call xs f offset)
      (every call (xs.renamed ρ) (f.renamed ρ) offset) := by
  refine (mirrors_functionAndItems h xs hf).bind fun ⟨f, items⟩ t t' ht hle hp => ?_
  refine (mirrors_findFrom hcall ht false 0 hp.1 hp.2).bind fun v? u u' hu _ _ => ?_
  rw [show (rename ρ v?).isNone = v?.isNone from Option.isNone_map]
  exact mirrors_pure_atomic hu trivial

theorem mirrors_any (hcall : Equivariant ρ base call) (h : Alike ρ base s s') (xs : Value)
    {f : Value} (hf : f.Sound s.cells.size) :
    Mirrors ρ base s s' (any call xs f offset)
      (any call (xs.renamed ρ) (f.renamed ρ) offset) := by
  refine (mirrors_functionAndItems h xs hf).bind fun ⟨f, items⟩ t t' ht hle hp => ?_
  refine (mirrors_findFrom hcall ht true 0 hp.1 hp.2).bind fun v? u u' hu _ _ => ?_
  rw [show (rename ρ v?).isSome = v?.isSome from Option.isSome_map]
  exact mirrors_pure_atomic hu trivial

theorem mirrors_count (hcall : Equivariant ρ base call) (h : Alike ρ base s s') (xs : Value)
    {f : Option Value} (hf : Sound s.cells.size f) :
    Mirrors ρ base s s' (count call xs f offset)
      (count call (xs.renamed ρ) (rename ρ f) offset) := by
  refine (mirrors_itemsOf h xs).bind fun items t t' ht hle hitems => ?_
  cases f with
  | none =>
    show Mirrors ρ base t t' (pure (Value.ofNat items.toList.length))
      (pure (Value.ofNat (rename ρ items).toList.length))
    rw [rename_toList, show (rename ρ items.toList).length = items.toList.length from
      List.length_map _]
    exact mirrors_pure_atomic ht trivial
  | some f =>
    refine (mirrors_asCallable ht ((hf f rfl).mono hle)).bind fun f u u' hu hle' hf => ?_
    rw [rename_toList]
    refine (mirrors_filterAll hcall hu hf (sound_mono hle' (sound_toList hitems))).bind
      fun vs w w' hw _ _ => ?_
    rw [show (rename ρ vs).size = vs.size from Array.size_map]
    exact mirrors_pure_atomic hw trivial

/-! ## Groups -/

theorem addToGroup_renamed (groups : Entries (Array Value)) (key : String) (item : Value) :
    addToGroup (rename ρ groups) key (item.renamed ρ) = rename ρ (addToGroup groups key item) := by
  have hmembers : (((rename ρ groups : Entries (Array Value)).find? key).getD #[]).push
      (item.renamed ρ) = rename ρ (((groups.find? key).getD #[]).push item) := by
    rw [Entries.find?_rename, rename_push]
    cases groups.find? key with
    | none => exact congrArg (·.push (item.renamed ρ)) (rename_empty ρ).symm
    | some members => rfl
  rw [addToGroup, hmembers, Entries.insert_rename, addToGroup]

theorem sound_addToGroup {size : Nat} {groups : Entries (Array Value)} {item : Value}
    (hgroups : Sound size groups) (hitem : item.Sound size) (key : String) :
    Sound size (addToGroup groups key item) := by
  refine Entries.sound_iff.2 (Entries.forall_values_insert (sound_push ?_ hitem)
    (Entries.sound_iff.1 hgroups))
  cases hkey : groups.find? key with
  | none => exact sound_empty size
  | some members => exact Entries.sound_iff.1 hgroups members (Entries.mem_values_of_find? hkey)

theorem mirrors_groupFrom (hcall : Equivariant ρ base call) (h : Alike ρ base s s') {f : Value}
    {items : List Value} {groups : Entries (Array Value)} (index : Nat)
    (hf : f.Sound s.cells.size) (hgroups : Sound s.cells.size groups)
    (hitems : Sound s.cells.size items) :
    Mirrors ρ base s s' (groupFrom call f offset index groups items)
      (groupFrom call (f.renamed ρ) offset index (rename ρ groups) (rename ρ items)) := by
  induction items generalizing index groups s s' with
  | nil => exact mirrors_pure h hgroups
  | cons item rest ih =>
    have hitem := sound_head hitems
    refine (mirrors_callIndexed hcall h hf hitem index).bind fun v t t' ht hle hv => ?_
    -- what follows for a key that is no array
    have hnext : Mirrors ρ base t t'
        (textOf v >>= fun key =>
          groupFrom call f offset (index + 1) (addToGroup groups key item) rest)
        (textOf (v.renamed ρ) >>= fun key =>
          groupFrom call (f.renamed ρ) offset (index + 1)
            (addToGroup (rename ρ groups) key (item.renamed ρ)) (rename ρ rest)) := by
      refine (mirrors_textOf ht hv).bind fun key u u' hu hle' _ => ?_
      have hle := hle.trans hle'
      rw [addToGroup_renamed]
      exact ih hu (index + 1) (hf.mono hle)
        (sound_addToGroup (sound_mono hle hgroups) (hitem.mono hle) _)
        (sound_mono hle (sound_tail hitems))
    cases v with
    | array c => exact mirrors_fail ht _
    | _ => exact hnext

theorem mirrors_groupArrays (h : Alike ρ base s s') {groups : Entries (Array Value)}
    (hgroups : Sound s.cells.size groups) :
    Mirrors ρ base s s'
      (groups.mapM fun (key, members) => do return (key, ← newArray members) :
        EvalM (List (String × Value)))
      ((rename ρ groups : Entries (Array Value)).mapM
        fun (key, members) => do return (key, ← newArray members)) := by
  induction groups generalizing s s' with
  | nil => exact mirrors_pure h (x := ([] : List (String × Value))) (List.forall_mem_nil _)
  | cons group rest ih =>
    rcases group with ⟨key, members⟩
    show Mirrors ρ base s s' _ (((key, rename ρ members) :: rename ρ rest).mapM _)
    rw [List.mapM_cons, List.mapM_cons]
    have hmembers := (List.forall_mem_cons.1 hgroups).1.2
    have hrest : Sound s.cells.size rest := (List.forall_mem_cons.1 hgroups).2
    have hgroup : Mirrors ρ base s s' (newArray members >>= fun v => pure (key, v))
        (newArray (rename ρ members) >>= fun v => pure (key, v)) :=
      (mirrors_newArray h hmembers).bind fun v t t' ht _ hv =>
        mirrors_pure ht (x := (key, v)) ⟨trivial, hv⟩
    refine hgroup.bind fun e t t' ht hle he => ?_
    refine (ih ht (sound_mono hle hrest)).bind fun es u u' hu hle' hes => ?_
    exact mirrors_pure hu (x := e :: es) (List.forall_mem_cons.2 ⟨sound_mono hle' he, hes⟩)

theorem mirrors_groupBy (hcall : Equivariant ρ base call) (h : Alike ρ base s s') (xs : Value)
    {f : Value} (hf : f.Sound s.cells.size) :
    Mirrors ρ base s s' (groupBy call xs f offset)
      (groupBy call (xs.renamed ρ) (f.renamed ρ) offset) := by
  refine (mirrors_functionAndItems h xs hf).bind fun ⟨f, items⟩ t t' ht hle hp => ?_
  have hnone : Sound t.cells.size ([] : Entries (Array Value)) := List.forall_mem_nil _
  refine (mirrors_groupFrom hcall ht 0 hp.1 hnone hp.2).bind fun groups u u' hu _ hgroups => ?_
  refine (mirrors_groupArrays hu hgroups).bind fun entries w w' hw _ hentries => ?_
  exact mirrors_newObject hw hentries

/-! ## Sorting -/

/-- Comparisons that do not look at numbers, from a session on. -/
def Compares (ρ : Renaming) (base : Session) (size : Nat)
    (cmp cmp' : Value → Value → EvalM Ordering) : Prop :=
  ∀ ⦃t t' v w⦄, Alike ρ base t t' → size ≤ t.cells.size → v.Sound t.cells.size →
    w.Sound t.cells.size → Mirrors ρ base t t' (cmp v w) (cmp' (v.renamed ρ) (w.renamed ρ))

theorem mirrors_mergeFrom {size : Nat} {cmp cmp' : Value → Value → EvalM Ordering}
    (hcmp : Compares ρ base size cmp cmp') (rounds : Nat) (h : Alike ρ base s s')
    (hle : size ≤ s.cells.size) {done left right : List Value}
    (hall : Sound s.cells.size (done ++ left ++ right)) :
    Mirrors ρ base s s' (mergeFrom cmp rounds done left right)
      (mergeFrom cmp' rounds (rename ρ done) (rename ρ left) (rename ρ right)) := by
  have hend {t t' : Session} {done left right : List Value} (ht : Alike ρ base t t')
      (hall : Sound t.cells.size (done ++ left ++ right)) :
      Mirrors ρ base t t' (pure (done.reverse ++ left ++ right))
        (pure ((rename ρ done).reverse ++ rename ρ left ++ rename ρ right)) := by
    have hlist : (rename ρ done).reverse ++ rename ρ left ++ rename ρ right =
        rename ρ (done.reverse ++ left ++ right) := by
      simp [rename, List.map_append, List.map_reverse]
    rw [hlist]
    exact mirrors_pure ht fun v hv => hall v (by simpa using hv)
  induction rounds generalizing done left right s s' with
  | zero => exact hend h hall
  | succ rounds ih =>
    cases left with
    | nil => exact hend h hall
    | cons x left =>
      cases right with
      | nil => exact hend h hall
      | cons y right =>
        refine (hcmp h hle (hall x (by simp)) (hall y (by simp))).bind
          fun order t t' ht hle' _ => ?_
        have hall := sound_mono hle' hall
        cases order with
        | gt =>
          have hnext : Sound t.cells.size (y :: done ++ x :: left ++ right) :=
            fun v hv => hall v (by grind)
          exact ih ht (hle.trans hle') hnext
        | lt | eq =>
          have hnext : Sound t.cells.size (x :: done ++ left ++ y :: right) :=
            fun v hv => hall v (by grind)
          exact ih ht (hle.trans hle') hnext

theorem mirrors_mergeSortTo {size : Nat} {cmp cmp' : Value → Value → EvalM Ordering}
    (hcmp : Compares ρ base size cmp cmp') (rounds : Nat) (h : Alike ρ base s s')
    (hle : size ≤ s.cells.size) {items : List Value} (hitems : Sound s.cells.size items) :
    Mirrors ρ base s s' (mergeSortTo cmp rounds items)
      (mergeSortTo cmp' rounds (rename ρ items)) := by
  induction rounds generalizing items s s' with
  | zero => exact mirrors_pure h hitems
  | succ rounds ih =>
    have hlength : (rename ρ items).length = items.length := List.length_map _
    unfold mergeSortTo
    rw [hlength]
    split
    · exact mirrors_pure h hitems
    · rw [show (rename ρ items).take (items.length / 2) = rename ρ (items.take (items.length / 2))
          from List.map_take.symm,
        show (rename ρ items).drop (items.length / 2) = rename ρ (items.drop (items.length / 2))
          from List.map_drop.symm]
      refine (ih h hle fun v hv => hitems v (List.mem_of_mem_take hv)).bind
        fun left t t' ht hle' hl => ?_
      have hle := hle.trans hle'
      refine (ih ht hle fun v hv => (hitems v (List.mem_of_mem_drop hv)).mono hle').bind
        fun right u u' hu hle'' hr => ?_
      have hall : Sound u.cells.size ([] ++ left ++ right) := fun v hv => by
        rcases List.mem_append.1 (by simpa using hv) with hv | hv
        · exact (hl v hv).mono hle''
        · exact hr v hv
      have hmerge := mirrors_mergeFrom hcmp (left.length + right.length) hu (hle.trans hle'') hall
      unfold merge
      rw [show (rename ρ left).length = left.length from List.length_map _,
        show (rename ρ right).length = right.length from List.length_map _]
      exact hmerge

theorem mirrors_sort (hcall : Equivariant ρ base call) (h : Alike ρ base s s') (xs : Value)
    {f : Option Value} (hf : Sound s.cells.size f) :
    Mirrors ρ base s s' (sort ctx call xs f offset)
      (sort ctx call (xs.renamed ρ) (rename ρ f) offset) := by
  refine (mirrors_itemsOf h xs).bind fun items t t' ht hle hitems => ?_
  rw [rename_toList]
  have hsorted {cmp cmp' : Value → Value → EvalM Ordering} {u u' : Session}
      (hcmp : Compares ρ base u.cells.size cmp cmp') (hu : Alike ρ base u u')
      (hle : t.cells.size ≤ u.cells.size) :
      Mirrors ρ base u u' (mergeSort cmp items.toList >>= newList)
        (mergeSort cmp' (rename ρ items.toList) >>= newList) := by
    unfold mergeSort
    rw [show (rename ρ items.toList).length = items.toList.length from List.length_map _]
    exact (mirrors_mergeSortTo hcmp _ hu le_rfl (sound_mono hle (sound_toList hitems))).bind
      fun vs w w' hw _ hvs => mirrors_newList hw hvs
  cases f with
  | none =>
    refine hsorted (fun u u' v w hu _ _ _ => ?_) ht le_rfl
    show Mirrors ρ base u u' (liftM (compareValues ctx v w offset))
      (liftM (compareValues ctx (v.renamed ρ) (w.renamed ρ) offset))
    rw [compareValues_renamed]
    exact mirrors_lift hu (fun _ _ => trivial) (by cases compareValues ctx v w offset <;> rfl)
  | some f =>
    refine (mirrors_asCallable ht ((hf f rfl).mono hle)).bind fun f u u' hu hle' hf => ?_
    have horder : Compares ρ base u.cells.size (orderBy call f offset)
        (orderBy call (f.renamed ρ) offset) := by
      intro w w' x y hw hle hx hy
      refine (hcall hw (hf.mono hle) (sound_pair hx hy)).bind fun v z z' hz _ _ => ?_
      exact mirrors_lift_bind hz (Value.asNumber_renamed v) fun x _ => mirrors_pure hz trivial
    rw [show (rename ρ f).declaredArity? = f.declaredArity? from Value.declaredArity?_renamed ρ f]
    split
    · exact hsorted horder hu hle'
    · exact hsorted horder hu hle'
    · exact mirrors_fail hu _

/-! ## Changes of cells -/

theorem mirrors_push (h : Alike ρ base s s') {xs : Value} {more : List Value}
    (hxs : xs.Sound s.cells.size) (hmore : Sound s.cells.size more) :
    Mirrors ρ base s s' (push xs more offset) (push (xs.renamed ρ) (rename ρ more) offset) := by
  cases xs with
  | array c =>
    have hend : Alike ρ base (s.withItems c more) (s'.withItems (ρ.cell c) (rename ρ more)) :=
      ⟨h.embeds.withItems h.tidy c fun v hv => (hmore v hv).within,
        h.tidy.withItems (Value.sound_array.1 hxs) hmore⟩
    have hle : s.cells.size ≤ (s.withItems c more).cells.size :=
      ((Session.extends_copyList more s).setCell c _).size_le
    show Mirrored ρ base s.cells.size (push (.array c) more offset s)
      (push (.array (ρ.cell c)) (rename ρ more) offset s')
    rw [push_array, push_array]
    exact .ok (x := Value.array c) hend hle (hxs.mono hle)
  | _ => exact mirrors_fail h _

theorem mirrors_pop (h : Alike ρ base s s') {xs : Value} (hxs : xs.Sound s.cells.size) :
    Mirrors ρ base s s' (pop xs offset) (pop (xs.renamed ρ) offset) := by
  cases xs with
  | array c =>
    have hend : Alike ρ base (s.withoutLast c) (s'.withoutLast (ρ.cell c)) :=
      ⟨h.embeds.withoutLast c, h.tidy.withoutLast (Value.sound_array.1 hxs)⟩
    have hle : s.cells.size ≤ (s.withoutLast c).cells.size :=
      ((Session.extends_refl s).setCell c _).size_le
    have hvalue : (s'.items (ρ.cell c)).back?.getD .null =
        ((s.items c).back?.getD .null).renamed ρ := by
      rw [h.embeds.items_renamed, show (rename ρ (s.items c)).back? =
        (s.items c).back?.map (Value.renamed ρ) from Array.back?_map]
      exact Value.getD_renamed _ .null
    show Mirrored ρ base s.cells.size (.ok ((s.items c).back?.getD .null) (s.withoutLast c))
      (.ok ((s'.items (ρ.cell c)).back?.getD .null) (s'.withoutLast (ρ.cell c)))
    rw [hvalue]
    refine .ok (x := (s.items c).back?.getD .null) hend hle (sound_getD fun v hv => ?_)
    exact (h.tidy.sound.item (Array.mem_of_back? hv)).mono hle
  | _ => exact mirrors_fail h _

theorem mirrors_put (h : Alike ρ base s s') {o v : Value} (key : Value)
    (ho : o.Sound s.cells.size) (hv : v.Sound s.cells.size) :
    Mirrors ρ base s s' (put o key v offset)
      (put (o.renamed ρ) (key.renamed ρ) (v.renamed ρ) offset) := by
  cases o with
  | object c =>
    refine mirrors_ok_bind (mirrors_lift_bind h (Value.asKey_renamed key) fun k _ => ?_)
    have hend : Alike ρ base (s.withEntry c k v) (s'.withEntry (ρ.cell c) k (v.renamed ρ)) :=
      ⟨h.embeds.withEntry h.tidy c k hv.within, h.tidy.withEntry (Value.sound_object.1 ho) k hv⟩
    have hle : s.cells.size ≤ (s.withEntry c k v).cells.size :=
      ((Session.extends_copyTo _ v s).setCell c _).size_le
    exact .ok (x := Value.object c) hend hle (ho.mono hle)
  | _ => exact mirrors_fail h _

/-! ## Arrays without callbacks -/

theorem mirrors_first (h : Alike ρ base s s') (xs : Value) :
    Mirrors ρ base s s' (first xs offset) (first (xs.renamed ρ) offset) := by
  refine (mirrors_itemsOf h xs).bind fun items t t' ht _ hitems => ?_
  have hvalue : (rename ρ items)[0]?.getD .null = rename ρ (items[0]?.getD .null) := by
    rw [show (rename ρ items)[0]? = items[0]?.map (Value.renamed ρ) from Array.getElem?_map]
    exact Value.getD_renamed _ .null
  rw [hvalue]
  exact mirrors_pure ht (sound_getD fun v hv => hitems v (Array.mem_of_getElem? hv))

theorem mirrors_last (h : Alike ρ base s s') (xs : Value) :
    Mirrors ρ base s s' (last xs offset) (last (xs.renamed ρ) offset) := by
  refine (mirrors_itemsOf h xs).bind fun items t t' ht _ hitems => ?_
  have hvalue : (rename ρ items).back?.getD .null = rename ρ (items.back?.getD .null) := by
    rw [show (rename ρ items).back? = items.back?.map (Value.renamed ρ) from Array.back?_map]
    exact Value.getD_renamed _ .null
  rw [hvalue]
  exact mirrors_pure ht (sound_getD fun v hv => hitems v (Array.mem_of_back? hv))

theorem mirrors_reverse (h : Alike ρ base s s') (v : Value) :
    Mirrors ρ base s s' (reverse v offset) (reverse (v.renamed ρ) offset) := by
  have harray : Mirrors ρ base s s' (itemsOf v offset >>= fun items => newArray items.reverse)
      (itemsOf (v.renamed ρ) offset >>= fun items => newArray items.reverse) := by
    refine (mirrors_itemsOf h v).bind fun items t t' ht _ hitems => ?_
    rw [show (rename ρ items).reverse = rename ρ items.reverse from Array.map_reverse.symm]
    exact mirrors_newArray ht fun w hw => hitems w (Array.mem_reverse.1 hw)
  cases v with
  | string t => exact mirrors_pure_atomic h trivial
  | _ => exact harray

theorem mirrors_newList_of_atomic (h : Alike ρ base s s') {items : List Value}
    (hitems : ∀ v ∈ items, v.Atomic noCare) :
    Mirrors ρ base s s' (newList items) (newList items) := by
  have hnew := mirrors_newList h fun v hv => Value.sound_of_atomic (hitems v hv)
  rwa [show rename ρ items = items from
    (List.map_congr_left fun v hv => Value.renamed_of_atomic ρ (hitems v hv)).trans
      (List.map_id _)] at hnew

theorem mirrors_range (h : Alike ρ base s s') (args : List Value) :
    Mirrors ρ base s s' (range args offset) (range (rename ρ args) offset) := by
  have hitems (start stop step : Decimal) :
      Mirrors ρ base s s' (liftM (rangeItems start stop step offset) >>= newList)
        (liftM (rangeItems start stop step offset) >>= newList) :=
    have hatomic : Yields noCare offset _ (rangeItems start stop step offset) :=
      yields_rangeItems start stop step
    mirrors_lift_bind h rfl fun _ hitems => mirrors_newList_of_atomic h (hatomic.ok_of_eq hitems)
  have hnumbers : (rename ρ args).mapM (·.asNumber offset) =
      (args.mapM (·.asNumber offset) : Checked (List Decimal)) := by
    show (args.map _).mapM _ = _
    rw [List.mapM_map]
    exact congrArg args.mapM (funext fun v => Value.asNumber_renamed v)
  refine mirrors_lift_bind h hnumbers fun numbers _ => ?_
  split
  · exact hitems _ _ _
  · exact hitems _ _ _
  · exact hitems _ _ _
  · exact mirrors_fail h _

theorem mirrors_slice (h : Alike ρ base s s') (v start : Value) (stop : Option Value) :
    Mirrors ρ base s s' (slice v start stop offset)
      (slice (v.renamed ρ) (start.renamed ρ) (rename ρ stop) offset) := by
  have harray : Mirrors ρ base s s'
      (itemsOf v offset >>= fun items =>
        liftM (sliceBounds start stop items.size offset) >>= fun bounds =>
          newArray (items.extract bounds.1 bounds.2))
      (itemsOf (v.renamed ρ) offset >>= fun items =>
        liftM (sliceBounds (start.renamed ρ) (rename ρ stop) items.size offset) >>= fun bounds =>
          newArray (items.extract bounds.1 bounds.2)) := by
    refine (mirrors_itemsOf h v).bind fun items t t' ht _ hitems => ?_
    rw [show (rename ρ items).size = items.size from Array.size_map]
    refine mirrors_lift_bind ht (sliceBounds_renamed start stop _) fun bounds _ => ?_
    rw [show (rename ρ items).extract bounds.1 bounds.2 =
      rename ρ (items.extract bounds.1 bounds.2) from Array.map_extract.symm]
    refine mirrors_newArray ht fun w hw => ?_
    obtain ⟨k, hk, rfl⟩ := Array.mem_extract_iff_getElem.1 hw
    exact hitems _ (Array.getElem_mem _)
  cases v with
  | string t =>
    exact mirrors_lift_bind h (sliceBounds_renamed start stop _) fun _ _ =>
      mirrors_pure_atomic h trivial
  | _ => exact harray

theorem mirrors_newArray_flatMap (h : Alike ρ base s s') {f f' : Value → Array Value}
    {items : Array Value} (hf : ∀ v, f' (v.renamed ρ) = rename ρ (f v))
    (hitems : Sound s.cells.size (items.flatMap f)) :
    Mirrors ρ base s s' (newArray (items.flatMap f)) (newArray ((rename ρ items).flatMap f')) := by
  have hflat : (rename ρ items).flatMap f' = rename ρ (items.flatMap f) := by
    show (items.map _).flatMap f' = (items.flatMap f).map _
    rw [Array.flatMap_map, Array.map_flatMap]
    exact congrArg items.flatMap (funext hf)
  rw [hflat]
  exact mirrors_newArray h hitems

theorem mirrors_flatten (h : Alike ρ base s s') (xs : Value) :
    Mirrors ρ base s s' (flatten xs offset) (flatten (xs.renamed ρ) offset) := by
  refine (mirrors_itemsOf h xs).bind fun items t t' ht _ hitems => mirrors_get_bind ?_
  refine mirrors_newArray_flatMap ht (fun v => ?_) fun w hw => ?_
  · cases v with
    | array c => exact ht.embeds.items_renamed c
    | _ => exact Array.map_singleton.symm
  · obtain ⟨item, hitem, hw⟩ := Array.mem_flatMap.1 hw
    cases item with
    | array c => exact ht.tidy.sound.item hw
    | _ =>
      have heq := Array.mem_singleton.1 hw
      exact heq ▸ hitems _ hitem

theorem mirrors_unique (h : Alike ρ base s s') (xs : Value) :
    Mirrors ρ base s s' (unique xs offset) (unique (xs.renamed ρ) offset) := by
  refine (mirrors_itemsOf h xs).bind fun items t t' ht _ hitems => mirrors_get_bind ?_
  have hunique := uniqueFrom_renamed ht.embeds ht.tidy (sound_empty _) (sound_toList hitems)
  rw [rename_empty] at hunique
  rw [rename_toList, hunique]
  refine mirrors_newArray ht fun v hv => ?_
  rcases Discipline.mem_of_mem_uniqueFrom hv with hv | hv
  · exact absurd hv (Array.not_mem_empty v)
  · exact hitems v (Array.mem_toList_iff.1 hv)

end

end Reckoner
