import Reckoner.Proofs.Discipline.Basic
import Reckoner.Proofs.Value.Entries

/-!
# Functions on arrays keep a discipline

What reads and makes cells keeps a discipline, and so does each function on
arrays: called with values that fit, it gives a value that fits.

The functions that call back go through a list of items; their lemmas are by
induction on it, for any index and any accumulated result.

* `keeps_newArray`, `keeps_itemsOf` and the like: single reads and new cells.
* `keeps_map`, `keeps_sort`, `keeps_push` and so on: the functions.
-/

namespace Reckoner

namespace Discipline

open Eval

section

variable {D : Discipline} {sc : Option Nat} {s : Session} {offset : Nat} {ctx : Context}
  {call : Caller}

/-! ## Cells -/

theorem keeps_newArray (hD : D.Lawful) (hs : D.Holds s) {items : Array Value}
    (h : ∀ v ∈ items, D.Fits s v) : D.Keeps sc s (newArray items) D.Fits := by
  obtain ⟨step, hfits⟩ := hD.newArray hs h
  exact .ok (hD.widen step) hfits

theorem keeps_newList (hD : D.Lawful) (hs : D.Holds s) {items : List Value}
    (h : ∀ v ∈ items, D.Fits s v) : D.Keeps sc s (newList items) D.Fits :=
  keeps_newArray hD hs (by simpa using h)

theorem keeps_newObject (hD : D.Lawful) (hs : D.Holds s) {entries : Entries Value}
    (hkeys : entries.keys.Nodup) (h : ∀ v ∈ entries.values, D.Fits s v) :
    D.Keeps sc s (newObject entries) D.Fits := by
  obtain ⟨step, hfits⟩ := hD.newObject hs hkeys h
  exact .ok (hD.widen step) hfits

theorem keeps_newIdentity (hD : D.Lawful) (hs : D.Holds s) :
    D.Keeps sc s newIdentity fun _ _ => True :=
  .ok (hD.widen (hD.newIdentity hs)) trivial

theorem keeps_itemsOf (hD : D.Lawful) (hs : D.Holds s) (ho : D.FitsOffset offset) {v : Value}
    (hv : D.Fits s v) :
    D.Keeps sc s (itemsOf v offset) fun t items => t = s ∧ ∀ w ∈ items, D.Fits s w := by
  refine keeps_lift_bind hD hs ho (yields_asArray v) fun c hc => keeps_get_bind ?_
  subst hc
  exact keeps_pure hD hs ⟨rfl, fun w hw => hD.fits_item hs hv hw⟩

theorem keeps_entriesOf (hD : D.Lawful) (hs : D.Holds s) (ho : D.FitsOffset offset) {v : Value}
    (hv : D.Fits s v) :
    D.Keeps sc s (entriesOf v offset)
      fun t entries => t = s ∧ ∀ w ∈ entries.values, D.Fits s w := by
  refine keeps_lift_bind hD hs ho (yields_asObject v) fun c hc => keeps_get_bind ?_
  subst hc
  exact keeps_pure hD hs ⟨rfl, fun w hw => hD.fits_entry hs hv hw⟩

theorem keeps_isTrue (hD : D.Lawful) (hs : D.Holds s) (v : Value) :
    D.Keeps sc s (isTrue v) fun _ _ => True :=
  keeps_get_bind (keeps_pure hD hs trivial)

theorem keeps_textOf (hD : D.Lawful) (hs : D.Holds s) (v : Value) :
    D.Keeps sc s (textOf v) fun _ _ => True :=
  keeps_get_bind (keeps_pure hD hs trivial)

/-! ## Callbacks on each item -/

theorem keeps_callIndexed (hD : D.Lawful) (hcall : D.Calls call) (hs : D.Holds s)
    (ho : D.FitsOffset offset) {f item : Value} (hf : D.Fits s f) (hitem : D.Fits s item)
    (index : Nat) : D.Keeps none s (callIndexed call f item index offset) D.Fits := by
  unfold callIndexed
  split
  · refine hcall hs hf ?_ ho
    simp only [List.mem_cons, List.not_mem_nil, or_false, forall_eq_or_imp, forall_eq]
    exact ⟨hitem, hD.fits_atomic trivial⟩
  · refine hcall hs hf ?_ ho
    simpa using hitem

theorem keeps_testIndexed (hD : D.Lawful) (hcall : D.Calls call) (hs : D.Holds s)
    (ho : D.FitsOffset offset) {f item : Value} (hf : D.Fits s f) (hitem : D.Fits s item)
    (index : Nat) : D.Keeps none s (testIndexed call f item index offset) fun _ _ => True :=
  (keeps_callIndexed hD hcall hs ho hf hitem index).bind hD fun v _ step _ =>
    keeps_isTrue hD step.holds v

theorem keeps_functionAndItems (hD : D.Lawful) (hs : D.Holds s) (ho : D.FitsOffset offset)
    {xs f : Value} (hxs : D.Fits s xs) (hf : D.Fits s f) :
    D.Keeps sc s (functionAndItems xs f offset)
      fun t p => t = s ∧ D.Fits s p.1 ∧ ∀ v ∈ p.2, D.Fits s v := by
  refine keeps_lift_bind hD hs ho (yields_asCallable f) fun f' hf' => ?_
  subst hf'
  refine (keeps_itemsOf hD hs ho hxs).bind hD fun items t _ h => ?_
  obtain ⟨rfl, hitems⟩ := h
  exact keeps_pure hD hs ⟨rfl, hf, by simpa using hitems⟩

theorem keeps_mapFrom (hD : D.Lawful) (hcall : D.Calls call) (ho : D.FitsOffset offset)
    {f : Value} {items : List Value} {done : Array Value} (index : Nat) (hs : D.Holds s)
    (hf : D.Fits s f) (hdone : ∀ v ∈ done, D.Fits s v) (hitems : ∀ v ∈ items, D.Fits s v) :
    D.Keeps none s (mapFrom call f offset index done items)
      fun t vs => ∀ v ∈ vs, D.Fits t v := by
  induction items generalizing index done s with
  | nil => exact keeps_pure hD hs hdone
  | cons item rest ih =>
    refine (keeps_callIndexed hD hcall hs ho hf (hitems item List.mem_cons_self) index).bind hD
      fun v t step hv => ?_
    refine ih (index + 1) step.holds (hD.still step hf) ?_
      fun w hw => hD.still step (hitems w (List.mem_cons_of_mem _ hw))
    intro w hw
    rcases Array.mem_push.1 hw with hw | rfl
    · exact hD.still step (hdone w hw)
    · exact hv

theorem keeps_map (hD : D.Lawful) (hcall : D.Calls call) (hs : D.Holds s)
    (ho : D.FitsOffset offset) {xs f : Value} (hxs : D.Fits s xs) (hf : D.Fits s f) :
    D.Keeps none s (map call xs f offset) D.Fits := by
  refine (keeps_functionAndItems hD hs ho hxs hf).bind hD fun p t _ h => ?_
  obtain ⟨rfl, hf, hitems⟩ := h
  refine (keeps_mapFrom hD hcall ho 0 hs hf (by simp) hitems).bind hD fun vs t step hvs => ?_
  exact keeps_newArray hD step.holds hvs

theorem keeps_filterFrom (hD : D.Lawful) (hcall : D.Calls call) (ho : D.FitsOffset offset)
    {f : Value} {items : List Value} {kept : Array Value} (index : Nat) (hs : D.Holds s)
    (hf : D.Fits s f) (hkept : ∀ v ∈ kept, D.Fits s v) (hitems : ∀ v ∈ items, D.Fits s v) :
    D.Keeps none s (filterFrom call f offset index kept items)
      fun t vs => ∀ v ∈ vs, D.Fits t v := by
  induction items generalizing index kept s with
  | nil => exact keeps_pure hD hs hkept
  | cons item rest ih =>
    have hitem := hitems item List.mem_cons_self
    refine (keeps_testIndexed hD hcall hs ho hf hitem index).bind hD fun holds t step _ => ?_
    refine ih (index + 1) step.holds (hD.still step hf) ?_
      fun w hw => hD.still step (hitems w (List.mem_cons_of_mem _ hw))
    intro w hw
    split at hw
    · rcases Array.mem_push.1 hw with hw | rfl
      · exact hD.still step (hkept w hw)
      · exact hD.still step hitem
    · exact hD.still step (hkept w hw)

theorem keeps_filter (hD : D.Lawful) (hcall : D.Calls call) (hs : D.Holds s)
    (ho : D.FitsOffset offset) {xs f : Value} (hxs : D.Fits s xs) (hf : D.Fits s f) :
    D.Keeps none s (filter call xs f offset) D.Fits := by
  refine (keeps_functionAndItems hD hs ho hxs hf).bind hD fun p t _ h => ?_
  obtain ⟨rfl, hf, hitems⟩ := h
  refine (keeps_filterFrom hD hcall ho 0 hs hf (by simp) hitems).bind hD fun vs t step hvs => ?_
  exact keeps_newArray hD step.holds hvs

/-- A fold of a list whose values fit, with a step that keeps the discipline. -/
theorem keeps_foldlM (hD : D.Lawful) {f : Value → Value → EvalM Value} {items : List Value}
    {start : Value} (hf : ∀ {t acc v}, D.Holds t → D.Fits t acc → D.Fits t v → v ∈ items →
      D.Step none s t → D.Keeps none t (f acc v) D.Fits)
    (hs : D.Holds s) (hstart : D.Fits s start) (hitems : ∀ v ∈ items, D.Fits s v) :
    D.Keeps none s (items.foldlM f start) D.Fits := by
  suffices h : ∀ (rest : List Value) (t : Session) (acc : Value), rest ⊆ items → D.Step none s t →
      D.Fits t acc → D.Keeps none t (rest.foldlM f acc) D.Fits from
    h items s start (List.Subset.refl _) (hD.refl hs) hstart
  intro rest
  induction rest with
  | nil => exact fun t acc _ step hacc => keeps_pure hD step.holds hacc
  | cons v rest ih =>
    intro t acc hsub step hacc
    have hv := hsub List.mem_cons_self
    rw [List.foldlM_cons]
    refine (hf step.holds hacc (hD.still step (hitems v hv)) hv step).bind hD
      fun w u step' hw => ?_
    exact ih u w (fun x hx => hsub (List.mem_cons_of_mem _ hx)) (hD.trans step step') hw

theorem keeps_reduce (hD : D.Lawful) (hcall : D.Calls call) (hs : D.Holds s)
    (ho : D.FitsOffset offset) {xs f : Value} {start : Option Value} (hxs : D.Fits s xs)
    (hf : D.Fits s f) (hstart : ∀ v ∈ start, D.Fits s v) :
    D.Keeps none s (reduce call xs f start offset) D.Fits := by
  refine (keeps_functionAndItems hD hs ho hxs hf).bind hD fun p t _ h => ?_
  obtain ⟨rfl, hf, hitems⟩ := h
  have hstep {u : Session} {acc v : Value} (hu : D.Holds u) (hacc : D.Fits u acc)
      (hv : D.Fits u v) (step : D.Step none t u) :
      D.Keeps none u (call p.1 [acc, v] offset) D.Fits := by
    refine hcall hu (hD.still step hf) ?_ ho
    simp only [List.mem_cons, List.not_mem_nil, or_false, forall_eq_or_imp, forall_eq]
    exact ⟨hacc, hv⟩
  rcases p with ⟨f', items⟩
  cases start with
  | some start =>
    exact keeps_foldlM hD (fun hu hacc hv _ step => hstep hu hacc hv step) hs
      (hstart start rfl) hitems
  | none =>
    cases items with
    | nil => exact keeps_fail hD hs ho rfl
    | cons first rest =>
      exact keeps_foldlM hD (fun hu hacc hv _ step => hstep hu hacc hv step) hs
        (hitems first List.mem_cons_self) fun v hv => hitems v (List.mem_cons_of_mem _ hv)

theorem keeps_findFrom (hD : D.Lawful) (hcall : D.Calls call) (ho : D.FitsOffset offset)
    {f : Value} {items : List Value} (wanted : Bool) (index : Nat) (hs : D.Holds s)
    (hf : D.Fits s f) (hitems : ∀ v ∈ items, D.Fits s v) :
    D.Keeps none s (findFrom call f wanted offset index items)
      fun t v? => ∀ v ∈ v?, D.Fits t v := by
  induction items generalizing index s with
  | nil => exact keeps_pure hD hs (by simp)
  | cons item rest ih =>
    have hitem := hitems item List.mem_cons_self
    refine (keeps_testIndexed hD hcall hs ho hf hitem index).bind hD fun holds t step _ => ?_
    split
    · exact keeps_pure hD step.holds (by simpa using hD.still step hitem)
    · exact ih (index + 1) step.holds (hD.still step hf)
        fun w hw => hD.still step (hitems w (List.mem_cons_of_mem _ hw))

/-- A value that may be missing, or null in its place. -/
theorem Lawful.fits_getD (hD : D.Lawful) {v? : Option Value} (h : ∀ v ∈ v?, D.Fits s v) :
    D.Fits s (v?.getD .null) := by
  cases v? with
  | none => exact hD.fits_atomic trivial
  | some v => exact h v rfl

theorem keeps_find (hD : D.Lawful) (hcall : D.Calls call) (hs : D.Holds s)
    (ho : D.FitsOffset offset) {xs f : Value} (hxs : D.Fits s xs) (hf : D.Fits s f) :
    D.Keeps none s (find call xs f offset) D.Fits := by
  refine (keeps_functionAndItems hD hs ho hxs hf).bind hD fun p t _ h => ?_
  obtain ⟨rfl, hf, hitems⟩ := h
  refine (keeps_findFrom hD hcall ho true 0 hs hf hitems).bind hD fun v? t step hv => ?_
  exact keeps_pure hD step.holds (hD.fits_getD hv)

theorem keeps_every (hD : D.Lawful) (hcall : D.Calls call) (hs : D.Holds s)
    (ho : D.FitsOffset offset) {xs f : Value} (hxs : D.Fits s xs) (hf : D.Fits s f) :
    D.Keeps none s (every call xs f offset) D.Fits := by
  refine (keeps_functionAndItems hD hs ho hxs hf).bind hD fun p t _ h => ?_
  obtain ⟨rfl, hf, hitems⟩ := h
  refine (keeps_findFrom hD hcall ho false 0 hs hf hitems).bind hD fun v? t step _ => ?_
  exact keeps_pure hD step.holds (hD.fits_atomic trivial)

theorem keeps_any (hD : D.Lawful) (hcall : D.Calls call) (hs : D.Holds s)
    (ho : D.FitsOffset offset) {xs f : Value} (hxs : D.Fits s xs) (hf : D.Fits s f) :
    D.Keeps none s (any call xs f offset) D.Fits := by
  refine (keeps_functionAndItems hD hs ho hxs hf).bind hD fun p t _ h => ?_
  obtain ⟨rfl, hf, hitems⟩ := h
  refine (keeps_findFrom hD hcall ho true 0 hs hf hitems).bind hD fun v? t step _ => ?_
  exact keeps_pure hD step.holds (hD.fits_atomic trivial)

theorem keeps_count (hD : D.Lawful) (hcall : D.Calls call) (hs : D.Holds s)
    (ho : D.FitsOffset offset) {xs : Value} {f : Option Value} (hxs : D.Fits s xs)
    (hf : ∀ v ∈ f, D.Fits s v) : D.Keeps none s (count call xs f offset) D.Fits := by
  refine (keeps_itemsOf hD hs ho hxs).bind hD fun items t _ h => ?_
  obtain ⟨rfl, hitems⟩ := h
  cases f with
  | none => exact keeps_pure hD hs (hD.fits_atomic trivial)
  | some f =>
    refine keeps_lift_bind hD hs ho (yields_asCallable f) fun f' hf' => ?_
    subst hf'
    refine (keeps_filterFrom hD hcall ho 0 hs (hf f' rfl) (by simp) (by simpa using hitems)).bind
      hD fun vs t step _ => ?_
    exact keeps_pure hD step.holds (hD.fits_atomic trivial)

/-! ## Groups -/

theorem keeps_groupFrom (hD : D.Lawful) (hcall : D.Calls call) (ho : D.FitsOffset offset)
    {f : Value} {items : List Value} {groups : Entries (Array Value)} (index : Nat)
    (hs : D.Holds s) (hf : D.Fits s f) (hkeys : groups.keys.Nodup)
    (hgroups : ∀ members ∈ groups.values, ∀ v ∈ members, D.Fits s v)
    (hitems : ∀ v ∈ items, D.Fits s v) :
    D.Keeps none s (groupFrom call f offset index groups items)
      fun t gs => gs.keys.Nodup ∧ ∀ members ∈ gs.values, ∀ v ∈ members, D.Fits t v := by
  induction items generalizing index groups s with
  | nil => exact keeps_pure hD hs ⟨hkeys, hgroups⟩
  | cons item rest ih =>
    have hitem := hitems item List.mem_cons_self
    refine (keeps_callIndexed hD hcall hs ho hf hitem index).bind hD fun key t step _ => ?_
    -- the groups with one more item, whatever its key
    have hadd (k : String) : ∀ members ∈ (addToGroup groups k item).values,
        ∀ v ∈ members, D.Fits t v := by
      refine Entries.forall_values_insert ?_ fun members hm v hv =>
        hD.still step (hgroups members hm v hv)
      intro v hv
      rcases Array.mem_push.1 hv with hv | rfl
      · cases hk : groups.find? k with
        | none => simp [hk] at hv
        | some members =>
          rw [hk] at hv
          exact hD.still step (hgroups members (Entries.mem_values_of_find? hk) v hv)
      · exact hD.still step hitem
    split
    · exact keeps_fail hD step.holds ho rfl
    · refine (keeps_textOf hD step.holds _).bind hD fun k u step' _ => ?_
      have step := hD.trans step step'
      refine ih (index + 1) step.holds (hD.still step hf) (Entries.nodup_keys_insert hkeys) ?_
        fun w hw => hD.still step (hitems w (List.mem_cons_of_mem _ hw))
      exact fun members hm v hv => hD.still step' (hadd k members hm v hv)

theorem keeps_groupArrays (hD : D.Lawful) (hs : D.Holds s) {groups : Entries (Array Value)}
    (hgroups : ∀ members ∈ groups.values, ∀ v ∈ members, D.Fits s v) :
    D.Keeps none s (groups.mapM fun (key, members) => do return (key, ← newArray members))
      fun t (entries : Entries Value) =>
        entries.keys = groups.keys ∧ ∀ v ∈ entries.values, D.Fits t v := by
  induction groups generalizing s with
  | nil => exact keeps_pure hD hs ⟨rfl, by simp [Entries.values]⟩
  | cons group rest ih =>
    rcases group with ⟨key, members⟩
    rw [List.mapM_cons]
    have hfirst : D.Keeps none s (do return (key, ← newArray members))
        fun t e => e.1 = key ∧ D.Fits t e.2 :=
      (keeps_newArray hD hs (hgroups members List.mem_cons_self)).bind hD fun v t step hv =>
        keeps_pure hD step.holds ⟨rfl, hv⟩
    refine hfirst.bind hD fun e t step h => ?_
    obtain ⟨hkey, he⟩ := h
    refine (ih step.holds fun members' hm v hv =>
      hD.still step (hgroups members' (List.mem_cons_of_mem _ hm) v hv)).bind hD
      fun es u step' h' => ?_
    obtain ⟨hkeys, hes⟩ := h'
    refine keeps_pure hD step'.holds ⟨?_, ?_⟩
    · show e.1 :: Entries.keys es = key :: Entries.keys rest
      rw [hkey, hkeys]
    · intro v hv
      rcases List.mem_cons.1 hv with rfl | hv
      · exact hD.still step' he
      · exact hes v hv

theorem keeps_groupBy (hD : D.Lawful) (hcall : D.Calls call) (hs : D.Holds s)
    (ho : D.FitsOffset offset) {xs f : Value} (hxs : D.Fits s xs) (hf : D.Fits s f) :
    D.Keeps none s (groupBy call xs f offset) D.Fits := by
  refine (keeps_functionAndItems hD hs ho hxs hf).bind hD fun p t _ h => ?_
  obtain ⟨rfl, hf, hitems⟩ := h
  refine (keeps_groupFrom hD hcall ho 0 hs hf Entries.nodup_keys_nil
    (by simp [Entries.values]) hitems).bind hD fun groups t step h => ?_
  obtain ⟨hkeys, hgroups⟩ := h
  refine (keeps_groupArrays hD step.holds hgroups).bind hD fun entries u step' h => ?_
  obtain ⟨heq, hentries⟩ := h
  exact keeps_newObject hD step'.holds (heq ▸ hkeys) hentries

/-! ## Sorting -/

/-- A comparison of values that fit keeps the discipline. -/
def Compares (D : Discipline) (s : Session) (cmp : Value → Value → EvalM Ordering) : Prop :=
  ∀ {t x y}, D.Step none s t → D.Fits t x → D.Fits t y →
    D.Keeps none t (cmp x y) fun _ _ => True

theorem keeps_mergeFrom (hD : D.Lawful) {cmp : Value → Value → EvalM Ordering}
    (hcmp : D.Compares s cmp) (rounds : Nat) {t : Session} {done left right : List Value}
    (step : D.Step none s t) (h : ∀ v ∈ done ++ left ++ right, D.Fits t v) :
    D.Keeps none t (mergeFrom cmp rounds done left right)
      fun u vs => ∀ v ∈ vs, D.Fits u v := by
  induction rounds generalizing t done left right with
  | zero =>
    unfold mergeFrom
    exact keeps_pure hD step.holds (by simpa using h)
  | succ rounds ih =>
    cases left with
    | nil =>
      unfold mergeFrom
      exact keeps_pure hD step.holds (by simpa using h)
    | cons x left =>
      cases right with
      | nil =>
        unfold mergeFrom
        exact keeps_pure hD step.holds (by simpa using h)
      | cons y right =>
        refine (hcmp step (h x (by simp)) (h y (by simp))).bind hD fun order u step' _ => ?_
        have hu (v : Value) (hv : v ∈ done ++ (x :: left) ++ (y :: right)) : D.Fits u v :=
          hD.still step' (h v hv)
        split
        · exact ih (hD.trans step step') fun v hv => hu v (by grind)
        · exact ih (hD.trans step step') fun v hv => hu v (by grind)

theorem keeps_mergeSortTo (hD : D.Lawful) {cmp : Value → Value → EvalM Ordering}
    (hcmp : D.Compares s cmp) (rounds : Nat) {t : Session} {items : List Value}
    (step : D.Step none s t) (h : ∀ v ∈ items, D.Fits t v) :
    D.Keeps none t (mergeSortTo cmp rounds items) fun u vs => ∀ v ∈ vs, D.Fits u v := by
  induction rounds generalizing t items with
  | zero => exact keeps_pure hD step.holds h
  | succ rounds ih =>
    unfold mergeSortTo
    split
    · exact keeps_pure hD step.holds h
    · refine (ih step fun v hv => h v (List.mem_of_mem_take hv)).bind hD fun left u step' hl => ?_
      have step := hD.trans step step'
      refine (ih step fun v hv => hD.still step' (h v (List.mem_of_mem_drop hv))).bind hD
        fun right w step'' hr => ?_
      refine keeps_mergeFrom hD hcmp _ (hD.trans step step'') ?_
      intro v hv
      rcases List.mem_append.1 (by simpa using hv) with hv | hv
      · exact hD.still step'' (hl v hv)
      · exact hr v hv

theorem keeps_sort (hD : D.Lawful) (hcall : D.Calls call) (hs : D.Holds s)
    (ho : D.FitsOffset offset) {xs : Value} {f : Option Value} (hxs : D.Fits s xs)
    (hf : ∀ v ∈ f, D.Fits s v) : D.Keeps none s (sort ctx call xs f offset) D.Fits := by
  refine (keeps_itemsOf hD hs ho hxs).bind hD fun items t _ h => ?_
  obtain ⟨rfl, hitems⟩ := h
  replace hitems : ∀ v ∈ items.toList, D.Fits t v := by simpa using hitems
  have hsorted {cmp : Value → Value → EvalM Ordering} (hcmp : D.Compares t cmp) :
      D.Keeps none t (mergeSort cmp items.toList >>= newList) D.Fits :=
    (keeps_mergeSortTo hD hcmp _ (hD.refl hs) hitems).bind hD fun vs u step hvs =>
      keeps_newList hD step.holds hvs
  cases f with
  | none =>
    exact hsorted fun step hx hy => keeps_lift hD step.holds ho
      (yields_compareValues (hD.measured_of_fits hx) (hD.measured_of_fits hy)) fun _ _ => trivial
  | some f =>
    refine keeps_lift_bind hD hs ho (yields_asCallable f) fun f' hf' => ?_
    subst hf'
    have horder : D.Compares t (orderBy call f' offset) := by
      intro u x y step hx hy
      refine (hcall step.holds (hD.still step (hf f' rfl)) ?_ ho).bind hD fun v w step' hv => ?_
      · simp only [List.mem_cons, List.not_mem_nil, or_false, forall_eq_or_imp, forall_eq]
        exact ⟨hx, hy⟩
      · exact keeps_lift_bind hD step'.holds ho (yields_asNumber v) fun _ _ =>
          keeps_pure hD step'.holds trivial
    split
    · exact hsorted horder
    · exact hsorted horder
    · exact keeps_fail hD hs ho rfl

/-! ## Changes of cells -/

theorem mapM_copy (more : List Value) :
    (more.mapM copy : EvalM (List Value)) s =
      .ok (Session.copyList more s).1 (Session.copyList more s).2 := by
  induction more generalizing s with
  | nil => rfl
  | cons v rest ih =>
    rw [List.mapM_cons]
    show (rest.mapM copy >>= fun ws => pure ((Session.copy v s).1 :: ws) : EvalM (List Value))
      (Session.copy v s).2 = _
    rw [bind_of_ok ih]
    rfl

theorem keeps_push (hD : D.Lawful) (hb : D.Allows .push ∨ D.Allows .append) (hs : D.Holds s)
    (ho : D.FitsOffset offset) {xs : Value} {more : List Value} (hxs : D.Fits s xs)
    (hmore : ∀ v ∈ more, D.Fits s v) : D.Keeps none s (push xs more offset) D.Fits := by
  refine keeps_lift_bind hD hs ho (yields_asArray xs) fun c hc => ?_
  subst hc
  have step := hD.withItems hb hs hxs hmore
  show D.Ends none s D.Fits ((more.mapM copy >>= _ : EvalM Value) s)
  rw [bind_of_ok (mapM_copy more)]
  exact .ok step (hD.still step hxs)

theorem keeps_pop (hD : D.Lawful) (hb : D.Allows .pop) (hs : D.Holds s)
    (ho : D.FitsOffset offset) {xs : Value} (hxs : D.Fits s xs) :
    D.Keeps none s (pop xs offset) D.Fits := by
  refine keeps_lift_bind hD hs ho (yields_asArray xs) fun c hc => ?_
  subst hc
  have step := hD.withoutLast hb hs hxs
  refine .ok step (hD.fits_getD fun v hv => hD.still step (hD.fits_item hs hxs ?_))
  exact Array.mem_of_back? hv

theorem keeps_put (hD : D.Lawful) (hb : D.Allows .put) (hs : D.Holds s)
    (ho : D.FitsOffset offset) {o key v : Value} (hobj : D.Fits s o) (hv : D.Fits s v) :
    D.Keeps none s (put o key v offset) D.Fits := by
  refine keeps_lift_bind hD hs ho (yields_asObject o) fun c hc => ?_
  subst hc
  refine keeps_lift_bind hD hs ho (yields_asKey key) fun k _ => ?_
  have step : D.Step none s (s.withEntry c k v) := hD.withEntry hb hs hobj hv
  exact .ok step (hD.still step hobj)

/-! ## Arrays without callbacks -/

theorem keeps_first (hD : D.Lawful) (hs : D.Holds s) (ho : D.FitsOffset offset) {xs : Value}
    (hxs : D.Fits s xs) : D.Keeps none s (first xs offset) D.Fits := by
  refine (keeps_itemsOf hD hs ho hxs).bind hD fun items t _ h => ?_
  obtain ⟨rfl, hitems⟩ := h
  exact keeps_pure hD hs (hD.fits_getD fun v hv => hitems v (Array.mem_of_getElem? hv))

theorem keeps_last (hD : D.Lawful) (hs : D.Holds s) (ho : D.FitsOffset offset) {xs : Value}
    (hxs : D.Fits s xs) : D.Keeps none s (last xs offset) D.Fits := by
  refine (keeps_itemsOf hD hs ho hxs).bind hD fun items t _ h => ?_
  obtain ⟨rfl, hitems⟩ := h
  exact keeps_pure hD hs (hD.fits_getD fun v hv => hitems v (Array.mem_of_back? hv))

theorem keeps_reverse (hD : D.Lawful) (hs : D.Holds s) (ho : D.FitsOffset offset) {v : Value}
    (hv : D.Fits s v) : D.Keeps none s (reverse v offset) D.Fits := by
  unfold reverse
  split
  · exact keeps_pure hD hs (hD.fits_atomic trivial)
  · refine (keeps_itemsOf hD hs ho hv).bind hD fun items t _ h => ?_
    obtain ⟨rfl, hitems⟩ := h
    exact keeps_newArray hD hs (by simpa using hitems)

theorem keeps_range (hD : D.Lawful) (hs : D.Holds s) (ho : D.FitsOffset offset)
    (args : List Value) : D.Keeps none s (range args offset) D.Fits := by
  have hitems (start stop step : Decimal) :
      D.Keeps none s (liftM (rangeItems start stop step offset) >>= newList) D.Fits :=
    keeps_lift_bind hD hs ho (yields_rangeItems start stop step) fun items hitems =>
      keeps_newList hD hs fun v hv => hD.fits_atomic (hitems v hv)
  refine keeps_lift_bind hD hs ho (yields_mapM fun v _ => yields_asNumber v |>.imp
    (fun _ _ => trivial : ∀ x, v = .number x → True)) fun numbers _ => ?_
  split
  · exact hitems _ _ _
  · exact hitems _ _ _
  · exact hitems _ _ _
  · exact keeps_fail hD hs ho rfl

theorem keeps_slice (hD : D.Lawful) (hs : D.Holds s) (ho : D.FitsOffset offset)
    {v : Value} (hv : D.Fits s v) (start : Value) (stop : Option Value) :
    D.Keeps none s (slice v start stop offset) D.Fits := by
  unfold slice
  split
  · exact keeps_lift_bind hD hs ho (yields_sliceBounds start stop _) fun _ _ =>
      keeps_pure hD hs (hD.fits_atomic trivial)
  · refine (keeps_itemsOf hD hs ho hv).bind hD fun items t _ h => ?_
    obtain ⟨rfl, hitems⟩ := h
    refine keeps_lift_bind hD hs ho (yields_sliceBounds start stop _) fun bounds _ => ?_
    refine keeps_newArray hD hs fun w hw => ?_
    obtain ⟨k, hk, rfl⟩ := Array.mem_extract_iff_getElem.1 hw
    exact hitems _ (Array.getElem_mem _)

theorem keeps_flatten (hD : D.Lawful) (hs : D.Holds s) (ho : D.FitsOffset offset) {xs : Value}
    (hxs : D.Fits s xs) : D.Keeps none s (flatten xs offset) D.Fits := by
  refine (keeps_itemsOf hD hs ho hxs).bind hD fun items t _ h => keeps_get_bind ?_
  obtain ⟨rfl, hitems⟩ := h
  refine keeps_newArray hD hs fun w hw => ?_
  obtain ⟨item, hitem, hw⟩ := Array.mem_flatMap.1 hw
  cases item with
  | array c => exact hD.fits_item hs (hitems _ hitem) hw
  | _ =>
    have heq := Array.mem_singleton.1 hw
    exact heq ▸ hitems _ hitem

theorem mem_of_mem_uniqueFrom {kept : Array Value} {items : List Value} {w : Value}
    (h : w ∈ uniqueFrom s kept items) : w ∈ kept ∨ w ∈ items := by
  induction items generalizing kept with
  | nil => exact .inl h
  | cons v rest ih =>
    unfold uniqueFrom at h
    split at h
    · exact (ih h).imp id (List.mem_cons_of_mem _)
    · rcases ih h with h | h
      · rcases Array.mem_push.1 h with h | rfl
        · exact .inl h
        · exact .inr List.mem_cons_self
      · exact .inr (List.mem_cons_of_mem _ h)

theorem keeps_unique (hD : D.Lawful) (hs : D.Holds s) (ho : D.FitsOffset offset) {xs : Value}
    (hxs : D.Fits s xs) : D.Keeps none s (unique xs offset) D.Fits := by
  refine (keeps_itemsOf hD hs ho hxs).bind hD fun items t _ h => keeps_get_bind ?_
  obtain ⟨rfl, hitems⟩ := h
  refine keeps_newArray hD hs fun w hw => ?_
  rcases mem_of_mem_uniqueFrom hw with hw | hw
  · simp at hw
  · exact hitems w (by simpa using hw)

end

end Discipline

end Reckoner
