import Reckoner.Proofs.Quantity.Size
import Reckoner.Proofs.Session.Ranks

/-!
# Other numbers for cells, scopes and functions

Cells and scopes are numbered as they are made, and functions get numbers for
identities.  A `Renaming` gives other numbers to all of them.

* `Value.renamed`: a value with other numbers.  What is not made of cells and
  functions is as it was (`Value.renamed_of_atomic`), and a value is of the same
  kind (`Value.kind_renamed`).
* `Renamable`: data in which values stand, with what becomes of it under a
  renaming and whether it is sound: its cells are there, and only functions are
  given arguments in advance.
* The lemmas on entries say that reading and inserting do not look at the
  numbers.
-/

namespace Reckoner

/-- Other numbers for cells, scopes and functions. -/
structure Renaming where
  cell : Nat → Nat
  scope : Nat → Nat
  identity : Nat → Nat

namespace Renaming

/-- Different things have different numbers. -/
structure Injective (ρ : Renaming) : Prop where
  cell : Function.Injective ρ.cell
  scope : Function.Injective ρ.scope
  identity : Function.Injective ρ.identity

/-- A renaming after another one. -/
def after (σ ρ : Renaming) : Renaming where
  cell := σ.cell ∘ ρ.cell
  scope := σ.scope ∘ ρ.scope
  identity := σ.identity ∘ ρ.identity

end Renaming

/-- A function that was made in a scope with another number. -/
def Closure.renamed (ρ : Renaming) (f : Closure) : Closure :=
  { f with scope := f.scope.map ρ.scope }

namespace Value

mutual

/-- A value with other numbers. -/
def renamed (ρ : Renaming) : Value → Value
  | array c => array (ρ.cell c)
  | object c => object (ρ.cell c)
  | closure i f => closure (ρ.identity i) (f.renamed ρ)
  | builtin i b => builtin (ρ.identity i) b
  | applied i callee bound => applied (ρ.identity i) (renamed ρ callee) (renamedList ρ bound)
  | number x => number x
  | quantity q => quantity q
  | string t => string t
  | bool b => bool b
  | null => null
  | date d => date d
  | markdown t => markdown t

/-- Values with other numbers. -/
def renamedList (ρ : Renaming) : List Value → List Value
  | [] => []
  | v :: rest => renamed ρ v :: renamedList ρ rest

end

theorem renamedList_eq_map (ρ : Renaming) (vs : List Value) :
    renamedList ρ vs = vs.map (renamed ρ) := by
  induction vs with
  | nil => rfl
  | cons v rest ih => rw [renamedList, ih, List.map_cons]

variable {ρ σ : Renaming} {v : Value}

@[simp] theorem renamed_applied (ρ : Renaming) (i : Nat) (callee : Value) (bound : List Value) :
    (applied i callee bound).renamed ρ =
      applied (ρ.identity i) (callee.renamed ρ) (bound.map (renamed ρ)) := by
  rw [renamed, renamedList_eq_map]

@[simp] theorem kind_renamed (ρ : Renaming) (v : Value) : (v.renamed ρ).kind = v.kind := by
  cases v <;> rfl

@[simp] theorem isCallable_renamed (ρ : Renaming) (v : Value) :
    (v.renamed ρ).isCallable = v.isCallable := by
  cases v <;> rfl

@[simp] theorem isNumeric_renamed (ρ : Renaming) (v : Value) :
    (v.renamed ρ).isNumeric = v.isNumeric := by
  cases v <;> rfl

theorem cell?_renamed (ρ : Renaming) (v : Value) :
    (v.renamed ρ).cell? = v.cell?.map ρ.cell := by
  cases v <;> rfl

theorem renamed_moved (ρ : Renaming) (v : Value) (c : Nat) :
    (v.moved c).renamed ρ = (v.renamed ρ).moved (ρ.cell c) := by
  cases v <;> rfl

/-- Values without cells and functions have no numbers. -/
theorem renamed_of_atomic {care : Care} (ρ : Renaming) (h : v.Atomic care) :
    v.renamed ρ = v := by
  cases v with
  | array c | object c | closure i f | builtin i b | applied i callee bound => exact h.elim
  | _ => rfl

@[simp] theorem declaredArity?_renamed (ρ : Renaming) (v : Value) :
    (v.renamed ρ).declaredArity? = v.declaredArity? := by
  fun_induction declaredArity? v with
  | case1 i f => rfl
  | case2 i callee bound ih => rw [renamed_applied, declaredArity?, ih, List.length_map]
  | case3 v hclosure happlied =>
    cases v with
    | closure i f => exact absurd rfl (hclosure i f)
    | applied i callee bound => exact absurd rfl (happlied i callee bound)
    | _ => rfl

mutual

theorem renamed_renamed (σ ρ : Renaming) (v : Value) :
    (v.renamed ρ).renamed σ = v.renamed (σ.after ρ) := by
  cases v with
  | closure i f => simp [renamed, Closure.renamed, Renaming.after, Option.map_map]
  | applied i callee bound =>
    simp only [renamed]
    rw [renamed_renamed σ ρ callee, renamedList_renamedList σ ρ bound]
    rfl
  | _ => rfl

theorem renamedList_renamedList (σ ρ : Renaming) (vs : List Value) :
    renamedList σ (renamedList ρ vs) = renamedList (σ.after ρ) vs := by
  cases vs with
  | nil => rfl
  | cons v rest =>
    simp only [renamedList]
    rw [renamed_renamed σ ρ v, renamedList_renamedList σ ρ rest]

end

end Value

namespace Value

/-! ## Sound values -/

/-- Only functions are given arguments in advance. -/
def Proper (v : Value) : Prop := ∀ i f bound, In (applied i f bound) v → f.isCallable = true

/-- The cells of a value are some of the first, and only functions are given
arguments in advance. -/
structure Sound (size : Nat) (v : Value) : Prop where
  within : v.Within size
  proper : v.Proper

variable {size size' c : Nat} {v : Value}

theorem proper_of_not_applied (hv : ∀ i f bound, v ≠ applied i f bound) : v.Proper :=
  fun i f bound hin => (hv i f bound (hin.eq_of_not_applied hv).symm).elim

theorem Proper.moved (h : v.Proper) (c : Nat) : (v.moved c).Proper := by
  cases v with
  | array d | object d => exact proper_of_not_applied (by simp [Value.moved])
  | _ => exact h

theorem Sound.mono (h : size ≤ size') (hv : v.Sound size) : v.Sound size' :=
  ⟨hv.within.mono h, hv.proper⟩

theorem sound_of_not_applied (hv : ∀ i f bound, v ≠ applied i f bound)
    (h : ∀ c, v.cell? = some c → c < size) : v.Sound size :=
  ⟨within_of_not_applied hv h, proper_of_not_applied hv⟩

theorem sound_array : (array c).Sound size ↔ c < size :=
  ⟨fun h => within_array.1 h.within, fun h => sound_of_not_applied (by simp) (by rintro _ ⟨⟩; exact h)⟩

theorem sound_object : (object c).Sound size ↔ c < size :=
  ⟨fun h => within_object.1 h.within,
    fun h => sound_of_not_applied (by simp) (by rintro _ ⟨⟩; exact h)⟩

theorem sound_of_atomic (h : v.Atomic noCare) : v.Sound size := by
  cases v with
  | array c | object c | closure i f | builtin i b | applied i f bound => exact h.elim
  | _ => exact sound_of_not_applied (by simp) nofun

theorem sound_closure (i : Nat) (f : Closure) : (closure i f).Sound size :=
  sound_of_not_applied (by simp) nofun

theorem sound_builtin (i : Nat) (b : Builtin) : (builtin i b).Sound size :=
  sound_of_not_applied (by simp) nofun

theorem sound_applied {i : Nat} {f : Value} {bound : List Value} :
    (applied i f bound).Sound size ↔
      f.isCallable = true ∧ f.Sound size ∧ ∀ v ∈ bound, v.Sound size := by
  constructor
  · intro h
    obtain ⟨hf, hbound⟩ := within_applied.1 h.within
    exact ⟨h.proper i f bound .here, ⟨hf, fun j g more hin => h.proper j g more (.callee hin)⟩,
      fun v hv => ⟨hbound v hv, fun j g more hin => h.proper j g more (.bound hv hin)⟩⟩
  · rintro ⟨hcallable, hf, hbound⟩
    refine ⟨within_applied.2 ⟨hf.within, fun v hv => (hbound v hv).within⟩, ?_⟩
    intro j g more hin
    cases hin with
    | here => exact hcallable
    | callee hin => exact hf.proper j g more hin
    | bound hv hin => exact (hbound _ hv).proper j g more hin

end Value

/-! ## Data in which values stand -/

/-- Data in which values stand. -/
class Renamable (α : Type) where
  /-- The data with other numbers. -/
  rename : Renaming → α → α
  /-- The values in it are sound where there are so many cells. -/
  Sound : Nat → α → Prop
  sound_mono {n m : Nat} {x : α} : n ≤ m → Sound n x → Sound m x

namespace Renamable

/-- Data without values. -/
@[reducible] def plain (α : Type) : Renamable α where
  rename _ x := x
  Sound _ _ := True
  sound_mono _ h := h

instance : Renamable Unit := plain Unit
instance : Renamable Bool := plain Bool
instance : Renamable Nat := plain Nat
instance : Renamable String := plain String
instance : Renamable Ordering := plain Ordering

instance : Renamable Value where
  rename := Value.renamed
  Sound := Value.Sound
  sound_mono h hv := hv.mono h

section

variable {α β : Type} [Renamable α] [Renamable β]

instance : Renamable (Option α) where
  rename ρ x? := x?.map (rename ρ)
  Sound n x? := ∀ x ∈ x?, Sound n x
  sound_mono h hx x hmem := sound_mono h (hx x hmem)

instance : Renamable (List α) where
  rename ρ xs := xs.map (rename ρ)
  Sound n xs := ∀ x ∈ xs, Sound n x
  sound_mono h hxs x hmem := sound_mono h (hxs x hmem)

instance : Renamable (Array α) where
  rename ρ xs := xs.map (rename ρ)
  Sound n xs := ∀ x ∈ xs, Sound n x
  sound_mono h hxs x hmem := sound_mono h (hxs x hmem)

instance : Renamable (α × β) where
  rename ρ x := (rename ρ x.1, rename ρ x.2)
  Sound n x := Sound n x.1 ∧ Sound n x.2
  sound_mono h hx := ⟨sound_mono h hx.1, sound_mono h hx.2⟩

end

end Renamable

open Renamable

/-! ## Entries -/

namespace Entries

variable {α : Type} [Renamable α] {ρ : Renaming} {n : Nat}

theorem keys_rename (entries : Entries α) : (rename ρ entries : Entries α).keys = entries.keys := by
  show (List.map _ (List.map _ entries)) = _
  rw [List.map_map]
  rfl

theorem values_rename (entries : Entries α) :
    (rename ρ entries : Entries α).values = rename ρ entries.values := by
  show (List.map _ (List.map _ entries)) = List.map _ (List.map _ entries)
  rw [List.map_map, List.map_map]
  rfl

theorem rename_rename (σ ρ : Renaming) (entries : Entries Value) :
    rename σ (rename ρ entries) = rename (σ.after ρ) entries := by
  show List.map _ (List.map _ entries) = List.map _ entries
  rw [List.map_map]
  exact List.map_congr_left fun e _ => congrArg (Prod.mk e.1) (Value.renamed_renamed σ ρ e.2)

theorem hasKey_rename (entries : Entries α) (key : String) :
    (rename ρ entries : Entries α).hasKey key = entries.hasKey key :=
  List.any_map

theorem find?_rename (entries : Entries α) (key : String) :
    (rename ρ entries : Entries α).find? key = (entries.find? key).map (rename ρ) := by
  induction entries with
  | nil => rfl
  | cons entry rest ih =>
    rcases entry with ⟨k, v⟩
    show List.lookup key ((k, rename ρ v) :: rename ρ rest) = (List.lookup key ((k, v) :: rest)).map _
    rw [List.lookup_cons, List.lookup_cons]
    split
    · rfl
    · exact ih

theorem replace_rename (entries : Entries α) (key : String) (v : α) :
    (rename ρ entries : Entries α).replace key (rename ρ v) =
      rename ρ (entries.replace key v) := by
  induction entries with
  | nil => rfl
  | cons entry rest ih =>
    rcases entry with ⟨k, w⟩
    show replace key (rename ρ v) ((k, rename ρ w) :: rename ρ rest) =
      rename ρ (replace key v ((k, w) :: rest))
    rw [replace, replace]
    split
    · rfl
    · exact congrArg ((k, rename ρ w) :: ·) ih

theorem insert_rename (entries : Entries α) (key : String) (v : α) :
    (rename ρ entries : Entries α).insert key (rename ρ v) = rename ρ (entries.insert key v) := by
  rw [insert, insert, hasKey_rename, replace_rename]
  split
  · rfl
  · show _ = List.map (rename ρ) (entries ++ [(key, v)])
    rw [List.map_append]
    rfl

theorem insertAll_rename (entries : Entries α) (more : List (String × α)) :
    (rename ρ entries : Entries α).insertAll (rename ρ more) =
      rename ρ (entries.insertAll more) := by
  unfold insertAll
  induction more generalizing entries with
  | nil => rfl
  | cons entry rest ih =>
    show List.foldl _ ((rename ρ entries : Entries α).insert entry.1 (rename ρ entry.2))
      (rename ρ rest) = _
    rw [insert_rename, ih]
    rfl

theorem sound_iff {entries : Entries α} :
    Sound n entries ↔ ∀ v ∈ entries.values, Sound n v := by
  constructor
  · intro h v hv
    obtain ⟨entry, hentry, rfl⟩ := List.mem_map.1 hv
    exact (h entry hentry).2
  · exact fun h entry hentry => ⟨trivial, h _ (List.mem_map_of_mem hentry)⟩

end Entries

end Reckoner
