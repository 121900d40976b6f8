import Reckoner.Proofs.Discipline.Evaluate
import Reckoner.Proofs.Grammar.Grounded
import Reckoner.Proofs.Session.Values

/-!
# Quantities in sessions stay well formed

A value is well formed if every quantity in it is, also among the arguments
that a function was given in advance; a session, if every value in its cells
and under its names is.  Evaluation keeps sessions well formed, whatever it
ends with.

Units that stand for nothing can only come from the bodies of functions that
no source has written, so the second part of the statement is about sessions
whose functions come from sources: later ones do too, and no unit is ever
unknown.

* `unitDiscipline` is the discipline behind it, for any assumption `known`
  under which functions come from sources.
* `evaluate_wellFormed` is the statement for whole sources.
-/

namespace Reckoner

/-! ## Well-formed values and sessions -/

namespace Value

/-- Every quantity in a value is well formed. -/
def WellFormed (v : Value) : Prop := ∀ q, In (quantity q) v → q.WellFormed

/-- The body of every function in a value is written in a source. -/
def Sourced (v : Value) : Prop := ∀ i f, In (closure i f) v → f.body.Written

theorem wellFormed_applied {i : Nat} {f : Value} {bound : List Value} :
    (applied i f bound).WellFormed ↔ f.WellFormed ∧ ∀ v ∈ bound, v.WellFormed := by
  constructor
  · exact fun h => ⟨fun q hq => h q (.callee hq), fun v hv q hq => h q (.bound hv hq)⟩
  · rintro ⟨hf, hbound⟩ q hq
    cases hq with
    | callee hq => exact hf q hq
    | bound hv hq => exact hbound _ hv q hq

theorem sourced_applied {i : Nat} {f : Value} {bound : List Value} :
    (applied i f bound).Sourced ↔ f.Sourced ∧ ∀ v ∈ bound, v.Sourced := by
  constructor
  · exact fun h => ⟨fun i g hg => h i g (.callee hg), fun v hv i g hg => h i g (.bound hv hg)⟩
  · rintro ⟨hf, hbound⟩ i g hg
    cases hg with
    | callee hg => exact hf i g hg
    | bound hv hg => exact hbound _ hv i g hg

/-- A value that is neither a quantity nor a function with given arguments. -/
theorem wellFormed_of_ne {v : Value} (hq : ∀ q, v ≠ quantity q)
    (ha : ∀ i f bound, v ≠ applied i f bound) : v.WellFormed :=
  fun q h => absurd (h.eq_of_not_applied ha).symm (hq q)

/-- A value that is neither a function from a source nor one with given
arguments. -/
theorem sourced_of_ne {v : Value} (hc : ∀ i f, v ≠ closure i f)
    (ha : ∀ i f bound, v ≠ applied i f bound) : v.Sourced :=
  fun i f h => absurd (h.eq_of_not_applied ha).symm (hc i f)

theorem wellFormed_quantity {q : Quantity} : (quantity q).WellFormed ↔ q.WellFormed := by
  constructor
  · exact fun h => h q .here
  · intro hq r hr
    cases hr.eq_of_not_applied (by simp)
    exact hq

theorem sourced_closure {i : Nat} {f : Closure} :
    (closure i f).Sourced ↔ f.body.Written := by
  constructor
  · exact fun h => h i f .here
  · intro hf j g hg
    cases hg.eq_of_not_applied (by simp)
    exact hf

theorem wellFormed_of_atomic {care : Care} (hcare : care.units) {v : Value} (h : v.Atomic care) :
    v.WellFormed := by
  cases v with
  | quantity q => exact wellFormed_quantity.2 (h hcare)
  | array c | object c | closure i f | builtin i b | applied i f bound => exact h.elim
  | _ => exact wellFormed_of_ne (by simp) (by simp)

theorem sourced_of_atomic {care : Care} {v : Value} (h : v.Atomic care) : v.Sourced := by
  cases v with
  | array c | object c | closure i f | builtin i b | applied i f bound => exact h.elim
  | _ => exact sourced_of_ne (by simp) (by simp)

end Value

namespace Session

/-- Every quantity in a session is well formed. -/
def WellFormed (s : Session) : Prop := s.All Value.WellFormed

/-- The body of every function in a session is written in a source. -/
def Sourced (s : Session) : Prop := s.All Value.Sourced

end Session

/-! ## The discipline -/

/-- Quantities are well formed and, where `known` holds, functions come from
sources. -/
def unitDiscipline (known : Prop) : Discipline where
  units := True
  known := known
  units_of_known _ := trivial
  FitsOffset _ := True
  FitsNode e := known → e.Written
  Allows _ := True
  Holds s := s.All fun v => v.WellFormed ∧ (known → v.Sourced)
  Leads _ _ _ := True
  Fits _ v := v.WellFormed ∧ (known → v.Sourced)

theorem every_unitNode_iff {known : Prop} {e : Expr} :
    e.Every (unitDiscipline known).FitsNode ↔ (known → e.Written) := by
  constructor
  · exact fun h => h.here
  · exact Expr.every_of_inherited fun e he c hc hknown =>
      Expr.Written.part (he hknown) hc

/-- A handle of another cell is as good as a handle of the old one. -/
theorem wellFormed_moved {known : Prop} (v : Value) (k : Nat)
    (hv : v.WellFormed ∧ (known → v.Sourced)) :
    (v.moved k).WellFormed ∧ (known → (v.moved k).Sourced) := by
  cases v with
  | array c | object c =>
    exact ⟨Value.wellFormed_of_ne (by simp [Value.moved]) (by simp [Value.moved]),
      fun _ => Value.sourced_of_ne (by simp [Value.moved]) (by simp [Value.moved])⟩
  | _ => exact hv

theorem unitDiscipline_lawful (known : Prop) : (unitDiscipline known).Lawful where
  offset_of_node _ := trivial
  units_of_node h hknown := (h hknown).grounded.here.resolves
  allows_of_name _ _ := trivial
  allows_of_call _ _ := trivial
  leads_refl := trivial
  leads_trans _ _ := trivial
  leads_of_none _ := trivial
  fits_of_leads _ h := h
  fits_atomic h := ⟨Value.wellFormed_of_atomic trivial h, fun _ => Value.sourced_of_atomic h⟩
  measured_of_fits := by
    rintro s v ⟨hv, _⟩ q rfl _
    exact Value.wellFormed_quantity.1 hv
  fits_builtin := by
    refine ⟨fun _ => trivial, fun _ => ⟨?_, fun _ => ?_⟩⟩
    · exact Value.wellFormed_of_ne (by simp) (by simp)
    · exact Value.sourced_of_ne (by simp) (by simp)
  fits_closure := by
    intro s i f
    rw [every_unitNode_iff]
    constructor
    · exact fun h hknown => Value.sourced_closure.1 (h.2 hknown)
    · exact fun h => ⟨Value.wellFormed_of_ne (by simp) (by simp),
        fun hknown => Value.sourced_closure.2 (h hknown)⟩
  fits_applied := by
    intro s i callee bound
    constructor
    · rintro ⟨hwf, hsourced⟩
      obtain ⟨hcallee, hbound⟩ := Value.wellFormed_applied.1 hwf
      exact ⟨⟨hcallee, fun h => (Value.sourced_applied.1 (hsourced h)).1⟩,
        fun v hv => ⟨hbound v hv, fun h => (Value.sourced_applied.1 (hsourced h)).2 v hv⟩⟩
    · rintro ⟨hcallee, hbound⟩
      exact ⟨Value.wellFormed_applied.2 ⟨hcallee.1, fun v hv => (hbound v hv).1⟩,
        fun h => Value.sourced_applied.2 ⟨hcallee.2 h, fun v hv => (hbound v hv).2 h⟩⟩
  fits_item hs _ hv := hs.item hv
  fits_entry hs _ hv := hs.entry hv
  fits_lookup hs h := hs.lookup h
  newArray hs h := by
    refine ⟨⟨hs.newCell fun v hv => h v (by simpa [Cell.values] using hv), trivial⟩, ?_,
      fun _ => ?_⟩
    · exact Value.wellFormed_of_ne (by simp) (by simp)
    · exact Value.sourced_of_ne (by simp) (by simp)
  newObject hs _ h := by
    refine ⟨⟨hs.newCell h, trivial⟩, ?_, fun _ => ?_⟩
    · exact Value.wellFormed_of_ne (by simp) (by simp)
    · exact Value.sourced_of_ne (by simp) (by simp)
  newIdentity hs := ⟨⟨hs.cells, hs.bindings⟩, trivial⟩
  withBinding _ hs hv := ⟨hs.withBinding wellFormed_moved _ _ hv, trivial⟩
  withItems _ hs _ hmore := ⟨hs.withItems wellFormed_moved _ hmore, trivial⟩
  withoutLast _ hs _ := ⟨hs.withoutLast _, trivial⟩
  withEntry _ hs _ hv := ⟨hs.withEntry wellFormed_moved _ _ hv, trivial⟩
  entered := by
    intro s bindings parent hs _ h
    have hnew : (s.newScope { bindings, parent := some parent }).All
        fun v => v.WellFormed ∧ (known → v.Sourced) := hs.newScope h
    exact ⟨hnew.cells, hnew.bindings⟩
  left _ _ ht _ := ⟨⟨ht.cells, ht.bindings⟩, trivial⟩
  fits_left h := h

/-! ## Whole sources -/

/-- A quantity has at least one unit, so one that has cancelled is a number. -/
theorem Value.WellFormed.isEmpty_eq_false {q : Quantity} (h : (Value.quantity q).WellFormed) :
    q.dims.isEmpty = false :=
  (Value.wellFormed_quantity.1 h).nonempty

/-- The discipline is kept by the evaluation of a source. -/
theorem ends_evaluate {ctx : Context} {s : Session} (source : String)
    (hhistory : ∀ v ∈ ctx.history, v.WellFormed) (hs : s.WellFormed) :
    (unitDiscipline s.Sourced).Ends (some s.root) s (unitDiscipline s.Sourced).Fits
      (evaluate ctx source s) := by
  have hctx : (unitDiscipline s.Sourced).FitsContext ctx := by
    rintro v hv q rfl _
    exact Value.wellFormed_quantity.1 (hhistory _ hv)
  have hholds : (unitDiscipline s.Sourced).Holds s :=
    ⟨fun c hc v hv => ⟨hs.cells c hc v hv, fun h => h.cells c hc v hv⟩,
      fun sc hsc v hv => ⟨hs.bindings sc hsc v hv, fun h => h.bindings sc hsc v hv⟩⟩
  exact Discipline.keeps_evaluate (unitDiscipline_lawful s.Sourced) hctx hholds
    (fun e he => every_unitNode_iff.2 fun _ => .whole he)
    (fun e he => ⟨trivial, fun _ => Expr.parse_error he⟩)

/-- Evaluation keeps a session well formed, whether it succeeds or fails.  If
the functions of the session come from sources, so do the later ones, and no
unit is ever unknown. -/
theorem evaluate_wellFormed {ctx : Context} {s : Session} (source : String)
    (hhistory : ∀ v ∈ ctx.history, v.WellFormed) (hs : s.WellFormed) :
    (∀ v t, evaluate ctx source s = .ok v t →
      v.WellFormed ∧ (∀ q, v = .quantity q → q.dims.isEmpty = false) ∧ t.WellFormed ∧
        (s.Sourced → v.Sourced ∧ t.Sourced)) ∧
    ∀ stop t, evaluate ctx source s = .error stop t →
      t.WellFormed ∧ (s.Sourced → t.Sourced ∧
        ∀ name offset, stop ≠ .fault { cause := .typing (.unknownUnit name), offset }) := by
  have hrun := ends_evaluate source hhistory hs
  constructor
  · intro v t heq
    rw [heq] at hrun
    cases hrun with
    | ok step hv =>
      refine ⟨hv.1, ?_, step.holds.mono fun _ h => h.1, fun hs => ⟨hv.2 hs, ?_⟩⟩
      · rintro q rfl
        exact hv.1.isEmpty_eq_false
      · exact step.holds.mono fun _ h => h.2 hs
  · intro stop t heq
    rw [heq] at hrun
    cases hrun with
    | error step hstop =>
      refine ⟨step.holds.mono fun _ h => h.1, fun hs => ⟨step.holds.mono fun _ h => h.2 hs, ?_⟩⟩
      rintro name offset rfl
      cases hstop.2 hs

/-- Three kilometres. -/
def threeKilometres : Quantity :=
  { magnitude := .ofNat 3, dims := Dimensions.none.insert ⟨.length, "km", 1⟩ }

theorem threeKilometres_wellFormed : threeKilometres.WellFormed := by decide

theorem evaluate_wellFormed_quotient :
    let ctx := { Context.ofClock ⟨0, 0⟩ (.fixed 0) with history := [.quantity threeKilometres] }
    let s := Session.empty.bind 0 "d" (.quantity threeKilometres)
    (∀ v ∈ ctx.history, v.WellFormed) ∧ s.WellFormed ∧ s.Sourced ∧
      (∀ v t, evaluate ctx "total / d" s = .ok v t →
        v.WellFormed ∧ (∀ q, v = .quantity q → q.dims.isEmpty = false) ∧ t.WellFormed ∧
          (s.Sourced → v.Sourced ∧ t.Sourced)) ∧
      ∀ stop t, evaluate ctx "total / d" s = .error stop t →
        t.WellFormed ∧ (s.Sourced → t.Sourced ∧
          ∀ name offset, stop ≠ .fault { cause := .typing (.unknownUnit name), offset }) := by
  intro ctx s
  have hd : (Value.quantity threeKilometres).WellFormed :=
    Value.wellFormed_quantity.2 threeKilometres_wellFormed
  have hhistory : ∀ v ∈ ctx.history, v.WellFormed := List.forall_mem_singleton.2 hd
  have hs : s.WellFormed := (Session.all_empty _).bind hd
  have hsourced : s.Sourced :=
    (Session.all_empty _).bind (Value.sourced_of_ne (by simp) (by simp))
  exact ⟨hhistory, hs, hsourced, evaluate_wellFormed "total / d" hhistory hs⟩

end Reckoner
