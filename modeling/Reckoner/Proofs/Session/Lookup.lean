import Reckoner.Proofs.Session.Frame

/-!
# Names that stay bound

A name is looked up in the scope at hand and in those around it, in at most as
many steps as there are scopes.  More steps find nothing else
(`lookupFrom_of_size_le`): of a chain of scopes that runs on longer than that,
one comes twice.

`Session.Retains` says that a name is bound to the same value in all scopes but
one, and every change keeps it (`tracks_retains`).  So an expression that does not
assign a name leaves it as it was, in every scope (`retains_evalExpr`).
-/

namespace Reckoner

open Eval

/-! ## Looking names up -/

namespace Session

variable {scopes : Array Scope} {name : String} {n m i : Nat} {v : Value}

/-- What is found in some steps is found in one more. -/
theorem lookupFrom_succ (h : lookupFrom scopes name n i = some v) :
    lookupFrom scopes name (n + 1) i = some v := by
  induction n generalizing i with
  | zero => cases h
  | succ n ih =>
    rw [lookupFrom] at h ⊢
    split at h
    · cases h
    · split at h
      · exact h
      · split at h
        · exact ih h
        · cases h

theorem lookupFrom_mono (hnm : n ≤ m) (h : lookupFrom scopes name n i = some v) :
    lookupFrom scopes name m i = some v := by
  induction hnm with
  | refl => exact h
  | step _ ih => exact lookupFrom_succ ih

/-- A name that is found in `n` steps and not before is found from `n` scopes. -/
theorem exists_finders (h : lookupFrom scopes name n i = some v)
    (hleast : ∀ k < n, lookupFrom scopes name k i = none) :
    ∃ finders : Finset Nat, finders.card = n ∧
      ∀ j ∈ finders, j < scopes.size ∧ (lookupFrom scopes name n j).isSome := by
  induction n generalizing i with
  | zero => cases h
  | succ n ih =>
    have hi : i < scopes.size := by
      by_contra hge
      rw [lookupFrom, Array.getElem?_eq_none (Nat.not_lt.1 hge)] at h
      cases h
    have hnew := hleast n (Nat.lt_succ_self n)
    cases hsc : scopes[i]? with
    | none => simp [lookupFrom, hsc] at h
    | some sc =>
      cases hfind : sc.bindings.find? name with
      | some w =>
        cases n with
        | zero => exact ⟨{i}, rfl, by simp [hi, h]⟩
        | succ n => simp [lookupFrom, hsc, hfind] at hnew
      | none =>
        cases hparent : sc.parent with
        | none => simp [lookupFrom, hsc, hfind, hparent] at h
        | some p =>
          have hstep (k : Nat) :
              lookupFrom scopes name (k + 1) i = lookupFrom scopes name k p := by
            simp [lookupFrom, hsc, hfind, hparent]
          rw [hstep] at h
          obtain ⟨finders, hcard, hfinders⟩ := ih h fun k hk => by
            rw [← hstep]
            exact hleast _ (Nat.succ_lt_succ hk)
          have hmem : i ∉ finders := fun hi' => by simpa [hnew] using (hfinders i hi').2
          refine ⟨insert i finders, by rw [Finset.card_insert_of_notMem hmem, hcard], ?_⟩
          intro j hj
          rcases Finset.mem_insert.1 hj with rfl | hj
          · exact ⟨hi, by rw [hstep, h]; rfl⟩
          · obtain ⟨w, hw⟩ := Option.isSome_iff_exists.1 (hfinders j hj).2
            exact ⟨(hfinders j hj).1, by rw [lookupFrom_succ hw]; rfl⟩

/-- Steps beyond the number of scopes find nothing else. -/
theorem lookupFrom_of_size_le (hn : scopes.size ≤ n) :
    lookupFrom scopes name n i = lookupFrom scopes name scopes.size i := by
  cases h : lookupFrom scopes name n i with
  | some v =>
    have hex : ∃ k, lookupFrom scopes name k i = some v := ⟨n, h⟩
    classical
    obtain ⟨finders, hcard, hfinders⟩ := exists_finders (Nat.find_spec hex) fun k hk => by
      by_contra hne
      obtain ⟨w, hw⟩ := Option.ne_none_iff_exists'.1 hne
      have heq := (lookupFrom_mono (Nat.le_of_lt hk) hw).symm.trans (Nat.find_spec hex)
      exact Nat.find_min hex hk (hw.trans heq)
    have hle : Nat.find hex ≤ scopes.size := by
      rw [← hcard, ← Finset.card_range scopes.size]
      exact Finset.card_le_card fun j hj => Finset.mem_range.2 (hfinders j hj).1
    exact (lookupFrom_mono hle (Nat.find_spec hex)).symm
  | none =>
    cases h' : lookupFrom scopes name scopes.size i with
    | none => rfl
    | some v => exact absurd (lookupFrom_mono hn h') (by simp [h])

/-! ## Names that keep their value -/

/-- Of the scopes of `s`, at most `changed` binds the name to something else in
`t`. -/
structure Retains (name : String) (changed : Option Nat) (s t : Session) : Prop where
  root_eq : t.root = s.root
  size_le : s.scopes.size ≤ t.scopes.size
  parent_eq : ∀ i < s.scopes.size, t.scopes[i]?.map Scope.parent = s.scopes[i]?.map Scope.parent
  find_eq : ∀ i < s.scopes.size, changed ≠ some i →
    (t.bindings i).find? name = (s.bindings i).find? name

variable {changed : Option Nat} {s t u : Session}

theorem retains_of_scopes_eq (hroot : t.root = s.root) (h : t.scopes = s.scopes) :
    Retains name changed s t where
  root_eq := hroot
  size_le := by rw [h]
  parent_eq i _ := by rw [h]
  find_eq i _ _ := by rw [bindings, bindings, h]

theorem Retains.trans (hst : Retains name changed s t) (htu : Retains name changed t u) :
    Retains name changed s u where
  root_eq := htu.root_eq.trans hst.root_eq
  size_le := hst.size_le.trans htu.size_le
  parent_eq i hi := (htu.parent_eq i (hi.trans_le hst.size_le)).trans (hst.parent_eq i hi)
  find_eq i hi hne := (htu.find_eq i (hi.trans_le hst.size_le) hne).trans (hst.find_eq i hi hne)

theorem Retains.of_none (h : Retains name none s t) : Retains name changed s t where
  root_eq := h.root_eq
  size_le := h.size_le
  parent_eq := h.parent_eq
  find_eq i hi _ := h.find_eq i hi (Option.some_ne_none i).symm

theorem bindings_withBinding (s : Session) (scope : Nat) (key : String) (v : Value) (i : Nat) :
    (s.withBinding scope key v).bindings i =
      if scope = i ∧ i < s.scopes.size then (s.bindings i).insert key (copy v s).1
      else s.bindings i := by
  have hscopes : (copy v s).2.scopes = s.scopes := (extends_copyTo _ v s).scopes_eq
  have hget : (s.withBinding scope key v).scopes[i]? = if scope = i then
      (s.scopes[i]?).map fun sc => { sc with bindings := sc.bindings.insert key (copy v s).1 }
      else s.scopes[i]? := by
    show ((copy v s).2.bind scope key (copy v s).1).scopes[i]? = _
    simp only [Session.bind, Array.getElem?_modify, hscopes]
  rw [bindings, hget, bindings]
  by_cases hi : i < s.scopes.size
  · by_cases hscope : scope = i <;> simp [hscope, hi]
  · rw [Array.getElem?_eq_none (Nat.not_lt.1 hi)]
    simp [hi]

theorem retains_withBinding (s : Session) (scope : Nat) (key : String) (v : Value)
    (h : changed = some scope ∨ key ≠ name) :
    Retains name changed s (s.withBinding scope key v) := by
  have hframed := framed_withBinding s scope key v
  have hroot : (s.withBinding scope key v).root = s.root := (extends_copyTo _ v s).root_eq
  have hparent (i : Nat) : (s.withBinding scope key v).scopes[i]?.map Scope.parent =
      s.scopes[i]?.map Scope.parent := by
    have hscopes : (copy v s).2.scopes = s.scopes := (extends_copyTo _ v s).scopes_eq
    show ((copy v s).2.bind scope key (copy v s).1).scopes[i]?.map Scope.parent = _
    simp only [Session.bind, Array.getElem?_modify, hscopes]
    split
    · cases s.scopes[i]? <;> rfl
    · rfl
  refine ⟨hroot, hframed.size_le, fun i _ => hparent i, fun i hi hne => ?_⟩
  rw [bindings_withBinding]
  split
  · rename_i hsc
    rcases h with h | h
    · exact (hne (h.trans (congrArg some hsc.1))).elim
    · exact Entries.find?_insert_of_ne _ _ h
  · rfl

theorem Retains.left {sc : Scope} (h : Retains name (some s.scopes.size) (s.entered sc) t) :
    Retains name none s t.left := by
  have hsize : (s.entered sc).scopes.size = s.scopes.size + 1 := by simp [entered, newScope]
  have hold {i : Nat} (hi : i < s.scopes.size) : (s.entered sc).scopes[i]? = s.scopes[i]? := by
    simp [entered, newScope, Array.getElem?_push, hi.ne]
  refine ⟨h.root_eq, ?_, fun i hi => ?_, fun i hi _ => ?_⟩
  · have := h.size_le
    show s.scopes.size ≤ t.scopes.size
    omega
  · exact (h.parent_eq i (by omega)).trans (by rw [hold hi])
  · refine (h.find_eq i (by omega) fun heq => hi.ne (Option.some.inj heq).symm).trans ?_
    rw [bindings, hold hi, bindings]

/-- What a name is found to be bound to stays so. -/
theorem Retains.lookup_eq (h : Retains name none s t) {scope : Nat} {v : Value}
    (hv : s.lookup scope name = some v) : t.lookup scope name = some v := by
  have hsteps (n : Nat) (scope : Nat) (hv : lookupFrom s.scopes name n scope = some v) :
      lookupFrom t.scopes name n scope = some v := by
    induction n generalizing scope with
    | zero => cases hv
    | succ n ih =>
      cases hs : s.scopes[scope]? with
      | none => simp [lookupFrom, hs] at hv
      | some sc =>
        have hlt : scope < s.scopes.size := (Array.getElem?_eq_some_iff.1 hs).1
        have hparent := h.parent_eq scope hlt
        have hfind := h.find_eq scope hlt (Option.some_ne_none scope).symm
        cases ht : t.scopes[scope]? with
        | none => simp [hs, ht] at hparent
        | some sc' =>
          simp only [hs, ht, Option.map_some, Option.some.injEq] at hparent
          simp only [bindings, hs, ht] at hfind
          simp only [lookupFrom, hs] at hv
          simp only [lookupFrom, ht, hparent, hfind]
          split at hv
          · exact hv
          · split at hv
            · exact ih _ hv
            · cases hv
  exact lookupFrom_mono h.size_le (hsteps _ _ hv)

end Session

theorem tracks_retains (name : String) : Discipline.Tracks (Session.Retains name) where
  refl := Session.retains_of_scopes_eq rfl rfl
  trans := Session.Retains.trans
  of_none := Session.Retains.of_none
  newCell _ _ := Session.retains_of_scopes_eq rfl rfl
  newIdentity _ := Session.retains_of_scopes_eq rfl rfl
  withBinding s scope key v := Session.retains_withBinding s scope key v (.inl rfl)
  withItems s _ more :=
    have h := Session.extends_copyList more s
    Session.retains_of_scopes_eq h.root_eq h.scopes_eq
  withoutLast _ _ := Session.retains_of_scopes_eq rfl rfl
  withEntry s _ _ v :=
    have h := Session.extends_copyTo s.nesting v s
    Session.retains_of_scopes_eq h.root_eq h.scopes_eq
  left h := h.left

/-- An expression leaves the names that it does not assign as they were, in every
scope. -/
theorem retains_evalExpr (ctx : Context) (bound : Nat) (s : Session) (scope : Nat) {e : Expr}
    {name : String} (he : ¬ e.Assigns name) :
    s.Retains name none (sessionAfter (evalExpr ctx (callValue ctx bound) scope e) s) :=
  (tracks_retains name).evalExpr ctx bound s scope fun key hkey t v =>
    Session.retains_withBinding t scope key v (.inr fun heq => he (heq ▸ hkey))

end Reckoner
