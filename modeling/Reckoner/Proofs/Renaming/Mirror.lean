import Reckoner.Proofs.Renaming.Blind
import Reckoner.Proofs.Renaming.Changes

/-!
# Computations that do not look at numbers

`Mirrors ρ base s s' m m'` says of two computations, on a session and on the same
session with other numbers, that they end alike: both give a value, the second
one that of the first with other numbers, or both stop in the same way; and the
sessions they leave behind are again the same but for the numbers.

* `Mirrors.bind` follows two computations step by step.
* The other lemmas are the single steps: checked computations, reads, new cells
  and functions, and the changes of cells and scopes.
-/

namespace Reckoner

open Eval Renamable

/-- The session `s'` is the tidy session `s` with other numbers, next to what is in
`base`. -/
structure Alike (ρ : Renaming) (base s s' : Session) : Prop where
  embeds : Session.Embeds ρ base s s'
  tidy : s.Tidy

variable {α β γ : Type} [Renamable α] [Renamable β] {ρ : Renaming} {base s s' : Session}
  {offset : Nat}

/-- Two ends of computations on sessions that are the same but for the numbers, the
first of at least `size` cells. -/
inductive Mirrored (ρ : Renaming) (base : Session) (size : Nat) :
    EStateM.Result Stop Session α → EStateM.Result Stop Session α → Prop where
  | ok {x : α} {t t' : Session} (h : Alike ρ base t t') (hle : size ≤ t.cells.size)
    (hx : Sound t.cells.size x) : Mirrored ρ base size (.ok x t) (.ok (rename ρ x) t')
  | error {stop : Stop} {t t' : Session} (h : Alike ρ base t t')
    (hle : size ≤ t.cells.size) : Mirrored ρ base size (.error stop t) (.error stop t')

/-- Two computations end alike but for the numbers. -/
def Mirrors (ρ : Renaming) (base s s' : Session) (m m' : EvalM α) : Prop :=
  Mirrored ρ base s.cells.size (m s) (m' s')

/-! ## Ends -/

section

variable {m m' : EvalM α}

theorem Mirrors.of_ok (h : Mirrors ρ base s s' m m') {x : α} {t : Session}
    (hm : m s = .ok x t) : Sound t.cells.size x ∧ ∃ t', m' s' = .ok (rename ρ x) t' := by
  unfold Mirrors at h
  rw [hm] at h
  generalize m' s' = res' at h ⊢
  cases h with
  | ok h hle hx => exact ⟨hx, _, rfl⟩

theorem Mirrors.of_error (h : Mirrors ρ base s s' m m') {stop : Stop} {t : Session}
    (hm : m s = .error stop t) : ∃ t', m' s' = .error stop t' := by
  unfold Mirrors at h
  rw [hm] at h
  generalize m' s' = res' at h ⊢
  cases h with
  | error h hle => exact ⟨_, rfl⟩

theorem Mirrors.alike (h : Mirrors ρ base s s' m m') :
    Alike ρ base (sessionAfter m s) (sessionAfter m' s') := by
  unfold Mirrors at h
  unfold sessionAfter
  generalize m s = res at h ⊢
  generalize m' s' = res' at h ⊢
  cases h with
  | ok h hle hx => exact h
  | error h hle => exact h

end

/-! ## Steps -/

theorem mirrors_pure (h : Alike ρ base s s') {x : α} (hx : Sound s.cells.size x) :
    Mirrors ρ base s s' (pure x) (pure (rename ρ x)) :=
  .ok h le_rfl hx

theorem Mirrors.bind {m m' : EvalM α} {f f' : α → EvalM β} (hm : Mirrors ρ base s s' m m')
    (hf : ∀ x t t', Alike ρ base t t' → s.cells.size ≤ t.cells.size → Sound t.cells.size x →
      Mirrors ρ base t t' (f x) (f' (rename ρ x))) :
    Mirrors ρ base s s' (m >>= f) (m' >>= f') := by
  show Mirrored ρ base s.cells.size (EStateM.bind m f s) (EStateM.bind m' f' s')
  unfold EStateM.bind
  unfold Mirrors at hm
  generalize m s = res at hm
  generalize m' s' = res' at hm
  cases hm with
  | error h hle => exact .error h hle
  | @ok x t t' h hle hx =>
    have hrest : Mirrored ρ base t.cells.size (f x t) (f' (rename ρ x) t') := hf x t t' h hle hx
    show Mirrored ρ base s.cells.size (f x t) (f' (rename ρ x) t')
    generalize f x t = rest at hrest ⊢
    generalize f' (rename ρ x) t' = rest' at hrest ⊢
    cases hrest with
    | ok h' hle' hx' => exact .ok h' (hle.trans hle') hx'
    | error h' hle' => exact .error h' (hle.trans hle')

theorem mirrors_get_bind {f f' : Session → EvalM β} (h : Mirrors ρ base s s' (f s) (f' s')) :
    Mirrors ρ base s s' (get >>= f) (get >>= f') := h

theorem mirrors_fail (h : Alike ρ base s s') (cause : Cause) :
    Mirrors ρ base s s' (fail offset cause : EvalM α) (fail offset cause) :=
  .error h le_rfl

theorem mirrors_lift (h : Alike ρ base s s') {c c' : Checked α}
    (hx : ∀ x, c = .ok x → Sound s.cells.size x) (hc : c' = c.map (rename ρ)) :
    Mirrors ρ base s s' (liftM c) (liftM c') := by
  subst hc
  cases c with
  | ok x => exact .ok h le_rfl (hx x rfl)
  | error e => exact .error h le_rfl

/-- A checked computation that sees no numbers, and what follows. -/
theorem mirrors_lift_bind (h : Alike ρ base s s') {c c' : Checked γ} {f f' : γ → EvalM β}
    (hc : c' = c) (hf : ∀ x, c = .ok x → Mirrors ρ base s s' (f x) (f' x)) :
    Mirrors ρ base s s' (liftM c >>= f) (liftM c' >>= f') := by
  subst hc
  cases c' with
  | ok x => exact hf x rfl
  | error e => exact .error h le_rfl

/-- A checked computation that gives one of the values it is about, and what follows. -/
theorem mirrors_map_bind (h : Alike ρ base s s') {c c' : Checked α} {f f' : α → EvalM β}
    (hc : c' = c.map (rename ρ))
    (hf : ∀ x, c = .ok x → Mirrors ρ base s s' (f x) (f' (rename ρ x))) :
    Mirrors ρ base s s' (liftM c >>= f) (liftM c' >>= f') := by
  subst hc
  cases c with
  | ok x => exact hf x rfl
  | error e => exact .error h le_rfl

/-- What follows on values that are known. -/
theorem mirrors_ok_bind {δ : Type} {x : γ} {x' : δ} {f : γ → EvalM β} {f' : δ → EvalM β}
    (h : Mirrors ρ base s s' (f x) (f' x')) :
    Mirrors ρ base s s' (liftM (Except.ok x : Checked γ) >>= f)
      (liftM (Except.ok x' : Checked δ) >>= f') := h

/-- A checked computation that sees no numbers and gives an atomic value. -/
theorem mirrors_atomic (h : Alike ρ base s s') {c c' : Checked Value}
    (hy : Yields noCare offset (Value.Atomic noCare) c) (hc : c' = c) :
    Mirrors ρ base s s' (liftM c) (liftM c') :=
  mirrors_lift h (fun _ hx => Value.sound_of_atomic (hy.ok_of_eq hx))
    (hc.trans (Value.map_renamed_of_atomic hy).symm)

theorem mirrors_pure_atomic (h : Alike ρ base s s') {v : Value} (hv : v.Atomic noCare) :
    Mirrors ρ base s s' (pure v) (pure v) := by
  have hsound : Sound s.cells.size v := Value.sound_of_atomic hv
  have hpure := mirrors_pure h hsound
  rwa [show rename ρ v = v from Value.renamed_of_atomic ρ hv] at hpure

/-! ## Reads -/

theorem mirrors_isTrue (h : Alike ρ base s s') (v : Value) :
    Mirrors ρ base s s' (isTrue v) (isTrue (v.renamed ρ)) := by
  refine mirrors_get_bind ?_
  rw [h.embeds.isTrue_renamed]
  exact mirrors_pure h trivial

theorem mirrors_textOf (h : Alike ρ base s s') {v : Value} (hv : v.Sound s.cells.size) :
    Mirrors ρ base s s' (textOf v) (textOf (v.renamed ρ)) := by
  refine mirrors_get_bind ?_
  rw [h.embeds.render_renamed h.tidy hv]
  exact mirrors_pure h trivial

theorem mirrors_itemsOf (h : Alike ρ base s s') (v : Value) :
    Mirrors ρ base s s' (itemsOf v offset) (itemsOf (v.renamed ρ) offset) := by
  cases v with
  | array c =>
    show Mirrors ρ base s s' (pure (s.items c)) (pure (s'.items (ρ.cell c)))
    rw [h.embeds.items_renamed]
    exact mirrors_pure h fun w hw => h.tidy.sound.item hw
  | _ => exact mirrors_fail h _

theorem mirrors_entriesOf (h : Alike ρ base s s') (v : Value) :
    Mirrors ρ base s s' (entriesOf v offset) (entriesOf (v.renamed ρ) offset) := by
  cases v with
  | object c =>
    show Mirrors ρ base s s' (pure (s.entries c)) (pure (s'.entries (ρ.cell c)))
    rw [h.embeds.entries_renamed]
    exact mirrors_pure h (Entries.sound_iff.2 fun w hw => h.tidy.sound.entry hw)
  | _ => exact mirrors_fail h _

/-! ## New cells and functions -/

theorem mirrors_newArray (h : Alike ρ base s s') {items : Array Value}
    (hitems : Sound s.cells.size items) :
    Mirrors ρ base s s' (newArray items) (newArray (rename ρ items)) := by
  have hvalue : rename ρ (Value.array s.cells.size) = .array s'.cells.size :=
    congrArg Value.array h.embeds.new_cell
  have hend : Alike ρ base (s.newCell (.array items)) (s'.newCell (.array (rename ρ items))) :=
    ⟨h.embeds.newCell _, h.tidy.newCell fun v hv => hitems v (Array.mem_toList_iff.1 hv)⟩
  have hle := (Session.extends_newCell s (.array items)).size_le
  have hnew := Mirrored.ok (x := Value.array s.cells.size) hend hle
    (Value.sound_array.2 (by simp [Session.newCell]))
  rwa [hvalue] at hnew

theorem mirrors_newList (h : Alike ρ base s s') {items : List Value}
    (hitems : Sound s.cells.size items) :
    Mirrors ρ base s s' (newList items) (newList (rename ρ items)) := by
  have harray : Sound s.cells.size items.toArray := fun v hv => hitems v (List.mem_toArray.1 hv)
  have hnew := mirrors_newArray h harray
  rwa [show rename ρ items.toArray = (rename ρ items).toArray from List.map_toArray ..] at hnew

theorem mirrors_newObject (h : Alike ρ base s s') {entries : Entries Value}
    (hentries : Sound s.cells.size entries) :
    Mirrors ρ base s s' (newObject entries) (newObject (rename ρ entries)) := by
  have hvalue : rename ρ (Value.object s.cells.size) = .object s'.cells.size :=
    congrArg Value.object h.embeds.new_cell
  have hend : Alike ρ base (s.newCell (.object entries))
      (s'.newCell (.object (rename ρ entries))) :=
    ⟨h.embeds.newCell _, h.tidy.newCell (Entries.sound_iff.1 hentries)⟩
  have hle := (Session.extends_newCell s (.object entries)).size_le
  have hnew := Mirrored.ok (x := Value.object s.cells.size) hend hle
    (Value.sound_object.2 (by simp [Session.newCell]))
  rwa [hvalue] at hnew

/-- A new identity, and what follows. -/
theorem mirrors_newIdentity_bind (h : Alike ρ base s s') {f f' : Nat → EvalM β}
    (hf : ∀ i t t', Alike ρ base t t' → s.cells.size ≤ t.cells.size →
      Mirrors ρ base t t' (f i) (f' (ρ.identity i))) :
    Mirrors ρ base s s' (newIdentity >>= f) (newIdentity >>= f') := by
  have hend : Alike ρ base { s with identity := s.identity + 1 }
      { s' with identity := s'.identity + 1 } :=
    ⟨h.embeds.newIdentity, h.tidy.congr rfl h.tidy.sound.bindings⟩
  have hrest := hf s.identity _ _ hend le_rfl
  rw [h.embeds.new_identity] at hrest
  exact hrest

/-! ## Changes of scopes -/

theorem mirrors_define (h : Alike ρ base s s') (scope : Nat) (name : String) {v : Value}
    (hv : v.Sound s.cells.size) :
    Mirrors ρ base s s' (define scope name v) (define (ρ.scope scope) name (v.renamed ρ)) := by
  have hend : Alike ρ base (s.withBinding scope name v)
      (s'.withBinding (ρ.scope scope) name (v.renamed ρ)) :=
    ⟨h.embeds.withBinding h.tidy scope name hv.within, h.tidy.withBinding scope name hv⟩
  exact .ok hend (Session.extends_copyTo _ v s).size_le trivial

end Reckoner
