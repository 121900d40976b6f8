import Reckoner.Proofs.Renaming.Basic
import Reckoner.Proofs.Session.Lookup
import Reckoner.Proofs.Value.Equality

/-!
# Sessions with other numbers

`Session.Embeds ρ base s s'` says that `s'` is `s` with other numbers, next to
cells and scopes that are as in `base`.  What comes next in `s` gets the number of
what comes next in `s'`.

What is read in `s` is read in `s'` with other numbers: items and entries, names
(`Embeds.lookup_renamed`), texts, equality.  Where that looks into arrays and
objects, it looks as deep as there are cells.  `s'` may have more of them; but in
a tidy session, where no cell contains itself, one sees no more for it.
-/

namespace Reckoner

open Renamable

/-- A cell with other numbers. -/
def Cell.renamed (ρ : Renaming) : Cell → Cell
  | array items => array (rename ρ items)
  | object entries => object (rename ρ entries)

/-- A scope with other numbers. -/
def Scope.renamed (ρ : Renaming) (sc : Scope) : Scope where
  bindings := rename ρ sc.bindings
  parent := sc.parent.map ρ.scope

theorem Cell.renamed_renamed (σ ρ : Renaming) (cell : Cell) :
    (cell.renamed ρ).renamed σ = cell.renamed (σ.after ρ) := by
  have hvalue : rename σ ∘ rename ρ = (rename (σ.after ρ) : Value → Value) :=
    funext fun v => Value.renamed_renamed σ ρ v
  cases cell with
  | array items =>
    refine congrArg Cell.array (Array.toList_inj.1 ?_)
    simp only [rename, Array.toList_map, List.map_map]
    exact congrArg (List.map · items.toList) hvalue
  | object entries => exact congrArg Cell.object (Entries.rename_rename σ ρ entries)

theorem Scope.renamed_renamed (σ ρ : Renaming) (sc : Scope) :
    (sc.renamed ρ).renamed σ = sc.renamed (σ.after ρ) := by
  refine congrArg₂ Scope.mk (Entries.rename_rename σ ρ sc.bindings) ?_
  exact Option.map_map ..

namespace Session

/-- The values are sound, and no cell contains itself. -/
structure Tidy (s : Session) : Prop where
  within : s.All (Value.Within s.cells.size)
  proper : s.All Value.Proper
  ranked : ∃ rank, s.Ranked rank

theorem Tidy.sound {s : Session} (hs : s.Tidy) : s.All (Value.Sound s.cells.size) where
  cells c hc v hv := ⟨hs.within.cells c hc v hv, hs.proper.cells c hc v hv⟩
  bindings sc hsc v hv := ⟨hs.within.bindings sc hsc v hv, hs.proper.bindings sc hsc v hv⟩

/-- The session `s'` is `s` with other numbers, next to what is in `base`. -/
structure Embeds (ρ : Renaming) (base s s' : Session) : Prop where
  injective : ρ.Injective
  root_eq : s'.root = ρ.scope s.root
  depth_eq : s'.depth = s.depth
  cell_eq : ∀ c, s'.cells[ρ.cell c]? = s.cells[c]?.map (Cell.renamed ρ)
  scope_eq : ∀ i, s'.scopes[ρ.scope i]? = s.scopes[i]?.map (Scope.renamed ρ)
  next_cell : ∀ k, ρ.cell (s.cells.size + k) = s'.cells.size + k
  next_scope : ∀ k, ρ.scope (s.scopes.size + k) = s'.scopes.size + k
  next_identity : ∀ k, ρ.identity (s.identity + k) = s'.identity + k
  cells_le : s.cells.size ≤ s'.cells.size
  scopes_le : s.scopes.size ≤ s'.scopes.size
  cell_kept : ∀ c, (∀ d, ρ.cell d ≠ c) → s'.cells[c]? = base.cells[c]?
  scope_kept : ∀ i, (∀ j, ρ.scope j ≠ i) → s'.scopes[i]? = base.scopes[i]?

variable {ρ : Renaming} {base s s' : Session}

/-- What a text shows of the values inside arrays and objects. -/
def renderInner (s : Session) : Nat → Value → String
  | 0 => fun _ => ""
  | n + 1 => s.renderTo n

theorem renderTo_eq (s : Session) (n : Nat) (v : Value) :
    s.renderTo n v = s.renderWith (s.renderInner n) v := by
  cases n <;> rfl

namespace Embeds

/-! ## Cells -/

theorem items_renamed (h : Embeds ρ base s s') (c : Nat) :
    s'.items (ρ.cell c) = rename ρ (s.items c) := by
  have hempty : rename ρ (#[] : Array Value) = #[] := Array.map_empty
  rw [items, items, h.cell_eq]
  cases s.cells[c]? with
  | none => exact hempty.symm
  | some cell =>
    cases cell with
    | array items => rfl
    | object entries => exact hempty.symm

theorem entries_renamed (h : Embeds ρ base s s') (c : Nat) :
    s'.entries (ρ.cell c) = rename ρ (s.entries c) := by
  rw [entries, entries, h.cell_eq]
  cases s.cells[c]? with
  | none => rfl
  | some cell => cases cell <;> rfl

theorem contents_renamed (h : Embeds ρ base s s') (v : Value) :
    s'.contents (v.renamed ρ) = rename ρ (s.contents v) := by
  cases v with
  | array c =>
    show (s'.items (ρ.cell c)).toList = _
    rw [h.items_renamed]
    exact Array.toList_map
  | object c =>
    show (s'.entries (ρ.cell c)).values = _
    rw [h.entries_renamed, Entries.values_rename]
    rfl
  | _ => rfl

theorem refilled_renamed (h : Embeds ρ base s s') (v : Value) (ws : List Value) :
    s'.refilled (v.renamed ρ) (rename ρ ws) = (s.refilled v ws).renamed ρ := by
  cases v with
  | object c =>
    show Cell.object ((s'.entries (ρ.cell c)).keys.zip (rename ρ ws)) =
      Cell.object (rename ρ ((s.entries c).keys.zip ws))
    rw [h.entries_renamed, Entries.keys_rename]
    exact congrArg Cell.object (List.zip_map_right ..)
  | _ => exact congrArg Cell.array (List.map_toArray ..).symm

theorem isTrue_renamed (h : Embeds ρ base s s') (v : Value) :
    s'.isTrue (v.renamed ρ) = s.isTrue v := by
  cases v with
  | array c =>
    show (!(s'.items (ρ.cell c)).isEmpty) = _
    rw [h.items_renamed]
    exact congrArg not (by simp [rename, Array.isEmpty])
  | object c =>
    show (!(s'.entries (ρ.cell c)).isEmpty) = _
    rw [h.entries_renamed]
    exact congrArg not List.isEmpty_map
  | _ => rfl

/-! ## Names -/

theorem lookupFrom_renamed (h : Embeds ρ base s s') (name : String) (n i : Nat) :
    lookupFrom s'.scopes name n (ρ.scope i) =
      (lookupFrom s.scopes name n i).map (Value.renamed ρ) := by
  induction n generalizing i with
  | zero => rfl
  | succ n ih =>
    rw [lookupFrom, lookupFrom, h.scope_eq]
    cases s.scopes[i]? with
    | none => rfl
    | some sc =>
      have hfind : (sc.renamed ρ).bindings.find? name =
          (sc.bindings.find? name).map (Value.renamed ρ) := Entries.find?_rename _ _
      simp only [Option.map_some, hfind]
      cases sc.bindings.find? name with
      | some v => rfl
      | none =>
        have hparent : (sc.renamed ρ).parent = sc.parent.map ρ.scope := rfl
        simp only [Option.map_none, hparent]
        cases sc.parent with
        | none => rfl
        | some p => exact ih p

theorem lookup_renamed (h : Embeds ρ base s s') (scope : Nat) (name : String) :
    s'.lookup (ρ.scope scope) name = (s.lookup scope name).map (Value.renamed ρ) := by
  rw [lookup, h.lookupFrom_renamed, lookupFrom_of_size_le h.scopes_le, lookup]

/-! ## Texts -/

/-- The text of a function does not show what arrays and objects hold. -/
theorem renderWith_of_callable {size : Nat} (inner inner' : Value → String) :
    (v : Value) → v.Sound size → v.isCallable = true →
      s'.renderWith inner' (v.renamed ρ) = s.renderWith inner v
  | .closure _ _, _, _ => rfl
  | .builtin _ _, _, _ => rfl
  | .applied i callee bound, hv, _ => by
    obtain ⟨hcallable, hcallee, -⟩ := Value.sound_applied.1 hv
    simp only [Value.renamed_applied, renderWith, List.length_map,
      renderWith_of_callable inner inner' callee hcallee hcallable]

theorem renderItem_renamed {f f' : Value → String} {v : Value}
    (h : f' (v.renamed ρ) = f v) : renderItem f' (v.renamed ρ) = renderItem f v := by
  cases v with
  | string t => rfl
  | _ => exact h

/-- A text shows the same at any two depths that its arrays and objects do not
exceed. -/
theorem renderTo_renamed (h : Embeds ρ base s s') (hs : s.All (Value.Sound s.cells.size))
    {rank : Nat → Nat} (hrank : s.Ranked rank) (n m : Nat) {v : Value}
    (hv : v.Sound s.cells.size) (hdepth : ∀ c, v.cell? = some c → rank c < n ∧ rank c < m) :
    s'.renderTo m (v.renamed ρ) = s.renderTo n v := by
  induction n generalizing m v with
  | zero =>
    cases v with
    | array c | object c => exact absurd (hdepth c rfl).1 (Nat.not_lt_zero _)
    | closure i f | builtin i b | applied i f bound =>
      rw [renderTo_eq, renderTo_eq]
      exact renderWith_of_callable _ _ _ hv rfl
    | _ =>
      rw [renderTo_eq, renderTo_eq]
      rfl
  | succ n ih =>
    have hinner {c : Nat} (hc : v.cell? = some c) {w : Value} (hw : w ∈ s.contents v) :
        renderItem (s'.renderInner m) (w.renamed ρ) = renderItem (s.renderTo n) w := by
      obtain ⟨k, rfl⟩ : ∃ k, m = k + 1 := ⟨m - 1, by have := (hdepth c hc).2; omega⟩
      refine renderItem_renamed (ih k (hs.content hw) fun d hd => ?_)
      have := rank_lt_of_content hrank hc hw hd
      have := hdepth c hc
      omega
    rw [renderTo_eq, renderTo_eq]
    cases v with
    | array c =>
      show "[" ++ ", ".intercalate ((s'.items (ρ.cell c)).toList.map _) ++ "]" = _
      have hitems : (s'.items (ρ.cell c)).toList = (s.items c).toList.map (Value.renamed ρ) :=
        h.contents_renamed (.array c)
      rw [hitems, List.map_map]
      exact congrArg (fun parts => "[" ++ ", ".intercalate parts ++ "]")
        (List.map_congr_left fun w hw => hinner rfl hw)
    | object c =>
      show "\x7b" ++ ", ".intercalate ((s'.entries (ρ.cell c)).map _) ++ "\x7d" = _
      have hentry (e : String × Value) (he : e ∈ s.entries c) :
          e.1 ++ ": " ++ renderItem (s'.renderInner m) (e.2.renamed ρ) =
            e.1 ++ ": " ++ renderItem (s.renderTo n) e.2 := by
        rw [hinner rfl (List.mem_map_of_mem he)]
      rw [h.entries_renamed]
      show "\x7b" ++ ", ".intercalate (List.map _ (List.map _ (s.entries c))) ++ "\x7d" = _
      rw [List.map_map]
      exact congrArg (fun parts => "\x7b" ++ ", ".intercalate parts ++ "\x7d")
        (List.map_congr_left hentry)
    | closure i f | builtin i b | applied i f bound => exact renderWith_of_callable _ _ _ hv rfl
    | _ => rfl

theorem render_renamed (h : Embeds ρ base s s') (hs : s.Tidy) {v : Value}
    (hv : v.Sound s.cells.size) : s'.render (v.renamed ρ) = s.render v := by
  obtain ⟨rank, hrank⟩ := hs.ranked
  refine h.renderTo_renamed hs.sound hrank _ _ hv fun c hc => ?_
  have hlt := hrank.lt_size c (hv.within.cell_lt hc)
  exact ⟨hlt, hlt.trans_le h.cells_le⟩

/-! ## Equality -/

theorem face?_renamed_iff (hρ : ρ.Injective) {v w : Value} (hv : v.face?.isSome = true) :
    (v.renamed ρ).face? = (w.renamed ρ).face? ↔ v.face? = w.face? := by
  cases v with
  | array c | object c => cases hv
  | _ => cases w <;> simp [Value.renamed, Value.face?, hρ.identity.eq_iff]

theorem all_zip_renamed {f g : Value → Value → Bool} {vs ws : List Value}
    (h : ∀ v ∈ vs, ∀ w ∈ ws, f (v.renamed ρ) (w.renamed ρ) = g v w) :
    (((vs.map (Value.renamed ρ)).zip (ws.map (Value.renamed ρ))).all fun (v, w) => f v w) =
      (vs.zip ws).all fun (v, w) => g v w := by
  induction vs generalizing ws with
  | nil => rfl
  | cons v vs ih =>
    cases ws with
    | nil => rfl
    | cons w ws =>
      simp only [List.map_cons, List.zip_cons_cons, List.all_cons]
      rw [h v List.mem_cons_self w List.mem_cons_self,
        ih fun v hv w hw => h v (List.mem_cons_of_mem _ hv) w (List.mem_cons_of_mem _ hw)]

/-- Arrays are equal if their items are. -/
theorem sameTo_renamed_array (h : Embeds ρ base s s') {n m c d : Nat}
    (hinner : ∀ x ∈ (s.items c).toList, ∀ y ∈ (s.items d).toList,
      s'.sameTo m (x.renamed ρ) (y.renamed ρ) = s.sameTo n x y) :
    s'.sameTo (m + 1) (.array (ρ.cell c)) (.array (ρ.cell d)) =
      s.sameTo (n + 1) (.array c) (.array d) := by
  have hcell : (ρ.cell c == ρ.cell d) = (c == d) :=
    Bool.eq_iff_iff.2 (by simp [h.injective.cell.eq_iff])
  have hitems (c : Nat) : (s'.items (ρ.cell c)).toList =
      (s.items c).toList.map (Value.renamed ρ) := h.contents_renamed (.array c)
  have hsize (c : Nat) : (s'.items (ρ.cell c)).size = (s.items c).size := by
    rw [h.items_renamed]
    exact Array.size_map
  simp only [sameTo, hcell, hsize, hitems]
  rw [all_zip_renamed hinner]

/-- Objects are equal if the values under each key are.  The value of the left one stands on the
right. -/
theorem sameTo_renamed_object (h : Embeds ρ base s s') {n m c d : Nat}
    (hinner : ∀ x ∈ (s.entries c).values, ∀ y ∈ (s.entries d).values,
      s'.sameTo m (y.renamed ρ) (x.renamed ρ) = s.sameTo n y x) :
    s'.sameTo (m + 1) (.object (ρ.cell c)) (.object (ρ.cell d)) =
      s.sameTo (n + 1) (.object c) (.object d) := by
  have hcell : (ρ.cell c == ρ.cell d) = (c == d) :=
    Bool.eq_iff_iff.2 (by simp [h.injective.cell.eq_iff])
  have hlength (c : Nat) : (s'.entries (ρ.cell c)).length = (s.entries c).length := by
    rw [h.entries_renamed]
    exact List.length_map _
  simp only [sameTo, hcell, hlength]
  refine congrArg ((c == d) || ((s.entries c).length == (s.entries d).length) && ·) ?_
  rw [h.entries_renamed, h.entries_renamed]
  show (List.map _ (s.entries c)).all _ = _
  rw [List.all_map, Bool.eq_iff_iff, List.all_eq_true, List.all_eq_true]
  refine forall₂_congr fun e he => ?_
  have hfind : (rename ρ (s.entries d) : Entries Value).find? (rename ρ e).1 =
      ((s.entries d).find? e.1).map (Value.renamed ρ) := Entries.find?_rename _ _
  simp only [Function.comp_apply, hfind]
  cases hy : (s.entries d).find? e.1 with
  | none => rfl
  | some y =>
    have heq : s'.sameTo m (y.renamed ρ) (e.2.renamed ρ) = s.sameTo n y e.2 :=
      hinner e.2 (List.mem_map_of_mem he) y (Entries.mem_values_of_find? hy)
    exact iff_of_eq (congrArg (· = true) heq)

/-- Values are equal at one depth if they are at another one, where their arrays and objects
exceed neither. -/
theorem sameTo_renamed (h : Embeds ρ base s s') {rank : Nat → Nat} (hrank : s.Ranked rank)
    (n m : Nat) {v w : Value} (hv : ∀ c, v.cell? = some c → rank c < n ∧ rank c < m)
    (hw : ∀ c, w.cell? = some c → rank c < n ∧ rank c < m) :
    s'.sameTo m (v.renamed ρ) (w.renamed ρ) = s.sameTo n v w := by
  have hleaf {n m : Nat} {v w : Value} (hface : v.face?.isSome = true)
      (hface' : (v.renamed ρ).face?.isSome = true) :
      s'.sameTo m (v.renamed ρ) (w.renamed ρ) = s.sameTo n v w := by
    refine Bool.eq_iff_iff.2 ?_
    rw [sameTo_iff_face?_eq hface', sameTo_iff_face?_eq hface, face?_renamed_iff h.injective hface]
  induction n generalizing m v w with
  | zero =>
    cases v with
    | array c | object c => exact absurd (hv c rfl).1 (Nat.not_lt_zero _)
    | _ => exact hleaf rfl rfl
  | succ n ih =>
    -- What cells of both values contain exceeds neither depth below.
    have hcontent {u : Value} {c k : Nat} (hc : u.cell? = some c)
        (hk : rank c < n + 1 ∧ rank c < k + 1) {x : Value} (hx : x ∈ s.contents u) :
        ∀ e, x.cell? = some e → rank e < n ∧ rank e < k := by
      intro e he
      have := rank_lt_of_content hrank hc hx he
      omega
    cases v with
    | array c =>
      obtain ⟨k, rfl⟩ : ∃ k, m = k + 1 := ⟨m - 1, by have := (hv c rfl).2; omega⟩
      cases w with
      | array d =>
        exact h.sameTo_renamed_array fun x hx y hy =>
          ih k (hcontent (u := .array c) rfl (hv c rfl) hx)
            (hcontent (u := .array d) rfl (hw d rfl) hy)
      | _ => rfl
    | object c =>
      obtain ⟨k, rfl⟩ : ∃ k, m = k + 1 := ⟨m - 1, by have := (hv c rfl).2; omega⟩
      cases w with
      | object d =>
        exact h.sameTo_renamed_object fun x hx y hy =>
          ih k (hcontent (u := .object d) rfl (hw d rfl) hy)
            (hcontent (u := .object c) rfl (hv c rfl) hx)
      | _ => rfl
    | _ => exact hleaf rfl rfl

theorem same_renamed (h : Embeds ρ base s s') (hs : s.Tidy) {v w : Value}
    (hv : v.Sound s.cells.size) (hw : w.Sound s.cells.size) :
    s'.same (v.renamed ρ) (w.renamed ρ) = s.same v w := by
  obtain ⟨rank, hrank⟩ := hs.ranked
  have hdepth {u : Value} (hu : u.Sound s.cells.size) (c : Nat) (hc : u.cell? = some c) :
      rank c < s.nesting ∧ rank c < s'.nesting := by
    have hlt := hrank.lt_size c (hu.within.cell_lt hc)
    exact ⟨hlt, hlt.trans_le h.cells_le⟩
  exact h.sameTo_renamed hrank _ _ (hdepth hv) (hdepth hw)

end Embeds

end Session

end Reckoner
