import Reckoner.Eval.Builtin.Call
import Reckoner.Proofs.Decimal.Whole
import Reckoner.Proofs.Value.Keys

/-!
# Slices and indices

Arrays and strings are sequences, of items or of characters.  A slice and an index find their
places by rules of their own: a slice moves what lies outside to the nearer end, an index fails.

* `Session.HasElements`: the elements of an array or a string, and `place`, the place that an
  integer means.
* `slice_of_bounds` and `access_of_bounds`: a slice is the part between its places, and an index
  the element at its place.
* `add_of_elements`: a sum joins the elements, and `same_of_elements`: sequences of one kind with
  the same elements are equal.
* `slices_and_indices_agree` puts these together.
-/

namespace Reckoner

/-! ## Elements -/

namespace Session

variable {s t : Session} {v w : Value} {es fs : List Value}

/-- The elements of a sequence: the items of an array, or the characters of a string, each as a
string. -/
inductive HasElements (s : Session) : Value → List Value → Prop where
  | array {c : Nat} {items : Array Value} (h : s.cells[c]? = some (.array items)) :
    HasElements s (.array c) items.toList
  | string (text : String) :
    HasElements s (.string text) (text.toList.map fun c => .string (String.ofList [c]))

theorem items_of_cell {c : Nat} {xs : Array Value} (h : s.cells[c]? = some (.array xs)) :
    s.items c = xs := by
  rw [items, h]

theorem hasElements_newCell (s : Session) (items : Array Value) :
    (s.newCell (.array items)).HasElements (.array s.cells.size) items.toList :=
  .array (by simp [newCell])

theorem hasElements_ofList (s : Session) (cs : List Char) :
    s.HasElements (.string (String.ofList cs)) (cs.map fun c => .string (String.ofList [c])) := by
  have h := HasElements.string (s := s) (String.ofList cs)
  rwa [String.toList_ofList] at h

/-- Elements stay as they are when cells are added. -/
theorem HasElements.later (h : s.HasElements v es) (hst : Extends none s t) :
    t.HasElements v es := by
  cases h with
  | array h =>
    obtain ⟨hc, -⟩ := Array.getElem?_eq_some_iff.1 h
    exact .array ((hst.cell_eq _ hc (by simp)).trans h)
  | string text => exact .string text

/-- Sequences of one kind with the same elements are equal. -/
theorem same_of_elements (hv : s.HasElements v es) (hw : s.HasElements w es)
    (hkind : v.kind = w.kind) : s.same v w = true := by
  cases hv with
  | @array c items hc =>
    generalize hes : items.toList = es at hw
    cases hw with
    | @array d items' hd =>
      obtain ⟨hlt, -⟩ := Array.getElem?_eq_some_iff.1 hc
      have hnesting : s.nesting = s.cells.size - 1 + 1 := by
        show s.cells.size = _
        omega
      have hitems : (s.items d).toList = (s.items c).toList := by
        rw [items_of_cell hc, items_of_cell hd]
        exact hes.symm
      rw [same, hnesting, sameTo_array_iff]
      refine ⟨d, rfl, .inr ⟨_, rfl, ?_⟩⟩
      rw [hitems]
      exact List.forall₂_same.2 fun v _ => sameTo_refl s _ v
    | string text => cases hkind
  | string text =>
    generalize hes : text.toList.map _ = es at hw
    cases hw with
    | array _ => cases hkind
    | string text' =>
      have hinjective : Function.Injective fun c => Value.string (String.ofList [c]) := by
        intro c d h
        simpa using h
      have htext : text = text' := String.toList_injective (hinjective.list_map hes)
      rw [htext]
      exact sameTo_refl s _ _

theorem render_string (s : Session) (text : String) : s.render (.string text) = text := by
  rw [render]
  cases s.nesting <;> rfl

end Session

namespace Eval

variable {o : Nat} {s t : Session} {xs v w : Value}
  {es fs : List Value} {x y : Decimal} {i j k : Int} {n : Nat}

/-! ## Places -/

/-- The place that an integer means among `n` elements: a negative one counts from the end, and
what lies outside is moved to the nearer end. -/
def place (n : Nat) (k : Int) : Nat := (max 0 (min (if k < 0 then n + k else k) n)).toNat

theorem place_zero (n : Nat) : place n 0 = 0 := by
  rw [place, if_neg (lt_irrefl 0)]
  omega

theorem place_le (n : Nat) (k : Int) : place n k ≤ n := by
  rw [place]
  omega

theorem sliceBound_eq (hx : x.IsWord k) : sliceBound (.number x) n o = .ok (place n k) := by
  have hbound : (if k < 0 then ((n : Int) + k).toNat else min k.toNat n) = place n k := by
    rw [place]
    split <;> omega
  show (x.toInteger o >>= fun k =>
    Except.ok (if k < 0 then ((n : Int) + k).toNat else min k.toNat n)) = _
  rw [hx.toInteger, ← hbound]
  rfl

theorem sliceBounds_two (hx : x.IsWord i) (hy : y.IsWord j) :
    sliceBounds (.number x) (some (.number y)) n o =
      .ok (place n i, max (place n i) (place n j)) := by
  rw [sliceBounds, sliceBound_eq hx]
  dsimp only [bind, Except.bind]
  rw [sliceBound_eq hy]
  rfl

theorem sliceBounds_one (hx : x.IsWord k) :
    sliceBounds (.number x) none n o = .ok (place n k, n) := by
  rw [sliceBounds, sliceBound_eq hx]
  show Except.ok (place n k, max (place n k) n) = _
  rw [max_eq_right (place_le n k)]

/-- An index that is not outside means the same place as it does for a slice. -/
theorem resolveIndex_of_within (h : -(n : Int) ≤ k ∧ k < n) :
    resolveIndex k n o = .ok (place n k) ∧ place n k < n := by
  have hlt : place n k < n := by
    rw [place]
    split <;> omega
  refine ⟨?_, hlt⟩
  rw [resolveIndex, place]
  by_cases hneg : k < 0
  · rw [if_neg (by omega), if_pos (by omega), if_pos hneg]
    congr 1
    omega
  · rw [if_pos (by omega), if_neg hneg]
    congr 1
    omega

theorem resolveIndex_of_outside (h : ¬(-(n : Int) ≤ k ∧ k < n)) :
    resolveIndex k n o = failAt o (.indexOutOfBounds k n) := by
  rw [resolveIndex, if_neg (by omega), if_neg (by omega)]

theorem extract_to_end {α : Type} (es : List α) (a : Nat) : es.extract a es.length = es.drop a := by
  rw [List.extract_eq_take_drop]
  exact List.take_of_length_le (by rw [List.length_drop])

/-! ## Slices, indices and sums -/

/-- A slice is the part of the sequence between its bounds. -/
theorem slice_of_bounds (hxs : s.HasElements xs es) {start : Value} {stop : Option Value}
    {a b : Nat} (hbounds : sliceBounds start stop es.length o = .ok (a, b)) :
    ∃ w t, slice xs start stop o s = .ok w t ∧ Session.Extends none s t ∧ w.kind = xs.kind ∧
      t.HasElements w (es.extract a b) := by
  cases hxs with
  | @array c items hc =>
    rw [Array.length_toList] at hbounds
    refine ⟨.array s.cells.size, s.newCell (.array (items.extract a b)), ?_,
      Session.extends_newCell _ _, rfl, ?_⟩
    · have hread : itemsOf (.array c) o s = .ok items s := by
        rw [← Session.items_of_cell hc]
        rfl
      show (itemsOf (.array c) o >>= _) s = _
      rw [bind_of_ok hread, hbounds]
      rfl
    · rw [← Array.toList_extract]
      exact Session.hasElements_newCell s _
  | string text =>
    rw [List.length_map] at hbounds
    refine ⟨.string (String.ofList ((text.toList.take b).drop a)), s, ?_,
      Session.extends_refl s, rfl, ?_⟩
    · show ((sliceBounds start stop text.toList.length o >>= _ : EvalM Value)) s = _
      rw [hbounds]
      rfl
    · rw [List.extract_eq_take_drop, ← List.drop_take, ← List.map_take, ← List.map_drop]
      exact Session.hasElements_ofList s _

/-- An index gives the element at its place. -/
theorem access_of_bounds (hxs : s.HasElements xs es) (hx : x.IsWord k)
    (h : -(es.length : Int) ≤ k ∧ k < es.length) :
    ∃ e, access s xs (.number x) o = .ok e ∧ es[place es.length k]? = some e := by
  obtain ⟨hplace, hlt⟩ := resolveIndex_of_within (o := o) h
  refine ⟨es[place es.length k], ?_, List.getElem?_eq_getElem hlt⟩
  cases hxs with
  | @array c items hc =>
    simp only [Array.length_toList] at hplace hlt ⊢
    simp only [access, Session.items_of_cell hc, hx.toInteger, bind, Except.bind, hplace]
    rw [Array.getElem?_eq_getElem hlt, Option.getD_some, Array.getElem_toList]
  | string text =>
    simp only [List.length_map] at hplace hlt ⊢
    simp only [access, hx.toInteger, bind, Except.bind, hplace]
    rw [List.getElem?_eq_getElem hlt, List.getElem_map]
    rfl

theorem access_of_outside (hxs : s.HasElements xs es) (hx : x.IsWord k)
    (h : ¬(-(es.length : Int) ≤ k ∧ k < es.length)) :
    access s xs (.number x) o = failAt o (.indexOutOfBounds k es.length) := by
  have hfails := resolveIndex_of_outside (o := o) h
  cases hxs with
  | @array c items hc =>
    rw [Array.length_toList] at hfails ⊢
    simp only [access, Session.items_of_cell hc, hx.toInteger, bind, Except.bind, hfails]
    rfl
  | string text =>
    rw [List.length_map] at hfails ⊢
    simp only [access, hx.toInteger, bind, Except.bind, hfails]
    rfl

/-- The sum of two sequences of one kind has the elements of both. -/
theorem add_of_elements (ctx : Context) (hv : s.HasElements v es) (hw : s.HasElements w fs)
    (hkind : v.kind = w.kind) :
    ∃ u t, binary ctx .add v w o s = .ok u t ∧ Session.Extends none s t ∧ u.kind = v.kind ∧
      t.HasElements u (es ++ fs) := by
  cases hv with
  | @array c items hc =>
    cases hw with
    | @array d items' hd =>
      refine ⟨.array s.cells.size, s.newCell (.array (items ++ items')), ?_,
        Session.extends_newCell _ _, rfl, ?_⟩
      · rw [← Session.items_of_cell hc, ← Session.items_of_cell hd]
        rfl
      · rw [← Array.toList_append]
        exact Session.hasElements_newCell s _
    | string _ => cases hkind
  | string text =>
    cases hw with
    | array _ => cases hkind
    | string text' =>
      refine ⟨.string (text ++ text'), s, ?_, Session.extends_refl s, rfl, ?_⟩
      · show EStateM.Result.ok (Value.string (text ++ s.render (.string text'))) s = _
        rw [Session.render_string]
      · rw [← List.map_append, ← String.toList_append]
        exact .string (text ++ text')

/-! ## All together -/

/-- Slices and indices agree and never fail for a place, but for an index that is outside.  For
all arrays and strings, and all decimals that stand for integers of 64 bits: a slice holds the
elements between its places, the slices before and from a place make up the whole, and an index
gives the first element of the slice from it or fails with the index and the length. -/
theorem slices_and_indices_agree (hxs : s.HasElements xs es) (ctx : Context) (call : Caller)
    (o : Nat) :
    let n := es.length
    let slice (args : List Value) := callBuiltin ctx call .slice args o
    (∀ {x y i j}, Decimal.IsWord x i → Decimal.IsWord y j →
      ∃ w t, slice [xs, .number x, .number y] s = .ok w t ∧ Session.Extends none s t ∧
        w.kind = xs.kind ∧
        t.HasElements w (es.extract (place n i) (max (place n i) (place n j)))) ∧
    (∀ {x k}, Decimal.IsWord x k →
      ∃ w t, (do
          let front ← slice [xs, .number .zero, .number x]
          let back ← slice [xs, .number x]
          binary ctx .add front back o : EvalM Value) s = .ok w t ∧
        w.kind = xs.kind ∧ t.HasElements w es ∧ t.same w xs = true) ∧
    ∀ {x k}, Decimal.IsWord x k →
      (-(n : Int) ≤ k ∧ k < n → ∃ e w t rest, access s xs (.number x) o = .ok e ∧
        slice [xs, .number x] s = .ok w t ∧ w.kind = xs.kind ∧ t.HasElements w (e :: rest)) ∧
      (¬(-(n : Int) ≤ k ∧ k < n) →
        access s xs (.number x) o = .error ⟨.indexOutOfBounds k n, o⟩) := by
  intro n slice
  refine ⟨fun hx hy => ?_, fun {x k} hx => ?_, fun {x k} hx => ⟨fun hk => ?_, ?_⟩⟩
  · exact slice_of_bounds hxs (sliceBounds_two hx hy)
  · have hzero : Decimal.zero.IsWord 0 := ⟨Decimal.toRat_zero, by decide, by decide⟩
    obtain ⟨v, t, hfront, hst, hv, hvs⟩ :=
      slice_of_bounds hxs (sliceBounds_two (o := o) hzero hx)
    obtain ⟨w, u, hback, htu, hw, hws⟩ :=
      slice_of_bounds (hxs.later hst) (sliceBounds_one (o := o) hx)
    obtain ⟨r, u', hsum, huu, hr, hrs⟩ :=
      add_of_elements ctx (o := o) (hvs.later htu) hws (hv.trans hw.symm)
    have hes : es.extract (place n 0) (max (place n 0) (place n k)) ++ es.extract (place n k) n =
        es := by
      rw [place_zero, Nat.max_eq_right (Nat.zero_le _), extract_to_end, List.extract_eq_take_drop]
      exact List.take_append_drop _ _
    rw [hes] at hrs
    have hlater := (hst.trans htu).trans huu
    have hkind := hr.trans hv
    refine ⟨r, u', ?_, hkind, hrs, Session.same_of_elements hrs (hxs.later hlater) hkind⟩
    exact (bind_of_ok hfront).trans ((bind_of_ok hback).trans hsum)
  · obtain ⟨e, haccess, he⟩ := access_of_bounds (o := o) hxs hx hk
    obtain ⟨w, t, hrun, -, hkind, hws⟩ := slice_of_bounds hxs (sliceBounds_one (o := o) hx)
    obtain ⟨hlt, rfl⟩ := List.getElem?_eq_some_iff.1 he
    rw [extract_to_end, List.drop_eq_getElem_cons hlt] at hws
    exact ⟨_, w, t, _, haccess, hrun, hkind, hws⟩
  · exact access_of_outside hxs hx

/-- The last two of three items, the three characters of a text cut before the last two of them,
and a fourth character from the end, which is not there. -/
theorem slices_and_indices_agree_three :
    let items : Array Value := #[.null, .bool true, .string "añb"]
    let chars : List Value := [.string "a", .string "ñ", .string "b"]
    let s := Session.empty.newCell (.array items)
    let ctx := Context.ofClock ⟨0, 0⟩ (.fixed 0)
    let call : Caller := fun _ _ _ => pure .null
    let slice (args : List Value) := callBuiltin ctx call .slice args 0
    let back := Decimal.ofInt (-2)
    s.HasElements (.array 0) items.toList ∧ s.HasElements (.string "añb") chars ∧
      back.IsWord (-2) ∧ (Decimal.ofInt 3).IsWord 3 ∧ (Decimal.ofInt (-4)).IsWord (-4) ∧
      (∃ w t, slice [.array 0, .number back, .number (.ofInt 3)] s = .ok w t ∧
        t.HasElements w [.bool true, .string "añb"]) ∧
      (∃ w t, (do
          let front ← slice [.string "añb", .number .zero, .number back]
          let rest ← slice [.string "añb", .number back]
          binary ctx .add front rest 0 : EvalM Value) s = .ok w t ∧ t.HasElements w chars) ∧
      (∃ e w t rest, access s (.string "añb") (.number back) 0 = .ok e ∧
        slice [.string "añb", .number back] s = .ok w t ∧ t.HasElements w (e :: rest)) ∧
      access s (.string "añb") (.number (.ofInt (-4))) 0 = .error ⟨.indexOutOfBounds (-4) 3, 0⟩ := by
  intro items chars s ctx call slice back
  have hitems : s.HasElements (.array 0) items.toList := Session.hasElements_newCell .empty items
  have hchars : s.HasElements (.string "añb") chars := .string "añb"
  have hword {k : Int} (h : FitsInt64 k) : (Decimal.ofInt k).IsWord k := Decimal.isWord_ofInt h
  have hback : back.IsWord (-2) := hword (by decide)
  have hthree : (Decimal.ofInt 3).IsWord 3 := hword (by decide)
  have hfour : (Decimal.ofInt (-4)).IsWord (-4) := hword (by decide)
  obtain ⟨hslice, -, -⟩ := slices_and_indices_agree hitems ctx call 0
  obtain ⟨-, hsum, hindex⟩ := slices_and_indices_agree hchars ctx call 0
  obtain ⟨w, t, hrun, -, -, helements⟩ := hslice hback hthree
  obtain ⟨v, u, hjoin, -, hwhole, -⟩ := hsum hback
  obtain ⟨e, w', t', rest, haccess, hrest, -, hfirst⟩ := (hindex hback).1 (by decide)
  exact ⟨hitems, hchars, hback, hthree, hfour, ⟨w, t, hrun, helements⟩, ⟨v, u, hjoin, hwhole⟩,
    ⟨e, w', t', rest, haccess, hrest, hfirst⟩, (hindex hfour).2 (by decide)⟩

end Eval

end Reckoner
