import Reckoner.Proofs.Renaming.Session

/-!
# Operations that are blind to numbers

Of an array, an object or a function these operations see of what kind it is, or
read what the session holds; so they give the same for a value with other
numbers.  The lemmas are about what is wanted of a value first, then about the
operators, conversions and built-in functions that are made of that.
-/

namespace Reckoner

open Renamable

variable {ρ : Renaming} {offset : Nat}

/-! ## Values of a wanted kind -/

namespace Value

@[simp] theorem asNumber_renamed (v : Value) :
    (v.renamed ρ).asNumber offset = v.asNumber offset := by
  cases v <;> rfl

@[simp] theorem asMagnitude_renamed (v : Value) :
    (v.renamed ρ).asMagnitude offset = v.asMagnitude offset := by
  cases v <;> rfl

@[simp] theorem asString_renamed (v : Value) :
    (v.renamed ρ).asString offset = v.asString offset := by
  cases v <;> rfl

@[simp] theorem asDate_renamed (v : Value) :
    (v.renamed ρ).asDate offset = v.asDate offset := by
  cases v <;> rfl

@[simp] theorem asKey_renamed (v : Value) : (v.renamed ρ).asKey offset = v.asKey offset := by
  cases v <;> rfl

@[simp] theorem wrongKind_renamed {α : Type} (v : Value) (wanted : String) :
    ((v.renamed ρ).wrongKind wanted offset : Checked α) = v.wrongKind wanted offset := by
  rw [wrongKind, kind_renamed, wrongKind]

theorem asCallable_renamed (v : Value) :
    (v.renamed ρ).asCallable offset = (v.asCallable offset).map (renamed ρ) := by
  rw [asCallable, asCallable, isCallable_renamed, wrongKind_renamed]
  split <;> rfl

/-- Results without cells and functions have no numbers. -/
theorem map_renamed_of_atomic {c : Checked Value}
    (h : Yields noCare offset (Value.Atomic noCare) c) : c.map (renamed ρ) = c := by
  cases h with
  | ok hv => exact congrArg Except.ok (renamed_of_atomic ρ hv)
  | error _ => rfl

theorem getD_renamed (v? : Option Value) (v : Value) :
    (v?.map (renamed ρ)).getD (v.renamed ρ) = (v?.getD v).renamed ρ := by
  cases v? <;> rfl

theorem measured_noCare (v : Value) : v.Measured noCare := fun _ _ h => h.elim

end Value

namespace Eval

variable {ctx : Context}

/-! ## Operators -/

theorem sub_renamed (v w : Value) :
    sub ctx (v.renamed ρ) (w.renamed ρ) offset = sub ctx v w offset := by
  cases v <;> cases w <;> rfl

theorem mul_renamed (v w : Value) :
    mul ctx (v.renamed ρ) (w.renamed ρ) offset = mul ctx v w offset := by
  cases v <;> cases w <;> rfl

theorem div_renamed (v w : Value) :
    div ctx (v.renamed ρ) (w.renamed ρ) offset = div ctx v w offset := by
  cases v <;> cases w <;> rfl

theorem rem_renamed (v w : Value) :
    rem ctx (v.renamed ρ) (w.renamed ρ) offset = rem ctx v w offset := by
  cases v <;> cases w <;> rfl

theorem pow_renamed (v w : Value) :
    pow (v.renamed ρ) (w.renamed ρ) offset = pow v w offset := by
  cases v <;> cases w <;> rfl

theorem bitwise_renamed (op : BinaryOp) (v w : Value) :
    bitwise op (v.renamed ρ) (w.renamed ρ) offset = bitwise op v w offset := by
  cases v <;> cases w <;> rfl

theorem compareValues_renamed (v w : Value) :
    compareValues ctx (v.renamed ρ) (w.renamed ρ) offset = compareValues ctx v w offset := by
  cases v <;> cases w <;> rfl

/-! ## Conversions -/

theorem convertUnits_renamed (v : Value) (terms : List UnitTerm) :
    convertUnits ctx (v.renamed ρ) terms offset = convertUnits ctx v terms offset := by
  cases v <;> rfl

theorem convertZone_renamed (v : Value) (name : String) :
    convertZone (v.renamed ρ) name offset = convertZone v name offset := by
  cases v <;> rfl

theorem toNumber_renamed (v : Value) : toNumber (v.renamed ρ) offset = toNumber v offset := by
  cases v <;> rfl

theorem toDate_renamed (v : Value) : toDate ctx (v.renamed ρ) offset = toDate ctx v offset := by
  cases v <;> rfl

theorem shiftBy_renamed (d : Value) (op : BinaryOp) (amount : Value) (unit : CalendarUnit) :
    shiftBy (d.renamed ρ) op (amount.renamed ρ) unit offset = shiftBy d op amount unit offset := by
  simp only [shiftBy, Value.asDate_renamed, Value.asNumber_renamed]

/-! ## Functions on numbers -/

theorem mapMagnitude_renamed (v : Value) (f : Decimal → Decimal) :
    mapMagnitude (v.renamed ρ) offset f = mapMagnitude v offset f := by
  cases v <;> rfl

theorem sqrt_renamed (v : Value) : sqrt (v.renamed ρ) offset = sqrt v offset := by
  simp only [sqrt, Value.asNumber_renamed]

theorem viaFloat_renamed (f : Float → Float) (v : Value) :
    viaFloat f (v.renamed ρ) offset = viaFloat f v offset := by
  simp only [viaFloat, Value.asNumber_renamed]

theorem round_renamed (v : Value) (places : Option Value) :
    round (v.renamed ρ) (places.map (Value.renamed ρ)) offset = round v places offset := by
  cases places with
  | none => simp only [round, Option.map_none, mapMagnitude_renamed]
  | some p =>
    simp only [round, Option.map_some, placesOf, Value.asNumber_renamed, mapMagnitude_renamed]

theorem sign_renamed (v : Value) : sign (v.renamed ρ) offset = sign v offset := by
  simp only [sign, Value.asMagnitude_renamed]

theorem exponential_renamed (v : Value) :
    exponential (v.renamed ρ) offset = exponential v offset := by
  simp only [exponential, Value.asNumber_renamed]

theorem ln_renamed (v : Value) : ln (v.renamed ρ) offset = ln v offset := by
  simp only [ln, Value.asNumber_renamed]

theorem log_renamed (v : Value) (base : Option Value) (usual : Decimal) :
    log (v.renamed ρ) (base.map (Value.renamed ρ)) usual offset = log v base usual offset := by
  cases base with
  | none => simp only [log, Option.map_none, Value.asNumber_renamed]
  | some b => simp only [log, Option.map_some, Value.asNumber_renamed]

theorem factorial_renamed (v : Value) : factorial (v.renamed ρ) offset = factorial v offset := by
  simp only [factorial, Value.asNumber_renamed]

theorem gcd_renamed (v w : Value) :
    gcd (v.renamed ρ) (w.renamed ρ) offset = gcd v w offset := by
  simp only [gcd, Value.asNumber_renamed]

theorem lcm_renamed (v w : Value) :
    lcm (v.renamed ρ) (w.renamed ρ) offset = lcm v w offset := by
  simp only [lcm, Value.asNumber_renamed]

/-! ## Functions on texts -/

theorem mapText_renamed (f : String → String) (v : Value) :
    mapText f (v.renamed ρ) offset = mapText f v offset := by
  simp only [mapText, Value.asString_renamed]

theorem replace_renamed (v old new : Value) :
    replace (v.renamed ρ) (old.renamed ρ) (new.renamed ρ) offset = replace v old new offset := by
  simp only [replace, Value.asString_renamed]

theorem startsWith_renamed (v part : Value) :
    startsWith (v.renamed ρ) (part.renamed ρ) offset = startsWith v part offset := by
  simp only [startsWith, Value.asString_renamed]

theorem endsWith_renamed (v part : Value) :
    endsWith (v.renamed ρ) (part.renamed ρ) offset = endsWith v part offset := by
  simp only [endsWith, Value.asString_renamed]

theorem substring_renamed (v start : Value) (stop : Option Value) :
    substring (v.renamed ρ) (start.renamed ρ) (stop.map (Value.renamed ρ)) offset =
      substring v start stop offset := by
  cases stop with
  | none =>
    simp only [substring, boundOf, Option.map_none, Value.asString_renamed,
      Value.asNumber_renamed]
  | some stop =>
    simp only [substring, boundOf, Option.map_some, Value.asString_renamed,
      Value.asNumber_renamed]

theorem sliceBounds_renamed (start : Value) (stop : Option Value) (length : Nat) :
    sliceBounds (start.renamed ρ) (stop.map (Value.renamed ρ)) length offset =
      sliceBounds start stop length offset := by
  cases stop with
  | none => simp only [sliceBounds, sliceBound, Option.map_none, Value.asNumber_renamed]
  | some stop => simp only [sliceBounds, sliceBound, Option.map_some, Value.asNumber_renamed]

/-! ## Functions on dates, and the host -/

theorem partOf_renamed (part : DatePart) (v : Value) :
    partOf part (v.renamed ρ) offset = partOf part v offset := by
  simp only [partOf, Value.asDate_renamed]

theorem timestamp_renamed (v : Value) : timestamp (v.renamed ρ) offset = timestamp v offset := by
  simp only [timestamp, Value.asDate_renamed]

theorem dayOfParts_renamed (year month day : Value) :
    dayOfParts ctx (year.renamed ρ) (month.renamed ρ) (day.renamed ρ) offset =
      dayOfParts ctx year month day offset := by
  simp only [dayOfParts, wholePart, Value.asNumber_renamed]

theorem envValue_renamed (v : Value) : envValue ctx (v.renamed ρ) offset = envValue ctx v offset := by
  simp only [envValue, Value.asString_renamed]

/-! ## What reads a session -/

variable {base s s' : Session}

theorem unary_renamed (h : Session.Embeds ρ base s s') (op : UnaryOp) (v : Value) :
    unary s' op (v.renamed ρ) offset = unary s op v offset := by
  cases op with
  | not =>
    show Except.ok (Value.bool (!s'.isTrue (v.renamed ρ))) = _
    rw [h.isTrue_renamed]
    rfl
  | _ => cases v <;> rfl

theorem equals_renamed (h : Session.Embeds ρ base s s') (hs : s.Tidy) {v w : Value}
    (hv : v.Sound s.cells.size) (hw : w.Sound s.cells.size) :
    equals ctx s' (v.renamed ρ) (w.renamed ρ) offset = equals ctx s v w offset := by
  have hsame := h.same_renamed hs hv hw
  cases v with
  | quantity p =>
    cases w with
    | quantity q =>
      simp only [Value.renamed] at hsame ⊢
      simp only [equals, hsame]
    | _ => exact hsame
  | _ => exact hsame

theorem length_renamed (h : Session.Embeds ρ base s s') (v : Value) :
    length s' (v.renamed ρ) offset = length s v offset := by
  cases v with
  | array c =>
    show Except.ok (Value.ofNat (s'.items (ρ.cell c)).size) = _
    rw [h.items_renamed]
    exact congrArg (fun n => Except.ok (Value.ofNat n)) Array.size_map
  | object c =>
    show Except.ok (Value.ofNat (s'.entries (ρ.cell c)).length) = _
    rw [h.entries_renamed]
    exact congrArg (fun n => Except.ok (Value.ofNat n)) (List.length_map _)
  | _ => rfl

theorem any_renamed {f g : Value → Bool} {vs : List Value}
    (h : ∀ v ∈ vs, f (v.renamed ρ) = g v) : (rename ρ vs).any f = vs.any g := by
  induction vs with
  | nil => rfl
  | cons v rest ih =>
    show (f (v.renamed ρ) || (rename ρ rest).any f) = (g v || rest.any g)
    rw [h v List.mem_cons_self, ih fun w hw => h w (List.mem_cons_of_mem _ hw)]

theorem contains_renamed (h : Session.Embeds ρ base s s') (hs : s.Tidy) {v part : Value}
    (hpart : part.Sound s.cells.size) :
    contains s' (v.renamed ρ) (part.renamed ρ) offset = contains s v part offset := by
  cases v with
  | string t =>
    show Except.ok (Value.bool (Text.occurs (s'.render (part.renamed ρ)).toList t.toList)) = _
    rw [h.render_renamed hs hpart]
    rfl
  | array c =>
    have hany : (s'.items (ρ.cell c)).toList.any (fun item => s'.same item (part.renamed ρ)) =
        (s.items c).toList.any fun item => s.same item part := by
      have hitems : (s'.items (ρ.cell c)).toList = rename ρ (s.items c).toList :=
        h.contents_renamed (.array c)
      rw [hitems]
      exact any_renamed fun item hitem =>
        h.same_renamed hs (hs.sound.item (Array.mem_toList_iff.1 hitem)) hpart
    exact congrArg (fun b => Except.ok (Value.bool b)) hany
  | object c =>
    cases part with
    | string key =>
      show Except.ok (Value.bool ((s'.entries (ρ.cell c)).hasKey key)) = _
      rw [h.entries_renamed, Entries.hasKey_rename]
      rfl
    | _ => rfl
  | _ => rfl

theorem bind_eq_map {α : Type} {c : Checked α} {f f' : α → Checked Value}
    (h : ∀ x, f' x = (f x).map (Value.renamed ρ)) :
    (c >>= f') = (c >>= f).map (Value.renamed ρ) := by
  cases c with
  | error e => rfl
  | ok x => exact h x

theorem access_renamed (h : Session.Embeds ρ base s s') (v key : Value) :
    access s' (v.renamed ρ) (key.renamed ρ) offset =
      (access s v key offset).map (Value.renamed ρ) := by
  have hatomic (harray : ∀ c, v ≠ .array c) (hobject : ∀ c, v ≠ .object c) :
      (access s v key offset).map (Value.renamed ρ) = access s v key offset :=
    Value.map_renamed_of_atomic <| (yields_access s v key).imp fun w hw => by
      rcases hw with hw | ⟨c, hc, -⟩ | ⟨c, k, hc, -⟩
      · exact hw
      · exact (harray c hc).elim
      · exact (hobject c hc).elim
  cases v with
  | array c =>
    have hsize : (s'.items (ρ.cell c)).size = (s.items c).size := by
      rw [h.items_renamed]
      exact Array.size_map
    cases key with
    | number x =>
      have hget (i : Nat) : (s'.items (ρ.cell c))[i]? = (s.items c)[i]?.map (Value.renamed ρ) := by
        rw [h.items_renamed]
        exact Array.getElem?_map
      simp only [Value.renamed, access, hsize, hget]
      exact bind_eq_map fun n => bind_eq_map fun i =>
        congrArg Except.ok (Value.getD_renamed _ .null)
    | string k =>
      simp only [Value.renamed, access, hsize]
      split <;> rfl
    | _ => rfl
  | object c =>
    simp only [Value.renamed, access, Value.asKey_renamed, h.entries_renamed]
    refine bind_eq_map fun k => ?_
    rw [Entries.find?_rename]
    exact congrArg Except.ok (Value.getD_renamed _ .null)
  | _ =>
    rw [hatomic (by simp) (by simp)]
    cases key <;> rfl

theorem uniqueFrom_renamed (h : Session.Embeds ρ base s s') (hs : s.Tidy) {kept : Array Value}
    {items : List Value} (hkept : Sound s.cells.size kept) (hitems : Sound s.cells.size items) :
    uniqueFrom s' (rename ρ kept) (rename ρ items) = rename ρ (uniqueFrom s kept items) := by
  induction items generalizing kept with
  | nil => rfl
  | cons v rest ih =>
    have hv := hitems v List.mem_cons_self
    have hany : ((rename ρ kept).any fun w => s'.same w (v.renamed ρ)) =
        kept.any fun w => s.same w v := by
      rw [← Array.any_toList, ← Array.any_toList]
      have hlist : (rename ρ kept).toList = rename ρ kept.toList := Array.toList_map
      rw [hlist]
      exact any_renamed fun w hw => h.same_renamed hs (hkept w (Array.mem_toList_iff.1 hw)) hv
    have hrest : Sound s.cells.size rest := fun w hw => hitems w (List.mem_cons_of_mem _ hw)
    show uniqueFrom s' (rename ρ kept) (v.renamed ρ :: rename ρ rest) = _
    rw [uniqueFrom, uniqueFrom, hany]
    split
    · exact ih hkept hrest
    · have hpush : (rename ρ kept).push (v.renamed ρ) = rename ρ (kept.push v) :=
        (Array.map_push ..).symm
      rw [hpush]
      refine ih (fun w hw => ?_) hrest
      rcases Array.mem_push.1 hw with hw | rfl
      · exact hkept w hw
      · exact hv

end Eval

end Reckoner
