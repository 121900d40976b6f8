import Reckoner.Proofs.Renaming.Array

/-!
# Built-in functions do not look at numbers

Operators, and the built-in functions that read or change the session.  With the
functions on arrays and those that are blind to numbers they make
`mirrors_callBuiltin`: a built-in function, called with values and with the same
values under other numbers, ends alike.
-/

namespace Reckoner

open Eval Renamable

section

variable {ρ : Renaming} {base s s' : Session} {offset : Nat} {ctx : Context} {call : Caller}

/-! ## Operators -/

theorem mirrors_pure_ofAmount (h : Alike ρ base s s') (a : Amount) :
    Mirrors ρ base s s' (pure (Value.ofAmount a)) (pure (Value.ofAmount a)) :=
  mirrors_pure_atomic h (Value.ofAmount_atomic fun hunits => hunits.elim)

theorem mirrors_add (h : Alike ρ base s s') {v w : Value} (hv : v.Sound s.cells.size)
    (hw : w.Sound s.cells.size) :
    Mirrors ρ base s s' (add ctx v w offset) (add ctx (v.renamed ρ) (w.renamed ρ) offset) := by
  have hleft (t : String) : Mirrors ρ base s s' (textOf w >>= fun u => pure (Value.string (t ++ u)))
      (textOf (w.renamed ρ) >>= fun u => pure (Value.string (t ++ u))) :=
    (mirrors_textOf h hw).bind fun _ _ _ ht _ _ => mirrors_pure_atomic ht trivial
  have hright (u : String) : Mirrors ρ base s s' (textOf v >>= fun t => pure (Value.string (t ++ u)))
      (textOf (v.renamed ρ) >>= fun t => pure (Value.string (t ++ u))) :=
    (mirrors_textOf h hv).bind fun _ _ _ ht _ _ => mirrors_pure_atomic ht trivial
  cases v with
  | string t => cases w <;> exact hleft t
  | number x =>
    cases w with
    | number y => exact mirrors_atomic h (yields_numberOr (Decimal.add? x y)) rfl
    | quantity q => exact mirrors_lift_bind h rfl fun _ _ => mirrors_pure_atomic h nofun
    | string u => exact hright u
    | _ => exact mirrors_fail h _
  | quantity p =>
    cases w with
    | number y => exact mirrors_lift_bind h rfl fun _ _ => mirrors_pure_atomic h nofun
    | quantity q => exact mirrors_lift_bind h rfl fun _ _ => mirrors_pure_ofAmount h _
    | date d => exact mirrors_atomic h (yields_shiftDate d p false) rfl
    | string u => exact hright u
    | _ => exact mirrors_fail h _
  | date d =>
    cases w with
    | quantity q => exact mirrors_atomic h (yields_shiftDate d q false) rfl
    | string u => exact hright u
    | _ => exact mirrors_fail h _
  | array c =>
    cases w with
    | array d =>
      refine mirrors_get_bind ?_
      rw [h.embeds.items_renamed, h.embeds.items_renamed,
        show rename ρ (s.items c) ++ rename ρ (s.items d) = rename ρ (s.items c ++ s.items d) from
          Array.map_append.symm]
      refine mirrors_newArray h fun u hu => ?_
      rcases Array.mem_append.1 hu with hu | hu
      · exact h.tidy.sound.item hu
      · exact h.tidy.sound.item hu
    | string u => exact hright u
    | _ => exact mirrors_fail h _
  | _ =>
    cases w with
    | string u => exact hright u
    | _ => exact mirrors_fail h _

theorem mirrors_binary (h : Alike ρ base s s') (op : BinaryOp) {v w : Value}
    (hv : v.Sound s.cells.size) (hw : w.Sound s.cells.size) :
    Mirrors ρ base s s' (binary ctx op v w offset)
      (binary ctx op (v.renamed ρ) (w.renamed ρ) offset) := by
  have hmv := v.measured_noCare
  have hmw := w.measured_noCare
  cases op with
  | add => exact mirrors_add h hv hw
  | sub => exact mirrors_atomic h (yields_sub hmv hmw) (sub_renamed v w)
  | mul => exact mirrors_atomic h (yields_mul hmv hmw) (mul_renamed v w)
  | div => exact mirrors_atomic h (yields_div hmv hmw) (div_renamed v w)
  | mod => exact mirrors_atomic h (yields_rem hmv hmw) (rem_renamed v w)
  | pow => exact mirrors_atomic h (yields_pow hmv) (pow_renamed v w)
  | bitAnd => exact mirrors_atomic h (yields_bitwise _ v w) (bitwise_renamed _ v w)
  | bitOr => exact mirrors_atomic h (yields_bitwise _ v w) (bitwise_renamed _ v w)
  | shiftLeft => exact mirrors_atomic h (yields_bitwise _ v w) (bitwise_renamed _ v w)
  | shiftRight => exact mirrors_atomic h (yields_bitwise _ v w) (bitwise_renamed _ v w)

theorem mirrors_comparison (h : Alike ρ base s s') (op : CompareOp) {v w : Value}
    (hv : v.Sound s.cells.size) (hw : w.Sound s.cells.size) :
    Mirrors ρ base s s' (comparison ctx op v w offset)
      (comparison ctx op (v.renamed ρ) (w.renamed ρ) offset) := by
  have hequals : equals ctx s' (v.renamed ρ) (w.renamed ρ) offset = equals ctx s v w offset :=
    equals_renamed h.embeds h.tidy hv hw
  have hbool (f : Ordering → Bool) : Mirrors ρ base s s'
      (liftM (compareValues ctx v w offset) >>= fun order => pure (Value.bool (f order)))
      (liftM (compareValues ctx (v.renamed ρ) (w.renamed ρ) offset) >>= fun order =>
        pure (Value.bool (f order))) :=
    mirrors_lift_bind h (compareValues_renamed v w) fun _ _ => mirrors_pure_atomic h trivial
  cases op with
  | equal =>
    refine mirrors_get_bind ?_
    rw [hequals]
    exact mirrors_pure_atomic h trivial
  | notEqual =>
    refine mirrors_get_bind ?_
    rw [hequals]
    exact mirrors_pure_atomic h trivial
  | less => exact hbool (· == .lt)
  | lessEqual => exact hbool (· != .gt)
  | greater => exact hbool (· == .gt)
  | greaterEqual => exact hbool (· != .lt)

/-! ## Numbers -/

theorem mirrors_spread (h : Alike ρ base s s') {args : List Value}
    (hargs : Sound s.cells.size args) :
    Mirrors ρ base s s' (spread args) (spread (rename ρ args)) := by
  cases args with
  | nil => exact mirrors_pure h hargs
  | cons v rest =>
    cases rest with
    | nil =>
      cases v with
      | array c =>
        refine mirrors_get_bind ?_
        rw [h.embeds.items_renamed, rename_toList]
        exact mirrors_pure h fun w hw => h.tidy.sound.item (Array.mem_toList_iff.1 hw)
      | _ => exact mirrors_pure h hargs
    | cons w rest => cases v <;> exact mirrors_pure h hargs

theorem mirrors_extreme (h : Alike ρ base s s') (wanted : Ordering) {args : List Value}
    (hargs : Sound s.cells.size args) :
    Mirrors ρ base s s' (extreme ctx wanted args offset)
      (extreme ctx wanted (rename ρ args) offset) := by
  refine (mirrors_spread h hargs).bind fun vs t t' ht _ hvs => ?_
  cases vs with
  | nil => exact mirrors_fail ht _
  | cons first rest =>
    refine mirrors_foldlM (fun u u' best v hu _ hbest hv => ?_) ht (sound_head hvs) (sound_tail hvs)
    refine mirrors_lift_bind hu (compareValues_renamed v best) fun order _ => ?_
    split
    · exact mirrors_pure hu hv
    · exact mirrors_pure hu hbest

theorem mirrors_clamp (h : Alike ρ base s s') {v low high : Value} (hv : v.Sound s.cells.size)
    (hlow : low.Sound s.cells.size) (hhigh : high.Sound s.cells.size) :
    Mirrors ρ base s s' (clamp ctx v low high offset)
      (clamp ctx (v.renamed ρ) (low.renamed ρ) (high.renamed ρ) offset) := by
  refine mirrors_lift_bind h (compareValues_renamed low high) fun order _ => ?_
  split
  · refine (mirrors_textOf h hlow).bind fun _ t t' ht hle _ => ?_
    exact (mirrors_textOf ht (hhigh.mono hle)).bind fun _ u u' hu _ _ => mirrors_fail hu _
  · refine mirrors_lift_bind h (compareValues_renamed v low) fun order _ => ?_
    split
    · exact mirrors_pure h hlow
    · refine mirrors_lift_bind h (compareValues_renamed v high) fun order _ => ?_
      split
      · exact mirrors_pure h hhigh
      · exact mirrors_pure h hv

theorem mirrors_addNumeric (h : Alike ρ base s s') {total v : Value}
    (htotal : total.Sound s.cells.size) (hv : v.Sound s.cells.size) :
    Mirrors ρ base s s' (addNumeric ctx offset total v)
      (addNumeric ctx offset (total.renamed ρ) (v.renamed ρ)) := by
  unfold addNumeric
  rw [Value.isNumeric_renamed, Value.wrongKind_renamed]
  split
  · exact mirrors_add h htotal hv
  · exact mirrors_fail h _

theorem mirrors_addAll (h : Alike ρ base s s') {vs : List Value} (hvs : Sound s.cells.size vs) :
    Mirrors ρ base s s' (vs.foldlM (addNumeric ctx offset) (.number .zero))
      ((rename ρ vs).foldlM (addNumeric ctx offset) (.number .zero)) :=
  have hzero : Sound s.cells.size (Value.number .zero) := Value.sound_of_atomic trivial
  mirrors_foldlM (fun _ _ _ _ hu _ hacc hv => mirrors_addNumeric hu hacc hv) h hzero hvs

theorem mirrors_sumValues (h : Alike ρ base s s') {args : List Value}
    (hargs : Sound s.cells.size args) :
    Mirrors ρ base s s' (sumValues ctx args offset) (sumValues ctx (rename ρ args) offset) :=
  (mirrors_spread h hargs).bind fun _ _ _ ht _ hvs => mirrors_addAll ht hvs

theorem mirrors_averageValues (h : Alike ρ base s s') {args : List Value}
    (hargs : Sound s.cells.size args) :
    Mirrors ρ base s s' (averageValues ctx args offset)
      (averageValues ctx (rename ρ args) offset) := by
  refine (mirrors_spread h hargs).bind fun vs t t' ht _ hvs => ?_
  rw [show (rename ρ vs).isEmpty = vs.isEmpty from List.isEmpty_map,
    show (rename ρ vs).length = vs.length from List.length_map _]
  split
  · exact mirrors_fail ht _
  · refine (mirrors_addAll ht hvs).bind fun total u u' hu _ _ => ?_
    exact mirrors_atomic hu (yields_div total.measured_noCare (Value.measured_number _))
      (div_renamed total (.ofNat vs.length))

/-! ## Texts and objects -/

theorem mirrors_split (h : Alike ρ base s s') (v sep : Value) :
    Mirrors ρ base s s' (split v sep offset) (split (v.renamed ρ) (sep.renamed ρ) offset) := by
  refine mirrors_lift_bind h (Value.asString_renamed v) fun text _ => ?_
  refine mirrors_lift_bind h (Value.asString_renamed sep) fun sep _ => ?_
  refine mirrors_newList_of_atomic h fun w hw => ?_
  unfold splitText at hw
  split at hw
  · obtain ⟨c, _, rfl⟩ := List.mem_map.1 hw
    trivial
  · obtain ⟨piece, _, rfl⟩ := List.mem_map.1 hw
    trivial

theorem mirrors_join (h : Alike ρ base s s') (v : Value) (sep : Option Value) :
    Mirrors ρ base s s' (join v sep offset) (join (v.renamed ρ) (rename ρ sep) offset) := by
  refine (mirrors_itemsOf h v).bind fun items t t' ht _ hitems => ?_
  have htexts : (rename ρ items).toList.map t'.render = items.toList.map t.render := by
    rw [rename_toList]
    show (items.toList.map (Value.renamed ρ)).map t'.render = _
    rw [List.map_map]
    exact List.map_congr_left fun w hw =>
      ht.embeds.render_renamed ht.tidy (hitems w (Array.mem_toList_iff.1 hw))
  have hjoin (sep : String) : Mirrors ρ base t t'
      (get >>= fun s => pure (Value.string (sep.intercalate (items.toList.map s.render))))
      (get >>= fun s =>
        pure (Value.string (sep.intercalate ((rename ρ items).toList.map s.render)))) := by
    refine mirrors_get_bind ?_
    rw [htexts]
    exact mirrors_pure_atomic ht trivial
  cases sep with
  | none => exact hjoin ""
  | some sep => exact mirrors_lift_bind ht (Value.asString_renamed sep) fun sep _ => hjoin sep

theorem mirrors_keys (h : Alike ρ base s s') (o : Value) :
    Mirrors ρ base s s' (keys o offset) (keys (o.renamed ρ) offset) := by
  refine (mirrors_entriesOf h o).bind fun entries t t' ht _ _ => ?_
  rw [Entries.keys_rename]
  refine mirrors_newList_of_atomic ht fun v hv => ?_
  obtain ⟨key, _, rfl⟩ := List.mem_map.1 hv
  trivial

theorem mirrors_values (h : Alike ρ base s s') (o : Value) :
    Mirrors ρ base s s' (values o offset) (values (o.renamed ρ) offset) := by
  refine (mirrors_entriesOf h o).bind fun entries t t' ht _ hentries => ?_
  rw [Entries.values_rename]
  exact mirrors_newList ht (Entries.sound_iff.1 hentries)

theorem mirrors_has (h : Alike ρ base s s') (o key : Value) :
    Mirrors ρ base s s' (has o key offset) (has (o.renamed ρ) (key.renamed ρ) offset) := by
  refine (mirrors_entriesOf h o).bind fun entries t t' ht _ _ => ?_
  refine mirrors_lift_bind ht (Value.asKey_renamed key) fun k _ => ?_
  rw [Entries.hasKey_rename]
  exact mirrors_pure_atomic ht trivial

theorem mirrors_lookup (h : Alike ρ base s s') (o key : Value) {other : Option Value}
    (hother : Sound s.cells.size other) :
    Mirrors ρ base s s' (Eval.lookup o key other offset)
      (Eval.lookup (o.renamed ρ) (key.renamed ρ) (rename ρ other) offset) := by
  refine (mirrors_entriesOf h o).bind fun entries t t' ht hle hentries => ?_
  refine mirrors_lift_bind ht (Value.asKey_renamed key) fun k _ => ?_
  have hvalue : ((rename ρ entries : Entries Value).find? k).getD ((rename ρ other).getD .null) =
      rename ρ ((entries.find? k).getD (other.getD .null)) := by
    have hother : (rename ρ other).getD .null = (other.getD .null).renamed ρ :=
      Value.getD_renamed other .null
    rw [Entries.find?_rename, hother]
    exact Value.getD_renamed _ _
  rw [hvalue]
  refine mirrors_pure ht ?_
  cases hk : entries.find? k with
  | none => exact (sound_getD hother).mono hle
  | some v => exact Entries.sound_iff.1 hentries v (Entries.mem_values_of_find? hk)

theorem mirrors_mergeEntries (h : Alike ρ base s s') {objects : List Value}
    {merged : Entries Value} (hmerged : Sound s.cells.size merged) :
    Mirrors ρ base s s' (mergeEntries offset merged objects)
      (mergeEntries offset (rename ρ merged) (rename ρ objects)) := by
  induction objects generalizing merged s s' with
  | nil => exact mirrors_pure h hmerged
  | cons o rest ih =>
    refine (mirrors_entriesOf h o).bind fun entries t t' ht hle hentries => ?_
    rw [Entries.insertAll_rename]
    refine ih ht (Entries.sound_iff.2 ?_)
    exact Entries.forall_values_insertAll (Entries.sound_iff.1 hentries)
      (Entries.sound_iff.1 (sound_mono hle hmerged))

theorem mirrors_mergeObjects (h : Alike ρ base s s') (objects : List Value) :
    Mirrors ρ base s s' (mergeObjects objects offset)
      (mergeObjects (rename ρ objects) offset) :=
  have hnone : Sound s.cells.size ([] : Entries Value) := List.forall_mem_nil _
  (mirrors_mergeEntries h hnone).bind fun _ _ _ ht _ hentries => mirrors_newObject ht hentries

/-! ## Functions, casts and the host -/

theorem mirrors_bindArgs (h : Alike ρ base s s') {args : List Value}
    (hargs : Sound s.cells.size args) :
    Mirrors ρ base s s' (bindArgs args offset) (bindArgs (rename ρ args) offset) := by
  cases args with
  | nil => exact mirrors_fail h _
  | cons callee bound =>
    refine mirrors_map_bind h (Value.asCallable_renamed callee) fun f hf => ?_
    have hcallable : f = callee ∧ callee.isCallable = true := by
      rw [Value.asCallable] at hf
      split at hf
      · exact ⟨(Except.ok.inj hf).symm, ‹_›⟩
      · cases hf
    obtain ⟨rfl, hcallable⟩ := hcallable
    refine mirrors_newIdentity_bind h fun i t t' ht hle => ?_
    have hvalue : Value.applied (ρ.identity i) (f.renamed ρ) (rename ρ bound) =
        rename ρ (Value.applied i f bound) := (Value.renamed_applied ρ i f bound).symm
    show Mirrors ρ base t t' _
      (pure (Value.applied (ρ.identity i) (f.renamed ρ) (rename ρ bound)))
    rw [hvalue]
    exact mirrors_pure ht (Value.sound_applied.2 ⟨hcallable, (sound_head hargs).mono hle,
      sound_mono hle (sound_tail hargs)⟩)

theorem mirrors_toArray (h : Alike ρ base s s') {v : Value} (hv : v.Sound s.cells.size) :
    Mirrors ρ base s s' (toArray v) (toArray (v.renamed ρ)) := by
  cases v with
  | array c => exact mirrors_pure (x := Value.array c) h hv
  | null => exact mirrors_newList h (sound_nil _)
  | object c =>
    refine mirrors_get_bind ?_
    rw [h.embeds.entries_renamed, Entries.values_rename]
    exact mirrors_newList h fun w hw => h.tidy.sound.entry hw
  | _ => exact mirrors_newList h (List.forall_mem_singleton.2 hv)

theorem mirrors_cast (h : Alike ρ base s s') {v : Value} (hv : v.Sound s.cells.size)
    (kind : Kind) :
    Mirrors ρ base s s' (cast ctx v kind offset) (cast ctx (v.renamed ρ) kind offset) := by
  have hsame (k : Kind) : Mirrors ρ base s s'
      (if v.kind = k then pure v else fail offset (.typing (.cast v.kind k)))
      (if (v.renamed ρ).kind = k then pure (v.renamed ρ)
        else fail offset (.typing (.cast (v.renamed ρ).kind k))) := by
    rw [Value.kind_renamed]
    split
    · exact mirrors_pure h hv
    · exact mirrors_fail h _
  cases kind with
  | number => exact mirrors_atomic h (yields_toNumber v) (toNumber_renamed v)
  | string => exact (mirrors_textOf h hv).bind fun _ _ _ ht _ _ => mirrors_pure_atomic ht trivial
  | boolean => exact (mirrors_isTrue h v).bind fun _ _ _ ht _ _ => mirrors_pure_atomic ht trivial
  | date => exact mirrors_atomic h (yields_toDate ctx v) (toDate_renamed v)
  | array => exact mirrors_toArray h hv
  | quantity => exact hsame .quantity
  | object => exact hsame .object
  | function => exact hsame .function
  | null => exact hsame .null
  | markdown => exact hsame .markdown

mutual

theorem mirrors_ofJson {s s' : Session} (h : Alike ρ base s s') (j : Json) :
    Mirrors ρ base s s' (ofJson j) (ofJson j) := by
  cases j with
  | null => exact mirrors_pure_atomic h trivial
  | bool b => exact mirrors_pure_atomic h trivial
  | number text => exact mirrors_pure_atomic h (Discipline.ofJsonNumber_atomic text)
  | string text => exact mirrors_pure_atomic h trivial
  | array items =>
    have hitems := mirrors_ofJsonItems h (sound_empty _) items
    rw [rename_empty] at hitems
    exact hitems.bind fun vs _ _ ht _ hvs => mirrors_newArray ht hvs
  | object entries =>
    have hnone : Sound s.cells.size ([] : Entries Value) := List.forall_mem_nil _
    exact (mirrors_ofJsonEntries h hnone entries).bind fun es _ _ ht _ hes =>
      mirrors_newObject ht hes

theorem mirrors_ofJsonItems {s s' : Session} (h : Alike ρ base s s') {done : Array Value}
    (hdone : Sound s.cells.size done) (items : List Json) :
    Mirrors ρ base s s' (ofJsonItems done items) (ofJsonItems (rename ρ done) items) := by
  cases items with
  | nil => exact mirrors_pure h hdone
  | cons j rest =>
    refine (mirrors_ofJson h j).bind fun v t t' ht hle hv => ?_
    have hnext := mirrors_ofJsonItems ht (sound_push (sound_mono hle hdone) hv) rest
    rw [rename_push] at hnext
    exact hnext

theorem mirrors_ofJsonEntries {s s' : Session} (h : Alike ρ base s s') {done : Entries Value}
    (hdone : Sound s.cells.size done) (entries : List (String × Json)) :
    Mirrors ρ base s s' (ofJsonEntries done entries) (ofJsonEntries (rename ρ done) entries) := by
  cases entries with
  | nil => exact mirrors_pure h hdone
  | cons entry rest =>
    rcases entry with ⟨key, j⟩
    refine (mirrors_ofJson h j).bind fun v t t' ht hle hv => ?_
    rw [Entries.insert_rename]
    refine mirrors_ofJsonEntries ht (Entries.sound_iff.2 ?_) rest
    exact Entries.forall_values_insert hv (Entries.sound_iff.1 (sound_mono hle hdone))

end

theorem mirrors_argument (h : Alike ρ base s s') :
    Mirrors ρ base s s' (argument ctx) (argument ctx) := by
  unfold argument
  split
  · exact mirrors_pure_atomic h trivial
  · split
    · exact mirrors_ofJson h _
    · exact mirrors_pure_atomic h trivial

theorem mirrors_wrongCount (h : Alike ρ base s s') (b : Builtin) (args : List Value) :
    Mirrors ρ base s s' (wrongCount b args offset : EvalM Value)
      (wrongCount b (rename ρ args) offset) := by
  unfold wrongCount
  rw [show (rename ρ args).length = args.length from List.length_map _]
  exact mirrors_fail h _

theorem mirrors_dateOf (h : Alike ρ base s s') (args : List Value) :
    Mirrors ρ base s s' (dateOf ctx args offset) (dateOf ctx (rename ρ args) offset) :=
  match args with
  | [] => mirrors_atomic h (yields_dayValue ctx _ _) rfl
  | [v] => mirrors_atomic h (yields_toDate ctx v) (toDate_renamed v)
  | [year, month, day] =>
    mirrors_atomic h (yields_dayOfParts ctx year month day) (dayOfParts_renamed year month day)
  | [v, w] => mirrors_wrongCount h .dateOf [v, w]
  | v :: w :: x :: y :: rest => mirrors_wrongCount h .dateOf (v :: w :: x :: y :: rest)

/-! ## Arguments by number -/

section

variable {args : List Value} (b : Builtin)

theorem mirrors_withOne (h : Alike ρ base s s') (hargs : Sound s.cells.size args)
    {f f' : Value → EvalM Value}
    (hf : ∀ x, x.Sound s.cells.size → Mirrors ρ base s s' (f x) (f' (x.renamed ρ))) :
    Mirrors ρ base s s' (withOne b args offset f) (withOne b (rename ρ args) offset f') :=
  match args, hargs with
  | [], _ => mirrors_wrongCount h b []
  | [x], hargs => hf x (hargs x (by simp))
  | x :: y :: rest, _ => mirrors_wrongCount h b (x :: y :: rest)

theorem mirrors_withTwo (h : Alike ρ base s s') (hargs : Sound s.cells.size args)
    {f f' : Value → Value → EvalM Value}
    (hf : ∀ x y, x.Sound s.cells.size → y.Sound s.cells.size →
      Mirrors ρ base s s' (f x y) (f' (x.renamed ρ) (y.renamed ρ))) :
    Mirrors ρ base s s' (withTwo b args offset f) (withTwo b (rename ρ args) offset f') :=
  match args, hargs with
  | [], _ => mirrors_wrongCount h b []
  | [x], _ => mirrors_wrongCount h b [x]
  | [x, y], hargs => hf x y (hargs x (by simp)) (hargs y (by simp))
  | x :: y :: z :: rest, _ => mirrors_wrongCount h b (x :: y :: z :: rest)

theorem mirrors_withThree (h : Alike ρ base s s') (hargs : Sound s.cells.size args)
    {f f' : Value → Value → Value → EvalM Value}
    (hf : ∀ x y z, x.Sound s.cells.size → y.Sound s.cells.size → z.Sound s.cells.size →
      Mirrors ρ base s s' (f x y z) (f' (x.renamed ρ) (y.renamed ρ) (z.renamed ρ))) :
    Mirrors ρ base s s' (withThree b args offset f) (withThree b (rename ρ args) offset f') :=
  match args, hargs with
  | [], _ => mirrors_wrongCount h b []
  | [x], _ => mirrors_wrongCount h b [x]
  | [x, y], _ => mirrors_wrongCount h b [x, y]
  | [x, y, z], hargs => hf x y z (hargs x (by simp)) (hargs y (by simp)) (hargs z (by simp))
  | x :: y :: z :: w :: rest, _ => mirrors_wrongCount h b (x :: y :: z :: w :: rest)

theorem mirrors_withOneOrTwo (h : Alike ρ base s s') (hargs : Sound s.cells.size args)
    {f f' : Value → Option Value → EvalM Value}
    (hf : ∀ x y?, x.Sound s.cells.size → Sound s.cells.size y? →
      Mirrors ρ base s s' (f x y?) (f' (x.renamed ρ) (rename ρ y?))) :
    Mirrors ρ base s s' (withOneOrTwo b args offset f)
      (withOneOrTwo b (rename ρ args) offset f') :=
  match args, hargs with
  | [], _ => mirrors_wrongCount h b []
  | [x], hargs => hf x none (hargs x (by simp)) nofun
  | [x, y], hargs => hf x (some y) (hargs x (by simp)) fun z hz => hargs z (by simp_all)
  | x :: y :: z :: rest, _ => mirrors_wrongCount h b (x :: y :: z :: rest)

theorem mirrors_withTwoOrThree (h : Alike ρ base s s') (hargs : Sound s.cells.size args)
    {f f' : Value → Value → Option Value → EvalM Value}
    (hf : ∀ x y z?, x.Sound s.cells.size → y.Sound s.cells.size → Sound s.cells.size z? →
      Mirrors ρ base s s' (f x y z?) (f' (x.renamed ρ) (y.renamed ρ) (rename ρ z?))) :
    Mirrors ρ base s s' (withTwoOrThree b args offset f)
      (withTwoOrThree b (rename ρ args) offset f') :=
  match args, hargs with
  | [], _ => mirrors_wrongCount h b []
  | [x], _ => mirrors_wrongCount h b [x]
  | [x, y], hargs => hf x y none (hargs x (by simp)) (hargs y (by simp)) nofun
  | [x, y, z], hargs =>
    hf x y (some z) (hargs x (by simp)) (hargs y (by simp)) fun w hw => hargs w (by simp_all)
  | x :: y :: z :: w :: rest, _ => mirrors_wrongCount h b (x :: y :: z :: w :: rest)

theorem mirrors_withRest (h : Alike ρ base s s') (hargs : Sound s.cells.size args)
    {f f' : Value → List Value → EvalM Value}
    (hf : ∀ x rest, x.Sound s.cells.size → Sound s.cells.size rest →
      Mirrors ρ base s s' (f x rest) (f' (x.renamed ρ) (rename ρ rest))) :
    Mirrors ρ base s s' (withRest b args offset f) (withRest b (rename ρ args) offset f') :=
  match args, hargs with
  | [], _ => mirrors_wrongCount h b []
  | x :: rest, hargs => hf x rest (sound_head hargs) (sound_tail hargs)

end

/-! ## All functions -/

theorem mirrors_runBuiltin (hcall : Equivariant ρ base call) (h : Alike ρ base s s')
    (b : Builtin) {args : List Value} (hargs : Sound s.cells.size args) :
    Mirrors ρ base s s' (runBuiltin ctx call b args offset)
      (runBuiltin ctx call b (rename ρ args) offset) := by
  -- functions that are blind to numbers, by how many arguments they have
  have one {b : Builtin} {f : Value → Checked Value}
      (hf : ∀ x, Yields noCare offset (Value.Atomic noCare) (f x))
      (hblind : ∀ x, f (Value.renamed ρ x) = f x) :
      Mirrors ρ base s s' (withOne b args offset fun x => liftM (f x))
        (withOne b (rename ρ args) offset fun x => liftM (f x)) :=
    mirrors_withOne b h hargs fun x _ => mirrors_atomic h (hf x) (hblind x)
  have two {b : Builtin} {f : Value → Value → Checked Value}
      (hf : ∀ x y, Yields noCare offset (Value.Atomic noCare) (f x y))
      (hblind : ∀ x y, f (Value.renamed ρ x) (Value.renamed ρ y) = f x y) :
      Mirrors ρ base s s' (withTwo b args offset fun x y => liftM (f x y))
        (withTwo b (rename ρ args) offset fun x y => liftM (f x y)) :=
    mirrors_withTwo b h hargs fun x y _ _ => mirrors_atomic h (hf x y) (hblind x y)
  cases b with
  | sqrt => exact one yields_sqrt sqrt_renamed
  | cbrt | sin | cos | tan | asin | acos | atan =>
    exact one (yields_viaFloat _) (viaFloat_renamed _)
  | abs | floor | ceil | trunc =>
    exact one (fun x => yields_mapMagnitude x.measured_noCare _) fun x => mapMagnitude_renamed x _
  | sign => exact one yields_sign sign_renamed
  | exponential => exact one yields_exponential exponential_renamed
  | ln => exact one yields_ln ln_renamed
  | log10 | log2 => exact one (fun x => yields_log x none _) fun x => log_renamed x none _
  | factorial => exact one yields_factorial factorial_renamed
  | upper | lower | trim => exact one (yields_mapText _) (mapText_renamed _)
  | numberOf => exact one yields_toNumber toNumber_renamed
  | year | month | day | hour | minute | weekday =>
    exact one (yields_partOf _) (partOf_renamed _)
  | timestamp => exact one yields_timestamp timestamp_renamed
  | env => exact one (yields_envValue ctx) envValue_renamed
  | gcd => exact two yields_gcd gcd_renamed
  | lcm => exact two yields_lcm lcm_renamed
  | startsWith => exact two yields_startsWith startsWith_renamed
  | endsWith => exact two yields_endsWith endsWith_renamed
  | round =>
    dsimp only [runBuiltin]
    refine mirrors_withOneOrTwo _ h hargs fun x places _ _ => ?_
    exact mirrors_atomic h (yields_round x.measured_noCare places) (round_renamed x places)
  | log =>
    dsimp only [runBuiltin]
    refine mirrors_withOneOrTwo _ h hargs fun x base _ _ => ?_
    exact mirrors_atomic h (yields_log x base .ten) (log_renamed x base .ten)
  | replace =>
    exact mirrors_withThree _ h hargs fun x y z _ _ _ =>
      mirrors_atomic h (yields_replace x y z) (replace_renamed x y z)
  | substring =>
    dsimp only [runBuiltin]
    refine mirrors_withTwoOrThree _ h hargs fun x start stop _ _ _ => ?_
    exact mirrors_atomic h (yields_substring x start stop) (substring_renamed x start stop)
  | len =>
    exact mirrors_withOne _ h hargs fun x _ => mirrors_get_bind <|
      mirrors_atomic h (yields_length s x) (length_renamed h.embeds x)
  | contains =>
    exact mirrors_withTwo _ h hargs fun x y _ hy => mirrors_get_bind <|
      mirrors_atomic h (yields_contains s x y) (contains_renamed h.embeds h.tidy hy)
  | stringOf =>
    exact mirrors_withOne _ h hargs fun x hx => (mirrors_textOf h hx).bind
      fun _ _ _ ht _ _ => mirrors_pure_atomic ht trivial
  | typeName =>
    refine mirrors_withOne _ h hargs fun x _ => ?_
    rw [Value.kind_renamed]
    exact mirrors_pure_atomic h trivial
  | min | max => exact mirrors_extreme h _ hargs
  | clamp => exact mirrors_withThree _ h hargs fun _ _ _ => mirrors_clamp h
  | pow => exact mirrors_withTwo _ h hargs fun _ _ => mirrors_binary h .pow
  | sum => exact mirrors_sumValues h hargs
  | average | avg => exact mirrors_averageValues h hargs
  | split => exact mirrors_withTwo _ h hargs fun x y _ _ => mirrors_split h x y
  | join =>
    dsimp only [runBuiltin]
    refine mirrors_withOneOrTwo _ h hargs fun x sep _ _ => ?_
    exact mirrors_join h x sep
  | map => exact mirrors_withTwo _ h hargs fun x _ _ => mirrors_map hcall h x
  | filter => exact mirrors_withTwo _ h hargs fun x _ _ => mirrors_filter hcall h x
  | reduce =>
    dsimp only [runBuiltin]
    refine mirrors_withTwoOrThree _ h hargs fun x y start _ hy hstart => ?_
    exact mirrors_reduce hcall h x hy hstart
  | sort =>
    dsimp only [runBuiltin]
    refine mirrors_withOneOrTwo _ h hargs fun x f _ hf => ?_
    exact mirrors_sort hcall h x hf
  | groupBy => exact mirrors_withTwo _ h hargs fun x _ _ => mirrors_groupBy hcall h x
  | find => exact mirrors_withTwo _ h hargs fun x _ _ => mirrors_find hcall h x
  | every => exact mirrors_withTwo _ h hargs fun x _ _ => mirrors_every hcall h x
  | any => exact mirrors_withTwo _ h hargs fun x _ _ => mirrors_any hcall h x
  | count =>
    dsimp only [runBuiltin]
    refine mirrors_withOneOrTwo _ h hargs fun x f _ hf => ?_
    exact mirrors_count hcall h x hf
  | append => exact mirrors_withRest _ h hargs fun _ _ => mirrors_push h
  | push => exact mirrors_withRest _ h hargs fun _ _ => mirrors_push h
  | pop => exact mirrors_withOne _ h hargs fun _ => mirrors_pop h
  | put => exact mirrors_withThree _ h hargs fun _ key _ ho _ => mirrors_put h key ho
  | first => exact mirrors_withOne _ h hargs fun x _ => mirrors_first h x
  | last => exact mirrors_withOne _ h hargs fun x _ => mirrors_last h x
  | reverse => exact mirrors_withOne _ h hargs fun x _ => mirrors_reverse h x
  | range => exact mirrors_range h args
  | slice =>
    dsimp only [runBuiltin]
    refine mirrors_withTwoOrThree _ h hargs fun x start stop _ _ _ => ?_
    exact mirrors_slice h x start stop
  | flatten => exact mirrors_withOne _ h hargs fun x _ => mirrors_flatten h x
  | unique => exact mirrors_withOne _ h hargs fun x _ => mirrors_unique h x
  | keys => exact mirrors_withOne _ h hargs fun x _ => mirrors_keys h x
  | values => exact mirrors_withOne _ h hargs fun x _ => mirrors_values h x
  | has => exact mirrors_withTwo _ h hargs fun x y _ _ => mirrors_has h x y
  | get =>
    dsimp only [runBuiltin]
    refine mirrors_withTwoOrThree _ h hargs fun x y z _ _ hz => ?_
    exact mirrors_lookup h x y hz
  | merge => exact mirrors_mergeObjects h args
  | dateOf => exact mirrors_dateOf h args
  | bindArgs => exact mirrors_bindArgs h hargs
  | arg => exact mirrors_argument h

/-- A built-in function does not look at numbers. -/
theorem mirrors_callBuiltin (hcall : Equivariant ρ base call) (h : Alike ρ base s s')
    (b : Builtin) {args : List Value} (hargs : Sound s.cells.size args) :
    Mirrors ρ base s s' (callBuiltin ctx call b args offset)
      (callBuiltin ctx call b (rename ρ args) offset) := by
  unfold callBuiltin
  rw [show (rename ρ args).length = args.length from List.length_map _]
  split
  · exact mirrors_runBuiltin hcall h b hargs
  · exact mirrors_wrongCount h b args

end

end Reckoner
