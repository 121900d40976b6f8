import Mathlib.Data.List.Induction
import Reckoner.Value.Entries

/-!
# Entries and their keys

What is found under a key stands in the entries, and the other way round where
no key comes twice (`Entries.find?_of_mem`).  Whatever holds of the values of
entries and of a new value holds after its insertion
(`Entries.forall_values_insert`), and no insertion gives a key a second time
(`Entries.nodup_keys_insert`).

Entries that are inserted one after the other stand where their key first came, with the
value that came last (`Entries.Records`).  This holds of insertions into none
(`Entries.records_insertAll`), and it is kept by every further insertion
(`Entries.Records.insert`).
-/

namespace Reckoner

namespace Entries

variable {α : Type} {entries : Entries α} {key : String} {v w : α}

theorem mem_of_find? (h : entries.find? key = some v) : (key, v) ∈ entries := by
  unfold find? at h
  induction entries with
  | nil => cases h
  | cons entry rest ih =>
    rcases entry with ⟨k, u⟩
    rw [List.lookup_cons] at h
    split at h
    · rename_i heq
      cases h
      rw [beq_iff_eq.1 heq]
      exact List.mem_cons_self
    · exact List.mem_cons_of_mem _ (ih h)

theorem mem_values_of_find? (h : entries.find? key = some v) : v ∈ entries.values :=
  List.mem_map.2 ⟨_, mem_of_find? h, rfl⟩

theorem mem_keys_of_find? (h : entries.find? key = some v) : key ∈ entries.keys :=
  List.mem_map.2 ⟨_, mem_of_find? h, rfl⟩

/-- Where no key comes twice, every entry is found. -/
theorem find?_of_mem (hkeys : entries.keys.Nodup) (h : (key, v) ∈ entries) :
    entries.find? key = some v := by
  induction entries with
  | nil => cases h
  | cons entry rest ih =>
    rcases entry with ⟨k, u⟩
    obtain ⟨hnot, hkeys⟩ : k ∉ Entries.keys rest ∧ (Entries.keys rest).Nodup :=
      List.nodup_cons.1 hkeys
    rcases List.mem_cons.1 h with heq | hmem
    · obtain ⟨rfl, rfl⟩ := Prod.mk.inj heq
      exact List.lookup_cons_self
    · have hne : (key == k) = false := by
        rw [beq_eq_false_iff_ne]
        rintro rfl
        exact hnot (List.mem_map_of_mem hmem)
      rw [find?, List.lookup_cons, hne]
      exact ih hkeys hmem

theorem hasKey_iff : entries.hasKey key = true ↔ key ∈ entries.keys := by
  simp [hasKey, keys]

theorem insert_of_new (h : key ∉ entries.keys) : entries.insert key v = entries ++ [(key, v)] :=
  if_neg fun hkey => h (hasKey_iff.1 hkey)

theorem find?_replace_of_ne {other : String} (h : key ≠ other) :
    (entries.replace key v).find? other = entries.find? other := by
  induction entries with
  | nil => rfl
  | cons entry rest ih =>
    rcases entry with ⟨k, u⟩
    unfold replace
    split
    · rename_i heq
      have hne : (other == k) = false := beq_eq_false_iff_ne.2 fun hk => h (by
        rw [hk, beq_iff_eq.1 heq])
      simp only [find?, List.lookup_cons, hne]
    · simp only [find?, List.lookup_cons]
      split
      · rfl
      · exact ih

/-- An insertion changes what is found under its own key alone. -/
theorem find?_insert_of_ne {other : String} (entries : Entries α) (v : α) (h : key ≠ other) :
    (entries.insert key v).find? other = entries.find? other := by
  unfold insert
  split
  · exact find?_replace_of_ne h
  · have hne : (other == key) = false := beq_eq_false_iff_ne.2 h.symm
    simp [find?, List.lookup_append, List.lookup_cons, hne]

theorem find?_replace_self (h : key ∈ entries.keys) :
    (entries.replace key v).find? key = some v := by
  induction entries with
  | nil => cases h
  | cons entry rest ih =>
    obtain ⟨k, u⟩ := entry
    unfold replace
    split
    · rename_i heq
      rw [beq_iff_eq.1 heq]
      exact List.lookup_cons_self
    · rename_i hne
      have hsym : (key == k) = false := beq_eq_false_iff_ne.2 fun hk => hne (beq_iff_eq.2 hk.symm)
      rw [find?, List.lookup_cons, hsym]
      exact ih ((List.mem_cons.1 h).resolve_left fun hk => hne (beq_iff_eq.2 hk.symm))

/-- What is inserted under a key is found under it. -/
theorem find?_insert_self (entries : Entries α) (key : String) (v : α) :
    (entries.insert key v).find? key = some v := by
  by_cases hkey : key ∈ entries.keys
  · rw [insert, if_pos (hasKey_iff.2 hkey)]
    exact find?_replace_self hkey
  · have hnone : entries.lookup key = none := by
      refine List.lookup_eq_none_iff.2 fun entry hentry => ?_
      have hne : key ≠ entry.1 := by
        rintro rfl
        exact hkey (List.mem_map_of_mem hentry)
      simpa using hne
    rw [insert_of_new hkey, find?, List.lookup_append, hnone]
    simp

/-! ## Keys -/

theorem keys_replace (key : String) (v : α) (entries : Entries α) :
    (entries.replace key v).keys = entries.keys := by
  induction entries with
  | nil => rfl
  | cons entry rest ih =>
    obtain ⟨k, u⟩ := entry
    unfold replace
    split
    · rfl
    · exact congrArg (k :: ·) ih

theorem nodup_keys_nil : (keys ([] : Entries α)).Nodup := List.nodup_nil

/-- An insertion gives no key a second time. -/
theorem nodup_keys_insert (h : entries.keys.Nodup) : (entries.insert key v).keys.Nodup := by
  by_cases hkey : key ∈ entries.keys
  · rw [insert, if_pos (hasKey_iff.2 hkey), keys_replace]
    exact h
  · rw [insert_of_new hkey, keys, List.map_append]
    refine List.nodup_append.2 ⟨h, by simp, fun k hk l hl => ?_⟩
    rw [List.mem_singleton.1 hl]
    rintro rfl
    exact hkey hk

theorem nodup_keys_insertAll (more : List (String × α)) (h : entries.keys.Nodup) :
    (entries.insertAll more).keys.Nodup := by
  unfold insertAll
  induction more generalizing entries with
  | nil => exact h
  | cons entry rest ih => exact ih (nodup_keys_insert h)

/-! ## Values -/

theorem mem_values_replace (h : w ∈ (entries.replace key v).values) :
    w = v ∨ w ∈ entries.values := by
  induction entries with
  | nil => exact .inr h
  | cons entry rest ih =>
    rcases entry with ⟨k, u⟩
    unfold replace at h
    split at h
    · rcases List.mem_cons.1 h with rfl | h
      · exact .inl rfl
      · exact .inr (List.mem_cons_of_mem _ h)
    · rcases List.mem_cons.1 h with rfl | h
      · exact .inr List.mem_cons_self
      · exact (ih h).imp id (List.mem_cons_of_mem _)

theorem mem_values_insert (h : w ∈ (entries.insert key v).values) :
    w = v ∨ w ∈ entries.values := by
  unfold insert at h
  split at h
  · exact mem_values_replace h
  · simp only [values, List.map_append, List.mem_append, List.map_cons, List.map_nil,
      List.mem_singleton] at h
    exact h.symm

/-- What holds of the values and of a new one holds after its insertion. -/
theorem forall_values_insert {P : α → Prop} (hv : P v) (h : ∀ w ∈ entries.values, P w) :
    ∀ w ∈ (entries.insert key v).values, P w := by
  intro w hw
  rcases mem_values_insert hw with rfl | hw
  · exact hv
  · exact h w hw

theorem forall_values_insertAll {P : α → Prop} {more : List (String × α)}
    (hmore : ∀ w ∈ more.map (·.2), P w) (h : ∀ w ∈ entries.values, P w) :
    ∀ w ∈ (entries.insertAll more).values, P w := by
  unfold insertAll
  induction more generalizing entries with
  | nil => exact h
  | cons entry rest ih =>
    rw [List.foldl_cons]
    refine ih (fun w hw => hmore w (List.mem_cons_of_mem _ hw)) ?_
    exact forall_values_insert (hmore _ List.mem_cons_self) h

theorem mem_values_erase (h : w ∈ (entries.erase key).values) : w ∈ entries.values := by
  obtain ⟨entry, hentry, rfl⟩ := List.mem_map.1 h
  exact List.mem_map.2 ⟨entry, (List.mem_filter.1 hentry).1, rfl⟩

end Entries

/-! ## Insertions -/

theorem eraseDups_concat {α : Type} [DecidableEq α] (xs : List α) (x : α) :
    (xs ++ [x]).eraseDups = if x ∈ xs then xs.eraseDups else xs.eraseDups ++ [x] := by
  rw [List.eraseDups_append]
  by_cases hx : x ∈ xs
  · simp [List.removeAll, hx]
  · simp [List.removeAll, hx, List.eraseDups_cons]

theorem nodup_eraseDups {α : Type} [DecidableEq α] (xs : List α) : xs.eraseDups.Nodup := by
  induction xs using List.reverseRecOn with
  | nil => exact List.nodup_nil
  | append_singleton xs x ih =>
    rw [eraseDups_concat]
    split
    · exact ih
    · rename_i hx
      refine List.nodup_append.2 ⟨ih, by simp, fun y hy z hz => ?_⟩
      rw [List.mem_singleton.1 hz]
      rintro rfl
      exact hx (List.mem_eraseDups.1 hy)

namespace Entries

variable {α : Type} {entries : Entries α} {key : String} {v : α}

theorem keys_insert (entries : Entries α) (key : String) (v : α) :
    (entries.insert key v).keys =
      if key ∈ entries.keys then entries.keys else entries.keys ++ [key] := by
  by_cases hkey : key ∈ entries.keys
  · rw [if_pos hkey, insert, if_pos (hasKey_iff.2 hkey), keys_replace]
  · rw [if_neg hkey, insert_of_new hkey, keys, List.map_append]
    rfl

/-- What insertions come to: the keys in order of their first insertion, each with the value
that was inserted last. -/
structure Records (entries : Entries α) (insertions : List (String × α)) : Prop where
  keys_eq : entries.keys = (insertions.map (·.1)).eraseDups
  find?_eq : ∀ key, entries.find? key = find? insertions.reverse key

variable {insertions : List (String × α)}

theorem records_nil : Records ([] : Entries α) [] := ⟨rfl, fun _ => rfl⟩

theorem Records.insert (h : entries.Records insertions) (key : String) (v : α) :
    (entries.insert key v).Records (insertions ++ [(key, v)]) where
  keys_eq := by
    rw [keys_insert, List.map_append, List.map_singleton, eraseDups_concat, h.keys_eq]
    simp only [List.mem_eraseDups]
  find?_eq := by
    intro other
    rw [List.reverse_append, List.reverse_singleton, List.singleton_append]
    by_cases hkey : key = other
    · subst hkey
      rw [find?_insert_self]
      exact List.lookup_cons_self.symm
    · have hne : (other == key) = false := beq_eq_false_iff_ne.2 (Ne.symm hkey)
      rw [find?_insert_of_ne entries v hkey, h.find?_eq, find?, find?, List.lookup_cons, hne]

theorem Records.insertAll (h : entries.Records insertions) (more : List (String × α)) :
    (entries.insertAll more).Records (insertions ++ more) := by
  induction more generalizing entries insertions with
  | nil =>
    rw [List.append_nil]
    exact h
  | cons entry rest ih =>
    rw [List.append_cons]
    exact ih (h.insert entry.1 entry.2)

theorem records_insertAll (more : List (String × α)) :
    (Entries.insertAll [] more).Records more :=
  records_nil.insertAll more

theorem insertAll_of_nodup {more : List (String × α)} (h : (keys (entries ++ more)).Nodup) :
    entries.insertAll more = entries ++ more := by
  induction more generalizing entries with
  | nil => exact (List.append_nil entries).symm
  | cons entry rest ih =>
    have hnew : entry.1 ∉ entries.keys := by
      intro hkey
      rw [keys, List.map_append, List.map_cons] at h
      exact (List.nodup_append.1 h).2.2 _ hkey _ List.mem_cons_self rfl
    rw [List.append_cons] at h ⊢
    rw [insertAll, List.foldl_cons, insert_of_new hnew]
    exact ih h

/-- Entries without a key that comes twice record themselves. -/
theorem records_self (h : entries.keys.Nodup) : entries.Records entries := by
  have hself : insertAll [] entries = entries := insertAll_of_nodup h
  have hrecords := records_insertAll entries
  rwa [hself] at hrecords

end Entries

end Reckoner
