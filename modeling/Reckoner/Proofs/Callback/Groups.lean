import Reckoner.Proofs.Callback.Visits
import Reckoner.Proofs.Value.Copies
import Reckoner.Proofs.Value.Entries

/-!
# Groups partition the items

`groupBy` puts each item into one group: the group of the text of what the callback gives
for it.  The groups stand in the order in which their texts first come, and in each group the
items stand as they did before.

* `Groups`: what has been grouped after some items, with a step for one item (`Groups.add`)
  and a run for all of them (`Groups.addAll`).
* `perm_flatMap_members`: no item is lost and none comes twice.
* `groupBy_partitions` is the statement.
-/

namespace Reckoner.Eval

/-! ## Grouping -/

/-- The items that stand with a key. -/
def members (pairs : List (String × Value)) (key : String) : List Value :=
  (pairs.filter (·.1 == key)).map (·.2)

theorem members_concat (pairs : List (String × Value)) (key other : String) (item : Value) :
    members (pairs ++ [(key, item)]) other =
      if key = other then members pairs other ++ [item] else members pairs other := by
  unfold members
  rw [List.filter_append, List.map_append]
  by_cases h : key = other
  · simp [h]
  · simp [h]

/-- The groups of items that stand with keys. -/
structure Groups (pairs : List (String × Value)) (groups : Entries (Array Value)) : Prop where
  keys_eq : groups.keys = (pairs.map (·.1)).eraseDups
  members_eq : ∀ key, ((groups.find? key).getD #[]).toList = members pairs key

theorem groups_nil : Groups [] [] := ⟨rfl, fun _ => rfl⟩

theorem Groups.add {pairs : List (String × Value)} {groups : Entries (Array Value)}
    (h : Groups pairs groups) (key : String) (item : Value) :
    Groups (pairs ++ [(key, item)]) (addToGroup groups key item) where
  keys_eq := by
    rw [addToGroup, Entries.keys_insert, List.map_append, List.map_singleton, eraseDups_concat,
      h.keys_eq]
    simp only [List.mem_eraseDups]
  members_eq := by
    intro other
    rw [addToGroup, members_concat]
    by_cases hkey : key = other
    · subst hkey
      rw [Entries.find?_insert_self, if_pos rfl, Option.getD_some, Array.toList_push, h.members_eq]
    · rw [Entries.find?_insert_of_ne _ _ hkey, if_neg hkey, h.members_eq]

theorem Groups.addAll {pairs : List (String × Value)} {groups : Entries (Array Value)}
    (h : Groups pairs groups) (more : List (String × Value)) :
    Groups (pairs ++ more) (more.foldl (fun groups p => addToGroup groups p.1 p.2) groups) := by
  induction more generalizing pairs groups with
  | nil =>
    rw [List.append_nil]
    exact h
  | cons pair rest ih =>
    rw [List.append_cons]
    exact ih (h.add pair.1 pair.2)

theorem Groups.toList_of_mem {pairs : List (String × Value)} {groups : Entries (Array Value)}
    (h : Groups pairs groups) {key : String} {group : Array Value}
    (hgroup : (key, group) ∈ groups) : group.toList = members pairs key := by
  have hkeys : groups.keys.Nodup := h.keys_eq ▸ nodup_eraseDups _
  rw [← h.members_eq, Entries.find?_of_mem hkeys hgroup, Option.getD_some]

/-! ## No item is lost -/

/-- Filtering by one key after the other gives what has one of these keys. -/
theorem perm_flatMap_filter {keys : List String} (hkeys : keys.Nodup)
    (pairs : List (String × Value)) :
    (keys.flatMap fun key => pairs.filter (·.1 == key)).Perm
      (pairs.filter fun p => decide (p.1 ∈ keys)) := by
  induction keys with
  | nil => simp
  | cons key keys ih =>
    obtain ⟨hnot, hkeys⟩ := List.nodup_cons.1 hkeys
    have hhere : (pairs.filter fun p => decide (p.1 ∈ key :: keys)).filter (·.1 == key) =
        pairs.filter (·.1 == key) := by
      rw [List.filter_filter]
      refine List.filter_congr fun p _ => ?_
      by_cases hp : p.1 = key
      · simp [hp]
      · simp [hp]
    have hthere : (pairs.filter fun p => decide (p.1 ∈ key :: keys)).filter (!·.1 == key) =
        pairs.filter fun p => decide (p.1 ∈ keys) := by
      rw [List.filter_filter]
      refine List.filter_congr fun p _ => ?_
      by_cases hp : p.1 = key
      · simp [hp, hnot]
      · simp [hp]
    have hsplit := List.filter_append_perm (·.1 == key)
      (pairs.filter fun p => decide (p.1 ∈ key :: keys))
    rw [hhere, hthere] at hsplit
    exact ((ih hkeys).append_left _).trans hsplit

theorem perm_flatMap_members (pairs : List (String × Value)) {keys : List String}
    (hnodup : keys.Nodup) (hkeys : ∀ p ∈ pairs, p.1 ∈ keys) :
    (keys.flatMap (members pairs)).Perm (pairs.map (·.2)) := by
  have hall : (pairs.filter fun p => decide (p.1 ∈ keys)) = pairs :=
    List.filter_eq_self.2 fun p hp => decide_eq_true (hkeys p hp)
  have hperm := (perm_flatMap_filter hnodup pairs).map Prod.snd
  rwa [hall, List.map_flatMap] at hperm

/-! ## The object of the groups -/

section

variable {call : Caller} {f : Value} {offset a : Nat} {s t u : Session}

/-- The value is an array with the given items. -/
def Holds (s : Session) (v : Value) (items : List Value) : Prop :=
  ∃ c, v = .array c ∧ c < s.cells.size ∧ (s.items c).toList = items

theorem Holds.extends {v : Value} {items : List Value} (h : Holds s v items)
    (ht : Session.Extends none s t) : Holds t v items := by
  obtain ⟨c, rfl, hc, hitems⟩ := h
  exact ⟨c, rfl, hc.trans_le ht.size_le, (ht.items_eq hc).symm ▸ hitems⟩

/-- New arrays for groups, each under its key. -/
theorem exists_newArrays (groups : Entries (Array Value)) (s : Session) :
    ∃ (entries : Entries Value) (t : Session),
      (groups.mapM fun (key, group) => return (key, ← newArray group) : EvalM (Entries Value)) s =
        .ok entries t ∧
      Session.Extends none s t ∧ entries.keys = groups.keys ∧
      ∀ entry ∈ entries, ∃ group, (entry.1, group) ∈ groups ∧ Holds t entry.2 group.toList := by
  induction groups generalizing s with
  | nil => exact ⟨[], s, rfl, Session.extends_refl s, rfl, fun _ h => nomatch h⟩
  | cons pair rest ih =>
    obtain ⟨key, group⟩ := pair
    have hnew : (do return (key, ← newArray group) : EvalM (String × Value)) s =
        .ok (key, .array s.cells.size) (s.newCell (.array group)) := rfl
    have hfirst : Holds (s.newCell (.array group)) (.array s.cells.size) group.toList :=
      ⟨_, rfl, Session.lt_size_newCell s _, by rw [Session.items_newCell]⟩
    obtain ⟨entries, t, hrun, hextends, hkeys, hentries⟩ := ih (s.newCell (.array group))
    refine ⟨(key, .array s.cells.size) :: entries, t, ?_,
      (Session.extends_newCell s _).trans hextends, congrArg (key :: ·) hkeys, ?_⟩
    · rw [List.mapM_cons]
      refine (bind_of_ok hnew).trans ?_
      rw [bind_of_ok hrun]
      rfl
    · intro entry hentry
      rcases List.mem_cons.1 hentry with rfl | hentry
      · exact ⟨group, List.mem_cons_self, hfirst.extends hextends⟩
      · obtain ⟨group', hgroup, hholds⟩ := hentries entry hentry
        exact ⟨group', List.mem_cons_of_mem _ hgroup, hholds⟩

/-- The values of the object are arrays, of the items that stand with the key; the keys stand
in the order in which they first come. -/
structure Partitions (t : Session) (pairs : List (String × Value)) (c : Nat) : Prop where
  keys_eq : (t.entries c).keys = (pairs.map (·.1)).eraseDups
  holds : ∀ entry ∈ t.entries c, Holds t entry.2 (members pairs entry.1)

theorem exists_newGroups {pairs : List (String × Value)} {groups : Entries (Array Value)}
    (h : Groups pairs groups) (u : Session) :
    ∃ c t, newGroups groups u = .ok (.object c) t ∧ Session.Extends none u t ∧
      Partitions t pairs c := by
  obtain ⟨entries, t, hrun, hextends, hkeys, hentries⟩ := exists_newArrays groups u
  have hcell : Session.Extends none t (t.newCell (.object entries)) := Session.extends_newCell t _
  refine ⟨t.cells.size, t.newCell (.object entries), ?_, hextends.trans hcell, ?_, ?_⟩
  · rw [newGroups, bind_of_ok hrun]
    rfl
  · rw [Session.entries_newCell, hkeys, h.keys_eq]
  · rw [Session.entries_newCell]
    intro entry hentry
    obtain ⟨group, hgroup, hholds⟩ := hentries entry hentry
    exact h.toList_of_mem hgroup ▸ hholds.extends hcell

theorem Partitions.perm {pairs : List (String × Value)} {c : Nat} (h : Partitions t pairs c) :
    ((t.entries c).values.flatMap t.contents).Perm (pairs.map (·.2)) := by
  have hcontents : (t.entries c).values.flatMap t.contents =
      (t.entries c).keys.flatMap (members pairs) := by
    rw [Entries.values, Entries.keys, List.flatMap_map, List.flatMap_map]
    refine List.flatMap_congr fun entry hentry => ?_
    obtain ⟨d, hd, -, hitems⟩ := h.holds entry hentry
    rw [hd]
    exact hitems
  rw [hcontents, h.keys_eq]
  refine perm_flatMap_members pairs (nodup_eraseDups _) fun p hp => ?_
  rw [List.mem_eraseDups]
  exact List.mem_map_of_mem hp

/-! ## The function -/

theorem grouped_of_no_array {visits : List Visit} (h : ∀ v ∈ visits, v.givesArray = false)
    (items : List Value) :
    ∃ groups, grouped offset [] visits items = pure groups ∧
      Groups ((visits.map Visit.text).zip items) groups := by
  have hany : ¬visits.any Visit.givesArray = true := by
    rw [List.any_eq_true]
    rintro ⟨v, hv, harray⟩
    rw [h v hv] at harray
    cases harray
  refine ⟨_, if_neg hany, ?_⟩
  have hfold := groups_nil.addAll ((visits.map Visit.text).zip items)
  rw [List.nil_append] at hfold
  rw [List.zip_map_left, List.foldl_map] at hfold
  rw [List.zip_map_left]
  exact hfold

/-- Where no answer is an array, the groups of the answers make an object. -/
theorem exists_partitions {visits : List Visit} (h : ∀ v ∈ visits, v.givesArray = false)
    (items : List Value) (u : Session) :
    ∃ c t, (do newGroups (← grouped offset [] visits items) : EvalM Value) u = .ok (.object c) t ∧
      Session.Extends none u t ∧ Partitions t ((visits.map Visit.text).zip items) c := by
  obtain ⟨groups, hgrouped, hgroups⟩ := grouped_of_no_array h items
  rw [hgrouped, pure_bind]
  exact exists_newGroups hgroups u

/-- The groups that a function returns are those of the answers to all items. -/
theorem exists_partitions_of_ok {ctx : Context} (hf : f.isCallable = true) {v : Value}
    (h : callBuiltin ctx call .groupBy [.array a, f] offset s = .ok v t) :
    ∃ visits u c, v = .object c ∧ Visits call f offset s visits u ∧
      visits.map Visit.args = passes f (s.items a).toList ∧
      Partitions t ((visits.map Visit.text).zip (s.items a).toList) c := by
  have hrun := (groupBy_eq_walk call f offset hf a s).symm.trans h
  cases hwalk : walk call f offset Visit.givesArray (passes f (s.items a).toList) s with
  | error stop u =>
    rw [bind_of_error hwalk] at hrun
    cases hrun
  | ok visits u =>
    rw [bind_of_ok hwalk] at hrun
    have hcourse := walk_eq_ok_iff.1 hwalk
    have hkeys : ∀ x ∈ visits, x.givesArray = false := by
      intro x hx
      rw [← Bool.not_eq_true]
      intro harray
      rw [bind_of_error (grouped_of_array offset ⟨x, hx, harray⟩ [] (s.items a).toList u)] at hrun
      cases hrun
    obtain ⟨c, w, hnew, -, hpartitions⟩ := exists_partitions hkeys (s.items a).toList u
    obtain ⟨rfl, rfl⟩ := EStateM.Result.ok.inj (hnew.symm.trans hrun)
    exact ⟨visits, u, c, rfl, hcourse.made, hcourse.args_eq_all hkeys, hpartitions⟩

end

/-- `groupBy` puts every item into one group, that of the text of its key; a key that is an array
and a call that fails end it at once. -/
theorem groupBy_partitions {f : Value} (hf : f.isCallable = true) (ctx : Context) (call : Caller)
    (offset a : Nat) (s : Session) :
    let items := (s.items a).toList
    let run := callBuiltin ctx call .groupBy [.array a, f] offset s
    (∀ visits u, Visits call f offset s visits u → visits.map Visit.args = passes f items →
      (∀ v ∈ visits, v.givesArray = false) →
      let texts := visits.map Visit.text
      ∃ c t, run = .ok (.object c) t ∧ Session.Extends none u t ∧
        (t.entries c).keys = texts.eraseDups ∧
        (∀ entry ∈ t.entries c, ∃ d, entry.2 = .array d ∧
          (t.items d).toList = ((texts.zip items).filter (·.1 == entry.1)).map (·.2)) ∧
        ((t.entries c).values.flatMap t.contents).Perm items) ∧
    (∀ visits u, Course call f offset Visit.givesArray (passes f items) s visits u →
      (∃ v ∈ visits, v.givesArray = true) →
      run = .error (.fault ⟨.typing .arrayAsGroupKey, offset⟩) u) ∧
    (∀ stop t, Breaks call f offset Visit.givesArray (passes f items) s stop t →
      run = .error stop t) ∧
    ((∃ visits u, Visits call f offset s visits u ∧ visits.map Visit.args = passes f items ∧
        ∀ v ∈ visits, v.givesArray = false) ∨
      (∃ visits u, Course call f offset Visit.givesArray (passes f items) s visits u ∧
        ∃ v ∈ visits, v.givesArray = true) ∨
      ∃ stop t, Breaks call f offset Visit.givesArray (passes f items) s stop t) := by
  intro items run
  have hrun : run = (walk call f offset Visit.givesArray (passes f items) >>= fun visits => do
      newGroups (← grouped offset [] visits items)) s := groupBy_eq_walk call f offset hf a s
  refine ⟨?_, ?_, ?_, ?_⟩
  · intro visits u hvisits hargs hkeys texts
    have hwalk := walk_eq_ok_iff.2 (hvisits.course hargs hkeys)
    have hlength : visits.length = items.length := by
      have hlength := congrArg List.length hargs
      rwa [List.length_map, length_passes] at hlength
    obtain ⟨c, t, hnew, hextends, hpartitions⟩ := exists_partitions hkeys items u
    refine ⟨c, t, ?_, hextends, ?_, ?_, ?_⟩
    · rw [hrun, bind_of_ok hwalk, hnew]
    · rw [hpartitions.keys_eq, List.map_fst_zip (by simp [hlength])]
    · intro entry hentry
      obtain ⟨d, hd, -, hitems⟩ := hpartitions.holds entry hentry
      exact ⟨d, hd, hitems⟩
    · have hperm := hpartitions.perm
      rwa [List.map_snd_zip (by simp [hlength])] at hperm
  · intro visits u hcourse harray
    rw [hrun, bind_of_ok (walk_eq_ok_iff.2 hcourse),
      bind_of_error (grouped_of_array offset harray _ _ u)]
  · intro stop t hbreaks
    rw [hrun, bind_of_error (walk_eq_error_iff.2 hbreaks)]
  · cases hwalk : walk call f offset Visit.givesArray (passes f items) s with
    | ok visits u =>
      have hcourse := walk_eq_ok_iff.1 hwalk
      by_cases harray : ∃ v ∈ visits, v.givesArray = true
      · exact .inr (.inl ⟨visits, u, hcourse, harray⟩)
      · have hkeys : ∀ v ∈ visits, v.givesArray = false := fun v hv =>
          Bool.eq_false_iff.2 fun h => harray ⟨v, hv, h⟩
        exact .inl ⟨visits, u, hcourse.made, hcourse.args_eq_all hkeys, hkeys⟩
    | error stop t => exact .inr (.inr ⟨stop, t, walk_eq_error_iff.1 hwalk⟩)

/-- A callback that tells its second call from the others: the groups are those of the first and
the last item, and of the one in between. -/
theorem groupBy_partitions_second :
    let ctx := Context.ofClock ⟨0, 0⟩ (.fixed 0)
    let call : Caller := fun _ _ _ => do return .bool ((← newIdentity) == 1)
    let items : Array Value := #[.null, .bool true, .string "x"]
    let s := Session.empty.newCell (.array items)
    let f := Value.builtin 0 .len
    f.isCallable = true ∧ ∃ c t,
      callBuiltin ctx call .groupBy [.array 0, f] 0 s = .ok (.object c) t ∧
      (t.entries c).keys = ["false", "true"] ∧
      ((t.entries c).values.flatMap t.contents).Perm items.toList := by
  intro ctx call items s f
  have hf : f.isCallable = true := rfl
  let after (n : Nat) : Session := { s with identity := n }
  have hvisits : Visits call f 0 s
      [⟨[.null], .bool false, after 1⟩, ⟨[.bool true], .bool true, after 2⟩,
        ⟨[.string "x"], .bool false, after 3⟩] (after 3) :=
    .cons rfl (.cons rfl (.cons rfl .nil))
  obtain ⟨hgroups, -⟩ := groupBy_partitions hf ctx call 0 0 s
  obtain ⟨c, t, hrun, -, hkeys, -, hperm⟩ := hgroups _ _ hvisits rfl (by decide)
  refine ⟨hf, c, t, hrun, ?_, hperm⟩
  rw [hkeys]
  decide

end Reckoner.Eval
