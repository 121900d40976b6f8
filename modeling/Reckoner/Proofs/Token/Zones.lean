import Reckoner.Proofs.Token.Placement

/-!
# Zones in sources

A token that names a zone names one that there is.  Where a word or the words
and marks glued together are looked up, the reader has made sure of it; this
module is about the two cases where it has not: `UTC` with nothing behind it,
in any case, and a city of two words.

* `Text.exists_of_inRanges`, `Text.isBlank_eq_false_of_isWordPart`: a word has
  no blank in it, so nothing is trimmed from it.
* `Text.lowerFrom_of_not_mem`: where no capital sigma stands, the small letters
  do not depend on what is around them.
* `Text.head?_lowerFrom`: what begins like `UTC` or `GMT` in upper case does so
  in lower case, so no city is mistaken for an offset.
* `Token.isSome_parse?_of_glueZone?`: what is glued together is the name of a
  zone.
-/

namespace Reckoner

namespace Text

/-! ## Blanks -/

theorem exists_of_searchRanges {table : Array (Nat × Nat)} {n steps lo hi : Nat}
    (h : searchRanges table n steps lo hi = true) :
    ∃ r ∈ table.toList, r.1 ≤ n ∧ n ≤ r.2 := by
  induction steps generalizing lo hi with
  | zero => cases h
  | succ steps ih =>
    rw [searchRanges] at h
    split at h
    · cases h
    dsimp only at h
    split at h
    · cases h
    · rename_i first last hmid
      split at h
      · exact ih h
      split at h
      · exact ih h
      · rename_i hfirst hlast
        exact ⟨(first, last), Array.mem_toList_iff.2 (Array.mem_of_getElem? hmid),
          Nat.le_of_not_lt hfirst, Nat.le_of_not_lt hlast⟩

theorem exists_of_inRanges {table : Array (Nat × Nat)} {c : Char} (h : inRanges table c = true) :
    ∃ r ∈ table.toList, r.1 ≤ c.toNat ∧ c.toNat ≤ r.2 := exists_of_searchRanges h

/-- The code points of white space. -/
def blanks : List Nat := blankRanges.toList.flatMap fun r => List.range' r.1 (r.2 + 1 - r.1)

theorem toNat_mem_blanks {c : Char} (h : isBlank c = true) : c.toNat ∈ blanks := by
  obtain ⟨r, hr, hfirst, hlast⟩ := exists_of_inRanges h
  exact List.mem_flatMap.2 ⟨r, hr, List.mem_range'_1.2 ⟨hfirst, by omega⟩⟩

theorem isBlank_eq_false_of {q : Char → Bool} {c : Char}
    (hblanks : blanks.all (fun n => !q (Char.ofNat n)) = true) (h : q c = true) :
    isBlank c = false := by
  rw [Bool.eq_false_iff]
  intro hblank
  have hc := List.all_eq_true.1 hblanks _ (toNat_mem_blanks hblank)
  rw [Char.ofNat_toNat, h] at hc
  cases hc

theorem isBlank_eq_false_of_isWordPart {c : Char} (h : isWordPart c = true) : isBlank c = false :=
  isBlank_eq_false_of (by decide +kernel) h

theorem dropWhile_of_head? {p : Char → Bool} {cs : List Char} (h : ∀ c ∈ cs.head?, p c = false) :
    cs.dropWhile p = cs := by
  cases cs with
  | nil => rfl
  | cons c cs => rw [List.dropWhile_cons_of_neg (by simp [h c rfl])]

/-- Nothing is trimmed from a text that neither starts nor ends with a
blank. -/
theorem trimChars_of_ends {cs : List Char} (hhead : ∀ c ∈ cs.head?, isBlank c = false)
    (hlast : ∀ c ∈ cs.getLast?, isBlank c = false) : trimChars cs = cs := by
  rw [trimChars, dropWhile_of_head? hhead, dropWhile_of_head?, List.reverse_reverse]
  rwa [List.head?_reverse]

theorem trimChars_of_not_blank {cs : List Char} (h : ∀ c ∈ cs, isBlank c = false) :
    trimChars cs = cs :=
  trimChars_of_ends (fun c hc => h c (List.mem_of_mem_head? hc))
    fun c hc => h c (List.mem_of_getLast? hc)

/-! ## Small letters -/

theorem lowerFrom_of_not_mem {cs : List Char} (h : capitalSigma ∉ cs) (before : List Char) :
    lowerFrom before cs = cs.flatMap lowerChar := by
  induction cs generalizing before with
  | nil => rfl
  | cons c cs ih =>
    have hc : c ≠ capitalSigma := by
      rintro rfl
      exact h List.mem_cons_self
    rw [lowerFrom, if_neg (by simpa using hc), ih fun hcs => h (List.mem_cons_of_mem _ hcs),
      List.flatMap_cons]

/-- A capital sigma has a small letter that is not Latin. -/
theorem exists_of_capitalSigma_mem (before : List Char) {cs : List Char} (h : capitalSigma ∈ cs) :
    ∃ c ∈ lowerFrom before cs, 128 ≤ c.toNat := by
  induction cs generalizing before with
  | nil => cases h
  | cons c cs ih =>
    simp only [lowerFrom, List.mem_append]
    rcases List.mem_cons.1 h with rfl | h
    · rw [if_pos (by simp)]
      split
      · exact ⟨'ς', .inl (by simp), by decide⟩
      · exact ⟨'σ', .inl (by simp), by decide⟩
    · obtain ⟨d, hd, hlatin⟩ := ih (c :: before) h
      exact ⟨d, .inr hd, hlatin⟩

/-! ## Capitals -/

/-- The Latin capitals that characters of other scripts, or with other marks, have too. -/
def sharedCapitals : List Char := ['A', 'F', 'H', 'I', 'J', 'L', 'N', 'S', 'T', 'W', 'Y']

theorem upperRuns_spec : ∀ run ∈ upperRuns.toList, run.last < 128 ∨ 128 ≤ run.first + run.shift ∨
    run.first = run.last ∧ ∃ d ∈ sharedCapitals, run.first + run.shift = d.toNat := by
  have h : (upperRuns.toList.all fun run => decide (run.last < 128) ||
      (decide (128 ≤ run.first + run.shift) || run.first == run.last &&
        sharedCapitals.any fun d => run.first + run.shift == d.toNat)) = true := by
    decide
  simpa only [List.all_eq_true, List.any_eq_true, Bool.or_eq_true, Bool.and_eq_true,
    decide_eq_true_eq, beq_iff_eq] using h

theorem upperExpansions_spec : ∀ e ∈ upperExpansions.toList, e.2 ≠ [] ∧ ∀ n ∈ e.2,
    128 ≤ n ∨ Char.ofNat n ∈ sharedCapitals := by
  decide +kernel

theorem upperChar_ne_nil (c : Char) : upperChar c ≠ [] := by
  unfold upperChar
  split
  · nofun
  · split
    · rename_i hfind
      have hmem := Array.mem_toList_iff.2 (Array.mem_of_find?_eq_some hfind)
      simpa using (upperExpansions_spec _ hmem).1
    · nofun

theorem mem_sharedCapitals {c d : Char} (hc : 128 ≤ c.toNat) (hd : d ∈ upperChar c) :
    128 ≤ d.toNat ∨ d.toNat = 0 ∨ d ∈ sharedCapitals := by
  have hfar {n : Nat} (hn : 128 ≤ n) : 128 ≤ (Char.ofNat n).toNat ∨ (Char.ofNat n).toNat = 0 := by
    rcases toNat_ofNat n with heq | hzero
    · exact .inl (by omega)
    · exact .inr hzero
  unfold upperChar at hd
  rw [if_neg (by omega)] at hd
  split at hd
  · rename_i expansion hfind
    obtain ⟨n, hn, rfl⟩ := List.mem_map.1 hd
    have hmem := Array.mem_toList_iff.2 (Array.mem_of_find?_eq_some hfind)
    rcases (upperExpansions_spec _ hmem).2 n hn with hfirst | hshared
    · exact (hfar hfirst).imp_right .inl
    · exact .inr (.inr hshared)
  · rw [List.mem_singleton.1 hd]
    unfold shiftBy
    split
    · rename_i run hfind
      have hcovers := Array.find?_some hfind
      simp only [CaseRun.covers, Bool.and_eq_true, decide_eq_true_eq] at hcovers
      have hmem := Array.mem_toList_iff.2 (Array.mem_of_find?_eq_some hfind)
      rcases upperRuns_spec run hmem with hrun | hrun | ⟨hone, d, hd, hrun⟩
      · omega
      · exact (hfar (by omega)).imp_right .inl
      · rw [show (c.toNat + run.shift).toNat = d.toNat by omega, Char.ofNat_toNat]
        exact .inr (.inr hd)
    · exact .inl hc

/-- Only Latin letters have a capital that is not shared. -/
theorem toNat_lt_of_upperChar {c d : Char} (hd : d ∈ upperChar c) (hlatin : d.toNat < 128)
    (hzero : d.toNat ≠ 0) (hshared : d ∉ sharedCapitals) : c.toNat < 128 := by
  refine Nat.lt_of_not_le fun hc => ?_
  rcases mem_sharedCapitals hc hd with h | h | h
  · omega
  · exact hzero h
  · exact hshared h

theorem toLower_of_toUpper : ∀ n : Fin 128,
    ((Char.ofNat n).toUpper = 'U' → (Char.ofNat n).toLower = 'u' ∧ Char.ofNat n ≠ capitalSigma) ∧
      ((Char.ofNat n).toUpper = 'G' → (Char.ofNat n).toLower = 'g' ∧
        Char.ofNat n ≠ capitalSigma) := by
  decide

/-- The first letter of `UTC` or `GMT` is that of the same word in lower case. -/
theorem head?_lowerFrom {cs before rest : List Char} {d : Char}
    (h : cs.flatMap upperChar = d :: rest) (hd : d = 'U' ∨ d = 'G') :
    (lowerFrom before cs).head? = some d.toLower := by
  cases cs with
  | nil => cases h
  | cons c cs =>
    rw [List.flatMap_cons] at h
    obtain ⟨d', ds, hupper⟩ := List.exists_cons_of_ne_nil (upperChar_ne_nil c)
    rw [hupper, List.cons_append] at h
    obtain rfl : d' = d := (List.cons.inj h).1
    have hmem : d' ∈ upperChar c := hupper ▸ List.mem_cons_self
    have hlatin : c.toNat < 128 := by
      rcases hd with rfl | rfl <;>
        exact toNat_lt_of_upperChar hmem (by decide) (by decide) (by decide)
    have hcase := toLower_of_toUpper ⟨c.toNat, hlatin⟩
    rw [Char.ofNat_toNat] at hcase
    have htoUpper : c.toUpper = d' := by
      rw [upperChar, if_pos hlatin] at hupper
      exact (List.cons.inj hupper).1
    have hlower : c.toLower = d'.toLower ∧ c ≠ capitalSigma := by
      rcases hd with rfl | rfl
      · exact hcase.1 htoUpper
      · exact hcase.2 htoUpper
    rw [lowerFrom, if_neg (by simpa using hlower.2), lowerChar, if_pos hlatin, hlower.1]
    rfl

end Text

namespace Zone

/-! ## Universal time -/

theorem parseOffset_of_head? {name : String}
    (h : ∀ d ∈ (Text.toUpper name).toList.head?, d ≠ 'U' ∧ d ≠ 'G') :
    parseOffset name = .ok none := by
  unfold parseOffset
  split
  · rename_i heq
    exact absurd rfl (h 'U' (by rw [heq]; rfl)).1
  · rename_i heq
    exact absurd rfl (h 'G' (by rw [heq]; rfl)).2
  · rfl

theorem isSome_parse?_of_isUniversal {name : String}
    (htrim : Text.trimChars name.toList = name.toList) (h : Token.isUniversal name = true) :
    (parse? name).isSome := by
  have hoffset : parseOffset name = .ok (some 0) := by
    simp only [Token.isUniversal, Bool.or_eq_true, beq_iff_eq] at h
    unfold parseOffset
    rcases h with h | h <;> rw [h] <;> rfl
  unfold parse? parse
  simp only [Text.trim, htrim, String.ofList_toList, hoffset, bind, Except.bind, pure, Except.pure,
    Option.isSome_some]

/-! ## Cities of two words -/

/-- What there is to know of the names that stand for regions. -/
structure NamesSpec : Prop where
  /-- The key of a city of two words is small Latin letters with a blank between them, and its
  region has a timetable. -/
  twoWords : cities.all (fun e => e.1.toList.all (· ≠ ' ') ||
    e.1.toList.all (fun c => c.toNat < 128 ∧ c ≠ '_') && (ofRegion? e.2).isSome) = true
  city : (cities.all fun e => e.1.toList.head?.all fun c => c != 'u' && c != 'g') = true
  abbreviation : abbreviations.all (fun e => e.1.toList.all (· ≠ ' ')) = true

theorem names_spec : NamesSpec where
  twoWords := by decide +kernel
  city := by decide +kernel
  abbreviation := by decide

theorem head?_city {e : String × String} (he : e ∈ cities) :
    ∀ c ∈ e.1.toList.head?, c ≠ 'u' ∧ c ≠ 'g' := by
  have h := List.all_eq_true.1 names_spec.city e he
  simpa only [Option.all_eq_true, Bool.and_eq_true, bne_iff_ne, Option.mem_def] using h

theorem lookup_isSome {α : Type} {es : List (String × α)} {key : String}
    (h : es.any (·.1 == key) = true) : ∃ x, es.lookup key = some x ∧ (key, x) ∈ es := by
  induction es with
  | nil => cases h
  | cons e es ih =>
    rw [List.lookup_cons]
    by_cases hkey : key = e.1
    · refine ⟨e.2, by simp [hkey], ?_⟩
      rw [hkey]
      exact List.mem_cons_self
    · rw [beq_false_of_ne hkey]
      rw [List.any_cons, beq_false_of_ne (Ne.symm hkey), Bool.false_or] at h
      obtain ⟨x, hx, hmem⟩ := ih h
      exact ⟨x, hx, List.mem_cons_of_mem _ hmem⟩

theorem lookup_eq_none_of_blank {name : String} (h : ' ' ∈ name.toList) :
    abbreviations.lookup name = none := by
  rw [List.lookup_eq_none_iff]
  intro e he
  rw [bne_iff_ne]
  rintro rfl
  have hfree := List.all_eq_true.1 names_spec.abbreviation e he
  exact absurd rfl (of_decide_eq_true (List.all_eq_true.1 hfree ' ' h))

/-- A city whose two words are together is found under its key. -/
theorem cityKey_append {first second : String} {region : String}
    (h : (Text.toLower first ++ " " ++ Text.toLower second, region) ∈ cities) :
    cityKey (first ++ " " ++ second) = Text.toLower first ++ " " ++ Text.toLower second ∧
      (ofRegion? region).isSome := by
  have hspec := List.all_eq_true.1 names_spec.twoWords _ h
  rw [Bool.or_eq_true, Bool.and_eq_true] at hspec
  have hchars : ∀ c ∈ Text.lowerFrom [] first.toList ++ ' ' :: Text.lowerFrom [] second.toList,
      c.toNat < 128 ∧ c ≠ '_' := by
    rcases hspec with hblank | ⟨hchars, -⟩
    · exact absurd rfl (of_decide_eq_true (List.all_eq_true.1 hblank ' ' (by simp)))
    · intro c hc
      exact of_decide_eq_true (List.all_eq_true.1 hchars c (by simpa [Text.toLower] using hc))
  have hsigma {cs : List Char} (hcs : ∀ c ∈ Text.lowerFrom [] cs, c.toNat < 128) :
      Text.capitalSigma ∉ cs := by
    intro hmem
    obtain ⟨c, hc, hlatin⟩ := Text.exists_of_capitalSigma_mem [] hmem
    have := hcs c hc
    omega
  have hfirst : Text.capitalSigma ∉ first.toList :=
    hsigma fun c hc => (hchars c (List.mem_append_left _ hc)).1
  have hsecond : Text.capitalSigma ∉ second.toList :=
    hsigma fun c hc => (hchars c (List.mem_append_right _ (List.mem_cons_of_mem _ hc))).1
  have hlower : Text.toLower (first ++ " " ++ second) =
      Text.toLower first ++ " " ++ Text.toLower second := by
    have hblank : Text.lowerChar ' ' = [' '] := by decide
    have hwhole : Text.capitalSigma ∉ (first ++ " " ++ second).toList := by
      simpa [hfirst, hsecond] using show Text.capitalSigma ≠ ' ' by decide
    apply String.toList_inj.1
    rw [Text.toLower, Text.lowerFrom_of_not_mem hwhole]
    simp only [Text.toLower, Text.lowerFrom_of_not_mem hfirst, Text.lowerFrom_of_not_mem hsecond,
      String.toList_append, String.toList_ofList, List.flatMap_append]
    rw [show " ".toList = [' '] from rfl, List.flatMap_singleton, hblank]
  refine ⟨?_, ?_⟩
  · rw [cityKey, hlower]
    apply String.toList_inj.1
    rw [String.toList_ofList]
    refine (List.map_congr_left fun c hc => if_neg ?_).trans (List.map_id' _)
    exact (hchars c (by simpa [Text.toLower] using hc)).2
  · rcases hspec with hblank | ⟨-, hregion⟩
    · exact absurd rfl (of_decide_eq_true (List.all_eq_true.1 hblank ' ' (by simp)))
    · exact hregion

/-- No city begins like universal time. -/
theorem parseOffset_of_city {first second more region : String}
    (h : (Text.toLower first ++ " " ++ Text.toLower second, region) ∈ cities)
    (hmore : ∀ d ∈ (more.toList.flatMap Text.upperChar).head?, d ≠ 'U' ∧ d ≠ 'G') :
    parseOffset (first ++ more) = .ok none := by
  refine parseOffset_of_head? fun d hd => ?_
  rw [Text.toUpper, String.toList_ofList, String.toList_append, List.flatMap_append] at hd
  cases hupper : first.toList.flatMap Text.upperChar with
  | nil =>
    rw [hupper, List.nil_append] at hd
    exact hmore d hd
  | cons d' rest =>
    rw [hupper] at hd
    obtain rfl : d' = d := by simpa using hd
    have hhead (hbegins : d' = 'U' ∨ d' = 'G') : d'.toLower ≠ 'u' ∧ d'.toLower ≠ 'g' := by
      refine head?_city h _ ?_
      rw [String.toList_append, String.toList_append, Text.toLower, String.toList_ofList,
        List.append_assoc, List.head?_append, Text.head?_lowerFrom hupper hbegins]
      rfl
    constructor
    · rintro rfl
      exact (hhead (.inl rfl)).1 rfl
    · rintro rfl
      exact (hhead (.inr rfl)).2 rfl

theorem isSome_parse?_of_isTwoWordCity {first second : String}
    (htrim : Text.trimChars (first ++ " " ++ second).toList = (first ++ " " ++ second).toList)
    (h : isTwoWordCity first second = true) : (parse? (first ++ " " ++ second)).isSome := by
  obtain ⟨region, hlookup, hmem⟩ := lookup_isSome h
  obtain ⟨hkey, hregion⟩ := cityKey_append hmem
  have hname : regionName? (first ++ " " ++ second) = some region := by
    rw [regionName?, lookup_eq_none_of_blank (by simp)]
    dsimp only
    rw [hkey, hlookup]
  have hoffset : parseOffset (first ++ " " ++ second) = .ok none := by
    rw [String.append_assoc]
    refine parseOffset_of_city hmem fun d hd => ?_
    rw [String.toList_append, List.flatMap_append] at hd
    cases hd
    exact ⟨by decide, by decide⟩
  unfold parse? parse
  simp only [Text.trim, htrim, String.ofList_toList, hoffset, bind, Except.bind, pure, Except.pure,
    ofName?, hname]
  exact hregion

end Zone

/-! ## Words -/

namespace Shape

/-- A word is made of letters, numbers and underscores. -/
theorem isWordPart_of_scan {c : Char} {cs : List Char} {n : Nat}
    (h : scan c cs = (some .word, n)) : ∀ d ∈ (c :: cs).take n, Text.isWordPart d = true := by
  cases scans_of_scan h with
  | word hc =>
    intro d hd
    rw [Nat.add_comm, List.take_succ_cons, List.mem_cons] at hd
    rcases hd with rfl | hd
    · simp only [Text.isWordStart, Bool.or_eq_true] at hc
      simp only [Text.isWordPart, Bool.or_eq_true]
      exact hc.imp_left .inl
    · exact mem_take_takeWhile hd

end Shape

namespace Piece

variable {p : Piece}

/-- Nothing is trimmed from a word. -/
theorem Scanned.isBlank_eq_false (hp : p.Scanned) (hword : p.shape = .word) :
    ∀ c ∈ p.text, Text.isBlank c = false := by
  obtain ⟨c, cs, n, hscan, htext⟩ := hp
  rw [hword] at hscan
  rw [htext]
  exact fun d hd => Text.isBlank_eq_false_of_isWordPart (Shape.isWordPart_of_scan hscan d hd)

end Piece

namespace Token

variable {p : Piece} {following : List Piece} {found : String} {taken : Nat}

theorem isSome_parse?_of_glueOffset? (hp : ∀ c ∈ p.text, Text.isBlank c = false)
    (h : glueOffset? p following = some (found, taken)) : (Zone.parse? found).isSome := by
  unfold glueOffset? at h
  split at h
  · rename_i huniversal
    have hlone : (Zone.parse? (String.ofList p.text)).isSome := by
      refine Zone.isSome_parse?_of_isUniversal ?_ huniversal
      rw [String.toList_ofList]
      exact Text.trimChars_of_not_blank hp
    split at h
    · dsimp only at h
      split at h
      · rename_i hcandidate
        obtain ⟨rfl, -⟩ := Prod.mk.inj (Option.some.inj h)
        exact (Bool.and_eq_true_iff.1 hcandidate).2
      · obtain ⟨rfl, -⟩ := Prod.mk.inj (Option.some.inj h)
        exact hlone
    · obtain ⟨rfl, -⟩ := Prod.mk.inj (Option.some.inj h)
      exact hlone
  · cases h

/-- The longest name of a region so far is one. -/
theorem isSome_parse?_of_glueRegion? {text : List Char} {stop k : Nat}
    {best : Option (String × Nat)}
    (hbest : ∀ name n, best = some (name, n) → (Zone.parse? name).isSome)
    (h : glueRegion? text stop k best following = some (found, taken)) :
    (Zone.parse? found).isSome := by
  fun_induction glueRegion? text stop k best following with
  | case1 text stop k best slash part rest hglue candidate longer ih =>
    refine ih (fun name n hname => ?_) h
    dsimp only [longer] at hname
    split at hname
    · rename_i hregion
      obtain ⟨rfl, -⟩ := Prod.mk.inj (Option.some.inj hname)
      exact hregion
    · exact hbest name n hname
  | case2 => exact hbest _ _ h
  | case3 => exact hbest _ _ h

theorem isSome_parse?_of_glueCity? (hp : ∀ c ∈ p.text, Text.isBlank c = false)
    (hne : p.text ≠ []) (hfollowing : ∀ q ∈ following, q.Scanned)
    (h : glueCity? p following = some (found, taken)) : (Zone.parse? found).isSome := by
  unfold glueCity? at h
  dsimp only at h
  split at h
  · split at h
    · rename_i next rest
      split at h
      · rename_i hcity
        simp only [Bool.and_eq_true, beq_iff_eq] at hcity
        obtain ⟨rfl, -⟩ := Prod.mk.inj (Option.some.inj h)
        have hnext := hfollowing next List.mem_cons_self
        have hlast := hnext.isBlank_eq_false hcity.1
        refine Zone.isSome_parse?_of_isTwoWordCity ?_ hcity.2
        simp only [String.toList_append, String.toList_ofList, List.append_assoc]
        apply Text.trimChars_of_ends
        · intro c hc
          rw [List.head?_append, List.head?_eq_some_head hne] at hc
          cases hc
          exact hp _ (List.head_mem hne)
        · intro c hc
          rw [List.getLast?_append, List.getLast?_append,
            List.getLast?_eq_some_getLast hnext.ne_nil] at hc
          cases hc
          exact hlast _ (List.getLast_mem hnext.ne_nil)
      · cases h
    · cases h
  · cases h

/-- What is glued to a word makes it the name of a zone. -/
theorem isSome_parse?_of_glueZone? (hp : p.Scanned) (hword : p.shape = .word)
    (hfollowing : ∀ q ∈ following, q.Scanned) (h : glueZone? p following = some (found, taken)) :
    (Zone.parse? found).isSome := by
  have hblank := hp.isBlank_eq_false hword
  unfold glueZone? at h
  split at h
  · rename_i hoffset
    exact isSome_parse?_of_glueOffset? hblank (hoffset.trans h)
  split at h
  · rename_i hregion
    exact isSome_parse?_of_glueRegion? (by simp) (hregion.trans h)
  · exact isSome_parse?_of_glueCity? hblank hp.ne_nil hfollowing h

end Token

end Reckoner
