import Mathlib.Data.List.Forall2
import Reckoner.Proofs.Token.Scan
import Reckoner.Unit.Rates

/-!
# Spellings of units are words of their own

However a unit is spelled, the lexer takes the spelling as one word, glues it to
nothing that follows and classifies it as something that can stand where a unit
is wanted (`lexes_spelling`, `unitName?_ofWord`).

Long spellings may be written in any case, even with the Kelvin sign in the
place of a `k`, so the table of units is looked at in lower case (`caseless`):

* `tables_spec` is the one look at the tables: spellings in lower case are
  letters and digits, none of them begins like universal time or is in
  `reserved`.
* `isSpellingChar_of_ofName?` goes back from the small letters to the characters
  of the spelling.
* `parse?_spelling`: a spelling names no zone, and begins the name of none.
-/

namespace Reckoner

namespace Denomination

/-! ## The tables -/

/-- All spellings of units and currencies. -/
def spellings : List String := MeasureUnit.all.flatMap MeasureUnit.names ++ Currency.codes

/-- The bytes of a word as characters. -/
def byteChars (word : String) : List Char :=
  word.toByteArray.data.toList.map fun b => Char.ofNat b.toNat

/-- The characters of a word.  Those of a word of single bytes need no
decoding. -/
def letters (word : String) : List Char :=
  if (byteChars word).all (Nat.blt ·.toNat 128) then byteChars word else word.toList

/-- The characters of a word in lower case. -/
def caseless (word : String) : List Char := Text.lowerFrom [] (letters word)

/-- What the names of zones begin with, up to their first slash; the frequent
ones first. -/
def areas : List String :=
  ["America", "Asia", "Europe", "Africa", "Pacific", "Etc", "Australia", "Atlantic", "Indian", "US",
    "Antarctica", "Canada", "Brazil", "Mexico", "Chile", "Arctic"]

/-- The names of constants. -/
def constants : List String := ["pi", "π", "PI", "e", "tau", "τ", "phi", "φ"]

/-- Words of two letters that differ from a unit by their case only. -/
def nearUnits : List String := ["US", "CT", "PT"]

/-- Words that stand for something else than a unit, or begin a name that
does. -/
def reserved : List String :=
  (Zone.cityOpeners ++ Zone.cities.map (·.1) ++ Keyword.all.map Keyword.name ++ constants ++
    areas ++ Zone.abbreviations.map (·.1)).filter fun word => !nearUnits.contains word

/-- A number below a bound at which no unit meets a reserved word. -/
def fingerprint (cs : List Char) : Nat := cs.foldl (fun n c => n * 31 + c.toNat) 0 % 5083

/-- The bits of the fingerprints of the given words. -/
def mask (words : List String) : Nat :=
  words.foldl (fun bits word => bits ||| 1 <<< fingerprint (caseless word)) 0

/-- The small letters and digits of units. -/
def isUnitChar (c : Char) : Bool := c.isLower || c.isDigit || c == 'µ'

/-- What is found of every spelling in lower case. -/
def fits (cs : List Char) : Bool :=
  cs.all isUnitChar && cs.head?.any (!·.isDigit) && !List.isPrefixOf ['u', 't', 'c'] cs &&
    !List.isPrefixOf ['g', 'm', 't'] cs && !(mask reserved).testBit (fingerprint cs)

theorem utf8EncodeChar_byte {b : UInt8} (h : (Char.ofNat b.toNat).toNat < 128) :
    String.utf8EncodeChar (Char.ofNat b.toNat) = [b] := by
  have hvalid : (Char.ofNat b.toNat).toNat = b.toNat := by
    have := b.toNat_lt
    rw [Char.ofNat, dif_pos (.inl (by omega))]
    rfl
  rw [Char.toNat] at h hvalid
  rw [String.utf8EncodeChar, if_pos (Nat.le_of_lt_succ h), hvalid, UInt8.ofNat_toNat]

theorem letters_eq (word : String) : letters word = word.toList := by
  unfold letters
  split
  · rename_i hbytes
    have hencode : (byteChars word).utf8Encode = word.toByteArray := by
      have hflat : ∀ b ∈ word.toByteArray.data.toList,
          String.utf8EncodeChar (Char.ofNat b.toNat) = [b] := by
        intro b hb
        have hsmall := List.all_eq_true.1 hbytes _ (List.mem_map_of_mem hb)
        rw [Nat.blt_eq] at hsmall
        exact utf8EncodeChar_byte hsmall
      refine ByteArray.ext (Array.toList_inj.1 ?_)
      rw [List.utf8Encode, List.data_toByteArray, byteChars, List.flatMap_map,
        List.flatMap_congr hflat, List.flatMap_singleton']
    rw [← String.toByteArray_ofList, String.toByteArray_inj] at hencode
    rw [← hencode, String.toList_ofList, hencode]
  · rfl

theorem testBit_mask_of_mem {words : List String} {word : String} (h : word ∈ words) :
    (mask words).testBit (fingerprint (caseless word)) = true := by
  have hkeep (words : List String) {bits i : Nat} (hbit : bits.testBit i = true) :
      (words.foldl (fun bits word => bits ||| 1 <<< fingerprint (caseless word)) bits).testBit i =
        true := by
    induction words generalizing bits with
    | nil => exact hbit
    | cons w words ih => exact ih (by rw [Nat.testBit_or, hbit, Bool.true_or])
  have hset (bits : Nat) :
      (words.foldl (fun bits word => bits ||| 1 <<< fingerprint (caseless word)) bits).testBit
        (fingerprint (caseless word)) = true := by
    induction words generalizing bits with
    | nil => cases h
    | cons w words ih =>
      rcases List.mem_cons.1 h with rfl | h
      · refine hkeep words ?_
        rw [Nat.testBit_or, Nat.one_shiftLeft, Nat.testBit_two_pow_self, Bool.or_true]
      · exact ih h _
  exact hset 0

/-- What there is to know of the tables of units, currencies and zones. -/
structure TablesSpec : Prop where
  spelling : spellings.all (fun name => fits (caseless name)) = true
  nearUnit : ∀ word ∈ nearUnits, ofName? word = none
  currency : ∀ code ∈ Currency.codes, Builtin.ofName? code = none
  codeLength : ∀ code ∈ Currency.codes, (caseless code).length = 3
  code : ∀ m ∈ MeasureUnit.all, ∀ name ∈ m.names, (caseless name).length = 3 →
    caseless name ∉ Currency.codes.map caseless
  area : ∀ area ∈ areas, '/' ∉ letters area
  /-- The name of a region begins with an area, a slash behind it. -/
  region : ∀ e ∈ Zone.regions, areas.any (fun area =>
    (area ++ "/").toByteArray.data.toList.isPrefixOf e.name.toByteArray.data.toList) = true
  oldName : ∀ e ∈ Zone.Data.aliases, areas.any (fun area =>
    (area ++ "/").toByteArray.data.toList.isPrefixOf e.1.toByteArray.data.toList) = true
  abbreviation : ∀ e ∈ Zone.abbreviations, '/' ∉ letters e.1
  city : ∀ e ∈ Zone.cities, '/' ∉ letters e.1 ∧ caseless e.1 = letters e.1 ∧ e.1 ∉ nearUnits
  cityOpener : ∀ word ∈ Zone.cityOpeners, caseless word = letters word ∧ word ∉ nearUnits

theorem tables_spec : TablesSpec where
  spelling := by decide +kernel
  nearUnit := by decide +kernel
  currency := by decide +kernel
  codeLength := by decide
  code := by decide +kernel
  area := by decide
  region := by decide +kernel
  oldName := by decide +kernel
  abbreviation := by decide +kernel
  city := by decide
  cityOpener := by decide +kernel

/-! ## The characters of a spelling -/

/-- The sign for kelvin, which is a `k` in lower case. -/
def kelvinSign : Char := Char.ofNat 8490

/-- The characters that have a character of a unit for their small letter. -/
def isSpellingChar (c : Char) : Bool := c.isAlphanum || c == 'µ' || c == kelvinSign

/-- What the lexer looks at in a character of a spelling. -/
structure SpellingChar (c : Char) : Prop where
  wordPart : Text.isWordPart c = true
  wordStart : c.isDigit = false → Text.isWordStart c = true
  not_blank : Text.isBlank c = false
  ne_slash : c ≠ '/'
  lower_digit : c.isDigit = true → Text.lowerChar c = [c]
  upper : ∃ x, Text.upperChar c = [x] ∧ (x.toNat < 128 → Text.lowerChar c = [x.toLower])

theorem lowerRuns_spec : ∀ run ∈ Text.lowerRuns.toList,
    run.last < 128 ∨ 192 ≤ run.first + run.shift ∨ run.first = 8490 ∧ run.last = 8490 := by
  decide +kernel

theorem eq_of_isUnitChar {c : Char} (h : isUnitChar c = true) : c.toNat < 128 ∧ c.toNat ≠ 0 ∨ c = 'µ' := by
  have hlower : c.isLower = (97 ≤ c.val && c.val ≤ 122) := rfl
  simp only [isUnitChar, Bool.or_eq_true, beq_iff_eq, hlower, Bool.and_eq_true,
    decide_eq_true_eq, UInt32.le_iff_toNat_le, Shape.isDigit_iff, Char.toNat_val] at h
  rcases h with (h | h) | h
  · have hz : UInt32.toNat 122 = 122 := rfl
    have ha : UInt32.toNat 97 = 97 := rfl
    exact .inl (by omega)
  · exact .inl (by omega)
  · exact .inr h

theorem isSpellingChar_of_ascii :
    ∀ n : Fin 128, isUnitChar (Char.ofNat n).toLower = true →
      isSpellingChar (Char.ofNat n) = true := by decide

theorem isSpellingChar_of_lowerChar {c l : Char} (h : Text.lowerChar c = [l])
    (hl : isUnitChar l = true) : isSpellingChar c = true := by
  unfold Text.lowerChar at h
  split at h
  · rename_i hascii
    obtain rfl : c.toLower = l := List.singleton_inj.1 h
    have := isSpellingChar_of_ascii ⟨c.toNat, hascii⟩
    rw [Char.ofNat_toNat] at this
    exact this hl
  · rename_i hascii
    split at h
    · cases h
    · obtain rfl := List.singleton_inj.1 h
      unfold Text.shiftBy at hl
      split at hl
      · rename_i run hfind
        have hcovers := Array.find?_some hfind
        simp only [Text.CaseRun.covers, Bool.and_eq_true, decide_eq_true_eq] at hcovers
        rcases lowerRuns_spec run (Array.mem_toList_iff.2 (Array.mem_of_find?_eq_some hfind)) with
          hrun | hrun | hrun
        · omega
        · have hfar : 192 ≤ (c.toNat + run.shift).toNat := by omega
          have hchar := eq_of_isUnitChar hl
          have hmicro : 'µ'.toNat = 181 := rfl
          rcases Text.toNat_ofNat (c.toNat + run.shift).toNat with hnat | hnat
          · rcases hchar with hchar | hchar
            · omega
            · rw [hchar] at hnat
              omega
          · rcases hchar with hchar | hchar
            · omega
            · rw [hchar] at hnat
              omega
        · have hkelvin : c = kelvinSign := Char.toNat_inj.1 (show c.toNat = 8490 by omega)
          simp [isSpellingChar, hkelvin]
      · rcases eq_of_isUnitChar hl with hsmall | hmicro
        · omega
        · simp [isSpellingChar, hmicro]

/-- The characters of a word whose small letters are those of a unit. -/
theorem lowerChar_of_lowerFrom {cs before : List Char}
    (h : (Text.lowerFrom before cs).all isUnitChar = true) :
    List.Forall₂ (fun c l => Text.lowerChar c = [l]) cs (Text.lowerFrom before cs) := by
  induction cs generalizing before with
  | nil => exact .nil
  | cons c cs ih =>
    rw [Text.lowerFrom] at h ⊢
    rw [List.all_append, Bool.and_eq_true] at h
    obtain ⟨hhere, hrest⟩ := h
    split
    · rename_i hsigma
      rw [if_pos hsigma] at hhere
      split at hhere <;> exact absurd hhere (by decide)
    · rename_i hsigma
      rw [if_neg hsigma] at hhere
      have hsingle : ∃ l, Text.lowerChar c = [l] := by
        unfold Text.lowerChar at hhere ⊢
        split
        · exact ⟨_, rfl⟩
        · rename_i hascii
          rw [if_neg hascii] at hhere
          split
          · rename_i hdotted
            rw [if_pos hdotted] at hhere
            exact absurd hhere (by decide)
          · exact ⟨_, rfl⟩
      obtain ⟨l, hl⟩ := hsingle
      rw [hl]
      exact .cons hl (ih hrest)

theorem spellingChar_of_ascii : ∀ n : Fin 128, isSpellingChar (Char.ofNat n) = true →
    Text.isWordPart (Char.ofNat n) = true ∧
      ((Char.ofNat n).isDigit = false → Text.isWordStart (Char.ofNat n) = true) ∧
      Text.isBlank (Char.ofNat n) = false ∧ Char.ofNat n ≠ '/' ∧
      ((Char.ofNat n).isDigit = true → (Char.ofNat n).toLower = Char.ofNat n) ∧
      (Char.ofNat n).toUpper.toLower = (Char.ofNat n).toLower := by decide +kernel

theorem spellingChar {c : Char} (h : isSpellingChar c = true) : SpellingChar c := by
  by_cases hascii : c.toNat < 128
  · have hc := spellingChar_of_ascii ⟨c.toNat, hascii⟩
    rw [Char.ofNat_toNat] at hc
    obtain ⟨hpart, hstart, hblank, hslash, hdigit, hupper⟩ := hc h
    have hlower : Text.lowerChar c = [c.toLower] := if_pos hascii
    exact ⟨hpart, hstart, hblank, hslash, fun hd => by rw [hlower, hdigit hd],
      c.toUpper, if_pos hascii, fun _ => by rw [hlower, hupper]⟩
  · have hc : c = 'µ' ∨ c = kelvinSign := by
      simp only [isSpellingChar, Bool.or_eq_true, beq_iff_eq] at h
      rcases h with (h | h) | h
      · rw [Char.isAlphanum, Bool.or_eq_true, Shape.isAlpha_iff, Shape.isDigit_iff] at h
        omega
      · exact .inl h
      · exact .inr h
    rcases hc with rfl | rfl
    · exact ⟨by decide +kernel, fun _ => by decide +kernel, by decide, by decide,
        fun hd => absurd hd (by decide), Char.ofNat 924, by decide +kernel, fun hx => absurd hx (by decide)⟩
    · exact ⟨by decide +kernel, fun _ => by decide +kernel, by decide, by decide,
        fun hd => absurd hd (by decide), kelvinSign, by decide +kernel, fun hx => absurd hx (by decide)⟩

/-! ## Spellings in lower case -/

variable {u : String} {d : Denomination}

/-- A spelling of a unit differs from one of the table at most by its case. -/
theorem exists_name_of_find? {m : MeasureUnit} (h : MeasureUnit.find? u = some m) :
    ∃ m' ∈ MeasureUnit.all, ∃ name ∈ m'.names, caseless u = caseless name := by
  unfold MeasureUnit.find? at h
  split at h
  · rename_i hexact
    have hmem := List.find?_some hexact
    exact ⟨_, List.mem_of_find?_eq_some hexact, u, by simpa using hmem, rfl⟩
  · split at h
    · cases h
    · obtain ⟨⟨low, m'⟩, hlow, -⟩ := Option.map_eq_some_iff.1 h
      have heq : low = Text.toLower u := by simpa using List.find?_some hlow
      obtain ⟨m'', hm, hentry⟩ := List.mem_flatMap.1 (List.mem_of_find?_eq_some hlow)
      obtain ⟨name, hname, hpair⟩ := List.mem_map.1 hentry
      refine ⟨m'', hm, name, (List.mem_filter.1 hname).1, ?_⟩
      rw [heq, Prod.mk.injEq] at hpair
      rw [caseless, caseless, letters_eq, letters_eq]
      exact (String.ofList_injective hpair.1).symm

/-- A spelling differs from one of the table at most by its case. -/
theorem exists_spelling (h : ofName? u = some d) :
    ∃ name ∈ spellings, caseless u = caseless name := by
  unfold ofName? at h
  split at h
  · rename_i m hfind
    obtain ⟨m', hm, name, hname, heq⟩ := exists_name_of_find? hfind
    exact ⟨name, List.mem_append_left _ (List.mem_flatMap_of_mem hm hname), heq⟩
  · split at h
    · rename_i hcode
      exact ⟨u, List.mem_append_right _ (by simpa [Currency.isCode] using hcode), rfl⟩
    · cases h

/-- A code stands for its currency: no unit is spelled like it, in whatever case. -/
theorem ofName?_code {code : String} (h : Currency.isCode code = true) :
    ofName? code = some (.currency code) := by
  have hmem : code ∈ Currency.codes := by simpa [Currency.isCode] using h
  have hnone : MeasureUnit.find? code = none := by
    rw [Option.eq_none_iff_forall_ne_some]
    intro m hm
    obtain ⟨m', hm', name, hname, heq⟩ := exists_name_of_find? hm
    have hlength : (caseless name).length = 3 := heq ▸ tables_spec.codeLength code hmem
    exact tables_spec.code m' hm' name hname hlength (heq ▸ List.mem_map_of_mem hmem)
  rw [ofName?, hnone]
  exact if_pos h

theorem fits_of_ofName? (h : ofName? u = some d) : fits (caseless u) = true := by
  obtain ⟨name, hmem, heq⟩ := exists_spelling h
  rw [heq]
  exact List.all_eq_true.1 tables_spec.spelling name hmem

/-- No reserved word is a spelling, in whatever case. -/
theorem caseless_ne_of_reserved (h : ofName? u = some d) {word : String} (hword : word ∈ reserved) :
    caseless u ≠ caseless word := by
  intro heq
  have hfits := fits_of_ofName? h
  rw [fits, heq, testBit_mask_of_mem hword] at hfits
  simp at hfits

/-- A word that is reserved, or differs from a unit by its case, is no
spelling. -/
theorem ne_of_reserved (h : ofName? u = some d) {word : String}
    (hword : word ∈ reserved ∨ word ∈ nearUnits) : u ≠ word := by
  rintro rfl
  rcases hword with hword | hword
  · exact caseless_ne_of_reserved h hword rfl
  · rw [tables_spec.nearUnit u hword] at h
    cases h

theorem all_of_fits {cs : List Char} (h : fits cs = true) : cs.all isUnitChar = true := by
  simp only [fits, Bool.and_eq_true] at h
  exact h.1.1.1.1

theorem lowerChar_of_ofName? (h : ofName? u = some d) :
    List.Forall₂ (fun c l => Text.lowerChar c = [l]) u.toList (caseless u) := by
  rw [caseless, letters_eq]
  refine lowerChar_of_lowerFrom ?_
  rw [← letters_eq]
  exact all_of_fits (fits_of_ofName? h)

/-- A spelling starts with a letter. -/
theorem exists_cons_of_ofName? (h : ofName? u = some d) :
    ∃ c cs l ls, u.toList = c :: cs ∧ caseless u = l :: ls ∧ Text.lowerChar c = [l] ∧
      l.isDigit = false := by
  have hlower := lowerChar_of_ofName? h
  have hfits := fits_of_ofName? h
  generalize u.toList = cs, caseless u = ls at hlower hfits
  cases hlower with
  | nil => exact absurd hfits (by simp [fits])
  | @cons c l cs ls hc hcs =>
    simp only [fits, Bool.and_eq_true, List.head?_cons, Option.any_some, Bool.not_eq_true'] at hfits
    exact ⟨c, cs, l, ls, rfl, rfl, hc, hfits.1.1.1.2⟩

theorem isSpellingChar_of_ofName? (h : ofName? u = some d) :
    ∀ c ∈ u.toList, isSpellingChar c = true := by
  have hall : ∀ cs ls : List Char, List.Forall₂ (fun c l => Text.lowerChar c = [l]) cs ls →
      ls.all isUnitChar = true → ∀ c ∈ cs, isSpellingChar c = true := by
    intro cs ls hcs hls
    induction hcs with
    | nil => simp
    | cons hc _ ih =>
      rw [List.all_cons, Bool.and_eq_true] at hls
      rw [List.forall_mem_cons]
      exact ⟨isSpellingChar_of_lowerChar hc hls.1, ih hls.2⟩
  exact hall _ _ (lowerChar_of_ofName? h) (all_of_fits (fits_of_ofName? h))

/-! ## No names of zones -/

/-- A capital that stands in a word in upper case has its small letter in the
word in lower case. -/
theorem isPrefixOf_of_upper {pre cs ls more : List Char}
    (hpre : ∀ x ∈ pre, x.toNat < 128 ∧ x ≠ '/')
    (hcs : List.Forall₂ (fun c l => Text.lowerChar c = [l]) cs ls)
    (hspell : ∀ c ∈ cs, isSpellingChar c = true) (hmore : ∀ c ∈ more.head?, c = '/')
    (h : pre <+: (cs ++ more).flatMap Text.upperChar) : pre.map Char.toLower <+: ls := by
  induction pre generalizing cs ls with
  | nil => exact List.nil_prefix
  | cons x pre ih =>
    obtain ⟨hx, hpre⟩ := List.forall_mem_cons.1 hpre
    cases hcs with
    | nil =>
      cases more with
      | nil => cases (List.prefix_nil.1 h)
      | cons c more =>
        obtain rfl := hmore c rfl
        exact absurd (List.cons_prefix_cons.1 h).1 hx.2
    | @cons c l cs ls hc hcs =>
      obtain ⟨hcspell, hspell⟩ := List.forall_mem_cons.1 hspell
      obtain ⟨y, hy, hlower⟩ := (spellingChar hcspell).upper
      rw [List.cons_append, List.flatMap_cons, hy, List.singleton_append,
        List.cons_prefix_cons] at h
      obtain ⟨rfl, h⟩ := h
      rw [hlower hx.1] at hc
      obtain rfl := List.singleton_inj.1 hc
      exact List.cons_prefix_cons.2 ⟨rfl, ih hpre hcs hspell h⟩

/-- Neither a spelling nor what goes on behind it with a slash begins like
universal time. -/
theorem not_isPrefix_toUpper (h : ofName? u = some d) (more : List Char)
    (hmore : ∀ c ∈ more.head?, c = '/') :
    ¬ ['U', 'T', 'C'] <+: (u.toList ++ more).flatMap Text.upperChar ∧
      ¬ ['G', 'M', 'T'] <+: (u.toList ++ more).flatMap Text.upperChar := by
  have hfits := fits_of_ofName? h
  simp only [fits, Bool.and_eq_true, Bool.not_eq_true', ← Bool.not_eq_true,
    List.isPrefixOf_iff_prefix] at hfits
  obtain ⟨⟨⟨-, hutc⟩, hgmt⟩, -⟩ := hfits
  have hlower {pre : List Char} (hpre : pre.all (fun x => x.toNat < 128 ∧ x ≠ '/') = true)
      (hstart : pre <+: (u.toList ++ more).flatMap Text.upperChar) :
      pre.map Char.toLower <+: caseless u :=
    isPrefixOf_of_upper (by simpa using hpre) (lowerChar_of_ofName? h) (isSpellingChar_of_ofName? h) hmore hstart
  exact ⟨fun hprefix => hutc (hlower (by decide) hprefix),
    fun hprefix => hgmt (hlower (by decide) hprefix)⟩

theorem isUniversal_spelling (h : ofName? u = some d) : Token.isUniversal u = false := by
  have hprefix := not_isPrefix_toUpper h [] (by simp)
  rw [List.append_nil] at hprefix
  rw [Token.isUniversal, Bool.or_eq_false_iff, beq_eq_false_iff_ne, beq_eq_false_iff_ne,
    Text.toUpper]
  constructor
  · intro heq
    exact hprefix.1 (by rw [← String.toList_ofList (l := u.toList.flatMap Text.upperChar), heq]; decide)
  · intro heq
    exact hprefix.2 (by rw [← String.toList_ofList (l := u.toList.flatMap Text.upperChar), heq]; decide)

theorem trimChars_eq {cs more : List Char} (hne : cs ≠ [])
    (hcs : ∀ c ∈ cs, Text.isBlank c = false) (hmore : ∀ c ∈ more.head?, c = '/') :
    ∃ more', (∀ c ∈ more'.head?, c = '/') ∧ Text.trimChars (cs ++ more) = cs ++ more' := by
  have hfront : (cs ++ more).dropWhile Text.isBlank = cs ++ more := by
    obtain ⟨c, cs, rfl⟩ := List.exists_cons_of_ne_nil hne
    exact List.dropWhile_cons_of_neg (by simp [hcs c List.mem_cons_self])
  have hback {xs : List Char} (hxs : ∀ c ∈ xs, Text.isBlank c = false) :
      xs.reverse.dropWhile Text.isBlank = xs.reverse := by
    cases hrev : xs.reverse with
    | nil => rfl
    | cons c ds =>
      have hc : c ∈ xs := List.mem_reverse.1 (hrev ▸ List.mem_cons_self)
      exact List.dropWhile_cons_of_neg (by simp [hxs c hc])
  rw [Text.trimChars, hfront]
  cases more with
  | nil => exact ⟨[], by simp, by rw [List.append_nil, hback hcs, List.reverse_reverse]⟩
  | cons c more =>
    obtain rfl := hmore c rfl
    have hslash : (cs ++ ['/']).reverse.dropWhile Text.isBlank = (cs ++ ['/']).reverse := by
      refine hback fun c hc => ?_
      rcases List.mem_append.1 hc with hc | hc
      · exact hcs c hc
      · rw [List.mem_singleton.1 hc]
        decide
    refine ⟨'/' :: (more.reverse.dropWhile Text.isBlank).reverse, by simp, ?_⟩
    have hdrop : (more.reverse ++ (cs ++ ['/']).reverse).dropWhile Text.isBlank =
        more.reverse.dropWhile Text.isBlank ++ (cs ++ ['/']).reverse := by
      rw [List.dropWhile_append]
      split
      · rename_i hempty
        rw [hslash, List.isEmpty_iff.1 hempty, List.nil_append]
      · rfl
    rw [List.append_cons, List.reverse_append, hdrop, List.reverse_append, List.reverse_reverse,
      List.append_assoc, List.singleton_append]

theorem lookup_eq_none {entries : List (String × String)} {key : String}
    (h : ∀ e ∈ entries, key ≠ e.1) : entries.lookup key = none := by
  rw [List.lookup_eq_none_iff]
  exact fun e he => by simpa using h e he

theorem prefix_of_bytes {a b : String}
    (h : a.toByteArray.data.toList.isPrefixOf b.toByteArray.data.toList = true) :
    a.toList <+: b.toList := by
  obtain ⟨bytes, hbytes⟩ := List.isPrefixOf_iff_prefix.1 h
  refine List.isPrefix_of_utf8Encode_append_eq_utf8Encode ⟨bytes.toArray⟩ ?_
  rw [String.utf8Encode_toList, String.utf8Encode_toList]
  refine ByteArray.ext (Array.toList_inj.1 ?_)
  rw [ByteArray.data_append, Array.toList_append, ← hbytes]

theorem exists_area {name : String} {z : Zone} (h : Zone.ofRegion? name = some z) :
    ∃ area ∈ areas, area.toList ++ ['/'] <+: name.toList := by
  have hprefix {name' : String} (hname : areas.any (fun area =>
      (area ++ "/").toByteArray.data.toList.isPrefixOf name'.toByteArray.data.toList) = true) :
      ∃ area ∈ areas, area.toList ++ ['/'] <+: name'.toList := by
    obtain ⟨area, harea, hbytes⟩ := List.any_eq_true.1 hname
    refine ⟨area, harea, ?_⟩
    have := prefix_of_bytes hbytes
    rwa [String.toList_append] at this
  obtain ⟨table, htable, -⟩ := Option.map_eq_some_iff.1 h
  obtain ⟨e, he, -⟩ := Option.map_eq_some_iff.1 htable
  have hname : e.name = Zone.mainName name := by simpa using List.find?_some he
  rw [Zone.mainName] at hname
  cases halias : Zone.Data.aliases.lookup name with
  | none =>
    rw [halias, Option.getD_none] at hname
    exact hname ▸ hprefix (tables_spec.region e (List.mem_of_find?_eq_some he))
  | some main =>
    obtain ⟨front, back, heq, -⟩ := List.lookup_eq_some_iff.1 halias
    exact hprefix (tables_spec.oldName (name, main) (by simp [heq]))

theorem ofRegion?_spelling (h : ofName? u = some d) {name : String} {more : List Char}
    (hname : name.toList = u.toList ++ '/' :: more) : Zone.ofRegion? name = none := by
  rw [Option.eq_none_iff_forall_ne_some]
  intro z hz
  obtain ⟨area, harea, hprefix⟩ := exists_area hz
  have hslash : ∀ c ∈ u.toList, c ≠ '/' := fun c hc =>
    (spellingChar (isSpellingChar_of_ofName? h c hc)).ne_slash
  have htake (front back : List Char) (hfront : ∀ c ∈ front, c ≠ '/') :
      (front ++ '/' :: back).takeWhile (· ≠ '/') = front := by
    rw [List.takeWhile_append_of_pos fun c hc => by simpa using hfront c hc]
    simp
  obtain ⟨back, hback⟩ := hprefix
  rw [hname, List.append_assoc, List.singleton_append] at hback
  have heq : area.toList = u.toList := by
    have harea' : '/' ∉ area.toList := letters_eq area ▸ tables_spec.area area harea
    rw [← htake _ back fun c hc heq => harea' (heq ▸ hc), hback, htake _ _ hslash]
  refine ne_of_reserved h ?_ (String.toList_inj.1 heq.symm)
  by_cases hnear : area ∈ nearUnits
  · exact .inr hnear
  · refine .inl (List.mem_filter.2 ⟨?_, by simpa using hnear⟩)
    simp [harea]

theorem mem_lowerFrom_slash {cs before : List Char} (h : '/' ∈ cs) :
    '/' ∈ Text.lowerFrom before cs := by
  induction cs generalizing before with
  | nil => cases h
  | cons c cs ih =>
    rw [Text.lowerFrom, List.mem_append]
    rcases List.mem_cons.1 h with rfl | h
    · rw [if_neg (by decide)]
      exact .inl (by decide)
    · exact .inr (ih h)

theorem regionName?_spelling (h : ofName? u = some d) {more : List Char}
    (hmore : ∀ c ∈ more.head?, c = '/') :
    Zone.regionName? (String.ofList (u.toList ++ more)) = none := by
  have hslash : more ≠ [] → '/' ∈ u.toList ++ more := by
    intro hne
    obtain ⟨c, more, rfl⟩ := List.exists_cons_of_ne_nil hne
    rw [← hmore c rfl]
    simp
  have habbreviation : Zone.abbreviations.lookup (String.ofList (u.toList ++ more)) = none := by
    refine lookup_eq_none fun e he heq => ?_
    by_cases hne : more = []
    · rw [hne, List.append_nil, String.ofList_toList] at heq
      refine ne_of_reserved h ?_ heq
      by_cases hnear : e.1 ∈ nearUnits
      · exact .inr hnear
      · refine .inl (List.mem_filter.2 ⟨?_, by simpa using hnear⟩)
        exact List.mem_append_right _ (List.mem_map_of_mem he)
    · refine tables_spec.abbreviation e he ?_
      rw [letters_eq, ← heq, String.toList_ofList]
      exact hslash hne
  have hcity : Zone.cities.lookup (Zone.cityKey (String.ofList (u.toList ++ more))) = none := by
    refine lookup_eq_none fun e he heq => ?_
    obtain ⟨hfree, hlow, hnear⟩ := tables_spec.city e he
    rw [Zone.cityKey, Text.toLower, String.toList_ofList, String.toList_ofList] at heq
    by_cases hne : more = []
    · have hplain : ∀ c ∈ caseless u, (if c = '_' then ' ' else c) = c := by
        refine fun c hc => if_neg ?_
        rintro rfl
        exact absurd (List.all_eq_true.1 (all_of_fits (fits_of_ofName? h)) _ hc) (by decide)
      rw [hne, List.append_nil, ← letters_eq, ← caseless, List.map_congr_left hplain,
        List.map_id'] at heq
      have hreserved : e.1 ∈ reserved :=
        List.mem_filter.2 ⟨by simp [List.mem_map_of_mem he], by simpa using hnear⟩
      exact caseless_ne_of_reserved h hreserved
        (by rw [hlow, letters_eq, ← heq, String.toList_ofList])
    · refine hfree ?_
      rw [letters_eq, ← heq, String.toList_ofList, List.mem_map]
      exact ⟨'/', mem_lowerFrom_slash (hslash hne), rfl⟩
  unfold Zone.regionName?
  rw [habbreviation]
  exact hcity

/-- A spelling names no zone, and begins the name of none. -/
theorem parse?_spelling (h : ofName? u = some d) (more : List Char)
    (hmore : ∀ c ∈ more.head?, c = '/') :
    Zone.parse? (String.ofList (u.toList ++ more)) = none := by
  obtain ⟨c, cs, _, _, hu, -⟩ := exists_cons_of_ofName? h
  have hne : u.toList ≠ [] := by simp [hu]
  obtain ⟨more', hmore', htrim⟩ := trimChars_eq hne
    (fun c hc => (spellingChar (isSpellingChar_of_ofName? h c hc)).not_blank) hmore
  have hoffset : Zone.parseOffset (String.ofList (u.toList ++ more')) = .ok none := by
    obtain ⟨hutc, hgmt⟩ := not_isPrefix_toUpper h more' hmore'
    rw [Zone.parseOffset, Text.toUpper, String.toList_ofList, String.toList_ofList]
    split
    · rename_i rest heq
      exact absurd ⟨rest, heq.symm⟩ hutc
    · rename_i rest heq
      exact absurd ⟨rest, heq.symm⟩ hgmt
    · rfl
  have hregion := regionName?_spelling h hmore'
  unfold Zone.parse? Zone.parse Zone.ofName?
  simp only [Text.trim, String.toList_ofList, htrim, hoffset, bind, Except.bind, pure, Except.pure,
    hregion]
  cases more' with
  | nil =>
    refine if_neg ?_
    rw [List.append_nil, List.contains_iff_mem]
    exact fun hmem => (spellingChar (isSpellingChar_of_ofName? h _ hmem)).ne_slash rfl
  | cons c more' =>
    obtain rfl := hmore' c rfl
    split
    · exact ofRegion?_spelling h (String.toList_ofList)
    · rfl

end Denomination

/-! ## What the lexer makes of a spelling -/

/-- How a slash, a plus or a minus is found. -/
theorem Shape.singleMark?_of_scanMark {c : Char} {rest : List Char} {m : Mark} {n : Nat}
    (hm : m = .slash ∨ m = .plus ∨ m = .minus) (h : scanMark c rest = (some (.mark m), n)) :
    singleMark? c = some m ∧ n = 1 := by
  unfold scanMark at h
  dsimp only at h
  split at h
  · cases h
    simp at hm
  split at h
  · cases h
    simp at hm
  split at h
  · rename_i m' hdouble
    obtain rfl : m' = m := by
      cases h
      rfl
    obtain ⟨d, -, hd⟩ := Option.bind_eq_some_iff.1 hdouble
    unfold doubleMark? at hd
    split at hd <;> cases hd <;> simp at hm
  split at h
  · rename_i m' hsingle
    cases h
    exact ⟨hsingle, rfl⟩
  · cases h

theorem Shape.singleMark?_of_scan {c : Char} {rest : List Char} {m : Mark} {n : Nat}
    (hm : m = .slash ∨ m = .plus ∨ m = .minus) (h : scan c rest = (some (.mark m), n)) :
    singleMark? c = some m ∧ n = 1 := by
  cases scans_of_scan h with
  | mark _ _ hmark => exact singleMark?_of_scanMark hm hmark

theorem Shape.eq_slash_of_singleMark? {c : Char} (h : singleMark? c = some .slash) : c = '/' := by
  unfold singleMark? at h
  split at h
  all_goals first | cases h; done | rfl

theorem Piece.head?_of_slash {p : Piece} {cs : List Char} {offset skip : Nat}
    (h : p ∈ splitFrom offset skip cs) (hp : p.shape = .mark .slash) : p.text.head? = some '/' := by
  obtain ⟨c, rest, n, -, hscan, htext⟩ := exists_scan_of_mem h
  rw [hp] at hscan
  obtain ⟨hsingle, rfl⟩ := Shape.singleMark?_of_scan (.inl rfl) hscan
  obtain rfl := Shape.eq_slash_of_singleMark? hsingle
  rw [htext]
  rfl

namespace Denomination

/-- Nothing that follows a spelling with slashes makes it the name of a
region. -/
theorem glueRegion?_spelling (h : ofName? u = some d) {pieces : List Piece}
    (hpieces : ∀ p ∈ pieces, p.shape = .mark .slash → p.text.head? = some '/') {more : List Char}
    (hmore : ∀ c ∈ more.head?, c = '/') (stop taken : Nat) :
    Token.glueRegion? (u.toList ++ more) stop taken none pieces = none := by
  induction hn : pieces.length using Nat.strongRecOn generalizing pieces more stop taken with
  | ind n ih =>
    cases pieces with
    | nil => rfl
    | cons slash rest =>
      cases rest with
      | nil => rfl
      | cons part rest =>
        rw [Token.glueRegion?]
        split
        · rename_i hglue
          simp only [Bool.and_eq_true, beq_iff_eq] at hglue
          have hslash := hpieces slash List.mem_cons_self hglue.1.1.1
          have hmore' : ∀ c ∈ (more ++ (slash.text ++ part.text)).head?, c = '/' := by
            intro c hc
            cases more with
            | nil =>
              obtain ⟨text, htext⟩ := List.head?_eq_some_iff.1 hslash
              rw [List.nil_append, htext] at hc
              exact (Option.some.inj hc).symm
            | cons b more => exact hmore c hc
          have hzone := parse?_spelling h _ hmore'
          simp only [← List.append_assoc] at hzone hmore'
          simp only [hzone, Option.isSome_none, Bool.false_eq_true, if_false]
          have hrest : ∀ p ∈ rest, p.shape = .mark .slash → p.text.head? = some '/' :=
            fun p hp => hpieces p (List.mem_cons_of_mem _ (List.mem_cons_of_mem _ hp))
          have hread := ih rest.length (by simp only [List.length_cons] at hn; omega) hrest hmore'
            part.stop (taken + 2) rfl
          simpa only [List.append_assoc] using hread
        · rfl

theorem ofName?_keyword (h : ofName? u = some d) : Keyword.ofName? u = none := by
  have hkeywords : ∀ k ∈ Keyword.all, k.name ∈ reserved := by
    have hnear : ∀ k ∈ Keyword.all, nearUnits.contains k.name = false := by decide
    refine fun k hk => List.mem_filter.2 ⟨by simp [List.mem_map_of_mem hk], by rw [hnear k hk]; rfl⟩
  rw [Keyword.ofName?, List.find?_eq_none]
  intro k hk heq
  exact ne_of_reserved h (.inl (hkeywords k hk)) (beq_iff_eq.1 heq).symm

theorem mem_constants {word : String} {c : Constant} (h : Constant.ofName? word = some c) :
    word ∈ constants := by
  unfold Constant.ofName? at h
  split at h
  all_goals first | simp at h; done | simp [constants]

theorem ofName?_constant (h : ofName? u = some d) : Constant.ofName? u = none := by
  have hnear : ∀ word ∈ constants, nearUnits.contains word = false := by decide
  rw [Option.eq_none_iff_forall_ne_some]
  intro c hc
  have hmem := mem_constants hc
  refine ne_of_reserved h (.inl (List.mem_filter.2 ⟨?_, ?_⟩)) rfl
  · simp [hmem]
  · rw [hnear u hmem, Bool.not_false]

/-- What a word that is no zone, no keyword and no constant is read as. -/
theorem ofWord_eq {word : String} (hzone : Zone.parse? word = none)
    (hkeyword : Keyword.ofName? word = none) (hconstant : Constant.ofName? word = none) :
    ((Builtin.ofName? word).isSome = true → Token.ofWord word = .function word) ∧
      ((Builtin.ofName? word).isSome = false → (MeasureUnit.find? word).isSome = true →
        Token.ofWord word = .unit word) ∧
      ((Builtin.ofName? word).isSome = false → (MeasureUnit.find? word).isSome = false →
        Currency.isCode word = true → Token.ofWord word = .currency word) := by
  unfold Token.ofWord
  rw [hzone, hkeyword, hconstant]
  refine ⟨fun hb => ?_, fun hb hm => ?_, fun hb hm hc => ?_⟩
  · rw [if_neg (by simp)]
    dsimp only
    rw [if_pos hb]
  · rw [if_neg (by simp)]
    dsimp only
    rw [if_neg (by simp [hb]), if_neg (by simp), if_pos hm]
  · rw [if_neg (by simp)]
    dsimp only
    rw [if_neg (by simp [hb]), if_neg (by simp), if_neg (by simp [hm]), if_pos hc]

/-- A spelling is a word that can stand where a unit is wanted. -/
theorem unitName?_ofWord (h : ofName? u = some d) : (Token.ofWord u).unitName? = some u := by
  have hzone := parse?_spelling h [] (by simp)
  rw [List.append_nil, String.ofList_toList] at hzone
  obtain ⟨hfunction, hunit, hcurrency⟩ := ofWord_eq hzone (ofName?_keyword h) (ofName?_constant h)
  unfold ofName? at h
  split at h
  · rename_i m hfind
    have hm : (MeasureUnit.find? u).isSome = true := by rw [hfind, Option.isSome_some]
    cases hb : (Builtin.ofName? u).isSome with
    | true => rw [hfunction hb, Token.unitName?, if_pos hm]
    | false => rw [hunit hb hm, Token.unitName?]
  · rename_i hfind
    split at h
    · rename_i hcode
      have hbuiltin := tables_spec.currency u (by simpa [Currency.isCode] using hcode)
      rw [hcurrency (by rw [hbuiltin, Option.isSome_none]) (by rw [hfind, Option.isSome_none]) hcode,
        Token.unitName?]
    · cases h

/-- A spelling is made like a word. -/
theorem exists_wordStart (h : ofName? u = some d) :
    ∃ c cs, u.toList = c :: cs ∧ Text.isWordStart c = true ∧ ∀ x ∈ cs, Text.isWordPart x = true := by
  obtain ⟨c, cs, l, ls, hu, -, hlower, hdigit⟩ := exists_cons_of_ofName? h
  have hspell := isSpellingChar_of_ofName? h
  rw [hu] at hspell
  obtain ⟨hc, hcs⟩ := List.forall_mem_cons.1 hspell
  refine ⟨c, cs, hu, (spellingChar hc).wordStart ?_, fun x hx => (spellingChar (hcs x hx)).wordPart⟩
  rw [Bool.eq_false_iff]
  intro hcdigit
  rw [(spellingChar hc).lower_digit hcdigit] at hlower
  rw [← List.singleton_inj.1 hlower, hcdigit] at hdigit
  cases hdigit

/-- However a unit is spelled, the spelling is one word. -/
theorem lexes_spelling (h : ofName? u = some d) {rest : List Char}
    (hrest : rest.head?.any Text.isWordPart = false) :
    Token.Lexes u.toList [Token.ofWord u] rest := by
  obtain ⟨c, cs, hu, hc, hcs⟩ := exists_wordStart h
  have hword : String.ofList (c :: cs) = u := by rw [← hu, String.ofList_toList]
  have hcity : Zone.cityOpeners.contains (Text.toLower u) = false := by
    rw [Bool.eq_false_iff, ne_eq, List.contains_iff_mem]
    intro hmem
    obtain ⟨hlow, hnear⟩ := tables_spec.cityOpener _ hmem
    refine caseless_ne_of_reserved h (List.mem_filter.2 ⟨?_, by simpa using hnear⟩) ?_
    · simp [hmem]
    · rw [hlow, letters_eq, Text.toLower, String.toList_ofList, caseless, letters_eq]
  have hlex := Token.lexes_word hc hcs hrest fun offset offset' => by
      refine Token.glueZone?_eq_none ?_ ?_ ?_
      · rw [hword]
        exact isUniversal_spelling h
      · rw [hword]
        exact hcity
      · have hglue (stop : Nat) : Token.glueRegion? (u.toList ++ []) stop 0 none
            (Piece.splitFrom offset' 0 rest) = none :=
          glueRegion?_spelling h (fun p hp => Piece.head?_of_slash hp) (by simp) stop 0
        rw [List.append_nil, hu] at hglue
        exact hglue _
  rwa [hword, ← hu] at hlex

end Denomination

end Reckoner
