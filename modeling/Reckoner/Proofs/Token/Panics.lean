import Mathlib.Data.List.Infix
import Reckoner.Proofs.Token.Fidelity
import Reckoner.Proofs.Token.Spelling
import Reckoner.Proofs.Token.Zones
import Reckoner.Proofs.Zone.Offsets

/-!
# Sources that are not read

Reading a source panics where a name that is looked up does.  Of the two ways in which a name may
panic only one is left to a source: a word begins, in any case, with `UTC` or `GMT` and a character
longer than a byte (`Zone.Cuts`).

* `Zone.parse_eq_error_iff_cuts`: a name without signs panics in that way only.
* `Token.lookupsAt_panic`: the names that are looked up at a word panic as the word alone does.
* `Token.not_cuts_of_glueZone?`: no word that has been glued to another panics, so it does not
  matter that the reader passes over it.
* `Token.read_eq`: reading panics exactly at such words.
* `Token.relexed_faithful`: all other texts are read, and their tokens are true to the source.
-/

namespace Reckoner

namespace Text

variable {cs : List Char} {c d : Char}

theorem toUpper_mark : ∀ n : Fin 128, (Char.ofNat n).toUpper ∈ ['+', '-', '/', ':'] →
    (Char.ofNat n).toUpper = Char.ofNat n := by
  decide

/-- Marks are the capitals of themselves only. -/
theorem mem_of_mem_upper (h : d ∈ cs.flatMap upperChar) (hd : d ∈ ['+', '-', '/', ':']) :
    d ∈ cs := by
  obtain ⟨c, hc, hmem⟩ := List.mem_flatMap.1 h
  have hfacts : ∀ d ∈ ['+', '-', '/', ':'], d.toNat < 128 ∧ d.toNat ≠ 0 ∧ d ∉ sharedCapitals := by
    simp [sharedCapitals]
  obtain ⟨hlatin, hzero, hshared⟩ := hfacts d hd
  have hc128 := toNat_lt_of_upperChar hmem hlatin hzero hshared
  rw [upperChar, if_pos hc128, List.mem_singleton] at hmem
  have hmark := toUpper_mark ⟨c.toNat, hc128⟩
  rw [Char.ofNat_toNat] at hmark
  rw [hmem, hmark (hmem ▸ hd)]
  exact hc

theorem toUpper_latin : ∀ n : Fin 128, (Char.ofNat n).toUpper.toNat < 128 := by decide

/-- Latin letters have Latin capitals. -/
theorem latin_upper (h : ∀ c ∈ cs, c.toNat < 128) : ∀ d ∈ cs.flatMap upperChar, d.toNat < 128 := by
  intro d hd
  obtain ⟨c, hc, hmem⟩ := List.mem_flatMap.1 hd
  rw [upperChar, if_pos (h c hc), List.mem_singleton] at hmem
  have := toUpper_latin ⟨c.toNat, h c hc⟩
  rw [Char.ofNat_toNat] at this
  exact hmem ▸ this

theorem toUpper_digit : ∀ n : Fin 128, (Char.ofNat n).isDigit = true →
    (Char.ofNat n).toUpper.isDigit = true := by
  decide

theorem head?_upper_digit (hc : c.isDigit = true) :
    ∀ d ∈ ((c :: cs).flatMap upperChar).head?, d.isDigit = true := by
  intro d hd
  have hlatin : c.toNat < 128 := by
    have := Shape.isDigit_iff.1 hc
    omega
  rw [List.flatMap_cons, upperChar, if_pos hlatin] at hd
  cases hd
  have := toUpper_digit ⟨c.toNat, hlatin⟩
  rw [Char.ofNat_toNat] at this
  exact this hc

/-- Every character longer than a byte is beyond the Latin letters. -/
theorem utf8Size_of_latin (h : c.toNat < 128) : c.utf8Size = 1 := by
  rw [Char.utf8Size_eq_one_iff, UInt32.le_iff_toNat_le, Char.toNat_val]
  exact Nat.le_of_lt_succ h

end Text

namespace Zone

open Text

variable {cs more : List Char} {name : String} {n h m sign : Int} {e : Panic}

/-! ## Names -/

/-- Behind `UTC` or `GMT`, in any case, stands a character longer than a byte. -/
def Cuts (cs : List Char) : Prop :=
  ∃ head rest, (head = ['U', 'T', 'C'] ∨ head = ['G', 'M', 'T']) ∧
    cs.flatMap upperChar = head ++ rest ∧ BeginsWide rest

/-- An offset is read behind `UTC` and `GMT` only. -/
theorem parseOffset_cases (name : String) :
    (∃ head rest, (head = ['U', 'T', 'C'] ∨ head = ['G', 'M', 'T']) ∧
      name.toList.flatMap upperChar = head ++ rest ∧ parseOffset name = readOffset rest) ∨
    (∀ head rest, (head = ['U', 'T', 'C'] ∨ head = ['G', 'M', 'T']) →
      name.toList.flatMap upperChar ≠ head ++ rest) ∧ parseOffset name = .ok none := by
  have hupper : (toUpper name).toList = name.toList.flatMap upperChar := String.toList_ofList
  by_cases hhead : ∃ head rest, (head = ['U', 'T', 'C'] ∨ head = ['G', 'M', 'T']) ∧
      name.toList.flatMap upperChar = head ++ rest
  · obtain ⟨head, rest, hhead, heq⟩ := hhead
    exact .inl ⟨head, rest, hhead, heq, parseOffset_of_head (hupper.trans heq) hhead⟩
  · refine .inr ⟨fun head rest h heq => hhead ⟨head, rest, h, heq⟩, ?_⟩
    unfold parseOffset
    rw [hupper]
    split
    · rename_i rest heq
      exact absurd ⟨_, rest, .inl rfl, heq⟩ hhead
    · rename_i rest heq
      exact absurd ⟨_, rest, .inr rfl, heq⟩ hhead
    · rfl

theorem rest_unique {head head' rest rest' : List Char}
    (hhead : head = ['U', 'T', 'C'] ∨ head = ['G', 'M', 'T'])
    (hhead' : head' = ['U', 'T', 'C'] ∨ head' = ['G', 'M', 'T'])
    (heq : head ++ rest = head' ++ rest') : rest = rest' := by
  refine (List.append_inj heq ?_).2
  rcases hhead with rfl | rfl <;> rcases hhead' with rfl | rfl <;> rfl

/-- A character is cut behind `UTC` and `GMT` only. -/
theorem parseOffset_eq_boundary_iff : parseOffset name = .error .boundary ↔ Cuts name.toList := by
  rcases parseOffset_cases name with ⟨head, rest, hhead, heq, hread⟩ | ⟨hnone, hread⟩
  · rw [hread, readOffset_eq_boundary_iff]
    refine ⟨fun hwide => ⟨head, rest, hhead, heq, hwide⟩, ?_⟩
    rintro ⟨head', rest', hhead', heq', hwide⟩
    rwa [rest_unique hhead hhead' (heq.symm.trans heq')]
  · rw [hread]
    exact iff_of_false nofun fun ⟨head, rest, hhead, heq, _⟩ => hnone head rest hhead heq

/-- Offsets without a sign of any kind do not overflow. -/
theorem parseOffset_ne_overflow (hun : Unsigned name.toList) :
    parseOffset name ≠ .error .overflow := by
  rcases parseOffset_cases name with ⟨head, rest, -, heq, hread⟩ | ⟨-, hread⟩
  · rw [hread, Ne, readOffset_eq_overflow_iff]
    refine not_overflows_of_unsigned ?_
    have hmem {d : Char} (hd : d ∈ rest.tail) (hmark : d ∈ ['+', '-', '/', ':']) :
        d ∈ name.toList := by
      refine mem_of_mem_upper ?_ hmark
      rw [heq]
      exact List.mem_append_right _ (List.mem_of_mem_tail hd)
    exact ⟨fun hd => hun.1 (hmem hd (by decide)), fun hd => hun.2 (hmem hd (by decide))⟩
  · rw [hread]
    nofun

/-- A name without signs and without blanks around it panics in one way only. -/
theorem parse_eq_error_iff_cuts (htrim : trimChars name.toList = name.toList)
    (hun : Unsigned name.toList) :
    parse name = .error e ↔ e = .boundary ∧ Cuts name.toList := by
  have hname : trim name = name := by rw [trim, htrim, String.ofList_toList]
  rw [parse_eq_error_iff, hname]
  cases e with
  | boundary => rw [parseOffset_eq_boundary_iff, eq_self, true_and]
  | overflow =>
    exact iff_of_false (parseOffset_ne_overflow hun) fun hboth => Panic.noConfusion hboth.1

theorem not_cuts_of_latin (hcs : ∀ c ∈ cs, c.toNat < 128) : ¬Cuts cs := by
  rintro ⟨head, rest, -, heq, c, hc, hwide⟩
  refine hwide (utf8Size_of_latin (latin_upper hcs c ?_))
  rw [heq]
  exact List.mem_append_right _ (List.mem_of_mem_head? hc)

/-- `UTC` and `GMT` on their own are not cut. -/
theorem not_cuts_of_universal (hcs : cs.flatMap upperChar = ['U', 'T', 'C'] ∨
    cs.flatMap upperChar = ['G', 'M', 'T']) : ¬Cuts cs := by
  rintro ⟨head, rest, hhead, heq, c, hc, -⟩
  obtain rfl : ([] : List Char) = rest := by
    rcases hcs with hcs | hcs
    · exact rest_unique (.inl rfl) hhead (by rw [List.append_nil, ← hcs, heq])
    · exact rest_unique (.inr rfl) hhead (by rw [List.append_nil, ← hcs, heq])
  cases hc

/-- What goes on with a slash is cut where it is cut before the slash. -/
theorem cuts_append_iff (hmore : ∀ c ∈ more.head?, c = '/')
    (hcs : cs.flatMap upperChar ≠ ['U', 'T', 'C'] ∧ cs.flatMap upperChar ≠ ['G', 'M', 'T']) :
    Cuts (cs ++ more) ↔ Cuts cs := by
  have hslash : ∀ d ∈ (more.flatMap upperChar).head?, d = '/' := by
    intro d hd
    cases more with
    | nil => cases hd
    | cons c more =>
      obtain rfl := hmore c rfl
      cases hd
      rfl
  constructor
  · rintro ⟨head, rest, hhead, heq, hwide⟩
    rw [List.flatMap_append] at heq
    rcases List.append_eq_append_iff.1 heq with ⟨part, hpart, htail⟩ | ⟨part, hpart, htail⟩
    · -- The name begins with `UTC` only together with the slash.
      cases part with
      | nil =>
        rw [List.append_nil] at hpart
        rcases hhead with rfl | rfl
        · exact absurd hpart.symm hcs.1
        · exact absurd hpart.symm hcs.2
      | cons d part =>
        obtain rfl := hslash d (by rw [htail]; rfl)
        have hmem : '/' ∈ head := hpart ▸ List.mem_append_right _ List.mem_cons_self
        rcases hhead with rfl | rfl <;> exact absurd hmem (by decide)
    · cases part with
      | nil =>
        rw [List.append_nil] at hpart
        rcases hhead with rfl | rfl
        · exact absurd hpart hcs.1
        · exact absurd hpart hcs.2
      | cons d part =>
        obtain ⟨c, hc, hwide⟩ := hwide
        rw [htail] at hc
        exact ⟨head, _, hhead, hpart, c, hc, hwide⟩
  · rintro ⟨head, rest, hhead, heq, c, hc, hwide⟩
    refine ⟨head, rest ++ more.flatMap upperChar, hhead, ?_, c, ?_, hwide⟩
    · rw [List.flatMap_append, heq, List.append_assoc]
    · rw [List.head?_append, hc]
      rfl

/-- A number without a second sign, and without minutes, does not overflow. -/
theorem not_overflows_of_number {c : Char} (hdigit : ∀ d ∈ cs.head?, d.isDigit = true)
    (hcolon : ':' ∉ cs) : ¬Overflows (c :: cs) := by
  rintro ⟨sign, h, m, hshift, -, -, hbounds, hroom⟩
  cases hshift with
  | signed hc hspell =>
    cases hspell with
    | minutes _ _ => exact hcolon (List.mem_append_right _ List.mem_cons_self)
    | hours hh =>
      cases hh with
      | plain hn =>
        have hshift : Shift Digits (c :: cs) sign _ 0 := .signed hc (.hours ⟨_, hn, rfl⟩)
        exact hroom (hshift.room hbounds)
      | signed hsign _ =>
        have := hdigit _ rfl
        cases hsign <;> exact absurd this (by decide)

/-! ## Names of regions and cities -/

/-- The names of regions are written in Latin letters. -/
theorem regions_spec : (∀ e ∈ regions, ∀ c ∈ Denomination.letters e.name, c.toNat < 128) ∧
    ∀ e ∈ Data.aliases, ∀ c ∈ Denomination.letters e.1, c.toNat < 128 := by
  have hregions : (regions.all fun e =>
      (Denomination.letters e.name).all (Nat.blt ·.toNat 128)) = true := by
    decide +kernel
  have haliases : (Data.aliases.all fun e =>
      (Denomination.letters e.1).all (Nat.blt ·.toNat 128)) = true := by
    decide +kernel
  simp only [List.all_eq_true, Nat.blt_eq] at hregions haliases
  exact ⟨hregions, haliases⟩

theorem latin_of_ofRegion? {z : Zone} (h : ofRegion? name = some z) :
    ∀ c ∈ name.toList, c.toNat < 128 := by
  obtain ⟨table, htable, -⟩ := Option.map_eq_some_iff.1 h
  obtain ⟨e, he, -⟩ := Option.map_eq_some_iff.1 htable
  have hname : e.name = mainName name := by simpa using List.find?_some he
  rw [mainName] at hname
  rw [← Denomination.letters_eq]
  cases halias : Data.aliases.lookup name with
  | none =>
    rw [halias, Option.getD_none] at hname
    exact hname ▸ regions_spec.1 e (List.mem_of_find?_eq_some he)
  | some main =>
    obtain ⟨front, back, heq, -⟩ := List.lookup_eq_some_iff.1 halias
    exact regions_spec.2 (name, main) (by simp [heq])

theorem Shift.no_slash (h : Shift Integer cs sign n m) : '/' ∉ cs := by
  have hgroup {ds : List Char} {k : Int} (hds : Integer ds k) : '/' ∉ ds := by
    cases hds with
    | plain hn => exact not_mem_of_isDigit hn.isDigit rfl
    | signed hc hn =>
      rw [List.mem_cons, not_or]
      exact ⟨by cases hc <;> decide, not_mem_of_isDigit hn.isDigit rfl⟩
  cases h with
  | none => exact List.not_mem_nil
  | signed hc hspell =>
    have hcs : ∀ {ds : List Char}, Spell Integer ds n m → '/' ∉ ds := by
      intro ds hds
      cases hds with
      | hours hh => exact hgroup hh
      | minutes hh hm =>
        rw [List.mem_append, List.mem_cons, not_or, not_or]
        exact ⟨hgroup hh, by decide, hgroup hm⟩
    rw [List.mem_cons, not_or]
    exact ⟨by cases hc <;> decide, hcs hspell⟩

theorem regionName?_of_slash (hslash : '/' ∈ name.toList) : regionName? name = none := by
  have habbreviation : abbreviations.lookup name = none :=
    Denomination.lookup_eq_none fun e he heq =>
      Denomination.tables_spec.abbreviation e he <| by
        rw [Denomination.letters_eq, ← heq]
        exact hslash
  have hcity : cities.lookup (cityKey name) = none := by
    refine Denomination.lookup_eq_none fun e he heq => (Denomination.tables_spec.city e he).1 ?_
    rw [Denomination.letters_eq, ← heq, cityKey, String.toList_ofList, List.mem_map, toLower,
      String.toList_ofList]
    exact ⟨'/', Denomination.mem_lowerFrom_slash hslash, rfl⟩
  unfold regionName?
  rw [habbreviation]
  exact hcity

/-- What has a slash in it is the name of a region, if it is one of a zone. -/
theorem latin_of_parse? (htrim : trimChars name.toList = name.toList) (hslash : '/' ∈ name.toList)
    (h : (parse? name).isSome) : ∀ c ∈ name.toList, c.toNat < 128 := by
  obtain ⟨z, hz⟩ := Option.isSome_iff_exists.1 h
  have hname : trim name = name := by rw [trim, htrim, String.ofList_toList]
  rcases parse?_eq_some hz with ⟨seconds, hoffset, -⟩ | hregion
  · rw [hname] at hoffset
    rcases parseOffset_cases name with ⟨head, rest, hhead, heq, hread⟩ | ⟨-, hread⟩
    · rw [hread, readOffset_eq_some_iff] at hoffset
      obtain ⟨⟨sign, h, m, hshift, -⟩, -⟩ := hoffset
      refine absurd ?_ hshift.no_slash
      have hmem : '/' ∈ head ++ rest := heq ▸ List.mem_flatMap.2 ⟨'/', hslash, by decide⟩
      refine (List.mem_append.1 hmem).resolve_left ?_
      rcases hhead with rfl | rfl <;> decide
    · rw [hread] at hoffset
      cases hoffset
  · rw [hname, ofName?, regionName?_of_slash hslash] at hregion
    dsimp only at hregion
    split at hregion
    · exact latin_of_ofRegion? hregion
    · cases hregion

/-- No city has a second word that begins like universal time. -/
theorem secondWords_spec : ∀ e ∈ cities,
    ¬[' ', 'u'] <:+: Denomination.letters e.1 ∧ ¬[' ', 'g'] <:+: Denomination.letters e.1 := by
  decide

theorem not_cuts_of_isTwoWordCity {first second : String}
    (h : isTwoWordCity first second = true) : ¬Cuts first.toList ∧ ¬Cuts second.toList := by
  obtain ⟨region, -, hmem⟩ := lookup_isSome h
  constructor
  · intro hcuts
    have hread : parseOffset (first ++ "") = .ok none := parseOffset_of_city hmem nofun
    rw [String.append_empty] at hread
    rw [← parseOffset_eq_boundary_iff, hread] at hcuts
    cases hcuts
  · rintro ⟨head, rest, hhead, heq, -⟩
    obtain ⟨hu, hg⟩ := secondWords_spec _ hmem
    simp only [Denomination.letters_eq, String.toList_append] at hu hg
    have hlower {d : Char} {ds : List Char} (hupper : second.toList.flatMap upperChar = d :: ds)
        (hd : d = 'U' ∨ d = 'G') :
        [' ', d.toLower] <:+: (toLower first).toList ++ " ".toList ++ (toLower second).toList := by
      have hhead : (lowerFrom [] second.toList).head? = some d.toLower := head?_lowerFrom hupper hd
      obtain ⟨tail, htail⟩ : ∃ tail, lowerFrom [] second.toList = d.toLower :: tail := by
        cases hcs : lowerFrom [] second.toList with
        | nil =>
          rw [hcs] at hhead
          cases hhead
        | cons d' tail =>
          rw [hcs] at hhead
          cases hhead
          exact ⟨tail, rfl⟩
      refine ⟨(toLower first).toList, tail, ?_⟩
      rw [toLower, toLower, String.toList_ofList, htail]
      simp
    rcases hhead with rfl | rfl
    · exact hu (hlower heq (.inl rfl))
    · exact hg (hlower heq (.inr rfl))

end Zone

/-! ## Pieces that are glued -/

namespace Shape

variable {cs : List Char} {c : Char} {n : Nat}

/-- An amount begins with a digit, and is made of the characters of numbers or those of times. -/
theorem amount_of_scan {shape : Shape} (h : scan c cs = (some shape, n))
    (hshape : shape = .number ∨ shape = .time) : c.isDigit = true ∧
      ((∀ d ∈ (c :: cs).take n, isNumeric d = true) ∨
        ∀ d ∈ (c :: cs).take n, isStamp d = true) := by
  cases scans_of_scan h with
  | number hc => exact ⟨hc, .inl (numberLength_spec _).2⟩
  | time hc => exact ⟨hc, .inr (isStamp_of_scan h (.inr (.inr rfl)))⟩
  | dayTime | day | word | quoted | currencySign | mark => simp at hshape

end Shape

namespace Piece

variable {p : Piece}

theorem Scanned.text_of_mark {m : Mark} (hp : p.Scanned) (hshape : p.shape = .mark m)
    (hm : m = .slash ∨ m = .plus ∨ m = .minus) :
    ∃ c, p.text = [c] ∧ Shape.singleMark? c = some m := by
  obtain ⟨c, cs, n, hscan, htext⟩ := hp
  rw [hshape] at hscan
  obtain ⟨hsingle, rfl⟩ := Shape.singleMark?_of_scan hm hscan
  exact ⟨c, htext, hsingle⟩

theorem Scanned.text_of_slash (hp : p.Scanned) (hshape : p.shape = .mark .slash) :
    p.text = ['/'] := by
  obtain ⟨c, htext, hsingle⟩ := hp.text_of_mark hshape (.inl rfl)
  rw [htext, Shape.eq_slash_of_singleMark? hsingle]

/-- A word is made of letters, numbers and underscores. -/
theorem Scanned.isWordPart (hp : p.Scanned) (hword : p.shape = .word) :
    ∀ c ∈ p.text, Text.isWordPart c = true := by
  obtain ⟨c, cs, n, hscan, htext⟩ := hp
  rw [hword] at hscan
  rw [htext]
  exact Shape.isWordPart_of_scan hscan

end Piece

namespace Token

open Zone (Cuts)

variable {p : Piece} {following : List Piece} {found : String} {taken : Nat} {e : Panic}

/-- What the names of regions are made of. -/
def IsNameChar (c : Char) : Prop := Text.isWordPart c = true ∨ c = '/'

theorem IsNameChar.not_blank {c : Char} (h : IsNameChar c) : Text.isBlank c = false := by
  rcases h with h | rfl
  · exact Text.isBlank_eq_false_of_isWordPart h
  · decide

/-- Words and slashes panic in one way only. -/
theorem parse_eq_error_iff_of_nameChars {text : List Char} (h : ∀ c ∈ text, IsNameChar c) :
    Zone.parse (String.ofList text) = .error e ↔ e = .boundary ∧ Cuts text := by
  have hsign {d : Char} (hd : Text.isWordPart d = false) (hslash : d ≠ '/') : d ∉ text :=
    fun hmem => (h d hmem).elim (fun hpart => by simp [hd] at hpart) hslash
  rw [Zone.parse_eq_error_iff_cuts, String.toList_ofList]
  · rw [String.toList_ofList]
    exact Text.trimChars_of_not_blank fun c hc => (h c hc).not_blank
  · rw [String.toList_ofList]
    exact ⟨hsign (by decide) (by decide), hsign (by decide) (by decide)⟩

/-- The names of regions that are looked up go on with a slash and more words. -/
theorem exists_of_mem_regionLookups {text : List Char} {stop : Nat} {name : String}
    (hfollowing : ∀ q ∈ following, q.Scanned) (h : name ∈ regionLookups text stop following) :
    ∃ more, name.toList = text ++ '/' :: more ∧ ∀ c ∈ more, IsNameChar c := by
  fun_induction regionLookups text stop following with
  | case1 text stop slash part rest hglue candidate ih =>
    simp only [Bool.and_eq_true, beq_iff_eq] at hglue
    obtain ⟨⟨⟨hslash, hword⟩, -⟩, -⟩ := hglue
    obtain ⟨hslash', hpart', hrest⟩ : slash.Scanned ∧ part.Scanned ∧ ∀ q ∈ rest, q.Scanned := by
      simpa using hfollowing
    have hcandidate : candidate = text ++ '/' :: part.text := by
      show text ++ slash.text ++ part.text = _
      rw [hslash'.text_of_slash hslash]
      simp
    have hparts : ∀ c ∈ part.text, IsNameChar c := fun c hc => .inl (hpart'.isWordPart hword c hc)
    rcases List.mem_cons.1 h with rfl | h
    · exact ⟨part.text, by rw [String.toList_ofList, hcandidate], hparts⟩
    · obtain ⟨more, hname, hmore⟩ := ih hrest h
      refine ⟨part.text ++ '/' :: more, by rw [hname, hcandidate]; simp, fun c hc => ?_⟩
      rcases List.mem_append.1 hc with hc | hc
      · exact hparts c hc
      · rcases List.mem_cons.1 hc with rfl | hc
        · exact .inr rfl
        · exact hmore c hc
  | case2 => cases h
  | case3 => cases h

/-- A region that is found has been looked up. -/
theorem mem_regionLookups_of_glueRegion? {text : List Char} {stop k : Nat}
    {best : Option (String × Nat)}
    (h : glueRegion? text stop k best following = some (found, taken)) :
    best = some (found, taken) ∨ found ∈ regionLookups text stop following := by
  fun_induction glueRegion? text stop k best following with
  | case1 text stop k best slash part rest hglue candidate longer ih =>
    rw [regionLookups, if_pos hglue]
    rcases ih h with hlonger | hfound
    · dsimp only [longer] at hlonger
      split at hlonger
      · cases hlonger
        exact .inr List.mem_cons_self
      · exact .inl hlonger
    · exact .inr (List.mem_cons_of_mem _ hfound)
  | case2 => exact .inl h
  | case3 => exact .inl h

theorem eq_of_glueCity? (h : glueCity? p following = some (found, taken)) :
    ∃ next rest, following = next :: rest ∧ taken = 1 ∧
      Zone.isTwoWordCity (String.ofList p.text) (String.ofList next.text) = true := by
  unfold glueCity? at h
  dsimp only at h
  split at h
  · split at h
    · rename_i next rest
      split at h
      · rename_i hcity
        cases h
        exact ⟨next, rest, rfl, rfl, (Bool.and_eq_true_iff.1 hcity).2⟩
      · cases h
    · cases h
  · cases h

theorem isUniversal_iff {text : List Char} : isUniversal (String.ofList text) = true ↔
    text.flatMap Text.upperChar = ['U', 'T', 'C'] ∨
      text.flatMap Text.upperChar = ['G', 'M', 'T'] := by
  have heq (s : String) : Text.toUpper (String.ofList text) = s ↔
      text.flatMap Text.upperChar = s.toList := by
    rw [← String.toList_inj, Text.toUpper, String.toList_ofList, String.toList_ofList]
  rw [isUniversal, Bool.or_eq_true, beq_iff_eq, beq_iff_eq, heq, heq]
  exact Iff.rfl

/-- Whether a piece is an amount, by its characters. -/
theorem amount_chars (hp : p.Scanned) (hshape : p.shape = .number ∨ p.shape = .time) :
    (∀ c ∈ p.text.head?, c.isDigit = true) ∧
      ((∀ c ∈ p.text, Shape.isNumeric c = true) ∨ ∀ c ∈ p.text, Shape.isStamp c = true) := by
  obtain ⟨d, cs, n, hscan, htext⟩ := hp
  obtain ⟨hdigit, hchars⟩ := Shape.amount_of_scan hscan hshape
  rw [← htext] at hchars
  refine ⟨fun c hc => ?_, hchars⟩
  cases n with
  | zero =>
    rw [htext] at hc
    cases hc
  | succ n =>
    rw [htext] at hc
    cases hc
    exact hdigit

/-- The amount of an offset has room in a word, whatever stands in front of it. -/
theorem not_overflows_of_amount (hp : p.Scanned) (hshape : p.shape = .number ∨ p.shape = .time)
    (c : Char) : ¬Zone.Overflows (c :: p.text.flatMap Text.upperChar) := by
  obtain ⟨hdigit, hchars⟩ := amount_chars hp hshape
  have hmark {x : Char} {q : Char → Bool} (hq : ∀ c ∈ p.text, q c = true)
      (hx : x ∈ ['+', '-', '/', ':']) (hother : q x = false) :
      x ∉ p.text.flatMap Text.upperChar := fun hmem => by
    have := hq x (Text.mem_of_mem_upper hmem hx)
    rw [hother] at this
    cases this
  rcases hchars with hnumeric | hstamp
  · refine Zone.not_overflows_of_number (fun d hd => ?_) (hmark hnumeric (by decide) (by decide))
    cases htext : p.text with
    | nil =>
      rw [htext] at hd
      cases hd
    | cons d' cs =>
      rw [htext] at hd
      exact Text.head?_upper_digit (hdigit d' (by rw [htext]; rfl)) d hd
  · exact Zone.not_overflows_of_unsigned
      ⟨hmark hstamp (by decide) (by decide), hmark hstamp (by decide) (by decide)⟩

theorem not_blank_of_amount (hp : p.Scanned) (hshape : p.shape = .number ∨ p.shape = .time) :
    ∀ c ∈ p.text, Text.isBlank c = false := by
  rcases (amount_chars hp hshape).2 with hchars | hchars
  · exact fun c hc => Text.isBlank_eq_false_of (by decide) (hchars c hc)
  · exact fun c hc => Text.isBlank_eq_false_of (by decide +kernel) (hchars c hc)

theorem signs_of_mark {sign : Piece} (hsign : sign.Scanned)
    (hmark : sign.shape = .mark .plus ∨ sign.shape = .mark .minus) :
    ∃ c k, sign.text = [c] ∧ Text.Signs c k := by
  rcases hmark with hmark | hmark
  · obtain ⟨c, htext, hsingle⟩ := hsign.text_of_mark hmark (.inr (.inl rfl))
    refine ⟨c, 1, htext, ?_⟩
    unfold Shape.singleMark? at hsingle
    split at hsingle
    all_goals first | exact .plus | cases hsingle
  · obtain ⟨c, htext, hsingle⟩ := hsign.text_of_mark hmark (.inr (.inr rfl))
    refine ⟨c, -1, htext, ?_⟩
    unfold Shape.singleMark? at hsingle
    split at hsingle
    all_goals first | exact .minus | cases hsingle

/-- The name of an offset that is looked up goes on with a sign and an amount. -/
theorem exists_of_mem_offsetLookups {name : String} (hfollowing : ∀ q ∈ following, q.Scanned)
    (h : name ∈ offsetLookups p following) :
    ∃ c k, ∃ amount : Piece, Text.Signs c k ∧ amount.Scanned ∧
      (amount.shape = .number ∨ amount.shape = .time) ∧
      name.toList = p.text ++ c :: amount.text := by
  unfold offsetLookups at h
  split at h
  · rename_i sign amount rest
    obtain ⟨hsign, hamount, -⟩ : sign.Scanned ∧ amount.Scanned ∧ ∀ q ∈ rest, q.Scanned := by
      simpa using hfollowing
    split at h
    · rename_i hglue
      obtain rfl := List.mem_singleton.1 h
      simp only [Bool.and_eq_true, Bool.or_eq_true, beq_iff_eq] at hglue
      obtain ⟨⟨⟨hmark, hshape⟩, -⟩, -⟩ := hglue
      obtain ⟨c, k, htext, hc⟩ := signs_of_mark hsign hmark
      refine ⟨c, k, amount, hc, hamount, ?_, by simp [htext]⟩
      unfold isOffsetAmount at hshape
      split at hshape
      · rename_i heq
        exact .inl heq
      · rename_i heq
        exact .inr heq
      · cases hshape
    · cases h
  · cases h

/-- The name of an offset is looked up without a panic. -/
theorem parse_ne_error_of_mem_offsetLookups {name : String} (hp : p.Scanned)
    (hword : p.shape = .word) (huniversal : isUniversal (String.ofList p.text) = true)
    (hfollowing : ∀ q ∈ following, q.Scanned) (h : name ∈ offsetLookups p following) :
    Zone.parse name ≠ .error e := by
  obtain ⟨c, k, amount, hc, hamount, hshape, hname⟩ := exists_of_mem_offsetLookups hfollowing h
  have htrim : Text.trim name = name := by
    rw [Text.trim, Text.trimChars_of_not_blank, String.ofList_toList]
    rw [hname]
    refine List.forall_mem_append.2 ⟨hp.isBlank_eq_false hword, List.forall_mem_cons.2 ⟨?_,
      not_blank_of_amount hamount hshape⟩⟩
    cases hc <;> decide
  have hupper : (Text.toUpper name).toList =
      p.text.flatMap Text.upperChar ++ c :: amount.text.flatMap Text.upperChar := by
    rw [Text.toUpper, String.toList_ofList, hname, List.flatMap_append, List.flatMap_cons]
    cases hc <;> rfl
  rw [Ne, Zone.parse_eq_error_iff, htrim,
    Zone.parseOffset_of_head hupper (isUniversal_iff.1 huniversal)]
  cases e with
  | boundary =>
    rw [Zone.readOffset_eq_boundary_iff]
    exact Zone.not_beginsWide_of_signs hc
  | overflow =>
    rw [Zone.readOffset_eq_overflow_iff]
    exact not_overflows_of_amount hamount hshape c

/-- A word that is cut is glued into the name of a region only. -/
theorem mem_regionLookups_of_cuts (huniversal : ¬isUniversal (String.ofList p.text) = true)
    (hcuts : Cuts p.text) (h : glueZone? p following = some (found, taken)) :
    found ∈ regionLookups p.text p.stop following := by
  unfold glueZone? at h
  split at h
  · rename_i hoffset
    unfold glueOffset? at hoffset
    rw [if_neg huniversal] at hoffset
    cases hoffset
  split at h
  · rename_i hfound
    cases h
    exact (mem_regionLookups_of_glueRegion? hfound).resolve_left nofun
  · obtain ⟨next, rest, -, -, hcity⟩ := eq_of_glueCity? h
    have hfirst := (Zone.not_cuts_of_isTwoWordCity hcity).1
    rw [String.toList_ofList] at hfirst
    exact absurd hcuts hfirst

/-- Looking up the names at a word panics as the word alone does. -/
theorem lookupsAt_panic (hp : p.Scanned) (hword : p.shape = .word)
    (hfollowing : ∀ q ∈ following, q.Scanned) :
    (∃ name ∈ lookupsAt p following, Zone.parse name = .error e) ↔ e = .boundary ∧ Cuts p.text := by
  have hparts : ∀ c ∈ p.text, IsNameChar c := fun c hc => .inl (hp.isWordPart hword c hc)
  unfold lookupsAt
  dsimp only
  by_cases huniversal : isUniversal (String.ofList p.text) = true
  · rw [if_pos huniversal]
    refine iff_of_false ?_ fun ⟨_, hcuts⟩ =>
      Zone.not_cuts_of_universal (isUniversal_iff.1 huniversal) hcuts
    rintro ⟨name, hname, hpanic⟩
    exact parse_ne_error_of_mem_offsetLookups hp hword huniversal hfollowing hname hpanic
  rw [if_neg huniversal]
  have hother := not_or.1 (mt isUniversal_iff.2 huniversal)
  have hregion {name : String} (hname : name ∈ regionLookups p.text p.stop following) :
      Zone.parse name = .error e ↔ e = .boundary ∧ Cuts p.text := by
    obtain ⟨more, heq, hmore⟩ := exists_of_mem_regionLookups hfollowing hname
    have hchars : ∀ c ∈ p.text ++ '/' :: more, IsNameChar c := by
      intro c hc
      rcases List.mem_append.1 hc with hc | hc
      · exact hparts c hc
      · exact (List.mem_cons.1 hc).elim .inr (hmore c)
    rw [← String.ofList_toList (s := name), heq, parse_eq_error_iff_of_nameChars hchars,
      Zone.cuts_append_iff (by simp) hother]
  constructor
  · rintro ⟨name, hname, hpanic⟩
    rcases List.mem_append.1 hname with hname | hname
    · exact (hregion hname).1 hpanic
    · split at hname
      · cases hname
      · obtain rfl := List.mem_singleton.1 hname
        exact (parse_eq_error_iff_of_nameChars hparts).1 hpanic
  · rintro ⟨rfl, hcuts⟩
    cases hglue : glueZone? p following with
    | none =>
      refine ⟨String.ofList p.text, by simp, ?_⟩
      exact (parse_eq_error_iff_of_nameChars hparts).2 ⟨rfl, hcuts⟩
    | some x =>
      have hfound := mem_regionLookups_of_cuts huniversal hcuts hglue
      exact ⟨x.1, List.mem_append_left _ hfound, (hregion hfound).2 ⟨rfl, hcuts⟩⟩

/-! ## Words that are passed over -/

/-- What is glued to a word into the name of a region. -/
theorem text_of_glueRegion? {text : List Char} {stop k : Nat} {best : Option (String × Nat)}
    (h : glueRegion? text stop k best following = some (found, taken)) :
    best = some (found, taken) ∨ k ≤ taken ∧
      found.toList = text ++ (following.take (taken - k)).flatMap (·.text) := by
  fun_induction glueRegion? text stop k best following with
  | case1 text stop k best slash part rest hglue candidate longer ih =>
    rcases ih h with hlonger | ⟨hle, hfound⟩
    · dsimp only [longer] at hlonger
      split at hlonger
      · cases hlonger
        refine .inr ⟨by omega, ?_⟩
        rw [String.toList_ofList, Nat.add_sub_cancel_left]
        simp [candidate]
      · exact .inl hlonger
    · refine .inr ⟨by omega, ?_⟩
      obtain ⟨j, rfl⟩ := Nat.exists_eq_add_of_le hle
      rw [hfound, Nat.add_sub_cancel_left, show k + 2 + j - k = j + 1 + 1 by omega]
      simp [candidate]
  | case2 => exact .inl h
  | case3 => exact .inl h

/-- What is glued to `UTC` is no word. -/
theorem shape_ne_word_of_glueOffset? (h : glueOffset? p following = some (found, taken)) :
    ∀ q ∈ following.take taken, q.shape ≠ .word := by
  unfold glueOffset? at h
  split at h
  · split at h
    · dsimp only at h
      split at h
      · rename_i hglue
        simp only [Bool.and_eq_true, Bool.or_eq_true, beq_iff_eq] at hglue
        obtain ⟨⟨⟨⟨hmark, hshape⟩, -⟩, -⟩, -⟩ := hglue
        cases h
        simp only [List.take_succ_cons, List.take_zero, List.forall_mem_cons]
        refine ⟨?_, ?_, nofun⟩
        · rcases hmark with hmark | hmark <;> simp [hmark]
        · intro hword
          rw [hword] at hshape
          cases hshape
      · cases h
        nofun
    · cases h
      nofun
  · cases h

/-- No word that is glued to another is cut. -/
theorem not_cuts_of_glueZone? (hp : p.Scanned) (hword : p.shape = .word)
    (hfollowing : ∀ q ∈ following, q.Scanned) (h : glueZone? p following = some (found, taken)) :
    ∀ q ∈ following.take taken, q.shape = .word → ¬Cuts q.text := by
  have hzone := isSome_parse?_of_glueZone? hp hword hfollowing h
  unfold glueZone? at h
  split at h
  · rename_i hoffset
    exact fun q hq hqword => absurd hqword (shape_ne_word_of_glueOffset? (hoffset.trans h) q hq)
  split at h
  · rename_i hregion
    cases h
    have hlooked := (mem_regionLookups_of_glueRegion? hregion).resolve_left nofun
    obtain ⟨more, hname, hmore⟩ := exists_of_mem_regionLookups hfollowing hlooked
    have hchars : ∀ c ∈ found.toList, IsNameChar c := by
      rw [hname]
      refine List.forall_mem_append.2 ⟨fun c hc => .inl (hp.isWordPart hword c hc), ?_⟩
      exact List.forall_mem_cons.2 ⟨.inr rfl, hmore⟩
    have htrim : Text.trimChars found.toList = found.toList :=
      Text.trimChars_of_not_blank fun c hc => (hchars c hc).not_blank
    have hlatin := Zone.latin_of_parse? htrim (by rw [hname]; simp) hzone
    obtain ⟨-, htext⟩ := (text_of_glueRegion? hregion).resolve_left nofun
    intro q hq _
    refine Zone.not_cuts_of_latin fun c hc => hlatin c ?_
    rw [htext]
    exact List.mem_append_right _ (List.mem_flatMap.2 ⟨q, hq, hc⟩)
  · obtain ⟨next, rest, rfl, rfl, hcity⟩ := eq_of_glueCity? h
    have hsecond := (Zone.not_cuts_of_isTwoWordCity hcity).2
    rw [String.toList_ofList] at hsecond
    simpa using fun _ => hsecond

/-! ## Whole sources -/

/-- A word of the text begins like universal time and goes on with a character longer than a
byte. -/
def CutsWord (ps : List Piece) : Prop := ∃ p ∈ ps, p.shape = .word ∧ Cuts p.text

theorem cutsWord_cons {ps : List Piece} (hword : p.shape = .word) :
    CutsWord (p :: ps) ↔ Cuts p.text ∨ CutsWord ps := by
  simp [CutsWord, hword]

theorem cutsWord_cons_of_ne {ps : List Piece} (hshape : p.shape ≠ .word) :
    CutsWord (p :: ps) ↔ CutsWord ps := by
  simp [CutsWord, hshape]

/-- The words that are passed over do not matter. -/
theorem cutsWord_drop_iff {ps : List Piece} {n : Nat}
    (h : ∀ q ∈ ps.take n, q.shape = .word → ¬Cuts q.text) :
    CutsWord (ps.drop n) ↔ CutsWord ps := by
  constructor
  · rintro ⟨q, hq, hcuts⟩
    exact ⟨q, List.mem_of_mem_drop hq, hcuts⟩
  · rintro ⟨q, hq, hword, hcuts⟩
    rw [← List.take_append_drop n ps, List.mem_append] at hq
    exact ⟨q, hq.resolve_left fun hq => h q hq hword hcuts, hword, hcuts⟩

theorem exists_mem_append_iff {names more : List String} :
    (∃ name ∈ names ++ more, Zone.parse name = .error e) ↔
      (∃ name ∈ names, Zone.parse name = .error e) ∨ ∃ name ∈ more, Zone.parse name = .error e := by
  simp only [List.mem_append, or_and_right, exists_or]

/-- Looking up the names in a list of pieces panics where a word is cut, if nothing that is read on
its own panics. -/
theorem lookups_panic {broken : Piece → List String} {ps : List Piece}
    (hps : ∀ p ∈ ps, p.Scanned)
    (hbroken : ∀ p ∈ ps, p.shape = .dayTime → ¬∃ name ∈ broken p, Zone.parse name = .error e)
    (skip : Nat) :
    (∃ name ∈ lookups broken skip ps, Zone.parse name = .error e) ↔
      e = .boundary ∧ CutsWord (ps.drop skip) := by
  induction ps generalizing skip with
  | nil =>
    refine iff_of_false ?_ ?_
    · rintro ⟨name, hname, -⟩
      cases skip <;> cases hname
    · rintro ⟨-, p, hp, -⟩
      simp at hp
  | cons p ps ih =>
    obtain ⟨hp, hps⟩ := List.forall_mem_cons.1 hps
    obtain ⟨hone, hbroken⟩ := List.forall_mem_cons.1 hbroken
    have ih := ih hps hbroken
    cases skip with
    | succ skip => exact ih skip
    | zero =>
      have hrest := ih 0
      rw [List.drop_zero] at hrest ⊢
      rw [lookups.eq_def]
      dsimp only
      split
      · rename_i hword
        have hpassed : CutsWord (ps.drop ((glueZone? p ps).elim 0 (·.2))) ↔ CutsWord ps := by
          refine cutsWord_drop_iff ?_
          cases hglue : glueZone? p ps with
          | none => nofun
          | some x => exact not_cuts_of_glueZone? hp hword hps hglue
        rw [exists_mem_append_iff, lookupsAt_panic hp hword hps, ih, hpassed, cutsWord_cons hword,
          and_or_left]
      · rename_i hshape
        rw [cutsWord_cons_of_ne (by simp [hshape])]
        split
        · split
          · exact hrest
          · rw [exists_mem_append_iff, hrest, or_iff_right (hone hshape)]
        · exact hrest
      · rename_i hshape _
        rw [cutsWord_cons_of_ne hshape]
        exact hrest

theorem latin_of_isStamp {c : Char} (h : Shape.isStamp c = true) : c.toNat < 128 := by
  have hsize := utf8Size_of_isStamp h
  rw [Char.utf8Size_eq_one_iff, UInt32.le_iff_toNat_le, Char.toNat_val] at hsize
  exact Nat.lt_succ_of_le hsize

/-- A day with a time is written in Latin letters. -/
theorem brokenLookups_panic (hp : p.Scanned) (hshape : p.shape = .dayTime) :
    ¬∃ name ∈ brokenLookups p, Zone.parse name = .error e := by
  have hstamp : ∀ c ∈ p.text, Shape.isStamp c = true := by
    obtain ⟨c, cs, n, hscan, hcut⟩ := hp
    exact hcut ▸ Shape.isStamp_of_scan hscan (.inl hshape)
  unfold brokenLookups
  dsimp only
  rw [lookups_panic (fun q hq => Piece.scanned_of_mem hq)
    (fun _ _ _ => fun ⟨_, hname, _⟩ => by cases hname)]
  rintro ⟨-, q, hq, -, hcuts⟩
  obtain ⟨c, rest, n, hsuffix, -, htext⟩ := Piece.exists_scan_of_mem hq
  refine Zone.not_cuts_of_latin (fun d hd => latin_of_isStamp (hstamp d ?_)) hcuts
  rw [htext] at hd
  exact List.mem_of_mem_drop (hsuffix.mem (List.mem_of_mem_take hd))

theorem lookUpAll_cases (names : List String) :
    (∃ e, lookUpAll names = .error e ∧ ∃ name ∈ names, Zone.parse name = .error e) ∨
      lookUpAll names = .ok () ∧ ∀ name ∈ names, ∀ e, Zone.parse name ≠ .error e := by
  induction names with
  | nil => exact .inr ⟨rfl, nofun⟩
  | cons name names ih =>
    rw [lookUpAll]
    dsimp only [bind, Except.bind]
    cases hparse : Zone.parse name with
    | error e => exact .inl ⟨e, rfl, name, List.mem_cons_self, hparse⟩
    | ok zone =>
      rcases ih with ⟨e, heq, name', hname', hpanic⟩ | ⟨heq, hnone⟩
      · exact .inl ⟨e, heq, name', List.mem_cons_of_mem _ hname', hpanic⟩
      · refine .inr ⟨heq, List.forall_mem_cons.2 ⟨fun e hpanic => ?_, hnone⟩⟩
        rw [hparse] at hpanic
        cases hpanic

/-- Reading a source panics if a word of it is cut, and else it has tokens. -/
theorem read_eq (source : String) :
    (CutsWord (Piece.split 0 source.toList) → read source = .error .boundary) ∧
      (¬CutsWord (Piece.split 0 source.toList) → read source = .ok (tokenize source)) := by
  have hpanic (e : Panic) :
      (∃ name ∈ lookups brokenLookups 0 (Piece.split 0 source.toList),
        Zone.parse name = .error e) ↔ e = .boundary ∧ CutsWord (Piece.split 0 source.toList) :=
    lookups_panic (fun q hq => Piece.scanned_of_mem hq)
      (fun q hq hshape => brokenLookups_panic (Piece.scanned_of_mem hq) hshape) 0
  unfold read
  dsimp only [bind, Except.bind]
  rcases lookUpAll_cases (lookups brokenLookups 0 (Piece.split 0 source.toList)) with
    ⟨e, heq, hname⟩ | ⟨heq, hnone⟩
  · obtain ⟨rfl, hcuts⟩ := (hpanic e).1 hname
    rw [heq]
    exact ⟨fun _ => rfl, fun h => absurd hcuts h⟩
  · rw [heq]
    refine ⟨fun hcuts => ?_, fun _ => rfl⟩
    obtain ⟨name, hname, hpanic⟩ := (hpanic .boundary).2 ⟨rfl, hcuts⟩
    exact absurd hpanic (hnone name hname .boundary)

/-- Reads the tokens of a text that stands at `offset`. -/
def readAt (text : String) (offset : Nat) : Guarded (List Placed) := do
  return (← read text).map (Grammar.Placed.later offset)

/-- The texts that are met when a source is parsed are the whole source and the code in strings at
any depth.  Reading one of them panics if a word of it begins, in any case, with `UTC` or `GMT` and
a character longer than a byte.  Else it is read: the end is the last token and no other, at the end
of the text; the tokens stand at boundaries of characters in strictly increasing order; and each of
them is faithful to the whole source. -/
theorem relexed_faithful {source text : String} {offset : Nat} (h : Relexed source text offset) :
    (CutsWord (Piece.split 0 text.toList) → readAt text offset = .error .boundary) ∧
    (¬CutsWord (Piece.split 0 text.toList) → ∃ ts, readAt text offset = .ok ts ∧
      (∃ front, ts = front ++ [⟨.finish, offset + text.utf8ByteSize⟩] ∧
        ∀ t ∈ front, t.token ≠ .finish) ∧
      ts.Pairwise (fun t u => t.offset < u.offset) ∧
      ∀ t ∈ ts, Text.Stands source.toList [] t.offset ∧ Faithful source.toList t) := by
  obtain ⟨hpanic, hread⟩ := read_eq text
  refine ⟨fun hcuts => ?_, fun hcuts => ⟨Grammar.tokensAt text offset, ?_, faithful_tokensAt h⟩⟩
  · rw [readAt, hpanic hcuts]
    rfl
  · rw [readAt, hread hcuts]
    rfl

/-- A template with the number in it that is read on its own. -/
theorem relexed_faithful_template :
    Relexed "\x60é $\x7b 1\x7d\x60" " 1" 6 ∧ ¬CutsWord (Piece.split 0 " 1".toList) ∧
      readAt " 1" 6 = .ok [⟨.number "1", 7⟩, ⟨.finish, 8⟩] ∧
      ∀ t ∈ [(⟨.number "1", 7⟩ : Placed), ⟨.finish, 8⟩],
        Text.Stands "\x60é $\x7b 1\x7d\x60".toList [] t.offset ∧
          Faithful "\x60é $\x7b 1\x7d\x60".toList t := by
  have hread : Relexed "\x60é $\x7b 1\x7d\x60" " 1" 6 :=
    .code (t := ⟨.string .template [.text "é ", .code " 1" 6], 0⟩) .whole (by decide) rfl
      (List.mem_cons_of_mem _ List.mem_cons_self)
  have hpieces : Piece.split 0 " 1".toList = [⟨.number, ['1'], 1⟩] := by decide +kernel
  have hplain : ¬CutsWord (Piece.split 0 " 1".toList) := by
    rw [hpieces]
    rintro ⟨p, hp, hword, -⟩
    rw [List.mem_singleton.1 hp] at hword
    cases hword
  have htokens : readAt " 1" 6 = .ok [⟨.number "1", 7⟩, ⟨.finish, 8⟩] := by decide
  obtain ⟨ts, hts, -, -, hfaithful⟩ := (relexed_faithful hread).2 hplain
  rw [htokens] at hts
  cases hts
  exact ⟨hread, hplain, htokens, hfaithful⟩

/-- A word that cuts a character has no tokens, not even the end. -/
theorem word_cut_not_read :
    read "utcé" = .error .boundary ∧ read "1 + utcé" = .error .boundary := by
  decide +kernel

end Token

end Reckoner
