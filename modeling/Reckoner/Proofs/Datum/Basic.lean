import Mathlib.Data.Finset.Card
import Mathlib.Data.List.Forall2
import Reckoner.Proofs.Decimal.Shown
import Reckoner.Proofs.Quantity.Text
import Reckoner.Proofs.Session.Heap
import Reckoner.Proofs.Token.Cut
import Reckoner.Value.Equality

/-!
# Data

A `Datum` is a tree of what can be written as a literal: null, truth values,
numbers, quantities and strings, in arrays and objects.  `Held` says that a value
has the content of a datum in a session, and `Legible` that the datum can be read
back from its text.

* `Held.mono`: a value keeps its content in a later session.
* `Held.height_le`: nothing nests deeper than there are cells, since a cell
  cannot stand in itself.
* `Held.render_eq`: the text of a value depends on its content only.
* `Held.sameTo_eq`: values with the same content are equal.
-/

namespace Reckoner

/-- What can be written as a literal. -/
inductive Datum where
  | null
  | bool (b : Bool)
  | number (x : Decimal)
  | quantity (q : Quantity)
  | string (t : String)
  | array (items : List Datum)
  | object (entries : List (String × Datum))

namespace Datum

/-- Whether a datum is a string, which stands alone without its quotes. -/
def isString : Datum → Bool
  | string _ => true
  | _ => false

/-! ## Text and height -/

mutual

/-- How a datum is written inside arrays and objects. -/
def text : Datum → String
  | null => "null"
  | bool b => if b then "true" else "false"
  | number x => x.shown
  | quantity q => q.render
  | string t => Text.quote t
  | array ds => "[" ++ ", ".intercalate (itemTexts ds) ++ "]"
  | object es => "\x7b" ++ ", ".intercalate (entryTexts es) ++ "\x7d"

/-- The texts of items. -/
def itemTexts : List Datum → List String
  | [] => []
  | d :: ds => d.text :: itemTexts ds

/-- The texts of entries. -/
def entryTexts : List (String × Datum) → List String
  | [] => []
  | (key, d) :: es => (key ++ ": " ++ d.text) :: entryTexts es

end

theorem itemTexts_eq_map (ds : List Datum) : itemTexts ds = ds.map text := by
  induction ds with
  | nil => rfl
  | cons d ds ih => rw [itemTexts, ih, List.map_cons]

theorem entryTexts_eq_map (es : List (String × Datum)) :
    entryTexts es = es.map fun e => e.1 ++ ": " ++ e.2.text := by
  induction es with
  | nil => rfl
  | cons e es ih => rw [entryTexts, ih, List.map_cons]

mutual

/-- How deep arrays and objects nest. -/
def height : Datum → Nat
  | array ds => itemsHeight ds + 1
  | object es => entriesHeight es + 1
  | _ => 0

/-- The greatest height of items. -/
def itemsHeight : List Datum → Nat
  | [] => 0
  | d :: ds => max d.height (itemsHeight ds)

/-- The greatest height of the values of entries. -/
def entriesHeight : List (String × Datum) → Nat
  | [] => 0
  | (_, d) :: es => max d.height (entriesHeight es)

end

theorem entriesHeight_eq (es : List (String × Datum)) :
    entriesHeight es = itemsHeight (es.map Prod.snd) := by
  induction es with
  | nil => rfl
  | cons e es ih => rw [entriesHeight, ih, List.map_cons, itemsHeight]

theorem height_le_itemsHeight {d : Datum} {ds : List Datum} (h : d ∈ ds) :
    d.height ≤ itemsHeight ds := by
  induction ds with
  | nil => cases h
  | cons e ds ih =>
    rw [itemsHeight]
    rcases List.mem_cons.1 h with rfl | h
    · exact Nat.le_max_left _ _
    · exact Nat.le_trans (ih h) (Nat.le_max_right _ _)

theorem itemsHeight_le {n : Nat} {ds : List Datum} (h : ∀ d ∈ ds, d.height ≤ n) :
    itemsHeight ds ≤ n := by
  induction ds with
  | nil => exact Nat.zero_le n
  | cons d ds ih =>
    obtain ⟨hd, hds⟩ := List.forall_mem_cons.1 h
    exact Nat.max_le.2 ⟨hd, ih hds⟩

/-- What stands in an array or an object. -/
def children : Datum → List Datum
  | array ds => ds
  | object es => es.map Prod.snd
  | _ => []

theorem height_lt_of_mem_children {d e : Datum} (h : e ∈ d.children) : e.height < d.height := by
  cases d with
  | array ds => exact Nat.lt_succ_of_le (height_le_itemsHeight h)
  | object es =>
    rw [height, entriesHeight_eq]
    exact Nat.lt_succ_of_le (height_le_itemsHeight h)
  | _ => cases h

theorem height_le_of_children {d : Datum} {n : Nat} (h : ∀ e ∈ d.children, e.height ≤ n) :
    d.height ≤ n + 1 := by
  cases d with
  | array ds => exact Nat.succ_le_succ (itemsHeight_le h)
  | object es =>
    rw [height, entriesHeight_eq]
    exact Nat.succ_le_succ (itemsHeight_le h)
  | _ => exact Nat.zero_le _

/-! ## What can be read back -/

/-- Whether a character stands in quotes as itself or behind a backslash, as
these six do; others are written as a code point. -/
def Quotable (c : Char) : Prop :=
  Text.quoteChar c = [c] ∨ c ∈ ['\\', '"', '\n', '\t', '\r', '\x00']

instance (c : Char) : Decidable (Quotable c) := inferInstanceAs (Decidable (_ ∨ _))

theorem Quotable.ne_codePoint {c : Char} (h : Quotable c) : Text.quoteChar c ≠ Text.codePoint c := by
  rcases h with h | h
  · rw [h, Text.codePoint]
    intro heq
    have htail := (List.cons.inj heq).2
    cases htail
  · have hall : List.all ['\\', '"', '\n', '\t', '\r', '\x00']
        (fun c => Text.quoteChar c ≠ Text.codePoint c) = true := by decide
    exact of_decide_eq_true (List.all_eq_true.1 hall c h)

/-- A quantity that can be read back: it is well formed, its terms stand in
order, its powers fit a word, and it has no more places than are shown. -/
structure LegibleQuantity (q : Quantity) : Prop where
  wellFormed : q.WellFormed
  ordered : Dimensions.Ordered q.dims.terms
  exponent_le : ∀ t ∈ q.dims.terms, t.exponent.natAbs ≤ Text.maxWord
  places_le : q.magnitude.normalize.scale ≤ Decimal.shownPlaces

/-- A datum that can be read back from its text: numbers have no more places
than are shown, strings are quoted without code points, and every key is read as
one token and stands in its object once. -/
inductive Legible : Datum → Prop where
  | null : Legible null
  | bool (b : Bool) : Legible (bool b)
  | number {x : Decimal} (h : x.normalize.scale ≤ Decimal.shownPlaces) : Legible (number x)
  | quantity {q : Quantity} (h : LegibleQuantity q) : Legible (quantity q)
  | string {t : String} (h : ∀ c ∈ t.toList, Quotable c) : Legible (string t)
  | array {ds : List Datum} (h : ∀ d ∈ ds, Legible d) : Legible (array ds)
  | object {es : List (String × Datum)} (hkeys : ∀ e ∈ es, Token.IsKey e.1)
    (hdistinct : (es.map Prod.fst).Nodup) (h : ∀ e ∈ es, Legible e.2) : Legible (object es)

/-! ## Content -/

/-- A value has the content of a datum.  Numbers count by their value, however
many zeros they end in; keys and items stand in the same order. -/
inductive Held (s : Session) : Datum → Value → Prop where
  | null : Held s .null .null
  | bool (b : Bool) : Held s (.bool b) (.bool b)
  | number {x y : Decimal} (h : y.normalize = x.normalize) : Held s (.number x) (.number y)
  | quantity {p q : Quantity} (hmagnitude : q.magnitude.normalize = p.magnitude.normalize)
    (hdims : q.dims = p.dims) : Held s (.quantity p) (.quantity q)
  | string (t : String) : Held s (.string t) (.string t)
  | array {ds : List Datum} {c : Nat} {vs : Array Value}
    (hcell : s.cells[c]? = some (.array vs)) (hlength : vs.toList.length = ds.length)
    (hitems : ∀ d v, (d, v) ∈ ds.zip vs.toList → Held s d v) : Held s (.array ds) (.array c)
  | object {es : List (String × Datum)} {c : Nat} {entries : Entries Value}
    (hcell : s.cells[c]? = some (.object entries)) (hkeys : entries.keys = es.map Prod.fst)
    (hvalues : ∀ d v, (d, v) ∈ (es.map Prod.snd).zip entries.values → Held s d v) :
    Held s (.object es) (.object c)

variable {s t : Session} {d : Datum} {v : Value}

theorem held_array {ds : List Datum} {c : Nat} {vs : Array Value}
    (hcell : s.cells[c]? = some (.array vs)) (h : List.Forall₂ (Held s) ds vs.toList) :
    Held s (.array ds) (.array c) :=
  .array hcell h.length_eq.symm fun _ _ hmem => (List.forall₂_iff_zip.1 h).2 hmem

theorem length_of_keys {es : List (String × Datum)} {entries : Entries Value}
    (h : entries.keys = es.map Prod.fst) : entries.length = es.length := by
  have hlength := congrArg List.length h
  rwa [Entries.keys, List.length_map, List.length_map] at hlength

/-- The same key, and values that belong together by `R`. -/
def Entrywise (R : Datum → Value → Prop) (e : String × Datum) (f : String × Value) : Prop :=
  f.1 = e.1 ∧ R e.2 f.2

theorem forall₂_entries {R : Datum → Value → Prop} {es : List (String × Datum)}
    {entries : Entries Value} (hkeys : entries.keys = es.map Prod.fst)
    (hvalues : ∀ d v, (d, v) ∈ (es.map Prod.snd).zip entries.values → R d v) :
    List.Forall₂ (Entrywise R) es entries := by
  induction es generalizing entries with
  | nil =>
    obtain rfl := List.map_eq_nil_iff.1 hkeys
    exact .nil
  | cons e es ih =>
    cases entries with
    | nil => cases hkeys
    | cons f entries =>
      obtain ⟨hkey, hkeys⟩ := List.cons.inj hkeys
      refine .cons ⟨hkey, hvalues _ _ List.mem_cons_self⟩ (ih hkeys fun d v hmem => ?_)
      exact hvalues d v (List.mem_cons_of_mem _ hmem)

theorem held_object {es : List (String × Datum)} {c : Nat} {entries : Entries Value}
    (hcell : s.cells[c]? = some (.object entries)) (h : List.Forall₂ (Entrywise (Held s)) es entries) :
    Held s (.object es) (.object c) := by
  refine .object hcell ?_ ?_
  · clear hcell
    induction h with
    | nil => rfl
    | cons he _ ih => exact congrArg₂ List.cons he.1 ih
  · clear hcell
    induction h with
    | nil => exact fun d v hmem => by cases hmem
    | cons he _ ih =>
      intro d v hmem
      rcases List.mem_cons.1 hmem with heq | hmem
      · obtain ⟨rfl, rfl⟩ := Prod.mk.inj heq
        exact he.2
      · exact ih d v hmem

/-- A value keeps its content where the cells stay as they are. -/
theorem Held.mono (h : Held s d v) (hcells : ∀ c < s.cells.size, t.cells[c]? = s.cells[c]?) :
    Held t d v := by
  have hcell {c : Nat} {cell : Cell} (hc : s.cells[c]? = some cell) : t.cells[c]? = some cell := by
    rw [hcells c (Array.getElem?_eq_some_iff.1 hc).1, hc]
  induction h with
  | null => exact .null
  | bool b => exact .bool b
  | number h => exact .number h
  | quantity hmagnitude hdims => exact .quantity hmagnitude hdims
  | string t => exact .string t
  | array hc hlength _ ih => exact .array (hcell hc) hlength ih
  | object hc hkeys _ ih => exact .object (hcell hc) hkeys ih

theorem Held.of_extends (h : Held s d v) (hext : s.Extends none t) : Held t d v :=
  h.mono fun c hc => hext.cell_eq c hc (by simp)

/-! ## Nesting -/

theorem itemsHeight_congr {ds es : List Datum} {vs : List Value} (hds : vs.length = ds.length)
    (hes : vs.length = es.length)
    (h : ∀ d v, (d, v) ∈ ds.zip vs → ∀ e, (e, v) ∈ es.zip vs → d.height = e.height) :
    itemsHeight ds = itemsHeight es := by
  induction vs generalizing ds es with
  | nil =>
    obtain rfl := List.length_eq_zero_iff.1 hds.symm
    obtain rfl := List.length_eq_zero_iff.1 hes.symm
    rfl
  | cons v vs ih =>
    cases ds with
    | nil => cases hds
    | cons d ds =>
      cases es with
      | nil => cases hes
      | cons e es =>
        have htail : itemsHeight ds = itemsHeight es :=
          ih (Nat.succ.inj hds) (Nat.succ.inj hes) fun d v hd e he =>
            h d v (List.mem_cons_of_mem _ hd) e (List.mem_cons_of_mem _ he)
        rw [itemsHeight, itemsHeight, h d v List.mem_cons_self e List.mem_cons_self, htail]

/-- The content of a value has one height only. -/
theorem Held.height_eq (h : Held s d v) {e : Datum} (h' : Held s e v) : d.height = e.height := by
  induction h generalizing e with
  | null | bool _ | number _ | quantity _ _ | string _ => cases h'; rfl
  | array hcell hlength _ ih =>
    cases h' with
    | array hcell' hlength' hitems' =>
      cases Option.some.inj (hcell.symm.trans hcell')
      exact congrArg Nat.succ (itemsHeight_congr hlength hlength' fun d v hd e he =>
        ih d v hd (hitems' e v he))
  | object hcell hkeys _ ih =>
    cases h' with
    | object hcell' hkeys' hvalues' =>
      cases Option.some.inj (hcell.symm.trans hcell')
      have hlength := length_of_keys hkeys
      have hlength' := length_of_keys hkeys'
      rw [height, height, entriesHeight_eq, entriesHeight_eq]
      exact congrArg Nat.succ (itemsHeight_congr (by simpa [Entries.values] using hlength)
        (by simpa [Entries.values] using hlength') fun d v hd e he => ih d v hd (hvalues' e v he))

/-- What stands in a value has the content of what stands in its datum. -/
theorem Held.exists_of_mem_children (h : Held s d v) {e : Datum} (he : e ∈ d.children) :
    ∃ w, Held s e w := by
  have hzip {ds : List Datum} {vs : List Value} (hlength : vs.length = ds.length)
      (hitems : ∀ d v, (d, v) ∈ ds.zip vs → Held s d v) (he : e ∈ ds) : ∃ w, Held s e w := by
    rw [← List.map_fst_zip (Nat.le_of_eq hlength.symm)] at he
    obtain ⟨⟨e', w⟩, hmem, rfl⟩ := List.mem_map.1 he
    exact ⟨w, hitems e' w hmem⟩
  cases h with
  | array _ hlength hitems => exact hzip hlength hitems he
  | object _ hkeys hvalues =>
    have hlength := length_of_keys hkeys
    exact hzip (by simpa [Entries.values] using hlength) hvalues he
  | _ => cases he

/-- Values in one cell have content of one height. -/
theorem Held.height_eq_of_cell (h : Held s d v) {e : Datum} {w : Value} (h' : Held s e w) {c : Nat}
    (hv : v.cell? = some c) (hw : w.cell? = some c) : d.height = e.height := by
  cases h with
  | array hcell hlength hitems =>
    obtain rfl := Option.some.inj hv
    cases h' with
    | array hcell' hlength' hitems' =>
      obtain rfl := Option.some.inj hw
      exact (Held.array hcell hlength hitems).height_eq (.array hcell' hlength' hitems')
    | object hcell' =>
      obtain rfl := Option.some.inj hw
      cases hcell.symm.trans hcell'
    | _ => cases hw
  | object hcell hkeys hvalues =>
    obtain rfl := Option.some.inj hv
    cases h' with
    | array hcell' =>
      obtain rfl := Option.some.inj hw
      cases hcell.symm.trans hcell'
    | object hcell' hkeys' hvalues' =>
      obtain rfl := Option.some.inj hw
      exact (Held.object hcell hkeys hvalues).height_eq (.object hcell' hkeys' hvalues')
    | _ => cases hw
  | _ => cases hv

/-- Arrays and objects stand in a cell; nothing nests in anything else. -/
theorem Held.cell_or_flat (h : Held s d v) :
    d.height = 0 ∨ ∃ c, v.cell? = some c ∧ c < s.cells.size := by
  cases h with
  | array hcell => exact .inr ⟨_, rfl, (Array.getElem?_eq_some_iff.1 hcell).1⟩
  | object hcell => exact .inr ⟨_, rfl, (Array.getElem?_eq_some_iff.1 hcell).1⟩
  | _ => exact .inl rfl

/-- Nothing nests deeper than there are cells, not even below cells that hold
something higher. -/
theorem Held.height_add_card_le (h : Held s d v) {above : Finset Nat}
    (hsub : above ⊆ Finset.range s.cells.size)
    (habove : ∀ c ∈ above, ∀ e w, w.cell? = some c → Held s e w → d.height < e.height) :
    d.height + above.card ≤ s.cells.size := by
  induction hn : d.height using Nat.strongRecOn generalizing d v above with
  | ind n ih =>
    subst hn
    have hcard {cells : Finset Nat} (hcells : cells ⊆ Finset.range s.cells.size) :
        cells.card ≤ s.cells.size := by
      simpa using Finset.card_le_card hcells
    rcases h.cell_or_flat with hflat | ⟨c, hv, hc⟩
    · rw [hflat, Nat.zero_add]
      exact hcard hsub
    · have hfresh : c ∉ above := fun hmem => Nat.lt_irrefl _ (habove c hmem d v hv h)
      have hsub' : insert c above ⊆ Finset.range s.cells.size :=
        Finset.insert_subset (Finset.mem_range.2 hc) hsub
      have hinsert := hcard hsub'
      have hchildren : ∀ e ∈ d.children, e.height ≤ s.cells.size - (insert c above).card := by
        intro e he
        obtain ⟨w, hw⟩ := h.exists_of_mem_children he
        have hlt := height_lt_of_mem_children he
        have hle := ih e.height hlt hw hsub' (fun c' hc' e' w' hw' he' => ?_) rfl
        · omega
        · rcases Finset.mem_insert.1 hc' with rfl | hc'
          · rw [← h.height_eq_of_cell he' hv hw']
            exact hlt
          · exact Nat.lt_trans hlt (habove c' hc' e' w' hw' he')
      have hle := height_le_of_children hchildren
      rw [Finset.card_insert_of_notMem hfresh] at hle hinsert
      omega

/-- Nothing nests deeper than there are cells. -/
theorem Held.height_le (h : Held s d v) : d.height ≤ s.nesting :=
  h.height_add_card_le (Finset.empty_subset _) fun _ hc => by simp at hc

/-! ## Text -/

theorem map_eq_map_of_forall₂ {α β γ : Type} {f : α → γ} {g : β → γ} {xs : List α} {ys : List β}
    (h : List.Forall₂ (fun x y => g y = f x) xs ys) : ys.map g = xs.map f := by
  induction h with
  | nil => rfl
  | cons hxy _ ih => rw [List.map_cons, List.map_cons, hxy, ih]

theorem shown_congr {x y : Decimal} (h : y.normalize = x.normalize)
    (hx : x.normalize.scale ≤ Decimal.shownPlaces) : y.shown = x.shown := by
  rw [Decimal.shown_eq_render hx, Decimal.shown_eq_render (h ▸ hx), h]

/-- The text of an item depends on its content only. -/
theorem Held.renderItem_eq (h : Held s d v) (hd : Legible d) {n : Nat} (hn : d.height ≤ n) :
    Session.renderItem (s.renderTo n) v = d.text := by
  have hflat {w : Value} {t : String} (hw : ∀ inner, s.renderWith inner w = t) :
      s.renderTo n w = t := by
    cases n <;> exact hw _
  induction h generalizing n with
  | null => exact hflat fun _ => rfl
  | bool b => exact hflat fun _ => rfl
  | number h =>
    cases hd with
    | number hx => exact hflat fun _ => shown_congr h hx
  | quantity hmagnitude hdims =>
    cases hd with
    | quantity hq =>
      refine hflat fun _ => ?_
      rw [Session.renderWith, Quantity.render, text, Quantity.render, hdims,
        shown_congr hmagnitude hq.places_le]
  | string t => rfl
  | @array ds c vs hcell hlength hitems ih =>
    cases hd with
    | array hds =>
      obtain ⟨n, rfl⟩ : ∃ k, n = k + 1 := ⟨n - 1, by rw [height] at hn; omega⟩
      have hheight := Nat.succ_le_succ_iff.1 hn
      have htexts : vs.toList.map (Session.renderItem (s.renderTo n)) = itemTexts ds := by
        rw [itemTexts_eq_map]
        refine map_eq_map_of_forall₂ (List.forall₂_iff_zip.2 ⟨hlength.symm, fun hmem => ?_⟩)
        have hmem' := (List.of_mem_zip hmem).1
        exact ih _ _ hmem (hds _ hmem') (Nat.le_trans (height_le_itemsHeight hmem') hheight)
          fun hw => by cases n <;> exact hw _
      have hitems : s.items c = vs := by rw [Session.items, hcell]
      show "[" ++ ", ".intercalate ((s.items c).toList.map _) ++ "]" = _
      rw [hitems, htexts, text]
  | @object es c entries hcell hkeys hvalues ih =>
    cases hd with
    | object _ _ hes =>
      obtain ⟨n, rfl⟩ : ∃ k, n = k + 1 := ⟨n - 1, by rw [height] at hn; omega⟩
      have hheight := Nat.succ_le_succ_iff.1 hn
      rw [entriesHeight_eq] at hheight
      have hitem : List.Forall₂
          (Entrywise fun d v => Session.renderItem (s.renderTo n) v = d.text) es entries := by
        refine forall₂_entries hkeys fun d v hmem => ?_
        have hmem' := (List.of_mem_zip hmem).1
        obtain ⟨e, he, rfl⟩ := List.mem_map.1 hmem'
        exact ih _ _ hmem (hes e he) (Nat.le_trans (height_le_itemsHeight hmem') hheight)
          fun hw => by cases n <;> exact hw _
      have htexts : (entries.map fun e => e.1 ++ ": " ++
          Session.renderItem (s.renderTo n) e.2) = entryTexts es := by
        rw [entryTexts_eq_map]
        refine map_eq_map_of_forall₂ (hitem.imp fun e f hef => ?_)
        obtain ⟨key, v⟩ := f
        obtain ⟨rfl, hv⟩ := hef
        exact congrArg (e.1 ++ ": " ++ ·) hv
      have hentries : s.entries c = entries := by rw [Session.entries, hcell]
      show "\x7b" ++ ", ".intercalate ((s.entries c).map fun e => e.1 ++ ": " ++
        Session.renderItem (s.renderTo n) e.2) ++ "\x7d" = _
      rw [hentries, htexts, text]

/-- The text of a value depends on its content only. -/
theorem Held.render_eq (h : Held s d v) (hd : Legible d) (hstring : d.isString = false) :
    s.render v = d.text := by
  rw [← h.renderItem_eq hd h.height_le]
  cases h with
  | string t => cases hstring
  | _ => rfl

/-! ## Equality -/

theorem sameTo_of_flat (h : Held s d v) {w : Value} (h' : Held s d w) (hd : d.height = 0) (n : Nat) :
    s.sameTo n v w = true := by
  have hflat (b : Bool) (heq : ∀ n, s.sameTo n v w = b) (hb : b = true) : s.sameTo n v w = true :=
    (heq n).trans hb
  cases h with
  | null =>
    cases h'
    exact hflat true (fun n => by cases n <;> rfl) rfl
  | bool b =>
    cases h'
    exact hflat (b == b) (fun n => by cases n <;> rfl) (beq_self_eq_true b)
  | @number x y hy =>
    cases h' with
    | @number _ z hz =>
      exact hflat (y.sameValue z) (fun n => by cases n <;> rfl)
        (Decimal.sameValue_of_normalize_eq (hy.trans hz.symm))
  | @quantity p q hmagnitude hdims =>
    cases h' with
    | @quantity _ r hmagnitude' hdims' =>
      refine hflat (q.sameValue r) (fun n => by cases n <;> rfl) ?_
      rw [Quantity.sameValue, hdims, hdims',
        Decimal.sameValue_of_normalize_eq (hmagnitude.trans hmagnitude'.symm)]
      exact decide_eq_true rfl
  | string t =>
    cases h'
    exact hflat (t == t) (fun n => by cases n <;> rfl) (beq_self_eq_true t)
  | array | object => cases hd

/-- Two lists that belong to the same third one. -/
theorem forall₂_of_common {α β γ : Type} {P : α → β → Prop} {Q : α → γ → Prop} {R : β → γ → Prop}
    {xs : List α} {ys : List β} {zs : List γ} (hP : List.Forall₂ P xs ys) (hQ : List.Forall₂ Q xs zs)
    (hR : ∀ x ∈ xs, ∀ y z, P x y → Q x z → R y z) : List.Forall₂ R ys zs := by
  induction hP generalizing zs with
  | nil =>
    cases hQ
    exact .nil
  | cons hxy _ ih =>
    cases hQ with
    | cons hxz hQ =>
      exact .cons (hR _ List.mem_cons_self _ _ hxy hxz)
        (ih hQ fun x hx => hR x (List.mem_cons_of_mem _ hx))

theorem exists_mem_of_forall₂ {α β : Type} {R : α → β → Prop} {xs : List α} {ys : List β}
    (h : List.Forall₂ R xs ys) {x : α} (hx : x ∈ xs) : ∃ y ∈ ys, R x y := by
  induction h with
  | nil => cases hx
  | @cons a b xs ys hab _ ih =>
    rcases List.mem_cons.1 hx with rfl | hx
    · exact ⟨b, List.mem_cons_self, hab⟩
    · obtain ⟨y, hy, hxy⟩ := ih hx
      exact ⟨y, List.mem_cons_of_mem _ hy, hxy⟩

/-- Values with the same content are equal. -/
theorem Held.sameTo_eq (h : Held s d v) {w : Value} (h' : Held s d w) (hd : Legible d) {n : Nat}
    (hn : d.height ≤ n) : s.sameTo n v w = true := by
  induction n generalizing d v w with
  | zero => exact sameTo_of_flat h h' (Nat.le_zero.1 hn) 0
  | succ n ih =>
    cases hd with
    | @array ds hds =>
      cases h with
      | @array _ c vs hcell hlength hitems =>
        cases h' with
        | @array _ c' ws hcell' hlength' hitems' =>
          have hall : List.Forall₂ (fun v w => s.sameTo n v w = true) vs.toList ws.toList := by
            refine forall₂_of_common (List.forall₂_iff_zip.2 ⟨hlength.symm, fun h => hitems _ _ h⟩)
              (List.forall₂_iff_zip.2 ⟨hlength'.symm, fun h => hitems' _ _ h⟩)
              fun d hmem v w hv hw => ih hv hw (hds d hmem) ?_
            exact Nat.le_trans (height_le_itemsHeight hmem) (Nat.succ_le_succ_iff.1 hn)
          have hsize : vs.size = ws.size := hlength.trans hlength'.symm
          have hitems : s.items c = vs := by rw [Session.items, hcell]
          have hitems' : s.items c' = ws := by rw [Session.items, hcell']
          simp only [Session.sameTo, hitems, hitems', hsize, beq_self_eq_true, Bool.true_and,
            Bool.or_eq_true, List.all_eq_true]
          exact .inr fun _ hmem => (List.forall₂_iff_zip.1 hall).2 hmem
    | @object es _ hdistinct hes =>
      cases h with
      | @object _ c entries hcell hkeys hvalues =>
        cases h' with
        | @object _ c' entries' hcell' hkeys' hvalues' =>
          have hall : List.Forall₂ (fun f f' => f'.1 = f.1 ∧ s.sameTo n f'.2 f.2 = true)
              entries entries' := by
            refine forall₂_of_common (forall₂_entries hkeys hvalues)
              (forall₂_entries hkeys' hvalues') fun e hmem f f' hf hf' =>
              ⟨hf'.1.trans hf.1.symm, ih hf'.2 hf.2 (hes e hmem) ?_⟩
            rw [height, entriesHeight_eq] at hn
            exact Nat.le_trans (height_le_itemsHeight (List.mem_map_of_mem hmem))
              (Nat.succ_le_succ_iff.1 hn)
          have hentries : s.entries c = entries := by rw [Session.entries, hcell]
          have hentries' : s.entries c' = entries' := by rw [Session.entries, hcell']
          have hlength : entries.length = entries'.length := hall.length_eq
          simp only [Session.sameTo, hentries, hentries', hlength, beq_self_eq_true, Bool.true_and,
            Bool.or_eq_true, List.all_eq_true]
          refine .inr fun f hf => ?_
          obtain ⟨⟨key, w⟩, hmem, rfl, hw⟩ := exists_mem_of_forall₂ hall hf
          simp only [Entries.find?_of_mem (hkeys' ▸ hdistinct) hmem, hw]
    | _ => exact sameTo_of_flat h h' rfl _

end Datum

end Reckoner
