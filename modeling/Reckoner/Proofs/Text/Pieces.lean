import Reckoner.Eval.Builtin.Call
import Reckoner.Proofs.Value.Slices

/-!
# Pieces of a text

Cutting a text at a separator, joining pieces and replacing look for the same occurrences, from
the left and without overlaps.

* `replaceFrom_eq_intercalate`: replacing is joining the pieces with something else.
* `replaceFrom_self`: what is replaced by itself stays, so the pieces make up the text again.
* `not_infix_of_mem_cutFrom`: no piece contains the separator.
* `pieces_fit_together` says so of the functions on strings.
-/

namespace Reckoner

namespace Text

variable {sep piece text : List Char} {skip : Nat}

theorem cutFrom_ne_nil (sep : List Char) (skip : Nat) (piece text : List Char) :
    cutFrom sep skip piece text ≠ [] := by
  fun_induction cutFrom sep skip piece text with
  | case1 => exact List.cons_ne_nil _ _
  | case2 _ _ _ _ ih => exact ih
  | case3 => exact List.cons_ne_nil _ _
  | case4 _ _ _ _ ih => exact ih

/-- Replacing is joining the pieces with the replacement. -/
theorem replaceFrom_eq_intercalate (sep new : List Char) (skip : Nat) (piece text : List Char) :
    piece.reverse ++ replaceFrom sep new skip text =
      new.intercalate (cutFrom sep skip piece text) := by
  fun_induction cutFrom sep skip piece text with
  | case1 => simp [replaceFrom]
  | case2 skip piece _ rest ih => rw [replaceFrom, ih]
  | case3 piece c rest hsep ih =>
    have hne := cutFrom_ne_nil sep (sep.length - 1) [] rest
    rw [replaceFrom, if_pos hsep, List.intercalate_cons_of_ne_nil hne, ← ih, List.append_assoc]
    rfl
  | case4 piece c rest hsep ih =>
    rw [replaceFrom, if_neg hsep, ← ih, List.reverse_cons, List.append_assoc]
    rfl

/-- What is replaced by itself stays. -/
theorem replaceFrom_self (hsep : sep ≠ []) (skip : Nat) (text : List Char) :
    replaceFrom sep sep skip text = text.drop skip := by
  fun_induction replaceFrom sep sep skip text with
  | case1 => exact List.drop_nil.symm
  | case2 skip _ rest ih => exact ih
  | case3 c rest hpre ih =>
    obtain ⟨tail, htail⟩ := List.isPrefixOf_iff_prefix.1 hpre
    obtain ⟨d, sep, rfl⟩ := List.exists_cons_of_ne_nil hsep
    have hrest : sep ++ tail = rest := (List.cons_eq_cons.1 htail).2
    rw [ih, ← htail, ← hrest, List.length_cons, Nat.add_sub_cancel, List.drop_left]
    rfl
  | case4 c rest _ ih => rw [ih, List.drop_zero, List.drop_zero]

/-- No piece contains the separator, if it does not occur in what was gathered of the first one,
nor from there into the rest of the text. -/
theorem not_infix_of_mem_cutFrom (hsep : sep ≠ [])
    (hpiece : ∀ i < piece.length, ¬sep <+: (piece.reverse ++ text.drop skip).drop i) :
    ∀ p ∈ cutFrom sep skip piece text, ¬sep <:+: p := by
  -- An occurrence in what was gathered starts there, since the separator is not empty.
  have hgathered {piece rest : List Char}
      (h : ∀ i < piece.length, ¬sep <+: (piece.reverse ++ rest).drop i) :
      ¬sep <:+: piece.reverse := by
    rintro ⟨before, after, hocc⟩
    have hlength := congrArg List.length hocc
    simp only [List.length_append, List.length_reverse] at hlength
    have hpos := List.length_pos_iff.2 hsep
    refine h before.length (by omega) ?_
    rw [← hocc, List.append_assoc, List.append_assoc, List.drop_left]
    exact List.prefix_append _ _
  fun_induction cutFrom sep skip piece text with
  | case1 skip piece =>
    intro p hp
    cases List.mem_singleton.1 hp
    exact hgathered hpiece
  | case2 skip piece _ rest ih => exact ih hpiece
  | case3 piece c rest _ ih =>
    intro p hp
    rcases List.mem_cons.1 hp with rfl | hp
    · exact hgathered hpiece
    · exact ih (fun i hi => absurd hi (Nat.not_lt_zero i)) p hp
  | case4 piece c rest hpre ih =>
    refine ih fun i hi => ?_
    rw [List.reverse_cons, List.append_assoc, List.drop_zero]
    rcases Nat.lt_succ_iff_lt_or_eq.1 hi with hi | rfl
    · exact hpiece i hi
    · rw [← List.length_reverse, List.drop_left]
      exact fun h => hpre (List.isPrefixOf_iff_prefix.2 h)

/-- The pieces of a text, which are its characters if the separator is empty. -/
def pieces (sep text : List Char) : List (List Char) :=
  if sep.isEmpty then text.map fun c => [c] else cut sep text

theorem pieces_of_ne_nil (hsep : sep ≠ []) : pieces sep text = cut sep text := by
  rw [pieces, if_neg (by simpa using hsep)]

theorem replaceAll_eq_intercalate (hsep : sep ≠ []) (new text : List Char) :
    replaceAll sep new text = new.intercalate (pieces sep text) := by
  rw [pieces_of_ne_nil hsep]
  exact replaceFrom_eq_intercalate sep new 0 [] text

/-- The pieces and the separator make up the text, also if the pieces are the characters. -/
theorem intercalate_pieces (sep text : List Char) : sep.intercalate (pieces sep text) = text := by
  by_cases hsep : sep = []
  · rw [hsep, pieces, if_pos List.isEmpty_nil]
    induction text with
    | nil => rfl
    | cons c rest ih =>
      cases rest with
      | nil => rfl
      | cons d rest => exact congrArg (c :: ·) ih
  · rw [← replaceAll_eq_intercalate hsep]
    exact replaceFrom_self hsep 0 text

theorem not_infix_of_mem_pieces (hsep : sep ≠ []) : ∀ p ∈ pieces sep text, ¬sep <:+: p := by
  rw [pieces_of_ne_nil hsep]
  exact not_infix_of_mem_cutFrom hsep fun i hi => absurd hi (Nat.not_lt_zero i)

end Text

namespace Eval

variable {s : Session} {text sep old : String} {o : Nat}

theorem splitText_eq (text sep : String) : splitText text sep =
    (Text.pieces sep.toList text.toList).map fun piece => .string (String.ofList piece) := by
  by_cases hsep : sep = ""
  · rw [splitText, Text.pieces, if_pos (by simpa using hsep), if_pos (by simpa using hsep),
      List.map_map]
    rfl
  · rw [splitText, Text.pieces_of_ne_nil (by simpa using hsep), if_neg (by simpa using hsep)]

theorem intercalate_splitText (new : String) :
    new.intercalate ((splitText text sep).map s.render) =
      String.ofList (new.toList.intercalate (Text.pieces sep.toList text.toList)) := by
  have htexts : ((splitText text sep).map s.render).map String.toList =
      Text.pieces sep.toList text.toList := by
    rw [splitText_eq, List.map_map, List.map_map]
    refine (List.map_congr_left fun piece _ => ?_).trans (List.map_id _)
    exact (congrArg String.toList (Session.render_string s _)).trans String.toList_ofList
  rw [← String.toList_inj, String.toList_intercalate, htexts, String.toList_ofList]

theorem exists_piece_of_mem_splitText (hsep : sep ≠ "") {item : Value}
    (h : item ∈ splitText text sep) :
    ∃ piece : String, item = .string piece ∧ ¬sep.toList <:+: piece.toList := by
  rw [splitText_eq] at h
  obtain ⟨piece, hpiece, rfl⟩ := List.mem_map.1 h
  refine ⟨_, rfl, ?_⟩
  rw [String.toList_ofList]
  exact Text.not_infix_of_mem_pieces (by simpa using hsep) piece hpiece

theorem callBuiltin_join (ctx : Context) (call : Caller) {c : Nat} {items : Array Value}
    (h : s.cells[c]? = some (.array items)) (sep : String) (o : Nat) :
    callBuiltin ctx call .join [.array c, .string sep] o s =
      .ok (.string (sep.intercalate (items.toList.map s.render))) s := by
  rw [← Session.items_of_cell h]
  rfl

theorem callBuiltin_replace (ctx : Context) (call : Caller) (hold : old ≠ "") (new : String) :
    callBuiltin ctx call .replace [.string text, .string old, .string new] o s =
      .ok (.string (String.ofList (Text.replaceAll old.toList new.toList text.toList))) s := by
  have hreplace : replace (.string text) (.string old) (.string new) o =
      if old.isEmpty then failAt o (.argument .replaceEmpty)
      else .ok (.string (String.ofList (Text.replaceAll old.toList new.toList text.toList))) := rfl
  rw [if_neg (by simpa using hold)] at hreplace
  show (liftM (replace (.string text) (.string old) (.string new) o) : EvalM Value) s = _
  rw [hreplace]
  rfl

/-- Cutting a text and joining the pieces with the separator gives the text, with any separator.
With one that is not empty no piece contains it, and joining the pieces with something else is
replacing the separator. -/
theorem pieces_fit_together (ctx : Context) (call : Caller) (text sep : String) (o o' : Nat)
    (s : Session) :
    ∃ c items t, callBuiltin ctx call .split [.string text, .string sep] o s = .ok (.array c) t ∧
      t.cells[c]? = some (.array items) ∧
      callBuiltin ctx call .join [.array c, .string sep] o' t = .ok (.string text) t ∧
      (sep ≠ "" →
        (∀ item ∈ items, ∃ piece : String, item = .string piece ∧
          ¬sep.toList <:+: piece.toList) ∧
        ∀ new : String, ∃ replaced : String,
          callBuiltin ctx call .replace [.string text, .string sep, .string new] o' s =
            .ok (.string replaced) s ∧
          callBuiltin ctx call .join [.array c, .string new] o' t =
            .ok (.string replaced) t) := by
  have hcell : (s.newCell (.array (splitText text sep).toArray)).cells[s.cells.size]? =
      some (.array (splitText text sep).toArray) := by simp [Session.newCell]
  refine ⟨s.cells.size, (splitText text sep).toArray, s.newCell _, rfl, hcell, ?_,
    fun hsep => ⟨fun item hitem => ?_, fun new => ⟨_, callBuiltin_replace ctx call hsep new, ?_⟩⟩⟩
  · rw [callBuiltin_join ctx call hcell, intercalate_splitText, Text.intercalate_pieces,
      String.ofList_toList]
  · exact exists_piece_of_mem_splitText hsep (by simpa using hitem)
  · rw [callBuiltin_join ctx call hcell, intercalate_splitText,
      Text.replaceAll_eq_intercalate (by simpa using hsep)]

/-- Five letters of which a pair is cut out twice, from the left. -/
theorem pieces_fit_together_pair :
    let ctx := Context.ofClock ⟨0, 0⟩ (.fixed 0)
    let call : Caller := fun _ _ _ => pure .null
    "aa" ≠ "" ∧ ∃ c items t,
      callBuiltin ctx call .split [.string "aaaab", .string "aa"] 0 .empty = .ok (.array c) t ∧
      t.cells[c]? = some (.array items) ∧
      callBuiltin ctx call .join [.array c, .string "aa"] 1 t = .ok (.string "aaaab") t ∧
      (∀ item ∈ items, ∃ piece : String, item = .string piece ∧
        ¬"aa".toList <:+: piece.toList) ∧
      ∃ replaced : String, callBuiltin ctx call .replace [.string "aaaab", .string "aa",
          .string "a"] 1 .empty = .ok (.string replaced) .empty ∧
        callBuiltin ctx call .join [.array c, .string "a"] 1 t = .ok (.string replaced) t := by
  intro ctx call
  have hne : "aa" ≠ "" := by decide
  obtain ⟨c, items, t, hsplit, hcell, hjoin, hrest⟩ :=
    pieces_fit_together ctx call "aaaab" "aa" 0 1 .empty
  exact ⟨hne, c, items, t, hsplit, hcell, hjoin, (hrest hne).1, (hrest hne).2 "a"⟩

end Eval

end Reckoner
