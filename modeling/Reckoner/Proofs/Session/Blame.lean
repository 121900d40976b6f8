import Reckoner.Proofs.Grammar.Traced
import Reckoner.Proofs.Quantity.Invariant

/-!
# Errors point into the source

An error of a source, whether in reading or in evaluating it, is at one of the tokens that are
read from it: those of the source itself, or of the code in its strings.  Evaluation takes the
offsets of its errors from the nodes that it comes to, also inside functions that it calls, so
this needs a session without functions of earlier sources.

* `Grammar.Reached`: the tokens that are read, for a list of tokens; `Token.ReadFrom`, for a
  source.
* `siting` is the discipline that errors are at given offsets.
* `errors_point_into_source` is the statement for lists of tokens and for whole sources.
-/

namespace Reckoner

/-! ## The tokens that are read -/

/-- The tokens that are read when a list of tokens is parsed: those in the list, and those of
the code in strings among them. -/
inductive Grammar.Reached (ts : List Placed) : Placed → Prop where
  | here {t : Placed} (ht : t ∈ ts) : Reached ts t
  | code {t u : Placed} {quote : Quote} {segments : List Segment} {source : String} {offset : Nat}
      (ht : Reached ts t) (hstring : t.token = .string quote segments)
      (hcode : .code source offset ∈ segments) (hu : u ∈ tokensAt source offset) : Reached ts u

theorem Grammar.closed_reached (ts : List Placed) : Placed.Closed (Reached ts) :=
  fun _ ht _ _ hstring _ _ hcode _ hu => ht.code hstring hcode hu

/-- A token of one of the texts that are read when a source is parsed, shifted to its place in
the source. -/
def Token.ReadFrom (source : String) (t : Placed) : Prop :=
  ∃ text offset, Relexed source text offset ∧ t ∈ Grammar.tokensAt text offset

theorem Token.closed_readFrom (source : String) : Placed.Closed (ReadFrom source) := by
  rintro t ⟨text, offset, htext, ht⟩ quote segments hstring inner place hcode u hu
  exact ⟨inner, place, htext.code ht hstring hcode, hu⟩

theorem Token.readFrom_of_mem {source : String} {t : Placed} (ht : t ∈ tokenize source) :
    ReadFrom source t :=
  ⟨source, 0, .whole, by rwa [tokensAt_zero]⟩

theorem Token.ReadFrom.stands {source : String} {t : Placed} (h : ReadFrom source t) :
    Text.Stands source.toList [] t.offset := by
  obtain ⟨text, offset, htext, ht⟩ := h
  exact ((faithful_tokensAt htext).2.2 t ht).1

theorem Token.ended_tokenize (source : String) : Grammar.Ended (tokenize source) :=
  ⟨_, List.mem_append_right _ List.mem_cons_self, rfl⟩

/-! ## Functions whose nodes are at given offsets -/

namespace Value

/-- The body of every function in a value has `P`. -/
def Bodies (P : Expr → Prop) (v : Value) : Prop := ∀ i f, In (closure i f) v → P f.body

variable {P : Expr → Prop}

theorem bodies_applied {i : Nat} {f : Value} {bound : List Value} :
    (applied i f bound).Bodies P ↔ f.Bodies P ∧ ∀ v ∈ bound, v.Bodies P := by
  constructor
  · exact fun h => ⟨fun i g hg => h i g (.callee hg), fun v hv i g hg => h i g (.bound hv hg)⟩
  · rintro ⟨hf, hbound⟩ i g hg
    cases hg with
    | callee hg => exact hf i g hg
    | bound hv hg => exact hbound _ hv i g hg

/-- A value that is neither a function from a source nor one with given arguments. -/
theorem bodies_of_ne {v : Value} (hc : ∀ i f, v ≠ closure i f)
    (ha : ∀ i f bound, v ≠ applied i f bound) : v.Bodies P :=
  fun i f h => absurd (h.eq_of_not_applied ha).symm (hc i f)

theorem bodies_of_not_callable {v : Value} (h : v.isCallable = false) : v.Bodies P := by
  refine bodies_of_ne ?_ ?_
  · rintro i f rfl
    cases h
  · rintro i f bound rfl
    cases h

theorem bodies_closure {i : Nat} {f : Closure} : (closure i f).Bodies P ↔ P f.body := by
  constructor
  · exact fun h => h i f .here
  · intro hf j g hg
    cases hg.eq_of_not_applied (by simp)
    exact hf

theorem bodies_of_atomic {care : Care} {v : Value} (h : v.Atomic care) : v.Bodies P := by
  cases v with
  | closure i f | builtin i b | applied i f bound => exact h.elim
  | _ => exact bodies_of_not_callable rfl

theorem Bodies.moved {v : Value} (h : v.Bodies P) (k : Nat) : (v.moved k).Bodies P := by
  cases v with
  | array c | object c => exact bodies_of_not_callable rfl
  | _ => exact h

end Value

/-- The nodes of expressions are at offsets with `O`, and so are errors. -/
def siting (O : Nat → Prop) : Discipline where
  units := False
  known := False
  units_of_known := id
  FitsOffset := O
  FitsNode e := O e.offset
  Allows _ := True
  Holds s := s.All (Value.Bodies (Expr.Every fun e => O e.offset))
  Leads _ _ _ := True
  Fits _ v := v.Bodies (Expr.Every fun e => O e.offset)

theorem siting_lawful (O : Nat → Prop) : (siting O).Lawful where
  offset_of_node h := h
  units_of_node _ h := h.elim
  allows_of_name _ _ := trivial
  allows_of_call _ _ := trivial
  leads_refl := trivial
  leads_trans _ _ := trivial
  leads_of_none _ := trivial
  fits_of_leads _ h := h
  fits_atomic := Value.bodies_of_atomic
  measured_of_fits _ _ _ h := h.elim
  fits_builtin := ⟨fun _ => trivial, fun _ => Value.bodies_of_ne (by simp) (by simp)⟩
  fits_closure := Value.bodies_closure
  fits_applied := Value.bodies_applied
  fits_item hs _ hv := hs.item hv
  fits_entry hs _ hv := hs.entry hv
  fits_lookup hs h := hs.lookup h
  newArray hs h :=
    ⟨⟨hs.newCell fun v hv => h v (Array.mem_toList_iff.1 hv), trivial⟩,
      Value.bodies_of_not_callable rfl⟩
  newObject hs _ h := ⟨⟨hs.newCell h, trivial⟩, Value.bodies_of_not_callable rfl⟩
  newIdentity hs := ⟨⟨hs.cells, hs.bindings⟩, trivial⟩
  withBinding _ hs hv := ⟨hs.withBinding (fun _ k h => h.moved k) _ _ hv, trivial⟩
  withItems _ hs _ hmore := ⟨hs.withItems (fun _ k h => h.moved k) _ hmore, trivial⟩
  withoutLast _ hs _ := ⟨hs.withoutLast _, trivial⟩
  withEntry _ hs _ hv := ⟨hs.withEntry (fun _ k h => h.moved k) _ _ hv, trivial⟩
  entered := by
    intro s bindings parent hs _ h
    have hnew : (s.newScope { bindings, parent := some parent }).All
        (Value.Bodies (Expr.Every fun e => O e.offset)) := hs.newScope h
    exact ⟨hnew.cells, hnew.bindings⟩
  left _ _ ht _ := ⟨⟨ht.cells, ht.bindings⟩, trivial⟩
  fits_left h := h

/-! ## Whole sources -/

open Grammar (Ended Blames Reached)

/-- A list of tokens with a final one cannot be read: the error is at a token that is read,
and if it says that the tokens run out, at a final one. -/
theorem Expr.blames_of_ofTokens_error {ts : List Placed} {e : Error} (hended : Ended ts)
    (h : Expr.ofTokens ts = .error e) : Blames (Reached ts) e := by
  have hsettles := Expr.settles_ofTokens (Grammar.closed_reached ts) (fun _ => .here) hended
  rw [h] at hsettles
  cases hsettles with
  | error he => exact he

/-- Every node of the tree of a source is at a token that is read from it. -/
theorem Expr.sited_of_parse {source : String} {e : Expr} (h : Expr.parse source = .ok e) :
    e.Sited (Token.ReadFrom source) := by
  have hsettles := Expr.settles_ofTokens (Token.closed_readFrom source)
    (fun _ => Token.readFrom_of_mem) (Token.ended_tokenize source)
  rw [← Expr.parse, h] at hsettles
  cases hsettles with
  | ok he => exact he

theorem Expr.at_of_parse_error {source : String} {e : Error} (h : Expr.parse source = .error e) :
    Placed.At (Token.ReadFrom source) e.offset := by
  have hsettles := Expr.settles_ofTokens (Token.closed_readFrom source)
    (fun _ => Token.readFrom_of_mem) (Token.ended_tokenize source)
  rw [← Expr.parse, h] at hsettles
  cases hsettles with
  | error he =>
    obtain ⟨t, ht, hoffset, -⟩ := he
    exact ⟨t, ht, hoffset⟩

/-- An error of a source is at a token that is read from it. -/
theorem at_of_evaluate_error {ctx : Context} {source : String} {s t : Session} {e : Error}
    (hs : s.All fun v => v.isCallable = false) (h : evaluate ctx source s = .error (.fault e) t) :
    Placed.At (Token.ReadFrom source) e.offset := by
  have hctx : (siting (Placed.At (Token.ReadFrom source))).FitsContext ctx :=
    fun _ _ _ _ h => h.elim
  have hholds : (siting (Placed.At (Token.ReadFrom source))).Holds s :=
    hs.mono fun v hv => Value.bodies_of_not_callable hv
  have hrun := Discipline.keeps_evaluate (siting_lawful _) hctx hholds
    (fun e => Expr.sited_of_parse) fun e (he : Expr.parse source = .error e) =>
      ⟨Expr.at_of_parse_error he, fun h => h.elim⟩
  unfold Discipline.Keeps at hrun
  rw [h] at hrun
  cases hrun with
  | error _ hstop => exact hstop.1

/-- Errors point into the source.

* In a session without functions, an error of a source is at the offset of a token of the
  source, or of the code in one of its strings, shifted to its place; so it is at a boundary of
  two characters, or at the end.
* A list of tokens with a final one is never read past that one, and if it cannot be read, the
  error is at a token that is read; that tokens run out is only said at a final token. -/
theorem errors_point_into_source :
    (∀ (ctx : Context) (source : String) (s t : Session) (e : Error),
      (s.All fun v => v.isCallable = false) → evaluate ctx source s = .error (.fault e) t →
        (∃ u, Token.ReadFrom source u ∧ u.offset = e.offset) ∧
          Text.Stands source.toList [] e.offset ∧ e.offset ≤ source.utf8ByteSize) ∧
    (∀ (depth : Nat) (ts rest : List Placed) (e : Expr),
      Grammar.expression depth ts = .ok (e, rest) → Grammar.Takes 1 ts rest) ∧
    ∀ (ts : List Placed) (e : Error), Ended ts → Expr.ofTokens ts = .error e →
      ∃ t, Reached ts t ∧ t.offset = e.offset ∧ (e.cause = .unexpectedEnd → t.token = .finish) := by
  refine ⟨fun ctx source s t e hs h => ?_, fun depth ts rest e h => ?_,
    fun ts e hended h => Expr.blames_of_ofTokens_error hended h⟩
  · obtain ⟨u, hu, hoffset⟩ := at_of_evaluate_error hs h
    have hstands := hu.stands
    rw [hoffset] at hstands
    obtain ⟨front, back, hsource, hfront⟩ := id hstands
    refine ⟨⟨u, hu, hoffset⟩, hstands, ?_⟩
    rw [← hfront, Text.utf8ByteSize_eq, hsource, Text.byteLength_append]
    exact Nat.le_add_right _ _
  · have hread := Grammar.traced_expression (M := fun _ => True) (fun _ _ _ _ _ _ _ _ _ _ => trivial)
      depth ts fun _ _ => trivial
    rw [h] at hread
    cases hread with
    | ok h => exact h.2

/-- The error that a computation fails with. -/
def Eval.faultOf? {α : Type} (m : EvalM α) (s : Session) : Option Error :=
  match m s with
  | .error (.fault e) _ => some e
  | _ => none

theorem Eval.exists_of_faultOf? {α : Type} {m : EvalM α} {s : Session} {e : Error}
    (h : faultOf? m s = some e) : ∃ t, m s = .error (.fault e) t := by
  unfold faultOf? at h
  split at h
  · rename_i e' t hrun
    cases h
    exact ⟨t, hrun⟩
  · cases h

/-- The code in a template ends early: the error is at the end of the code.  In a list of
tokens the name is read up to the end, and the parenthesis that is not closed is reported there. -/
theorem errors_point_into_source_template :
    let ctx := Context.ofClock ⟨0, 0⟩ (.fixed 0)
    let source := "\x60é $\x7b1 +\x7d\x60"
    let finish : Placed := ⟨.finish, 4⟩
    (∃ t, (Session.empty.All fun v => v.isCallable = false) ∧
      evaluate ctx source .empty = .error (.fault ⟨.unexpectedEnd, 9⟩) t ∧
      ∃ u, Token.ReadFrom source u ∧ u.offset = 9) ∧
    Grammar.Takes 1 [⟨.name "x", 3⟩, finish] [finish] ∧
    Ended [⟨.mark .leftParen, 3⟩, finish] ∧
    Expr.ofTokens [⟨.mark .leftParen, 3⟩, finish] = .error ⟨.unexpectedEnd, 4⟩ ∧
    ∃ t, Reached [⟨.mark .leftParen, 3⟩, finish] t ∧ t.offset = 4 ∧ t.token = .finish := by
  intro ctx source finish
  have hends : Eval.faultOf? (evaluate ctx source) .empty = some ⟨.unexpectedEnd, 9⟩ := by
    decide +kernel
  obtain ⟨t, ht⟩ := Eval.exists_of_faultOf? hends
  have hempty := Session.all_empty fun v => v.isCallable = false
  have hended : Ended [⟨.mark .leftParen, 3⟩, finish] := ⟨finish, by simp, rfl⟩
  have hopen : Expr.ofTokens [⟨.mark .leftParen, 3⟩, finish] = .error ⟨.unexpectedEnd, 4⟩ := rfl
  have hname : Grammar.expression 1 [⟨.name "x", 3⟩, finish] = .ok (.name "x" 3, [finish]) := rfl
  obtain ⟨u, hu, hoffset, htoken⟩ := errors_point_into_source.2.2 _ _ hended hopen
  exact ⟨⟨t, hempty, ht, (errors_point_into_source.1 ctx source .empty t _ hempty ht).1⟩,
    errors_point_into_source.2.1 1 _ _ _ hname, hended, hopen, u, hu, hoffset, htoken rfl⟩

end Reckoner
