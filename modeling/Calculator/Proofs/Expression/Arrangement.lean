import Calculator.Expression.Arrangement
import Calculator.Expression.Grammar
import Calculator.Proofs.Steps

/-!
# Laws of the arrangement

Reading tokens only adds to what was written. What is added depends neither on what was
written before (`readAll_after`) nor, as long as every parenthesis that closes was opened in
the same run, on the levels around it (`readAll_inside`). Tokens that have a postorder of their
own therefore add exactly this postorder when they are read between parentheses, in any state
(`readAll_group`).
-/

namespace Calculator

/-! ## Ranks -/

namespace Operator

/-- The lowest rank is one. -/
theorem one_le_precedence (op : Operator) : 1 ≤ op.precedence := by
  cases op with
  | binary op => cases op <;> decide
  | squareRoot => decide

/-- The highest rank is two. -/
theorem precedence_lt_three (op : Operator) : op.precedence < 3 := by
  cases op with
  | binary op => cases op <;> decide
  | squareRoot => decide

/-- Additive operators have rank one. -/
theorem precedence_of_isAdditive {op : BinaryOperator} (h : op.isAdditive = true) :
    (Operator.binary op).precedence = 1 := by
  cases op <;> first | rfl | cases h

/-- Multiplicative operators have rank two. -/
theorem precedence_of_not_isAdditive {op : BinaryOperator} (h : op.isAdditive = false) :
    (Operator.binary op).precedence = 2 := by
  cases op <;> first | rfl | cases h

end Operator

namespace Arrangement

variable {state next : Arrangement} {token : Token} {tokens first second : List Token}

/-! ## Runs -/

/-- Reads several tokens. -/
def readAll (state : Arrangement) (tokens : List Token) : Except EvaluationError Arrangement :=
  tokens.foldlM read state

/-- No token changes nothing. -/
@[simp]
theorem readAll_nil : state.readAll [] = .ok state := rfl

/-- A run reads its first token first. -/
theorem readAll_cons :
    state.readAll (token :: tokens) = state.read token >>= fun next => next.readAll tokens :=
  List.foldlM_cons

/-- A run over two lists is a run over one and then over the other. -/
theorem readAll_append :
    state.readAll (first ++ second) = state.readAll first >>= fun next => next.readAll second :=
  List.foldlM_append

/-- A run goes on after a token that can be read. -/
theorem readAll_cons_of_ok (h : state.read token = .ok next) :
    state.readAll (token :: tokens) = next.readAll tokens := by
  rw [readAll_cons, h]
  rfl

/-- A run goes on after tokens that can be read. -/
theorem readAll_append_of_ok (h : state.readAll first = .ok next) :
    state.readAll (first ++ second) = next.readAll second := by
  rw [readAll_append, h]
  rfl

/-- A closing parenthesis releases the operators of its level and goes back to the one around. -/
theorem read_closing {level : List Operator} {levels : List (List Operator)}
    (h : state.enclosing = level :: levels) :
    state.read .closing = .ok ⟨release state.waiting state.written, level, levels⟩ := by
  simp [read, h]

/-- What is read between parentheses is written in full when they close. -/
theorem readAll_parentheses {last : Arrangement}
    (inner : (⟨state.written, [], state.waiting :: state.enclosing⟩ : Arrangement).readAll tokens =
      .ok last) (levels : last.enclosing = state.waiting :: state.enclosing) :
    state.readAll (.opening :: tokens ++ [.closing]) =
      .ok ⟨release last.waiting last.written, state.waiting, state.enclosing⟩ := by
  have opened : state.read .opening =
      .ok ⟨state.written, [], state.waiting :: state.enclosing⟩ := rfl
  rw [List.cons_append, readAll_cons_of_ok opened, readAll_append_of_ok inner,
    readAll_cons_of_ok (read_closing levels), readAll_nil]

/-- The postorder is what a run from the start leaves. -/
theorem postorder_eq_readAll (tokens : List Token) :
    postorder tokens = start.readAll tokens >>= finish := rfl

/-- The postorder of tokens whose run closes every level. -/
theorem postorder_of_readAll (h : start.readAll tokens = .ok next) (closed : next.enclosing = []) :
    postorder tokens = .ok (release next.waiting next.written).reverse := by
  rw [postorder_eq_readAll, h]
  exact if_pos closed

/-! ## Releasing operators -/

variable {operators : List Operator} {written earlier : List Token}

/-- No operator adds nothing. -/
@[simp]
theorem release_nil : release [] written = written := rfl

/-- The latest operator is released first. -/
theorem release_cons (op : Operator) :
    release (op :: operators) written = release operators (.operator op :: written) := by
  simp [release]

/-- Operators are released in the order of their list. -/
theorem release_append (others : List Operator) :
    release (operators ++ others) written = release others (release operators written) := by
  simp [release]

/-- Released operators follow whatever was written. -/
theorem release_written_append :
    release operators (written ++ earlier) = release operators written ++ earlier := by
  simp [release]

/-- An operator releases those that yield to it, up to the first that does not. -/
theorem exists_read_operator (state : Arrangement) (op : Operator) :
    ∃ pending base, state.waiting = pending ++ base ∧
      (∀ waiting ∈ pending, op.precedence ≤ waiting.precedence) ∧
      (∀ waiting, base.head? = some waiting → waiting.precedence < op.precedence) ∧
      state.read (.operator op) =
        .ok ⟨release pending state.written, op :: base, state.enclosing⟩ := by
  refine ⟨state.waiting.takeWhile (·.yieldsTo op), state.waiting.dropWhile (·.yieldsTo op),
    List.takeWhile_append_dropWhile.symm, fun waiting member => ?_, fun waiting top => ?_, rfl⟩
  · exact Operator.yieldsTo_iff.mp (List.all_eq_true.mp List.all_takeWhile waiting member)
  · have stays := List.head?_dropWhile_not (·.yieldsTo op) state.waiting
    rw [top] at stays
    exact Nat.not_le.mp (of_decide_eq_false stays)

/-- An operator releases the operators of its level down to those that all rank below it. -/
theorem read_operator (state : Arrangement) (op : Operator) (pending base : List Operator)
    (split : state.waiting = pending ++ base)
    (high : ∀ earlier ∈ pending, op.precedence ≤ earlier.precedence)
    (low : ∀ earlier ∈ base, earlier.precedence < op.precedence) :
    state.read (.operator op) =
      .ok ⟨release pending state.written, op :: base, state.enclosing⟩ := by
  have yields : ∀ earlier ∈ pending, earlier.yieldsTo op = true :=
    fun earlier member => Operator.yieldsTo_iff.mpr (high earlier member)
  have taken : state.waiting.takeWhile (·.yieldsTo op) = pending := by
    rw [split, List.takeWhile_append_of_pos yields]
    cases base with
    | nil => simp
    | cons earlier base =>
      have below := low earlier List.mem_cons_self
      simp [Operator.yieldsTo, below]
  have kept : state.waiting.dropWhile (·.yieldsTo op) = base := by
    rw [split, List.dropWhile_append_of_pos yields]
    cases base with
    | nil => rfl
    | cons earlier base =>
      have below := low earlier List.mem_cons_self
      simp [Operator.yieldsTo, below]
  simp only [read, taken, kept]

/-! ## What was written before -/

/-- A state with other tokens written before all of its own. -/
def after (state : Arrangement) (earlier : List Token) : Arrangement :=
  { state with written := state.written ++ earlier }

/-- What was written before is carried along by a token. -/
theorem read_after :
    (state.after earlier).read token = (state.read token).map (·.after earlier) := by
  cases token with
  | number text value => rfl
  | operator op => simp [read, after, Except.map, release_written_append]
  | opening => rfl
  | closing =>
    cases levels : state.enclosing with
    | nil => simp [read, after, levels, Except.map]
    | cons level levels' => simp [read, after, levels, Except.map, release_written_append]

/-- What was written before is carried along by a run. -/
theorem readAll_after :
    (state.after earlier).readAll tokens = (state.readAll tokens).map (·.after earlier) := by
  induction tokens generalizing state with
  | nil => rfl
  | cons token tokens ih =>
    rw [readAll_cons, readAll_cons, read_after]
    cases state.read token with
    | error error => rfl
    | ok next => exact ih

/-- What was written before stands first in the postorder. -/
theorem finish_after :
    (state.after earlier).finish = state.finish.map (earlier.reverse ++ ·) := by
  unfold finish
  by_cases closed : state.enclosing = []
  · simp [after, closed, Except.map, release_written_append]
  · simp [after, closed, Except.map]

/-- A run only adds to what was written. -/
theorem exists_written_of_readAll (h : state.readAll tokens = .ok next) :
    ∃ added, next.written = added ++ state.written := by
  have same : state = (⟨[], state.waiting, state.enclosing⟩ : Arrangement).after state.written := by
    simp [after]
  rw [same, readAll_after] at h
  cases fresh : (⟨[], state.waiting, state.enclosing⟩ : Arrangement).readAll tokens with
  | error error => simp [fresh, Except.map] at h
  | ok reached =>
    rw [fresh] at h
    obtain rfl := Except.ok.inj h
    exact ⟨reached.written, rfl⟩

/-! ## Numbers -/

variable {text : String} {value : Float}

/-- Operators are no numbers. -/
theorem number_mem_release :
    Token.number text value ∈ release operators written ↔ Token.number text value ∈ written := by
  simp [release]

/-- A token adds no number but itself. -/
theorem number_mem_of_read (h : state.read token = .ok next)
    (member : Token.number text value ∈ next.written) :
    Token.number text value ∈ state.written ∨ Token.number text value = token := by
  cases token with
  | number text' value' =>
    obtain rfl := Except.ok.inj h
    exact (List.mem_cons.mp member).symm
  | operator op =>
    obtain rfl := Except.ok.inj h
    exact .inl (number_mem_release.mp member)
  | opening =>
    obtain rfl := Except.ok.inj h
    exact .inl member
  | closing =>
    cases levels : state.enclosing with
    | nil => simp [read, levels] at h
    | cons level levels' =>
      simp only [read, levels, Except.ok.injEq] at h
      subst h
      exact .inl (number_mem_release.mp member)

/-- A run adds no numbers but those among its tokens. -/
theorem number_mem_of_readAll (h : state.readAll tokens = .ok next)
    (member : Token.number text value ∈ next.written) :
    Token.number text value ∈ state.written ∨ Token.number text value ∈ tokens := by
  induction tokens generalizing state with
  | nil =>
    obtain rfl := Except.ok.inj h
    exact .inl member
  | cons token tokens ih =>
    rw [readAll_cons] at h
    obtain ⟨middle, step, h⟩ := bind_eq_ok h
    rcases ih h with found | found
    · rcases number_mem_of_read step found with earlier | same
      · exact .inl earlier
      · exact .inr (same ▸ List.mem_cons_self)
    · exact .inr (List.mem_cons_of_mem token found)

/-! ## What encloses a run -/

/-- A state inside a level that was opened in another state. -/
def inside (state outer : Arrangement) : Arrangement :=
  ⟨state.written ++ outer.written, state.waiting,
    state.enclosing ++ outer.waiting :: outer.enclosing⟩

/-- A token that can be read on its own does the same inside another state. -/
theorem read_inside (outer : Arrangement) (h : state.read token = .ok next) :
    (state.inside outer).read token = .ok (next.inside outer) := by
  cases token with
  | number text value =>
    obtain rfl := Except.ok.inj h
    rfl
  | operator op =>
    obtain rfl := Except.ok.inj h
    simp [read, inside, release_written_append]
  | opening =>
    obtain rfl := Except.ok.inj h
    rfl
  | closing =>
    cases levels : state.enclosing with
    | nil => simp [read, levels] at h
    | cons level levels' =>
      simp only [read, levels, Except.ok.injEq] at h
      subst h
      simp [read, inside, levels, release_written_append]

/-- A run that is possible on its own does the same inside another state. -/
theorem readAll_inside (outer : Arrangement) (h : state.readAll tokens = .ok next) :
    (state.inside outer).readAll tokens = .ok (next.inside outer) := by
  induction tokens generalizing state with
  | nil =>
    obtain rfl := Except.ok.inj h
    rfl
  | cons token tokens ih =>
    rw [readAll_cons] at h
    obtain ⟨middle, step, h⟩ := bind_eq_ok h
    rw [readAll_cons_of_ok (read_inside outer step)]
    exact ih h

/-- Only a state whose levels are all closed has a postorder. -/
theorem finish_eq_ok {output : List Token} (h : state.finish = .ok output) :
    state.enclosing = [] ∧ output = (release state.waiting state.written).reverse := by
  unfold finish at h
  split at h
  · rename_i closed
    exact ⟨closed, (Except.ok.inj h).symm⟩
  · cases h

/-- Tokens with a postorder come to an end with every level closed. -/
theorem exists_readAll_of_postorder {output : List Token} (h : postorder tokens = .ok output) :
    ∃ last, start.readAll tokens = .ok last ∧ last.enclosing = [] ∧
      release last.waiting last.written = output.reverse := by
  rw [postorder_eq_readAll] at h
  obtain ⟨last, run, h⟩ := bind_eq_ok h
  obtain ⟨closed, same⟩ := finish_eq_ok h
  exact ⟨last, run, closed, by rw [same, List.reverse_reverse]⟩

/-- Between parentheses, tokens add their postorder and change nothing else. -/
theorem readAll_group {output : List Token} (h : postorder tokens = .ok output)
    (outer : Arrangement) : outer.readAll (.opening :: tokens ++ [.closing]) =
      .ok { outer with written := output.reverse ++ outer.written } := by
  obtain ⟨last, run, closed, released⟩ := exists_readAll_of_postorder h
  have inner := readAll_inside outer run
  rw [readAll_parentheses inner (by simp [inside, closed])]
  simp [inside, release_written_append, released]

end Arrangement

end Calculator
