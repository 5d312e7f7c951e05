import Calculator.Expression.Balance
import Calculator.Proofs.Expression.Arrangement

/-!
# What becomes of the tokens

The levels that are open after some tokens are the parentheses that were opened and not closed
(`depth_of_readAll`), so tokens have a postorder exactly when their parentheses are balanced
(`exists_postorder_iff`), and they are refused for no other cause. Every token that is no
parenthesis is written or waits at some level (`perm_of_readAll`), so the postorder is an
arrangement of exactly these tokens (`perm_of_postorder`).
-/

namespace Calculator

namespace Arrangement

variable {state next : Arrangement} {token : Token} {tokens : List Token} {error : EvaluationError}

/-! ## Open levels -/

/-- A token opens a level, closes one or leaves their number alone. -/
theorem depth_of_read (h : state.read token = .ok next) :
    next.enclosing.length + Token.count .closing [token] =
      state.enclosing.length + Token.count .opening [token] := by
  cases token with
  | number text value =>
    obtain rfl := Except.ok.inj h
    rfl
  | operator op =>
    obtain rfl := Except.ok.inj h
    cases op <;> rfl
  | opening =>
    obtain rfl := Except.ok.inj h
    rfl
  | closing =>
    cases levels : state.enclosing with
    | nil => simp [read, levels] at h
    | cons level others =>
      rw [read_closing levels] at h
      obtain rfl := Except.ok.inj h
      rfl

/-- Levels are opened and closed by parentheses alone. -/
theorem depth_of_readAll (h : state.readAll tokens = .ok next) :
    next.enclosing.length + Token.count .closing tokens =
      state.enclosing.length + Token.count .opening tokens := by
  induction tokens generalizing state with
  | nil =>
    obtain rfl := Except.ok.inj h
    rfl
  | cons token tokens ih =>
    rw [readAll_cons] at h
    obtain ⟨middle, step, rest⟩ := bind_eq_ok h
    have first := depth_of_read step
    have others := ih rest
    rw [← List.singleton_append, Token.count_append, Token.count_append]
    omega

/-- Only a parenthesis that closes no level cannot be read. -/
theorem read_eq_error (h : state.read token = .error error) :
    error = .mismatchedParenthesis ∧ token = .closing ∧ state.enclosing = [] := by
  cases token with
  | number text value => cases h
  | operator op => cases h
  | opening => cases h
  | closing =>
    cases levels : state.enclosing with
    | nil =>
      simp only [read, levels, Except.error.injEq] at h
      exact ⟨h.symm, rfl, rfl⟩
    | cons level others =>
      rw [read_closing levels] at h
      cases h

/-- Tokens are refused for their parentheses only. -/
theorem readAll_eq_error (h : state.readAll tokens = .error error) :
    error = .mismatchedParenthesis := by
  induction tokens generalizing state with
  | nil => cases h
  | cons token tokens ih =>
    rw [readAll_cons] at h
    cases step : state.read token with
    | error cause =>
      rw [step] at h
      obtain rfl := Except.error.inj h
      exact (read_eq_error step).1
    | ok middle =>
      rw [step] at h
      exact ih h

/-- A postorder is refused at the end for an open level only. -/
theorem finish_eq_error (h : state.finish = .error error) :
    error = .mismatchedParenthesis := by
  unfold finish at h
  split at h
  · cases h
  · exact (Except.error.inj h).symm

/-- Tokens can be read when none of them closes more levels than are open. -/
theorem exists_readAll_iff :
    (∃ next, state.readAll tokens = .ok next) ↔
      ∀ first, first <+: tokens →
        Token.count .closing first ≤ state.enclosing.length + Token.count .opening first := by
  constructor
  · rintro ⟨next, run⟩ first ⟨rest, rfl⟩
    rw [readAll_append] at run
    obtain ⟨middle, start, -⟩ := bind_eq_ok run
    have depth := depth_of_readAll start
    omega
  · intro enough
    induction tokens generalizing state with
    | nil => exact ⟨state, rfl⟩
    | cons token tokens ih =>
      have alone := enough [token] (List.prefix_append [token] tokens)
      cases step : state.read token with
      | error cause =>
        obtain ⟨-, rfl, noLevel⟩ := read_eq_error step
        rw [noLevel] at alone
        exact absurd alone (by decide)
      | ok middle =>
        have depth := depth_of_read step
        rw [readAll_cons_of_ok step]
        refine ih fun first inside => ?_
        have both := enough (token :: first) (List.cons_prefix_cons.mpr ⟨rfl, inside⟩)
        rw [← List.singleton_append, Token.count_append, Token.count_append] at both
        omega

/-! ## Tokens on their way -/

/-- The tokens that were written, and those that wait at any level. -/
def held (state : Arrangement) : List Token :=
  state.written ++ (state.waiting ++ state.enclosing.flatten).map Token.operator

/-- Releasing operators writes them and nothing else. -/
theorem perm_release (operators : List Operator) (written : List Token) :
    (release operators written).Perm (written ++ operators.map Token.operator) :=
  ((List.reverse_perm _).append_right _).trans List.perm_append_comm

/-- A token is held after it was read, unless it is a parenthesis. -/
theorem perm_of_read (h : state.read token = .ok next) :
    next.held.Perm (state.held ++ [token].filter (!·.isParenthesis)) := by
  cases token with
  | number text value =>
    obtain rfl := Except.ok.inj h
    exact (List.perm_append_singleton (Token.number text value) state.held).symm
  | operator op =>
    obtain ⟨pending, base, split, -, -, moved⟩ := state.exists_read_operator op
    rw [moved] at h
    obtain rfl := Except.ok.inj h
    have kept : [Token.operator op].filter (!·.isParenthesis) = [Token.operator op] := by
      cases op <;> rfl
    have released := perm_release pending state.written
    have before : state.held = state.written ++ pending.map Token.operator ++
        (base ++ state.enclosing.flatten).map Token.operator := by
      rw [held, split, List.append_assoc pending, List.map_append, List.append_assoc]
    rw [kept, before]
    exact (released.append_right _).trans
      (List.perm_middle.trans (List.perm_append_singleton _ _).symm)
  | opening =>
    obtain rfl := Except.ok.inj h
    simp [held, Token.isParenthesis, Token.kind]
  | closing =>
    cases levels : state.enclosing with
    | nil => simp [read, levels] at h
    | cons level others =>
      rw [read_closing levels] at h
      obtain rfl := Except.ok.inj h
      have dropped : [Token.closing].filter (!·.isParenthesis) = [] := rfl
      have before : state.held = state.written ++ state.waiting.map Token.operator ++
          (level ++ others.flatten).map Token.operator := by
        rw [held, levels, List.flatten_cons, List.map_append, List.append_assoc]
      rw [dropped, List.append_nil, before]
      exact (perm_release state.waiting state.written).append_right _

/-- All tokens that were read are held, the parentheses apart. -/
theorem perm_of_readAll (h : state.readAll tokens = .ok next) :
    next.held.Perm (state.held ++ tokens.filter (!·.isParenthesis)) := by
  induction tokens generalizing state with
  | nil =>
    obtain rfl := Except.ok.inj h
    rw [List.filter_nil, List.append_nil]
  | cons token tokens ih =>
    rw [readAll_cons] at h
    obtain ⟨middle, step, rest⟩ := bind_eq_ok h
    have others := (ih rest).trans ((perm_of_read step).append_right _)
    rw [List.append_assoc, ← List.filter_append, List.singleton_append] at others
    exact others

end Arrangement

/-! ## The postorder -/

variable {tokens output : List Token} {error : EvaluationError}

/-- Tokens have a postorder exactly when their parentheses are balanced. -/
theorem exists_postorder_iff : (∃ output, postorder tokens = .ok output) ↔ Balanced tokens := by
  constructor
  · rintro ⟨output, ordered⟩
    obtain ⟨last, run, closed, -⟩ := Arrangement.exists_readAll_of_postorder ordered
    have depth := Arrangement.depth_of_readAll run
    have enough := Arrangement.exists_readAll_iff.mp ⟨last, run⟩
    rw [closed] at depth
    simp only [Arrangement.start, List.length_nil, Nat.zero_add] at depth enough
    exact ⟨enough, depth.symm⟩
  · rintro ⟨enough, total⟩
    obtain ⟨last, run⟩ := Arrangement.exists_readAll_iff.mpr
      (fun first inside => Nat.le_add_left_of_le (enough first inside) :
        ∀ first, first <+: tokens → Token.count .closing first ≤
          Arrangement.start.enclosing.length + Token.count .opening first)
    have depth := Arrangement.depth_of_readAll run
    have closed : last.enclosing = [] := by
      apply List.eq_nil_of_length_eq_zero
      simp only [Arrangement.start, List.length_nil] at depth
      omega
    exact ⟨_, Arrangement.postorder_of_readAll run closed⟩

/-- Tokens without a postorder are refused for their parentheses. -/
theorem postorder_eq_error_iff :
    postorder tokens = .error error ↔ error = .mismatchedParenthesis ∧ ¬ Balanced tokens := by
  have cause : ∀ {other}, postorder tokens = .error other → other = .mismatchedParenthesis := by
    intro other refused
    rw [Arrangement.postorder_eq_readAll] at refused
    cases run : Arrangement.start.readAll tokens with
    | error earlier =>
      rw [run] at refused
      obtain rfl := Except.error.inj refused
      exact Arrangement.readAll_eq_error run
    | ok last =>
      rw [run] at refused
      exact Arrangement.finish_eq_error refused
  rw [← exists_postorder_iff]
  constructor
  · intro refused
    refine ⟨cause refused, ?_⟩
    rintro ⟨output, ordered⟩
    rw [ordered] at refused
    cases refused
  · rintro ⟨rfl, unordered⟩
    cases ordered : postorder tokens with
    | ok output => exact absurd ⟨output, ordered⟩ unordered
    | error other => rw [cause ordered]

/-- The postorder consists of the tokens that are no parentheses. -/
theorem perm_of_postorder (h : postorder tokens = .ok output) :
    output.Perm (tokens.filter (!·.isParenthesis)) := by
  obtain ⟨last, run, closed, released⟩ := Arrangement.exists_readAll_of_postorder h
  have held := Arrangement.perm_of_readAll run
  have out : last.held.Perm output := by
    have reversed := Arrangement.perm_release last.waiting last.written
    rw [released] at reversed
    rw [Arrangement.held, closed, List.flatten_nil, List.append_nil]
    exact reversed.symm.trans (List.reverse_perm output)
  exact out.symm.trans held

/-- No parenthesis is left in the postorder. -/
theorem isParenthesis_of_mem_postorder (h : postorder tokens = .ok output) {token : Token}
    (member : token ∈ output) : token.isParenthesis = false := by
  have kept := (perm_of_postorder h).mem_iff.mp member
  simpa using (List.mem_filter.mp kept).2

/-- The postorder has as many tokens of every kind as there were, parentheses apart. -/
theorem count_postorder (h : postorder tokens = .ok output) (kind : Token.Kind)
    (opening : kind ≠ .opening) (closing : kind ≠ .closing) :
    Token.count kind output = Token.count kind tokens := by
  have same := (perm_of_postorder h).countP_eq (·.kind == kind)
  rw [List.countP_filter] at same
  rw [Token.count, same, Token.count]
  apply List.countP_congr
  intro token _
  cases found : token.kind <;> simp [Token.isParenthesis, found, opening.symm, closing.symm]

end Calculator
