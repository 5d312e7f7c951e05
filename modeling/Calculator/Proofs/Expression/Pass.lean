import Calculator.Expression.Pass
import Calculator.Proofs.Expression.Balance
import Mathlib.Data.List.Chain

/-!
# The operators on the stack

A pass with one stack goes through every state of the arrangement with levels
(`Arrangement.reaches_of_readAll`), and what it gives in the end is the postorder
(`Pass.postorder_eq_result`). Each of its steps keeps an invariant (`Pass.Step.keeps`): between
parentheses the operators on the stack rank higher towards its top, and there is an opening
parenthesis on it for every level that is open. As there are two ranks only, the open levels limit
how many tokens the stack can hold (`Pass.length_stack_le`).
-/

namespace Calculator

/-! ## The run of a pass -/

namespace Pass

variable {pass next other : Pass}

/-- There is one way to go on at most. -/
theorem Step.deterministic (step : pass.Step next) (another : pass.Step other) : next = other := by
  -- The next token decides the step, unless an operator on top of the stack yields to it; and to an
  -- operator that can wait none does.
  cases step with
  | number text value =>
    cases another with
    | number _ _ => rfl
    | release yields => exact yields.elim
  | release yields =>
    cases another with
    | number text value => exact yields.elim
    | release _ => rfl
    | wait low => exact absurd (low _ rfl) (Nat.not_lt.mpr yields)
    | enter => exact yields.elim
  | wait low =>
    cases another with
    | release yields => exact absurd (low _ rfl) (Nat.not_lt.mpr yields)
    | wait _ => rfl
  | enter =>
    cases another with
    | release yields => exact yields.elim
    | enter => rfl
  | leave =>
    cases another with
    | leave => rfl

/-- A pass that is over stays where it is. -/
theorem Over.eq_of_reaches (ended : pass.Over) (reaches : pass.Reaches next) : next = pass := by
  rcases reaches.cases_head with same | ⟨middle, step, -⟩
  · exact same.symm
  · exact absurd step (ended middle)

/-- A pass comes to one end at most. -/
theorem Over.unique (ended : next.Over) (endedOther : other.Over) (reaches : pass.Reaches next)
    (reachesOther : pass.Reaches other) : next = other := by
  have deterministic : Relator.RightUnique Step := fun _ _ _ step another =>
    step.deterministic another
  rcases Relation.ReflTransGen.total_of_right_unique deterministic reaches reachesOther with on | on
  · exact (ended.eq_of_reaches on).symm
  · exact endedOther.eq_of_reaches on

end Pass

namespace Arrangement

open Pass

variable {state next : Arrangement} {token : Token} {tokens : List Token} {op : Operator}

/-- An operator on top of the stack is the latest that waits at the current level. -/
theorem head?_waiting (h : state.stack.head? = some (.operator op)) :
    state.waiting.head? = some op := by
  cases waiting : state.waiting with
  | nil => cases levels : state.enclosing <;> simp [stack, waiting, levels] at h
  | cons top below => simpa [stack, waiting] using h

/-- Operators of the current level are released one by one. -/
theorem reaches_release {pending base : List Operator} (unread : List Token)
    (split : state.waiting = pending ++ base)
    (yields : ∀ waiting ∈ pending, Yields waiting unread) :
    (state.pass unread).Reaches
      ((⟨release pending state.written, base, state.enclosing⟩ : Arrangement).pass unread) := by
  induction pending generalizing state with
  | nil =>
    obtain rfl : state.waiting = base := split
    exact .refl
  | cons waiting pending ih =>
    obtain ⟨first, others⟩ := List.forall_mem_cons.mp yields
    let after : Arrangement :=
      ⟨.operator waiting :: state.written, pending ++ base, state.enclosing⟩
    have step : (state.pass unread).Step (after.pass unread) := by
      rw [Arrangement.pass, stack, split]
      exact .release first
    rw [release_cons]
    exact .head step (@ih after rfl others)

/-- All operators of the current level are released where the level or the pass ends. -/
theorem reaches_release_all (state : Arrangement) {unread : List Token}
    (yields : ∀ waiting, Yields waiting unread) :
    (state.pass unread).Reaches
      ((⟨release state.waiting state.written, [], state.enclosing⟩ : Arrangement).pass unread) :=
  reaches_release unread (List.append_nil state.waiting).symm fun waiting _ => yields waiting

/-- Reading a token takes steps of the pass. -/
theorem reaches_of_read (h : state.read token = .ok next) (unread : List Token) :
    (state.pass (token :: unread)).Reaches (next.pass unread) := by
  cases token with
  | number text value =>
    obtain rfl := Except.ok.inj h
    exact .single (.number text value)
  | operator op =>
    obtain ⟨pending, base, split, high, low, moved⟩ := state.exists_read_operator op
    rw [moved] at h
    obtain rfl := Except.ok.inj h
    have released := reaches_release (.operator op :: unread) split high
    -- Where releasing stopped, the operator on top is one that ranks below the next.
    exact released.tail (.wait fun waiting top => low waiting (head?_waiting top))
  | opening =>
    obtain rfl := Except.ok.inj h
    exact .single .enter
  | closing =>
    cases levels : state.enclosing with
    | nil => simp [read, levels] at h
    | cons level others =>
      rw [read_closing levels] at h
      obtain rfl := Except.ok.inj h
      have released := @reaches_release_all state (.closing :: unread) fun _ => trivial
      rw [levels] at released
      exact released.tail .leave

/-- Reading several tokens takes steps of the pass. -/
theorem reaches_of_readAll (h : state.readAll tokens = .ok next) (unread : List Token) :
    (state.pass (tokens ++ unread)).Reaches (next.pass unread) := by
  induction tokens generalizing state with
  | nil =>
    obtain rfl := Except.ok.inj h
    exact .refl
  | cons token tokens ih =>
    rw [readAll_cons] at h
    obtain ⟨middle, step, rest⟩ := bind_eq_ok h
    exact (reaches_of_read step (tokens ++ unread)).trans (ih rest)

/-- From any state the pass comes to an end, and gives what reading on gives. -/
theorem exists_over (state : Arrangement) (tokens : List Token) :
    ∃ last, (state.pass tokens).Reaches last ∧ last.Over ∧
      state.readAll tokens >>= finish = last.result := by
  induction tokens generalizing state with
  | nil =>
    have released := @reaches_release_all state [] fun _ => trivial
    refine ⟨_, released, ?_⟩
    -- A level that is still open is the only thing that can be left.
    cases levels : state.enclosing with
    | nil => exact ⟨nofun, if_pos levels⟩
    | cons level others =>
      refine ⟨nofun, if_neg ?_⟩
      rw [levels]
      exact List.cons_ne_nil level others
  | cons token tokens ih =>
    rw [readAll_cons]
    cases step : state.read token with
    | ok middle =>
      obtain ⟨last, reaches, ended, same⟩ := ih middle
      exact ⟨last, (reaches_of_read step tokens).trans reaches, ended, same⟩
    | error error =>
      obtain ⟨rfl, rfl, noLevel⟩ := read_eq_error step
      have released := @reaches_release_all state (.closing :: tokens) fun _ => trivial
      rw [noLevel] at released
      exact ⟨_, released, nofun, rfl⟩

end Arrangement

/-- What the pass over tokens gives in the end is their postorder. -/
theorem Pass.postorder_eq_result {tokens : List Token} {pass : Pass}
    (reached : (start tokens).Reaches pass) (ended : pass.Over) : postorder tokens = pass.result := by
  obtain ⟨last, reaches, endedLast, same⟩ := Arrangement.exists_over Arrangement.start tokens
  obtain rfl := Over.unique endedLast ended reaches reached
  exact same

/-! ## The invariant -/

namespace Token

/-- Whether a token on the stack may stand right above another one: an operator has to rank above an
operator below it. -/
def RanksAbove : Token → Token → Prop
  | .operator upper, .operator lower => lower.precedence < upper.precedence
  | _, _ => True

/-- An operator is no opening parenthesis. -/
theorem count_opening_operator (op : Operator) (tokens : List Token) :
    count .opening (.operator op :: tokens) = count .opening tokens := by
  cases op <;> simp [count_cons, kind]

end Token

namespace Pass

/-- What is true of the stack at every step of the pass over some tokens. -/
structure Invariant (tokens : List Token) (pass : Pass) : Prop where
  /-- Operators and opening parentheses are on the stack, and nothing else. -/
  waits : ∀ token ∈ pass.stack, token = .opening ∨ ∃ op, token = .operator op
  /-- Operators rank higher towards the top of their level. -/
  ascends : pass.stack.IsChain Token.RanksAbove
  /-- Of the tokens that were read, as many parentheses are on the stack as were opened and not
  closed. -/
  levels : ∃ read, tokens = read ++ pass.unread ∧
    Token.count .opening pass.stack + Token.count .closing read = Token.count .opening read

variable {pass next : Pass} {tokens stack : List Token} {operators : List Operator}

/-- The stack is empty at the beginning. -/
theorem Invariant.start (tokens : List Token) : Invariant tokens (start tokens) :=
  ⟨nofun, .nil, [], rfl, rfl⟩

/-- Every step keeps the invariant. -/
theorem Step.keeps (step : pass.Step next) (invariant : Invariant tokens pass) :
    Invariant tokens next := by
  obtain ⟨waits, ascends, read, same, levels⟩ := invariant
  cases step with
  | number text value =>
    refine ⟨waits, ascends, read ++ [.number text value], same.trans (List.append_cons ..), ?_⟩
    rw [Token.count_append, Token.count_append]
    exact levels
  | @release _ _ _ waiting _ =>
    rw [Token.count_opening_operator] at levels
    exact ⟨(List.forall_mem_cons.mp waits).2, ascends.tail, read, same, levels⟩
  | @wait _ stack _ op low =>
    refine ⟨List.forall_mem_cons.mpr ⟨.inr ⟨op, rfl⟩, waits⟩, List.isChain_cons.mpr ⟨?_, ascends⟩,
      read ++ [.operator op], same.trans (List.append_cons ..), ?_⟩
    · intro below top
      cases below with
      | operator waiting => exact low waiting top
      | number text value => trivial
      | opening => trivial
      | closing => trivial
    · rw [Token.count_opening_operator, Token.count_append, Token.count_append]
      cases op <;> exact levels
  | enter =>
    refine ⟨List.forall_mem_cons.mpr ⟨.inl rfl, waits⟩,
      List.isChain_cons.mpr ⟨fun _ _ => trivial, ascends⟩,
      read ++ [.opening], same.trans (List.append_cons ..), ?_⟩
    simp only [Token.count_append, Token.count_cons, Token.count_nil, Token.kind, reduceCtorEq,
      ↓reduceIte] at levels ⊢
    omega
  | leave =>
    refine ⟨(List.forall_mem_cons.mp waits).2, ascends.tail, read ++ [.closing],
      same.trans (List.append_cons ..), ?_⟩
    simp only [Token.count_append, Token.count_cons, Token.count_nil, Token.kind, reduceCtorEq,
      ↓reduceIte] at levels ⊢
    omega

/-- The invariant holds wherever a pass comes to. -/
theorem Invariant.of_reaches (reached : (Pass.start tokens).Reaches pass) :
    Invariant tokens pass := by
  induction reached with
  | refl => exact .start tokens
  | tail _ step ih => exact step.keeps ih

/-! ## The size of the stack -/

/-- Operators with no parenthesis between them rank higher towards the top. -/
theorem pairwise_of_infix (ascends : stack.IsChain Token.RanksAbove)
    (inside : operators.map Token.operator <:+: stack) :
    operators.Pairwise fun upper lower => lower.precedence < upper.precedence := by
  have tokens : (operators.map Token.operator).IsChain Token.RanksAbove :=
    List.IsChain.infix ascends inside
  have ranks : (operators.map Operator.precedence).IsChain (· > ·) :=
    (List.isChain_map Operator.precedence).mpr ((List.isChain_map Token.operator).mp tokens)
  exact List.pairwise_map.mp (List.isChain_iff_pairwise.mp ranks)

/-- There are two ranks, so two operators at most can rank one above the other. -/
theorem length_le_two
    (ranked : operators.Pairwise fun upper lower => lower.precedence < upper.precedence) :
    operators.length ≤ 2 := by
  rcases operators with _ | ⟨top, _ | ⟨middle, _ | ⟨bottom, below⟩⟩⟩
  · exact Nat.zero_le 2
  · exact Nat.le_succ 1
  · exact Nat.le_refl 2
  · obtain ⟨aboveAll, others⟩ := List.pairwise_cons.mp ranked
    have upper := aboveAll middle List.mem_cons_self
    have lower := (List.pairwise_cons.mp others).1 bottom List.mem_cons_self
    have least := bottom.one_le_precedence
    have greatest := top.precedence_lt_three
    omega

/-- The rank on top of the stack. -/
def topRank : List Token → Nat
  | .operator op :: _ => op.precedence
  | _ => 0

/-- There are two ranks. -/
theorem topRank_le (stack : List Token) : topRank stack ≤ 2 := by
  unfold topRank
  split
  · rename_i op _
    exact Nat.le_of_lt_succ op.precedence_lt_three
  · exact Nat.zero_le 2

/-- Above the latest open parenthesis there are no more operators than the rank on top tells, and
below it there are three tokens for a level at most. -/
theorem length_le_topRank (waits : ∀ token ∈ stack, token = .opening ∨ ∃ op, token = .operator op)
    (ascends : stack.IsChain Token.RanksAbove) :
    stack.length ≤ 3 * Token.count .opening stack + topRank stack := by
  -- From the bottom up: an operator adds one token and ranks at least one higher than what was on
  -- top, and a parenthesis counts for the two ranks that it hides and for itself.
  induction stack with
  | nil => exact Nat.zero_le _
  | cons token stack ih =>
    obtain ⟨first, others⟩ := List.forall_mem_cons.mp waits
    have shorter := ih others ascends.tail
    rw [List.length_cons]
    rcases first with rfl | ⟨op, rfl⟩
    · have rank := topRank_le stack
      simp only [Token.count_cons, Token.kind, ↓reduceIte, topRank]
      omega
    · have ranks : topRank stack < op.precedence := by
        unfold topRank
        split
        · rename_i waiting below
          exact (List.isChain_cons_cons.mp ascends).1
        · exact op.one_le_precedence
      rw [Token.count_opening_operator, topRank]
      omega

/-- The stack holds three tokens for every open parenthesis at most, and two more. -/
theorem length_stack_le (invariant : Invariant tokens pass) :
    pass.stack.length ≤ 3 * Token.count .opening pass.stack + 2 :=
  Nat.le_trans (length_le_topRank invariant.waits invariant.ascends)
    (Nat.add_le_add_left (topRank_le pass.stack) _)

/-- A pass goes through every state that reading comes to, and gives the postorder in the end. At
every step operators and opening parentheses are on the stack and nothing else. Operators with no
parenthesis between them rank higher towards the top, so there are two of them at most. The
parentheses on the stack are as many as were opened and not closed, and the stack holds three tokens
for each of them at most, and two more. -/
theorem operators_ascend (tokens : List Token) :
    (∀ read unread state, tokens = read ++ unread → Arrangement.start.readAll read = .ok state →
      (start tokens).Reaches (state.pass unread)) ∧
    ∀ pass, (start tokens).Reaches pass →
      (pass.Over → postorder tokens = pass.result) ∧
      (∀ token ∈ pass.stack, token = .opening ∨ ∃ op, token = .operator op) ∧
      (∀ operators : List Operator, operators.map Token.operator <:+: pass.stack →
        (operators.Pairwise fun upper lower => lower.precedence < upper.precedence) ∧
          operators.length ≤ 2) ∧
      (∃ read, tokens = read ++ pass.unread ∧
        Token.count .opening pass.stack + Token.count .closing read = Token.count .opening read) ∧
      pass.stack.length ≤ 3 * Token.count .opening pass.stack + 2 := by
  constructor
  · rintro read unread state rfl run
    exact Arrangement.reaches_of_readAll run unread
  · intro pass reached
    have invariant := Invariant.of_reaches reached
    refine ⟨postorder_eq_result reached, invariant.waits, fun operators inside => ?_,
      invariant.levels, length_stack_le invariant⟩
    have ranked := pairwise_of_infix invariant.ascends inside
    exact ⟨ranked, length_le_two ranked⟩

/-- With two parentheses open the stack can hold eight tokens. None of them closes, so the pass is
over when the operators of the innermost level are written. -/
theorem operators_ascend_when_full :
    let tokens : List Token :=
      [.operator (.binary .add), .operator (.binary .multiply), .opening,
        .operator (.binary .subtract), .operator (.binary .divide), .opening,
        .operator (.binary .add), .operator .squareRoot]
    let full : Arrangement := ⟨[], [.squareRoot, .binary .add],
      [[.binary .divide, .binary .subtract], [.binary .multiply, .binary .add]]⟩
    Arrangement.start.readAll tokens = .ok full ∧ (start tokens).Reaches (full.pass []) ∧
      full.stack.length = 3 * 2 + 2 ∧ full.stack.length ≤ 3 * Token.count .opening full.stack + 2 ∧
      Operator.precedence (.binary .add) < Operator.precedence .squareRoot ∧
      postorder tokens = .error .mismatchedParenthesis := by
  intro tokens full
  obtain ⟨states, passes⟩ := operators_ascend tokens
  have run : Arrangement.start.readAll tokens = .ok full := rfl
  have reached : (start tokens).Reaches (full.pass []) :=
    states tokens [] full (List.append_nil tokens).symm run
  obtain ⟨-, -, ranked, -, short⟩ := passes (full.pass []) reached
  have two : [Operator.squareRoot, .binary .add].Pairwise fun upper lower =>
      lower.precedence < upper.precedence := (ranked _ ⟨[], _, rfl⟩).1
  have last : (start tokens).Reaches
      ⟨[.operator (.binary .add), .operator .squareRoot], _, []⟩ :=
    (reached.tail (.release trivial)).tail (.release trivial)
  exact ⟨run, reached, rfl, short, List.rel_of_pairwise_cons two List.mem_cons_self,
    (passes _ last).1 nofun⟩

end Pass

end Calculator
