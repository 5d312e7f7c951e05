import Calculator.Expression.Tree
import Calculator.Proofs.Expression.Depth
import Calculator.Proofs.Expression.Evaluation

/-!
# Square roots after an operator of their rank

A square root right after `*`, `/` or another square root has this operator carried out before
its own operand is there. Whether the operator then finds its operands depends on what was
written before the product that it belongs to: if that is any number at all, its value is still
on the stack and is taken instead, and the sentence has a value; if only opening parentheses and
square roots stand before the product (`RunsDry`), the stack underflows.

The invariant of a run over a sentence (`Outcome`) counts the values on the stack that no
waiting operator keeps: `depth` before a phrase, one more after it. Operands can only be lacking
where `depth` is zero.
-/

namespace Calculator

/-- A square root stands right after an operator of its rank. -/
def HasMisplacedRoot (tokens : List Token) : Prop :=
  ∃ before op after, tokens = before ++ Token.operator op :: Token.operator .squareRoot :: after ∧
    op ∈ [Operator.binary .multiply, .binary .divide, .squareRoot]

/-- A square root stands right after an operator of its rank, and before the product that they
belong to there are only opening parentheses and square roots. -/
inductive RunsDry : List Token → Prop where
  /-- The product starts with two square roots. -/
  | roots (after : List Token) :
    RunsDry (.operator .squareRoot :: .operator .squareRoot :: after)
  /-- A multiplicative operator between the operands so far and a square root. -/
  | multiplicative {left : List Token} (op : BinaryOperator) (after : List Token) :
    op.isAdditive = false → Sentence .product left →
      RunsDry (left ++ .operator (.binary op) :: .operator .squareRoot :: after)
  /-- The product lies inside a group. -/
  | opening {tokens : List Token} : RunsDry tokens → RunsDry (.opening :: tokens)
  /-- The product lies inside the operand of a square root. -/
  | behindRoot {tokens : List Token} : RunsDry tokens → RunsDry (.operator .squareRoot :: tokens)

/-- Tokens after those that run dry do not matter. -/
theorem RunsDry.append {tokens : List Token} (h : RunsDry tokens) (more : List Token) :
    RunsDry (tokens ++ more) := by
  induction h with
  | roots after => exact .roots (after ++ more)
  | multiplicative op after kind left =>
    rw [List.append_assoc]
    exact .multiplicative op (after ++ more) kind left
  | opening _ ih => exact .opening ih
  | behindRoot _ ih => exact .behindRoot ih

namespace Arrangement

variable {phrase : Phrase} {tokens left right : List Token} {state next : Arrangement}
  {pending base : List Operator} {depth rank : Nat}

/-- Tokens that can be read in any state and close the levels that they open. -/
def Readable (tokens : List Token) : Prop :=
  ∀ state : Arrangement, ∃ next, state.readAll tokens = .ok next ∧ next.enclosing = state.enclosing

/-- An operator can be read between tokens that can be read. -/
theorem Readable.operator (readLeft : Readable left) (readRight : Readable right) (op : Operator) :
    Readable (left ++ .operator op :: right) := by
  intro state
  obtain ⟨middle, run, levels⟩ := readLeft state
  have step : ∃ after, middle.read (.operator op) = .ok after ∧
      after.enclosing = middle.enclosing := ⟨_, rfl, rfl⟩
  obtain ⟨after, step, stepLevels⟩ := step
  obtain ⟨next, rest, restLevels⟩ := readRight after
  refine ⟨next, ?_, restLevels.trans (stepLevels.trans levels)⟩
  rw [readAll_append_of_ok run, readAll_cons_of_ok step, rest]

/-- Every phrase can be read in any state. -/
theorem readable_of_sentence (sentence : Sentence phrase tokens) : Readable tokens := by
  induction sentence with
  | number text value => exact fun state => ⟨_, rfl, rfl⟩
  | group _ ih =>
    intro state
    obtain ⟨last, run, levels⟩ := ih ⟨state.written, [], state.waiting :: state.enclosing⟩
    exact ⟨_, readAll_parentheses run levels, rfl⟩
  | operand _ ih => exact ih
  | root _ ih =>
    have nothing : Readable [] := fun state => ⟨state, rfl, rfl⟩
    exact nothing.operator ih .squareRoot
  | product _ ih => exact ih
  | multiplicative op _ _ _ ihLeft ihRight => exact ihLeft.operator ihRight (.binary op)
  | sum _ ih => exact ih
  | additive op _ _ _ ihLeft ihRight => exact ihLeft.operator ihRight (.binary op)

/-- Lacking operands stays so for a whole run. -/
theorem underflows_of_readAll (h : Underflows state.written)
    (run : state.readAll tokens = .ok next) :
    Underflows next.written := by
  obtain ⟨added, same⟩ := exists_written_of_readAll run
  rw [same]
  exact h.append added

/-! ## The invariant -/

/-- Why a phrase may lack operands when nothing is on the stack that no operator keeps: it starts
with a square root that releases an operator, or it runs dry by itself on an empty stack. -/
def Dry (pending : List Operator) (tokens : List Token) : Prop :=
  (pending ≠ [] ∧ ∃ rest, tokens = .operator .squareRoot :: rest) ∨
    (heldBy pending = 0 ∧ RunsDry tokens)

/-- What a run over a phrase comes to: one value more, once the operators of at least a rank that
wait on top of `base` are released, or a lack of operands that has its reason. -/
inductive Outcome (state : Arrangement) (tokens : List Token) (pending base : List Operator)
    (depth rank : Nat) : Prop where
  /-- The phrase adds its value. -/
  | adds (written : List Token) (waiting : List Operator) :
    state.readAll tokens = .ok ⟨written, waiting ++ base, state.enclosing⟩ →
      (∀ op ∈ waiting, rank ≤ op.precedence) → Leaves written (depth + 1 + heldBy waiting) →
      Outcome state tokens pending base depth rank
  /-- An operator of the phrase, or one before it, lacks operands. -/
  | lacks (next : Arrangement) :
    state.readAll tokens = .ok next → next.enclosing = state.enclosing →
      Underflows next.written → depth = 0 → Dry pending tokens →
      Outcome state tokens pending base depth rank

/-- The operators that may wait on top of the others before a phrase: none before a sum, only
square roots before a product, and any of the higher rank before an operand or a factor. -/
def Ready : Phrase → List Operator → List Operator → Prop
  | .sum, pending, base => pending = [] ∧ base = []
  | .product, pending, base => heldBy pending = 0 ∧ (∀ op ∈ pending, 2 ≤ op.precedence) ∧
      ∀ op ∈ base, op.precedence < 2
  | .operand, pending, base | .factor, pending, base =>
    (∀ op ∈ pending, 2 ≤ op.precedence) ∧ ∀ op ∈ base, op.precedence < 2

/-- The least rank of the operators that may wait after a phrase. -/
def leastRank : Phrase → Nat
  | .sum => 1
  | .product | .operand | .factor => 2

/-- The rank of the operators that wait may be understated. -/
theorem Outcome.mono {lower : Nat} (h : state.Outcome tokens pending base depth rank)
    (le : lower ≤ rank) : state.Outcome tokens pending base depth lower := by
  cases h with
  | adds written waiting run high leaves =>
    exact .adds written waiting run (fun op member => Nat.le_trans le (high op member)) leaves
  | lacks next run levels underflows empty dry => exact .lacks next run levels underflows empty dry

/-- A number is one value more. -/
theorem outcome_number (split : state.waiting = pending ++ base)
    (high : ∀ op ∈ pending, 2 ≤ op.precedence)
    (leaves : Leaves state.written (depth + heldBy pending)) (text : String) (value : Float) :
    state.Outcome [.number text value] pending base depth 2 := by
  refine .adds (.number text value :: state.written) pending ?_ high ?_
  · rw [← split]
    rfl
  · rw [Nat.add_right_comm]
    exact leaves.number text value

/-- A group leaves one value, and lacks operands only if what is inside does so on an empty
stack. -/
theorem outcome_group (split : state.waiting = pending ++ base)
    (high : ∀ op ∈ pending, 2 ≤ op.precedence)
    (inner : (⟨state.written, [], state.waiting :: state.enclosing⟩ : Arrangement).Outcome tokens
      [] [] (depth + heldBy pending) 1) :
    state.Outcome (.opening :: tokens ++ [.closing]) pending base depth 2 := by
  cases inner with
  | adds written waiting run _ leaves =>
    refine .adds (release waiting written) pending ?_ high ?_
    · rw [readAll_parentheses run rfl, ← split, List.append_nil]
    · rw [Nat.add_right_comm]
      exact leaves.release (by omega)
  | lacks next run levels underflows empty dry =>
    refine .lacks _ (readAll_parentheses run levels) rfl (underflows.release next.waiting)
      (by omega) (.inr ⟨by omega, ?_⟩)
    rcases dry with ⟨absent, -⟩ | ⟨-, dry⟩
    · exact absurd rfl absent
    · exact (RunsDry.opening dry).append [.closing]

/-- A square root releases the operators of its rank. Its operand is read with the root waiting. -/
theorem outcome_root (sentence : Sentence .operand tokens) (split : state.waiting = pending ++ base)
    (high : ∀ op ∈ pending, 2 ≤ op.precedence) (low : ∀ op ∈ base, op.precedence < 2)
    (leaves : Leaves state.written (depth + heldBy pending))
    (operand : ∀ state : Arrangement, state.waiting = [.squareRoot] ++ base →
      Leaves state.written depth → state.Outcome tokens [.squareRoot] base depth 2) :
    state.Outcome (.operator .squareRoot :: tokens) pending base depth 2 := by
  have step := read_operator state .squareRoot pending base split high low
  by_cases enough : 1 ≤ depth ∨ pending = []
  · have settled : Leaves (release pending state.written) depth := by
      rcases enough with enough | rfl
      · exact leaves.release enough
      · exact leaves
    cases operand ⟨release pending state.written, .squareRoot :: base, state.enclosing⟩ rfl
      settled with
    | adds written waiting run waitingHigh added =>
      exact .adds written waiting (by rw [readAll_cons_of_ok step, run]) waitingHigh added
    | lacks next run levels underflows empty dry =>
      have none : pending = [] := enough.resolve_left (by omega)
      subst none
      refine .lacks next (by rw [readAll_cons_of_ok step, run]) levels underflows empty
        (.inr ⟨rfl, ?_⟩)
      rcases dry with ⟨-, rest, rfl⟩ | ⟨-, dry⟩
      · exact .roots rest
      · exact .behindRoot dry
  · obtain ⟨empty, nonempty⟩ := not_or.mp enough
    have zero : depth = 0 := by omega
    subst zero
    rw [Nat.zero_add] at leaves
    obtain ⟨next, run, levels⟩ := readable_of_sentence sentence
      ⟨release pending state.written, .squareRoot :: base, state.enclosing⟩
    exact .lacks next (by rw [readAll_cons_of_ok step, run]) levels
      (underflows_of_readAll (leaves.underflows_release nonempty) run) rfl
      (.inl ⟨nonempty, tokens, rfl⟩)

/-- The reason why a phrase lacks operands lies at its front. -/
theorem Dry.append (h : Dry pending tokens) (more : List Token) : Dry pending (tokens ++ more) := by
  rcases h with ⟨nonempty, rest, rfl⟩ | ⟨held, dry⟩
  · exact .inl ⟨nonempty, rest ++ more, rfl⟩
  · exact .inr ⟨held, dry.append more⟩

/-- An operator completes the phrase before it, which then is one value; or this phrase lacks
operands, and so does all that goes on from it. -/
theorem Outcome.operator (op : Operator) (before : state.Outcome left pending base depth rank)
    (rank_le : op.precedence ≤ rank) (low : ∀ earlier ∈ base, earlier.precedence < op.precedence)
    (readable : Readable right) (lower : Nat) :
    (∃ written, Leaves written (depth + 1) ∧
      state.readAll (left ++ .operator op :: right) =
        (⟨written, op :: base, state.enclosing⟩ : Arrangement).readAll right) ∨
    state.Outcome (left ++ .operator op :: right) pending base depth lower := by
  cases before with
  | adds written waiting run high leaves =>
    refine .inl ⟨release waiting written, leaves.release (by omega), ?_⟩
    have step := read_operator ⟨written, waiting ++ base, state.enclosing⟩ op waiting base rfl
      (fun earlier member => Nat.le_trans rank_le (high earlier member)) low
    rw [readAll_append_of_ok run, readAll_cons_of_ok step]
  | lacks middle run levels underflows empty dry =>
    have nothing : Readable [] := fun state => ⟨state, rfl, rfl⟩
    obtain ⟨next, rest, restLevels⟩ := (nothing.operator readable op) middle
    exact .inr (.lacks next (by rw [readAll_append_of_ok run]; exact rest)
      (restLevels.trans levels) (underflows_of_readAll underflows rest) empty (dry.append _))

/-- A multiplicative operator keeps the value of the product before it while the operand after it
is read. This operand may release the operator, and only a square root at its front does. -/
theorem outcome_multiplicative {op : BinaryOperator} (kind : op.isAdditive = false)
    (held : heldBy pending = 0) (low : ∀ earlier ∈ base, earlier.precedence < 2)
    (sentenceLeft : Sentence .product left) (sentenceRight : Sentence .operand right)
    (before : state.Outcome left pending base depth 2)
    (operand : ∀ state : Arrangement, state.waiting = [.binary op] ++ base →
      Leaves state.written (depth + 1) → state.Outcome right [.binary op] base depth 2) :
    state.Outcome (left ++ .operator (.binary op) :: right) pending base depth 2 := by
  have rank := Operator.precedence_of_not_isAdditive kind
  have readable := readable_of_sentence sentenceRight
  rcases before.operator (.binary op) (Nat.le_of_eq rank) (by rw [rank]; exact low) readable 2 with
    ⟨written, one, run⟩ | outcome
  · cases operand ⟨written, .binary op :: base, state.enclosing⟩ rfl one with
    | adds written waiting rest high leaves =>
      exact .adds written waiting (run.trans rest) high leaves
    | lacks next rest levels underflows empty dry =>
      refine .lacks next (run.trans rest) levels underflows empty (.inr ⟨held, ?_⟩)
      rcases dry with ⟨-, after, rfl⟩ | ⟨none, -⟩
      · exact .multiplicative op after kind sentenceLeft
      · exact absurd none (Nat.one_ne_zero)
  · exact outcome

/-- An additive operator keeps the value of the sum before it, and no operand of the product after
it can do without this operator, so this product finds all of its operands. -/
theorem outcome_additive {op : BinaryOperator} (kind : op.isAdditive = true)
    (sentenceRight : Sentence .product right) (before : state.Outcome left [] [] depth 1)
    (product : ∀ state : Arrangement, state.waiting = [.binary op] →
      Leaves state.written (depth + 1) → state.Outcome right [] [.binary op] (depth + 1) 2) :
    state.Outcome (left ++ .operator (.binary op) :: right) [] [] depth 1 := by
  have rank := Operator.precedence_of_isAdditive kind
  have readable := readable_of_sentence sentenceRight
  rcases before.operator (.binary op) (Nat.le_of_eq rank) (by simp) readable 1 with
    ⟨written, one, run⟩ | outcome
  · cases product ⟨written, [.binary op], state.enclosing⟩ rfl one with
    | adds written waiting rest high leaves =>
      refine .adds written (waiting ++ [.binary op]) ?_ ?_ ?_
      · rw [run, rest, List.append_nil]
      · exact fun op _ => op.one_le_precedence
      · rwa [heldBy_append, ← Nat.add_assoc, Nat.add_right_comm]
    | lacks next rest levels underflows empty dry => exact absurd empty (Nat.succ_ne_zero depth)
  · exact outcome

/-- What a run over a phrase comes to, in every state that is ready for it. -/
theorem outcome_of_sentence (sentence : Sentence phrase tokens) (ready : Ready phrase pending base)
    (split : state.waiting = pending ++ base)
    (leaves : Leaves state.written (depth + heldBy pending)) :
    state.Outcome tokens pending base depth (leastRank phrase) := by
  -- The state is general: a right operand is read with its operator waiting.
  induction sentence generalizing state pending base depth with
  | number text value => exact outcome_number split ready.1 leaves text value
  | group _ ih => exact outcome_group split ready.1 (ih ⟨rfl, rfl⟩ rfl leaves)
  | operand _ ih => exact ih ready split leaves
  | root sentence ih =>
    refine outcome_root sentence split ready.1 ready.2 leaves fun state waiting depth => ?_
    exact ih ⟨by simp [Operator.precedence], ready.2⟩ waiting depth
  | product _ ih => exact ih ready.2 split leaves
  | multiplicative op kind sentenceLeft sentenceRight ihLeft ihRight =>
    have rank := Operator.precedence_of_not_isAdditive kind
    refine outcome_multiplicative kind ready.1 ready.2.2 sentenceLeft sentenceRight
      (ihLeft ready split leaves) fun state waiting depth => ?_
    exact ihRight ⟨by simp [rank], ready.2.2⟩ waiting depth
  | sum _ ih =>
    obtain ⟨rfl, rfl⟩ := ready
    exact (ih ⟨rfl, by simp, by simp⟩ split leaves).mono (by decide)
  | additive op kind _ sentenceRight ihLeft ihRight =>
    have rank := Operator.precedence_of_isAdditive kind
    obtain ⟨rfl, rfl⟩ := ready
    refine outcome_additive kind sentenceRight (ihLeft ⟨rfl, rfl⟩ split leaves)
      fun state waiting depth => ?_
    exact ihRight ⟨rfl, by simp, by simp [rank]⟩ waiting depth

/-! ## Running dry -/

/-- Square roots keep no values. -/
theorem heldBy_eq_zero {operators : List Operator} (roots : ∀ op ∈ operators, op = .squareRoot) :
    heldBy operators = 0 := by
  induction operators with
  | nil => rfl
  | cons op operators ih =>
    obtain rfl := roots op List.mem_cons_self
    have others : heldBy operators = 0 :=
      ih fun other member => roots other (List.mem_cons_of_mem _ member)
    exact (Nat.zero_add _).trans others

/-- Where only square roots wait, a square root releases all of them. -/
theorem read_root (roots : ∀ op ∈ state.waiting, op = .squareRoot) :
    state.read (.operator .squareRoot) =
      .ok ⟨release state.waiting state.written, [.squareRoot], state.enclosing⟩ :=
  read_operator state .squareRoot state.waiting [] (List.append_nil _).symm
    (fun op member => Nat.le_of_eq (congrArg Operator.precedence (roots op member).symm)) (by simp)

/-- A square root that finds others waiting releases them with nothing on the stack. -/
theorem underflows_of_waiting_roots {rest : List Token} (empty : Leaves state.written 0)
    (roots : ∀ op ∈ state.waiting, op = .squareRoot) (nonempty : state.waiting ≠ [])
    (run : state.readAll (.operator .squareRoot :: rest) = .ok next) :
    Underflows next.written := by
  rw [readAll_cons_of_ok (read_root roots)] at run
  rw [← heldBy_eq_zero roots] at empty
  exact underflows_of_readAll (empty.underflows_release nonempty) run

/-- A square root after a multiplicative operator releases it with one value on the stack. -/
theorem underflows_of_multiplicative {op : BinaryOperator} (kind : op.isAdditive = false)
    (sentence : Sentence .product left) (empty : Leaves state.written 0)
    (roots : ∀ op ∈ state.waiting, op = .squareRoot) {rest : List Token}
    (run : state.readAll (left ++ .operator (.binary op) :: .operator .squareRoot :: rest) =
      .ok next) :
    Underflows next.written := by
  have rank := Operator.precedence_of_not_isAdditive kind
  have held := heldBy_eq_zero roots
  have high : ∀ op ∈ state.waiting, 2 ≤ op.precedence := fun op member =>
    Nat.le_of_eq (congrArg Operator.precedence (roots op member).symm)
  have outcome : state.Outcome left state.waiting [] 0 2 := outcome_of_sentence sentence
    ⟨held, high, by simp⟩ (List.append_nil state.waiting).symm (by rwa [held])
  cases outcome with
  | adds written waiting readLeft waitingHigh leaves =>
    have step := read_operator ⟨written, waiting ++ [], state.enclosing⟩ (.binary op) waiting []
      rfl (fun earlier member => Nat.le_trans (Nat.le_of_eq rank) (waitingHigh earlier member))
      (by simp)
    have root := read_operator ⟨release waiting written, [.binary op], state.enclosing⟩
      .squareRoot [.binary op] [] rfl
      (fun earlier member => by rw [List.mem_singleton.mp member, rank]; decide) (by simp)
    have one : Leaves (release waiting written) (heldBy [.binary op]) :=
      leaves.release (Nat.le_refl 1)
    rw [readAll_append_of_ok readLeft, readAll_cons_of_ok step, readAll_cons_of_ok root] at run
    exact underflows_of_readAll (one.underflows_release (by simp)) run
  | lacks middle readLeft _ underflows _ _ =>
    rw [readAll_append_of_ok readLeft] at run
    exact underflows_of_readAll underflows run

/-- On an empty stack, with only square roots waiting, tokens that run dry lack operands. -/
theorem underflows_of_runsDry (dry : RunsDry tokens) (empty : Leaves state.written 0)
    (roots : ∀ op ∈ state.waiting, op = .squareRoot) (run : state.readAll tokens = .ok next) :
    Underflows next.written := by
  induction dry generalizing state with
  | roots after =>
    by_cases none : state.waiting = []
    · rw [readAll_cons_of_ok (read_root roots)] at run
      refine underflows_of_waiting_roots ?_ (by simp) (by simp) run
      rwa [none]
    · exact underflows_of_waiting_roots empty roots none run
  | multiplicative op after kind left =>
    exact underflows_of_multiplicative kind left empty roots run
  | opening _ ih =>
    have opened : state.read .opening =
        .ok ⟨state.written, [], state.waiting :: state.enclosing⟩ := rfl
    rw [readAll_cons_of_ok opened] at run
    have inside : Leaves
        (⟨state.written, [], state.waiting :: state.enclosing⟩ : Arrangement).written 0 := empty
    exact ih inside (by simp) run
  | behindRoot _ ih =>
    by_cases none : state.waiting = []
    · rw [readAll_cons_of_ok (read_root roots)] at run
      refine ih ?_ (by simp) run
      rwa [none]
    · exact underflows_of_waiting_roots empty roots none run

end Arrangement

/-- Tokens that run dry contain a misplaced square root. -/
theorem RunsDry.hasMisplacedRoot {tokens : List Token} (h : RunsDry tokens) :
    HasMisplacedRoot tokens := by
  induction h with
  | roots after => exact ⟨[], .squareRoot, after, rfl, by simp⟩
  | @multiplicative left op after kind _ =>
    exact ⟨left, .binary op, after, rfl, by cases op <;> simp_all [BinaryOperator.isAdditive]⟩
  | opening _ ih =>
    obtain ⟨before, op, after, rfl, member⟩ := ih
    exact ⟨.opening :: before, op, after, rfl, member⟩
  | behindRoot _ ih =>
    obtain ⟨before, op, after, rfl, member⟩ := ih
    exact ⟨.operator .squareRoot :: before, op, after, rfl, member⟩

/-- What was written for a sentence leaves one value, or lacks operands because it runs dry. -/
theorem calculate_of_sentence {tokens : List Token} (sentence : Sentence .sum tokens) :
    (postorder tokens >>= calculate = .error .stackUnderflow ∧ RunsDry tokens) ∨
      (∃ value, postorder tokens >>= calculate = .ok value) ∧ ¬ RunsDry tokens := by
  have outcome : Arrangement.start.Outcome tokens [] [] 0 1 :=
    Arrangement.outcome_of_sentence sentence ⟨rfl, rfl⟩ rfl leaves_nil
  cases outcome with
  | adds written waiting run _ leaves =>
    have settled := leaves.release (Nat.le_refl 1)
    obtain ⟨stack, applied, length⟩ := settled
    obtain ⟨value, rfl⟩ := List.length_eq_one_iff.mp length
    refine .inr ⟨⟨value, ?_⟩, fun dry => ?_⟩
    · rw [Arrangement.postorder_of_readAll run rfl, List.append_nil]
      exact calculate_eq_ok_iff.mpr applied
    · have underflows : Underflows (Arrangement.release waiting written) :=
        (Arrangement.underflows_of_runsDry dry leaves_nil (by simp [Arrangement.start]) run).release
          waiting
      rw [Underflows, applied] at underflows
      cases underflows
  | lacks next run levels underflows _ dry =>
    refine .inl ⟨?_, dry.resolve_left (fun h => h.1 rfl) |>.2⟩
    have final := underflows.release next.waiting
    rw [Arrangement.postorder_of_readAll run levels]
    change Token.applyAll _ [] >>= resultOf = _
    rw [final]
    rfl

/-- The stack underflows on a sentence exactly when the sentence runs dry, which takes a square
root right after an operator of its rank; every other sentence, such a square root in it or not,
has a value, which only has to be finite. -/
theorem underflow_iff_runsDry {tokens : List Token} (sentence : Sentence .sum tokens) :
    (postorder tokens >>= calculate = .error .stackUnderflow ↔ RunsDry tokens) ∧
    (RunsDry tokens → HasMisplacedRoot tokens) ∧
    (¬ RunsDry tokens → ∃ value, postorder tokens >>= calculate = .ok value) ∧
    ∀ text : String, Token.tokenize text = .ok tokens →
      (evaluate text = .error .stackUnderflow ↔ RunsDry tokens) ∧
      (¬ RunsDry tokens → ∃ value, postorder tokens >>= calculate = .ok value ∧
        evaluate text = requireFinite value) := by
  have evaluated : ∀ text : String, Token.tokenize text = .ok tokens →
      evaluate text = (postorder tokens >>= calculate) >>= requireFinite :=
    fun text written => evaluate_of_tokenize written
  rcases calculate_of_sentence sentence with ⟨lacks, dry⟩ | ⟨⟨value, gives⟩, wet⟩
  · refine ⟨⟨fun _ => dry, fun _ => lacks⟩, fun _ => dry.hasMisplacedRoot,
      fun wet => absurd dry wet, fun text written => ?_⟩
    rw [evaluated text written, lacks]
    exact ⟨⟨fun _ => dry, fun _ => rfl⟩, fun wet => absurd dry wet⟩
  · refine ⟨⟨fun lacks => ?_, fun dry => absurd dry wet⟩, fun dry => absurd dry wet,
      fun _ => ⟨value, gives⟩, fun text written => ?_⟩
    · rw [gives] at lacks
      cases lacks
    · rw [evaluated text written, gives]
      refine ⟨⟨fun refused => ?_, fun dry => absurd dry wet⟩, fun _ => ⟨value, rfl, rfl⟩⟩
      rcases requireFinite_eq_error refused with same | same <;> cases same

/-- Inside the first group of a sentence a misplaced square root makes the stack underflow. -/
theorem underflow_in_first_group :
    Sentence .sum
      [.opening, .number "2" 2, .operator (.binary .multiply), .operator .squareRoot,
        .number "9" 9, .closing, .operator (.binary .add), .number "1" 1] ∧
    Token.tokenize "( 2 * sqrt 9 ) + 1" =
      .ok [.opening, .number "2" 2, .operator (.binary .multiply), .operator .squareRoot,
        .number "9" 9, .closing, .operator (.binary .add), .number "1" 1] ∧
    evaluate "( 2 * sqrt 9 ) + 1" = .error .stackUnderflow := by
  have two : Sentence .product [.number "2" 2] := .product (.operand (.number _ _))
  have group : Sentence .factor
      (Token.opening :: ([Token.number "2" 2] ++ [Token.operator (.binary .multiply),
        .operator .squareRoot, .number "9" 9]) ++ [Token.closing]) :=
    .group (.sum (.multiplicative .multiply rfl two (.root (.operand (.number _ _)))))
  have sentence := Sentence.additive .add rfl (.sum (.product (.operand group)))
    (.product (.operand (.number "1" 1)))
  have dry : RunsDry
      ([.opening, .number "2" 2, .operator (.binary .multiply), .operator .squareRoot,
        .number "9" 9, .closing, .operator (.binary .add), .number "1" 1]) :=
    .opening (.multiplicative .multiply _ rfl two)
  have written : Token.tokenize "( 2 * sqrt 9 ) + 1" =
      .ok [.opening, .number "2" 2, .operator (.binary .multiply), .operator .squareRoot,
        .number "9" 9, .closing, .operator (.binary .add), .number "1" 1] :=
    Token.tokenize_of_pieces (by decide) (by decide +kernel)
  exact ⟨sentence, written, ((underflow_iff_runsDry sentence).2.2.2 _ written).1.mpr dry⟩

/-- After a sum has begun, a misplaced square root does not make the stack underflow: `1 * 2` is
carried out in place of `2 * sqrt 9`, and the sentence has a value that is not its own. -/
theorem misplacedRoot_takes_earlier_value :
    Sentence .sum
      [.number "1" 1, .operator (.binary .add), .number "2" 2, .operator (.binary .multiply),
        .operator .squareRoot, .number "9" 9] ∧
    HasMisplacedRoot
      [.number "1" 1, .operator (.binary .add), .number "2" 2, .operator (.binary .multiply),
        .operator .squareRoot, .number "9" 9] ∧
    Token.tokenize "1 + 2 * sqrt 9" =
      .ok [.number "1" 1, .operator (.binary .add), .number "2" 2, .operator (.binary .multiply),
        .operator .squareRoot, .number "9" 9] ∧
    postorder
      [.number "1" 1, .operator (.binary .add), .number "2" 2, .operator (.binary .multiply),
        .operator .squareRoot, .number "9" 9] >>= calculate = .ok 5 ∧
    evaluate "1 + 2 * sqrt 9" = .ok 5 ∧
    (Expression.binary .add (.number "1" 1)
      (.binary .multiply (.number "2" 2) (.squareRoot (.number "9" 9)))).value = 7 := by
  have sentence := Sentence.additive .add rfl
    (.sum (.product (.operand (.number "1" 1))))
    (.multiplicative .multiply rfl (.product (.operand (.number "2" 2)))
      (.root (.operand (.number "9" 9))))
  have written : Token.tokenize "1 + 2 * sqrt 9" =
      .ok [.number "1" 1, .operator (.binary .add), .number "2" 2, .operator (.binary .multiply),
        .operator .squareRoot, .number "9" 9] :=
    Token.tokenize_of_pieces (by decide) (by decide +kernel)
  have five : (1 : Float) * 2 + Float.sqrt 9 = 5 := by decide +kernel
  have gives : postorder
      [.number "1" 1, .operator (.binary .add), .number "2" 2, .operator (.binary .multiply),
        .operator .squareRoot, .number "9" 9] >>= calculate = .ok 5 := by
    rw [← five]
    rfl
  refine ⟨sentence, ⟨[.number "1" 1, .operator (.binary .add), .number "2" 2], .binary .multiply,
    [.number "9" 9], rfl, by simp⟩, written, gives, ?_, by decide +kernel⟩
  rw [evaluate_of_tokenize written, gives]
  have finite : Float.isFinite 5 = true := by decide +kernel
  exact requireFinite_of_isFinite finite

end Calculator
