import Calculator.Proofs.Expression.Arrangement
import Calculator.Proofs.Expression.Calculation

/-!
# A group is one operand

Tokens between parentheses behave in any place as one number would: what stands before and after
them need not be balanced or an expression at all. A context either fails whatever operand stands
in it, or puts the output of the operand between two fixed parts (`fails_or_puts`), so a group
takes the place that a number has in the output. When it is calculated it pushes one value there.
-/

namespace Calculator

namespace Arrangement

/-- Tokens that add an output in every state and change nothing else. -/
def Writes (operand output : List Token) : Prop :=
  ∀ state : Arrangement,
    state.readAll operand = .ok { state with written := output.reverse ++ state.written }

/-- A number writes itself. -/
theorem writes_number (text : String) (value : Float) :
    Writes [.number text value] [.number text value] := fun _ => rfl

/-- A group writes the postorder of what is inside. -/
theorem writes_group {group inner : List Token} (ordered : postorder group = .ok inner) :
    Writes (.opening :: group ++ [.closing]) inner := readAll_group ordered

/-- What the last tokens add after a state does not depend on what was written before. -/
theorem readAll_finish (state : Arrangement) (written tokens : List Token) :
    (⟨written, state.waiting, state.enclosing⟩ : Arrangement).readAll tokens >>= finish =
      ((⟨[], state.waiting, state.enclosing⟩ : Arrangement).readAll tokens >>= finish).map
        (written.reverse ++ ·) := by
  have same : (⟨written, state.waiting, state.enclosing⟩ : Arrangement) =
      (⟨[], state.waiting, state.enclosing⟩ : Arrangement).after written := by
    simp [after]
  rw [same, readAll_after]
  cases (⟨[], state.waiting, state.enclosing⟩ : Arrangement).readAll tokens with
  | error error => rfl
  | ok last => exact finish_after

/-- The numbers of a finished output were written before or are among the last tokens. -/
theorem number_mem_of_readAll_finish {state : Arrangement} {tokens output : List Token}
    {text : String} {value : Float} (h : state.readAll tokens >>= finish = .ok output)
    (member : Token.number text value ∈ output) :
    Token.number text value ∈ state.written ∨ Token.number text value ∈ tokens := by
  obtain ⟨last, run, ended⟩ := bind_eq_ok h
  obtain ⟨-, rfl⟩ := finish_eq_ok ended
  exact number_mem_of_readAll run (number_mem_release.mp (List.mem_reverse.mp member))

/-- A context fails for one cause whatever operand stands in it, or it puts the output of the
operand between two parts whose numbers are its own. -/
theorem fails_or_puts (before after : List Token) :
    (∃ error, ∀ operand output, Writes operand output →
      postorder (before ++ operand ++ after) = .error error) ∨
    ∃ front back, (∀ text value, Token.number text value ∈ front → .number text value ∈ before) ∧
      (∀ text value, Token.number text value ∈ back → .number text value ∈ after) ∧
      ∀ operand output, Writes operand output →
        postorder (before ++ operand ++ after) = .ok (front ++ output ++ back) := by
  cases readBefore : start.readAll before with
  | error error =>
    refine .inl ⟨error, fun operand output _ => ?_⟩
    rw [postorder_eq_readAll, List.append_assoc, readAll_append, readBefore]
    rfl
  | ok state =>
    have reached : ∀ operand output, Writes operand output →
        postorder (before ++ operand ++ after) =
          ((⟨[], state.waiting, state.enclosing⟩ : Arrangement).readAll after >>= finish).map
            (state.written.reverse ++ output ++ ·) := by
      intro operand output writes
      have written := readAll_finish state (output.reverse ++ state.written) after
      rw [List.reverse_append, List.reverse_reverse] at written
      rw [postorder_eq_readAll, List.append_assoc, readAll_append_of_ok readBefore,
        readAll_append_of_ok (writes state)]
      exact written
    cases readAfter :
        (⟨[], state.waiting, state.enclosing⟩ : Arrangement).readAll after >>= finish with
    | error error =>
      refine .inl ⟨error, fun operand output writes => ?_⟩
      rw [reached operand output writes, readAfter]
      rfl
    | ok back =>
      refine .inr ⟨state.written.reverse, back, fun text value member => ?_,
        fun text value member => ?_, fun operand output writes => ?_⟩
      · exact (number_mem_of_readAll readBefore (List.mem_reverse.mp member)).resolve_left
          List.not_mem_nil
      · exact (number_mem_of_readAll_finish readAfter member).resolve_left List.not_mem_nil
      · rw [reached operand output writes, readAfter]
        rfl

end Arrangement

/-- Outputs of one value give the same result in any place. -/
theorem calculate_congr {first second : List Token} {value : Float}
    (hFirst : calculate first = .ok value) (hSecond : calculate second = .ok value)
    (front back : List Token) :
    calculate (front ++ first ++ back) = calculate (front ++ second ++ back) := by
  rw [calculate_eq_applyAll, calculate_eq_applyAll, List.append_assoc, List.append_assoc,
    Token.applyAll_append, Token.applyAll_append]
  cases Token.applyAll front [] with
  | error error => rfl
  | ok stack =>
    change Token.applyAll (first ++ back) stack >>= resultOf =
      Token.applyAll (second ++ back) stack >>= resultOf
    rw [Token.applyAll_append_of_ok (applyAll_of_calculate hFirst stack),
      Token.applyAll_append_of_ok (applyAll_of_calculate hSecond stack)]

/-- Tokens with a postorder, put between parentheses, stand for one number in every context. With
a number that occurs nowhere else in their place, the rest either fails for the same cause or has
an output in which their postorder takes the one place of this number; and with a number of their
value in their place, the calculation gives the same result. -/
theorem postorder_group {group inner : List Token} (ordered : postorder group = .ok inner)
    (before after : List Token) :
    (∀ text value, Token.number text value ∉ before → Token.number text value ∉ group →
      Token.number text value ∉ after →
      (∀ error,
        postorder (before ++ (Token.opening :: group ++ [Token.closing]) ++ after) =
          .error error ↔
        postorder (before ++ [Token.number text value] ++ after) = .error error) ∧
      ∀ output, postorder (before ++ [Token.number text value] ++ after) = .ok output →
        ∃ front back, output = front ++ [Token.number text value] ++ back ∧
          Token.number text value ∉ front ∧ Token.number text value ∉ back ∧
          postorder (before ++ (Token.opening :: group ++ [Token.closing]) ++ after) =
            .ok (front ++ inner ++ back)) ∧
    ∀ text value, calculate inner = .ok value →
      postorder (before ++ (Token.opening :: group ++ [Token.closing]) ++ after) >>= calculate =
        postorder (before ++ [Token.number text value] ++ after) >>= calculate := by
  have writes := Arrangement.writes_group ordered
  rcases Arrangement.fails_or_puts before after with
    ⟨cause, fails⟩ | ⟨front, back, ofBefore, ofAfter, puts⟩
  · refine ⟨fun text value _ _ _ => ?_, fun text value _ => ?_⟩
    · rw [fails _ _ writes, fails _ _ (Arrangement.writes_number text value)]
      exact ⟨fun _ => Iff.rfl, fun output h => nomatch h⟩
    · rw [fails _ _ writes, fails _ _ (Arrangement.writes_number text value)]
  · refine ⟨fun text value newBefore _ newAfter => ?_, fun text value calculated => ?_⟩
    · rw [puts _ _ writes, puts _ _ (Arrangement.writes_number text value)]
      refine ⟨fun error => ⟨fun h => (nomatch h), fun h => (nomatch h)⟩, fun output h => ?_⟩
      obtain rfl := Except.ok.inj h
      exact ⟨front, back, rfl, fun member => newBefore (ofBefore text value member),
        fun member => newAfter (ofAfter text value member), rfl⟩
    · rw [puts _ _ writes, puts _ _ (Arrangement.writes_number text value)]
      exact calculate_congr calculated rfl front back

/-- A group with an infinite value stands for one number where a square root follows it. -/
theorem postorder_group_of_infinity :
    (∃ front back,
      [Token.number "2" 2, .number "x" 7, .operator (.binary .multiply), .number "9" 9,
        .operator .squareRoot] = front ++ [Token.number "x" 7] ++ back ∧
      Token.number "x" 7 ∉ front ∧ Token.number "x" 7 ∉ back ∧
      postorder ([Token.number "2" 2, .operator (.binary .multiply)] ++
        (Token.opening :: [Token.number "1" 1, .operator (.binary .divide), .number "0" 0] ++
          [Token.closing]) ++
        [Token.operator .squareRoot, .number "9" 9]) =
      .ok (front ++ [Token.number "1" 1, .number "0" 0, .operator (.binary .divide)] ++ back)) ∧
    postorder ([Token.number "2" 2, .operator (.binary .multiply)] ++
        (Token.opening :: [Token.number "1" 1, .operator (.binary .divide), .number "0" 0] ++
          [Token.closing]) ++
        [Token.operator .squareRoot, .number "9" 9]) >>= calculate =
      postorder ([Token.number "2" 2, .operator (.binary .multiply)] ++
        [Token.number "y" (1 / 0)] ++ [Token.operator .squareRoot, .number "9" 9]) >>=
        calculate := by
  have ordered : postorder [.number "1" 1, .operator (.binary .divide), .number "0" 0] =
      .ok [.number "1" 1, .number "0" 0, .operator (.binary .divide)] := rfl
  have stands := postorder_group ordered [.number "2" 2, .operator (.binary .multiply)]
    [.operator .squareRoot, .number "9" 9]
  exact ⟨(stands.1 "x" 7 (by simp) (by simp) (by simp)).2 _ rfl, stands.2 "y" (1 / 0) rfl⟩

end Calculator
