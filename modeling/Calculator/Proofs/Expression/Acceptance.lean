import Calculator.Proofs.Expression.Classification
import Calculator.Proofs.Expression.Stretch
import Calculator.Proofs.Expression.Tree

/-!
# Which tokens have a value

Neither stage looks for operands where an infix expression has them: the first one arranges any
tokens whose parentheses are balanced, and the second one only needs its operands on the stack. So
the tokens that have a value are those for which the postorder of a tree is written, in whatever
order they stand, such as `1 2 +`. What such tokens may have beside infix expressions is an operand
right after another one, and nothing else: where operands are apart, at most one number is due for
every binary operator and for the end (`Fits`), and with as many numbers as that every operand is in
its place.
-/

namespace Calculator

/-- The kind of phrase that a stretch comes to where operands are apart. -/
def Stretch.phrase : Stretch → Phrase
  | .sum => .sum
  | .product => .product
  | .operands | .operand => .operand

variable {stretch : Stretch} {phrase leftPhrase rightPhrase : Phrase}
  {tokens output left right : List Token}

/-! ## Operands that are apart -/

/-- Both parts around an operator have their operands apart. -/
theorem OperandsApart.split {op : Operator} (apart : OperandsApart (left ++ .operator op :: right)) :
    OperandsApart left ∧ OperandsApart right := by
  obtain ⟨first, second, -⟩ := List.isChain_append.mp apart
  exact ⟨first, (List.isChain_cons.mp second).2⟩

/-- An infix expression has its operands apart. -/
theorem Sentence.operandsApart (sentence : Sentence phrase tokens) : OperandsApart tokens := by
  have binary : ∀ {left right : List Token} (op : BinaryOperator), OperandsApart left →
      OperandsApart right → OperandsApart (left ++ .operator (.binary op) :: right) := by
    intro left right op apartLeft apartRight
    refine List.isChain_append.mpr ⟨apartLeft, List.isChain_cons.mpr ⟨?_, apartRight⟩, ?_⟩
    · simp [Token.endsOperand]
    · simp [Token.beginsOperand]
  induction sentence with
  | number text value => exact .singleton _
  | group _ ih =>
    refine List.isChain_append.mpr ⟨List.isChain_cons.mpr ⟨?_, ih⟩, .singleton _, ?_⟩
    · simp [Token.endsOperand]
    · simp [Token.beginsOperand]
  | operand _ ih => exact ih
  | root _ ih =>
    refine List.isChain_cons.mpr ⟨?_, ih⟩
    simp [Token.endsOperand]
  | product _ ih => exact ih
  | multiplicative op _ _ _ ihLeft ihRight => exact binary op ihLeft ihRight
  | sum _ ih => exact ih
  | additive op _ _ _ ihLeft ihRight => exact binary op ihLeft ihRight

/-! ## Where tokens end -/

/-- Whether an operand ends with the last token. -/
def endsInOperand (tokens : List Token) : Bool := tokens.getLast?.any Token.endsOperand

/-- What ends after an operator is what stands on its right. -/
theorem endsInOperand_operator (left right : List Token) (op : Operator) :
    endsInOperand (left ++ .operator op :: right) = endsInOperand right := by
  rw [endsInOperand, endsInOperand, List.getLast?_append, List.getLast?_cons, Option.some_or]
  cases right.getLast? <;> rfl

/-- A group ends as operands do. -/
theorem endsInOperand_group (tokens : List Token) :
    endsInOperand (.opening :: tokens ++ [.closing]) = true := by
  rw [endsInOperand, List.getLast?_concat]
  rfl

/-- An operand begins and ends as operands do. -/
theorem Arranged.operand_bounds (arranged : Arranged .operand tokens output) :
    endsInOperand tokens = true ∧ ∃ first, tokens.head? = some first ∧ first.beginsOperand = true := by
  cases arranged with
  | number text value => exact ⟨rfl, _, rfl, rfl⟩
  | group _ => exact ⟨endsInOperand_group _, _, rfl, rfl⟩

/-- Operands side by side end in the last one of them. -/
theorem Arranged.operands_ends (arranged : Arranged .operands tokens output) :
    tokens = [] ∨ endsInOperand tokens = true := by
  cases arranged with
  | nothing => exact .inl rfl
  | @next before beforeOutput last lastOutput _ operand =>
    obtain ⟨ends, first, begins, -⟩ := operand.operand_bounds
    refine .inr ?_
    cases last with
    | nil => cases begins
    | cons token rest =>
      rw [endsInOperand, List.getLast?_append, List.getLast?_cons, Option.some_or]
      rwa [endsInOperand, List.getLast?_cons] at ends

/-- No operand begins right after tokens that end in one. -/
theorem endsInOperand_eq_false {first : Token} {rest : List Token}
    (apart : OperandsApart (left ++ first :: rest)) (begins : first.beginsOperand = true) :
    endsInOperand left = false := by
  obtain ⟨-, -, between⟩ := List.isChain_append.mp apart
  cases last : left.getLast? with
  | none => rw [endsInOperand, last]; rfl
  | some token =>
    rw [endsInOperand, last]
    by_contra ends
    have other := between token last first rfl (by simpa using ends)
    rw [begins] at other
    cases other

/-! ## Numbers that are due -/

/-- How many numbers more than binary operators there can be at most: one if an operand ends with
the last token, and none if one is still due. -/
def room (tokens : List Token) : Nat := if endsInOperand tokens then 1 else 0

/-- Tokens with no more numbers than there is room for. With as many as that they are a phrase, or
are one as soon as the operand that is due follows. -/
structure Fits (phrase : Phrase) (tokens : List Token) : Prop where
  /-- There are no more numbers than operators need. -/
  bound : Token.count .number tokens ≤ Token.count .binary tokens + room tokens
  /-- With as many numbers as there is room for, all operands are there. -/
  whole : endsInOperand tokens = true →
    Token.count .number tokens = Token.count .binary tokens + 1 → Sentence phrase tokens
  /-- With as many numbers as there is room for, only the last operand is due. -/
  due : endsInOperand tokens = false →
    Token.count .number tokens = Token.count .binary tokens →
    ∀ operand, Sentence .operand operand → Sentence phrase (tokens ++ operand)

namespace Fits

/-- There is room for one number more at most. -/
theorem room_le (tokens : List Token) : room tokens ≤ 1 := by
  unfold room
  split <;> decide

/-- With as many numbers as there can be, tokens end in an operand. -/
theorem sentence (fits : Fits phrase tokens)
    (joined : Token.count .number tokens = Token.count .binary tokens + 1) :
    Sentence phrase tokens := by
  have bound := fits.bound
  cases ends : endsInOperand tokens with
  | true => exact fits.whole ends joined
  | false =>
    rw [room, ends] at bound
    simp only [Bool.false_eq_true, if_false] at bound
    omega

/-- Nothing is an operand as soon as one follows. -/
theorem nothing : Fits .operand [] where
  bound := Nat.zero_le _
  whole := nofun
  due := fun _ _ _ sentence => sentence

/-- A number is an operand. -/
theorem number (text : String) (value : Float) : Fits .operand [.number text value] where
  bound := Nat.le_refl _
  whole := fun _ _ => .operand (.number text value)
  due := nofun

/-- Numbers and binary operators of a group are those inside. -/
theorem count_group (kind : Token.Kind) (opening : kind ≠ .opening) (closing : kind ≠ .closing) :
    Token.count kind (.opening :: tokens ++ [.closing]) = Token.count kind tokens := by
  rw [Token.count_append, Token.count_cons, Token.count_cons, Token.count_nil]
  simp [Token.kind, opening.symm, closing.symm]

/-- A group is an operand if what is inside is a sum. -/
theorem group (inner : Fits .sum tokens) : Fits .operand (.opening :: tokens ++ [.closing]) where
  bound := by
    have ends : room (.opening :: tokens ++ [.closing]) = 1 := if_pos (endsInOperand_group tokens)
    have bound := inner.bound
    have most := room_le tokens
    rw [count_group .number nofun nofun, count_group .binary nofun nofun, ends]
    omega
  whole := fun _ joined => by
    rw [count_group .number nofun nofun, count_group .binary nofun nofun] at joined
    exact .operand (.group (inner.sentence joined))
  due := fun ends => by
    rw [endsInOperand_group] at ends
    cases ends

/-- Tokens around an operator are counted on both of its sides. -/
theorem count_operator (kind : Token.Kind) (left right : List Token) (op : Operator) :
    Token.count kind (left ++ .operator op :: right) =
      Token.count kind left + Token.count kind [.operator op] + Token.count kind right := by
  rw [Token.count_append, ← List.singleton_append, Token.count_append, Nat.add_assoc]

/-- A binary operator needs one number more on each side. -/
theorem binary (op : BinaryOperator)
    (join : ∀ {left right : List Token}, Sentence leftPhrase left → Sentence rightPhrase right →
      Sentence phrase (left ++ .operator (.binary op) :: right))
    (fitsLeft : Fits leftPhrase left) (fitsRight : Fits rightPhrase right) :
    Fits phrase (left ++ .operator (.binary op) :: right) := by
  have boundLeft := fitsLeft.bound
  have boundRight := fitsRight.bound
  have most := room_le left
  have ends := endsInOperand_operator left right (.binary op)
  have numbers := count_operator .number left right (.binary op)
  have binaries := count_operator .binary left right (.binary op)
  rw [Token.count_number_operator] at numbers
  rw [Token.count_binary_operator, Operator.held] at binaries
  have rooms : room (left ++ .operator (.binary op) :: right) = room right := by
    rw [room, room, ends]
  refine ⟨?_, fun whole joined => ?_, fun due joined operand sentence => ?_⟩
  · rw [numbers, binaries, rooms]
    omega
  · rw [ends] at whole
    have one : room right = 1 := by rw [room, whole]; rfl
    exact join (fitsLeft.sentence (by omega)) (fitsRight.sentence (by omega))
  · rw [ends] at due
    have none : room right = 0 := by rw [room, due]; rfl
    rw [List.append_assoc, List.cons_append]
    exact join (fitsLeft.sentence (by omega)) (fitsRight.due due (by omega) operand sentence)

/-- A square root needs its operand on its right, and stands where an operand is due. -/
theorem root (fitsLeft : Fits .product left) (fitsRight : Fits .operand right)
    (unended : endsInOperand left = false) :
    Fits .product (left ++ .operator .squareRoot :: right) := by
  have boundLeft := fitsLeft.bound
  have boundRight := fitsRight.bound
  have ends := endsInOperand_operator left right .squareRoot
  have numbers := count_operator .number left right .squareRoot
  have binaries := count_operator .binary left right .squareRoot
  rw [Token.count_number_operator] at numbers
  rw [Token.count_binary_operator, Operator.held] at binaries
  have rooms : room (left ++ .operator .squareRoot :: right) = room right := by
    rw [room, room, ends]
  have closed : room left = 0 := by rw [room, unended]; rfl
  refine ⟨?_, fun whole joined => ?_, fun due joined operand sentence => ?_⟩
  · rw [numbers, binaries, rooms]
    omega
  · rw [ends] at whole
    have one : room right = 1 := by rw [room, whole]; rfl
    exact fitsLeft.due unended (by omega) _ (.root (fitsRight.sentence (by omega)))
  · rw [ends] at due
    have none : room right = 0 := by rw [room, due]; rfl
    rw [List.append_assoc, List.cons_append]
    exact fitsLeft.due unended (by omega) _ (.root (fitsRight.due due (by omega) operand sentence))

/-- Operands are a product. -/
theorem product (fits : Fits .operand tokens) : Fits .product tokens :=
  ⟨fits.bound, fun ends joined => .product (fits.whole ends joined),
    fun ends joined operand sentence => .product (fits.due ends joined operand sentence)⟩

/-- A product is a sum. -/
theorem sum (fits : Fits .product tokens) : Fits .sum tokens :=
  ⟨fits.bound, fun ends joined => .sum (fits.whole ends joined),
    fun ends joined operand sentence => .sum (fits.due ends joined operand sentence)⟩

end Fits

/-- Where operands are apart, a stretch has no more numbers than there is room for, and with as many
as that it is a phrase. -/
theorem fits_of_arranged (arranged : Arranged stretch tokens output)
    (apart : OperandsApart tokens) : Fits stretch.phrase tokens := by
  induction arranged with
  | number text value => exact .number text value
  | group _ ih =>
    obtain ⟨inner, -, -⟩ := List.isChain_append.mp apart
    exact .group (ih (List.isChain_cons.mp inner).2)
  | nothing => exact .nothing
  | @next before beforeOutput last lastOutput operands operand _ ih =>
    obtain ⟨-, first, begins, starts⟩ := operand.operand_bounds
    cases last with
    | nil => cases begins
    | cons token rest =>
      obtain rfl := Option.some.inj begins
      -- an operand right after others is excluded
      rcases operands.operands_ends with rfl | ends
      · exact ih apart
      · rw [endsInOperand_eq_false apart starts] at ends
        cases ends
  | product _ ih => exact (ih apart).product
  | @higher left leftOutput right rightOutput op rank product operands ihLeft ihRight =>
    obtain ⟨apartLeft, apartRight⟩ := apart.split
    cases op with
    | binary operator =>
      have kind : operator.isAdditive = false := by
        cases operator <;> first | rfl | cases rank
      exact .binary operator (.multiplicative operator kind) (ihLeft apartLeft) (ihRight apartRight)
    | squareRoot =>
      exact .root (ihLeft apartLeft) (ihRight apartRight) (endsInOperand_eq_false apart rfl)
  | sum _ ih => exact (ih apart).sum
  | @lower left leftOutput right rightOutput op rank sum product ihLeft ihRight =>
    obtain ⟨apartLeft, apartRight⟩ := apart.split
    cases op with
    | binary operator =>
      have kind : operator.isAdditive = true := by
        cases operator <;> first | rfl | cases rank
      exact .binary operator (.additive operator kind) (ihLeft apartLeft) (ihRight apartRight)
    | squareRoot => cases rank

/-! ## Values -/

/-- Tokens with a value are an infix expression if their operands are apart. -/
theorem sentence_of_calculated {value : Float}
    (calculated : postorder tokens >>= calculate = .ok value) (apart : OperandsApart tokens) :
    Sentence .sum tokens := by
  obtain ⟨output, ordering, finished⟩ := bind_eq_ok calculated
  have verdict := verdict_of_postorder ordering
  rw [finished] at verdict
  cases verdict with
  | value _ joined => exact (fits_of_arranged (arranged_of_postorder ordering) apart).sentence joined

/-- Tokens have a value exactly if what is written for them is the postorder of a tree of this
value, whether or not their operands are where an infix expression has them. -/
theorem calculated_iff_arranged (tokens : List Token) (value : Float) :
    postorder tokens >>= calculate = .ok value ↔
      ∃ tree : Expression, Arranged .sum tokens tree.postorder ∧ tree.value = value := by
  constructor
  · intro calculated
    obtain ⟨output, ordering, finished⟩ := bind_eq_ok calculated
    obtain ⟨tree, rfl, same⟩ := calculate_eq_ok_iff_tree.mp finished
    exact ⟨tree, arranged_of_postorder ordering, same⟩
  · rintro ⟨tree, arranged, same⟩
    rw [postorder_of_arranged arranged]
    exact calculate_eq_ok_iff_tree.mpr ⟨tree, rfl, same⟩

/-- Tokens that have a value are a stretch for which the postorder of a tree is written. They are an
infix expression exactly if no operand begins right after another one. -/
theorem infix_iff_operandsApart {value : Float}
    (calculated : postorder tokens >>= calculate = .ok value) :
    (∃ tree : Expression, Arranged .sum tokens tree.postorder) ∧
      (Sentence .sum tokens ↔ OperandsApart tokens) := by
  obtain ⟨tree, arranged, -⟩ := (calculated_iff_arranged tokens value).mp calculated
  have apart : Sentence .sum tokens ↔ OperandsApart tokens :=
    ⟨Sentence.operandsApart, sentence_of_calculated calculated⟩
  exact ⟨⟨tree, arranged⟩, apart⟩

/-- Two numbers before their operator are a stretch with a value, and no infix expression. -/
theorem infix_iff_operandsApart_postfix :
    let tokens : List Token := [.number "1" 1, .number "2" 2, .operator (.binary .add)]
    (∃ tree : Expression, Arranged .sum tokens tree.postorder) ∧ ¬ Sentence .sum tokens := by
  intro tokens
  have calculated : postorder tokens >>= calculate = .ok (1 + 2) := rfl
  obtain ⟨arranged, apart⟩ := infix_iff_operandsApart calculated
  refine ⟨arranged, fun sentence => ?_⟩
  have beside := (List.isChain_cons_cons.mp (apart.mp sentence)).1 rfl
  cases beside

/-- Tokens that begin with two operands are no infix expression. -/
theorem not_sentence_of_beside {first second : Token} {rest : List Token}
    (ends : first.endsOperand = true) (begins : second.beginsOperand = true) :
    ¬ Sentence phrase (first :: second :: rest) := by
  intro sentence
  have apart := (List.isChain_cons_cons.mp sentence.operandsApart).1 ends
  rw [begins] at apart
  cases apart

/-- Tokens in postorder have a value, as have a square root after its operand and a group that takes
an operand from outside; none of them is an infix expression. -/
theorem calculated_without_infix :
    (evaluate "1 2 +" = .ok 3 ∧
      postorder [.number "1" 1, .number "2" 2, .operator (.binary .add)] >>= calculate = .ok 3 ∧
      ¬ Sentence .sum [.number "1" 1, .number "2" 2, .operator (.binary .add)]) ∧
    (evaluate "9 sqrt" = .ok 3 ∧
      postorder [.number "9" 9, .operator .squareRoot] >>= calculate = .ok 3 ∧
      ¬ Sentence .sum [.number "9" 9, .operator .squareRoot]) ∧
    evaluate "1 ( 2 + )" = .ok 3 ∧
      postorder [.number "1" 1, .opening, .number "2" 2, .operator (.binary .add), .closing] >>=
        calculate = .ok 3 ∧
      ¬ Sentence .sum
        [.number "1" 1, .opening, .number "2" 2, .operator (.binary .add), .closing] := by
  have value : ∀ {text : String} {tokens : List Token}, Token.tokenize text = .ok tokens →
      postorder tokens >>= calculate = .ok 3 → evaluate text = .ok 3 := by
    intro text tokens written calculated
    rw [evaluate_of_tokenize written, calculated]
    have finite : Float.isFinite 3 = true := by decide +kernel
    exact requireFinite_of_isFinite finite
  have sum : (1 : Float) + 2 = 3 := by decide +kernel
  have root : Float.sqrt 9 = 3 := by decide +kernel
  have added : postorder [.number "1" 1, .number "2" 2, .operator (.binary .add)] >>= calculate =
      .ok 3 := congrArg Except.ok sum
  have rooted : postorder [.number "9" 9, .operator .squareRoot] >>= calculate = .ok 3 :=
    congrArg Except.ok root
  have grouped : postorder [.number "1" 1, .opening, .number "2" 2, .operator (.binary .add),
      .closing] >>= calculate = .ok 3 := congrArg Except.ok sum
  refine ⟨⟨value (Token.tokenize_of_pieces (by decide) (by decide +kernel)) added, added, ?_⟩,
    ⟨value (Token.tokenize_of_pieces (by decide) (by decide +kernel)) rooted, rooted, ?_⟩,
    value (Token.tokenize_of_pieces (by decide) (by decide +kernel)) grouped, grouped, ?_⟩
  · exact not_sentence_of_beside rfl rfl
  · exact not_sentence_of_beside rfl rfl
  · exact not_sentence_of_beside rfl rfl

end Calculator
