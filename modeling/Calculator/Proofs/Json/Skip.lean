import Calculator.Proofs.Json.Text
import Calculator.Proofs.Number.Literal

/-!
# Every value is passed over

A value is passed over up to its end, and what is read next is what follows it in the list or
object around it (`IsJson.passed`). The induction follows the grammar. What lets the places meet
is that a value is followed by a blank, a comma or a closing bracket, so no number runs on, and
that the text of an item starts with neither a blank nor a closing bracket, so it is found after
any blanks and is not taken for the end.
-/

namespace Calculator.Json

open Number (StartsNoDigit)

/-- What may follow a value: nothing, a blank, a comma or a closing bracket. -/
def Delimited (rest : List Char) : Prop :=
  ∀ c ∈ rest.head?, c ∈ [' ', '\t', '\n', '\r', ',', ']', '\x7d']

/-- Blanks delimit if what follows them does. -/
theorem IsBlanks.delimited {blanks rest : List Char} (h : IsBlanks blanks)
    (ends : Delimited rest) : Delimited (blanks ++ rest) := by
  cases blanks with
  | nil => exact ends
  | cons first blanks =>
    intro c member
    cases member
    exact List.mem_append_left [',', ']', '\x7d'] (h first List.mem_cons_self)

/-- A comma delimits. -/
theorem delimited_comma (rest : List Char) : Delimited (',' :: rest) := by
  intro c member
  cases member
  simp

/-- The end of a list or an object delimits. -/
theorem delimited_closing (frame : Frame) (rest : List Char) :
    Delimited (frame.closing :: rest) := by
  intro c member
  cases member
  cases frame <;> simp [Frame.closing]

/-! ## Numbers -/

section Numbers

variable {digits fraction exponent rest : List Char}

/-- One digit on its own. -/
theorem isDigits_singleton {c : Char} (h : c.isDigit = true) : IsDigits [c] :=
  ⟨List.cons_ne_nil c [], List.forall_mem_singleton.mpr h⟩

/-- Digits are found, and passed over up to what does not go on with one. -/
theorem IsDigits.skip (h : IsDigits digits) (ends : StartsNoDigit rest) :
    startsWithDigit (digits ++ rest) = true ∧ skipDigits (digits ++ rest) = rest := by
  refine ⟨?_, Number.dropWhile_digits h.2 ends⟩
  obtain ⟨first, others, rfl⟩ := List.exists_cons_of_ne_nil h.1
  exact h.2 first List.mem_cons_self

/-- What delimits a value is no part of a number. -/
theorem Delimited.noNumber (h : Delimited rest) :
    ∀ c ∈ rest.head?, c.isDigit = false ∧ c ≠ '.' ∧ marksExponent c = false := by
  intro c member
  have delimiter := h c member
  simp only [List.mem_cons, List.not_mem_nil, or_false] at delimiter
  rcases delimiter with rfl | rfl | rfl | rfl | rfl | rfl | rfl <;> exact ⟨rfl, by decide, rfl⟩

/-- Neither an exponent nor what follows it goes on with a digit or a point. -/
theorem IsExponent.noDigit (h : IsExponent exponent) (ends : Delimited rest) :
    ∀ c ∈ (exponent ++ rest).head?, c.isDigit = false ∧ c ≠ '.' := by
  cases h with
  | none => exact fun c member => ⟨(ends.noNumber c member).1, (ends.noNumber c member).2.1⟩
  | @mark mark sign digits marks _ _ =>
    intro c member
    cases member
    simp only [List.mem_cons, List.not_mem_nil, or_false] at marks
    rcases marks with rfl | rfl <;> exact ⟨rfl, by decide⟩

/-- An optional sign before digits is no part of them. -/
theorem splitSign_sign {sign : List Char} (signs : sign ∈ [[], ['+'], ['-']])
    (h : IsDigits digits) : (Number.splitSign (sign ++ (digits ++ rest))).2 = digits ++ rest := by
  simp only [List.mem_cons, List.not_mem_nil, or_false] at signs
  rcases signs with rfl | rfl | rfl
  · rw [List.nil_append, Number.splitSign_digits h.2 h.1]
  · rfl
  · rfl

/-- An exponent is passed over. -/
theorem IsExponent.skip (h : IsExponent exponent) (ends : Delimited rest) :
    skipOptionalExponent (exponent ++ rest) = .ok rest := by
  cases h with
  | none =>
    cases rest with
    | nil => rfl
    | cons c rest =>
      have noMark := (ends.noNumber c rfl).2.2
      rw [List.nil_append, skipOptionalExponent, if_neg (Bool.eq_false_iff.mp noMark)]
  | @mark mark sign digits marks signs number =>
    have marked : marksExponent mark = true := by
      simp only [List.mem_cons, List.not_mem_nil, or_false] at marks
      rcases marks with rfl | rfl <;> rfl
    obtain ⟨starts, skipped⟩ := number.skip fun c member => (ends.noNumber c member).1
    rw [List.cons_append, List.cons_append, List.append_assoc, skipOptionalExponent, if_pos marked,
      skipExponent, splitSign_sign signs number, if_pos starts, skipped]

/-- A fraction and an exponent are passed over. -/
theorem IsFraction.skip (h : IsFraction fraction) (power : IsExponent exponent)
    (ends : Delimited rest) : skipFraction (fraction ++ (exponent ++ rest)) = .ok rest := by
  have noDigit := power.noDigit ends
  have skipped := power.skip ends
  cases h with
  | none =>
    rw [List.nil_append, skipFraction, skipped]
    rintro after same
    rw [same] at noDigit
    exact (noDigit '.' rfl).2 rfl
  | point number =>
    obtain ⟨starts, rest⟩ := number.skip fun c member => (noDigit c member).1
    rw [List.cons_append, skipFraction, if_pos starts, rest, skipped]

/-- Neither a fraction nor what follows it goes on with a digit. -/
theorem IsFraction.noDigit (h : IsFraction fraction) (power : IsExponent exponent)
    (ends : Delimited rest) : StartsNoDigit (fraction ++ (exponent ++ rest)) := by
  cases h with
  | none => exact fun c member => (power.noDigit ends c member).1
  | point =>
    intro c member
    cases member
    rfl

/-- A whole part is passed over up to its last digit. -/
theorem IsWhole.skip {whole : List Char} (h : IsWhole whole) (ends : StartsNoDigit rest) :
    skipUnsigned (whole ++ rest) = skipFraction rest := by
  cases h with
  | zero =>
    have noDigit : ¬startsWithDigit rest = true := by
      cases rest with
      | nil => exact Bool.false_ne_true
      | cons c rest => exact Bool.eq_false_iff.mp (ends c rfl)
    rw [List.cons_append, List.nil_append, skipUnsigned, if_pos rfl, if_neg noDigit]
  | @positive first others positive number =>
    have digit := number.2 first List.mem_cons_self
    have skipped : skipDigits (others ++ rest) = rest :=
      Number.dropWhile_digits (fun c member => number.2 c (List.mem_cons_of_mem _ member)) ends
    rw [List.cons_append, skipUnsigned, if_neg positive, if_pos digit, skipped]

/-- A whole part starts with a digit. -/
theorem IsWhole.exists_cons {whole : List Char} (h : IsWhole whole) :
    ∃ first others, whole = first :: others ∧ first.isDigit = true := by
  cases h with
  | zero => exact ⟨'0', [], rfl, rfl⟩
  | @positive first others _ number =>
    exact ⟨first, others, rfl, number.2 first List.mem_cons_self⟩

/-- A number starts with a minus sign or a digit. -/
theorem IsNumeral.exists_cons {text : List Char} (h : IsNumeral text) :
    ∃ first others, text = first :: others ∧ (first = '-' ∨ first.isDigit = true) := by
  cases h with
  | parts minus whole _ _ =>
    obtain ⟨first, others, rfl, digit⟩ := whole.exists_cons
    simp only [List.mem_cons, List.not_mem_nil, or_false] at minus
    rcases minus with rfl | rfl
    · exact ⟨first, _, rfl, .inr digit⟩
    · exact ⟨'-', _, rfl, .inl rfl⟩

/-- What a number starts with is no other character. -/
theorem IsNumeral.first_ne {first : Char} {others : List Char} (h : IsNumeral (first :: others))
    {c : Char} (noDigit : c.isDigit = false) (noMinus : c ≠ '-') : first ≠ c := by
  obtain ⟨_, _, same, starts⟩ := h.exists_cons
  cases same
  rintro rfl
  rcases starts with minus | digit
  · exact noMinus minus
  · exact Bool.false_ne_true (noDigit.symm.trans digit)

/-- A number is passed over. -/
theorem IsNumeral.skip {text : List Char} (h : IsNumeral text) (ends : Delimited rest) :
    skipNumber (text ++ rest) = .ok rest := by
  cases h with
  | @parts minus whole fraction exponent negative integer part power =>
    have unsigned : skipUnsigned (whole ++ (fraction ++ (exponent ++ rest))) = .ok rest :=
      (integer.skip (part.noDigit power ends)).trans (part.skip power ends)
    simp only [List.mem_cons, List.not_mem_nil, or_false] at negative
    simp only [List.append_assoc]
    rcases negative with rfl | rfl
    · obtain ⟨first, others, rfl, digit⟩ := integer.exists_cons
      rw [List.nil_append, skipNumber]
      · exact unsigned
      · rintro _ ⟨⟩
        cases digit
    · exact unsigned

end Numbers

/-! ## Scalars -/

/-- A word is read as a scalar. -/
theorem scanScalar_word {letters : List Char} (h : letters ∈ words) (rest : List Char) :
    scanScalar (letters ++ rest) = .ok ((), rest) := by
  simp only [words, List.mem_cons, List.not_mem_nil, or_false] at h
  rcases h with rfl | rfl | rfl <;> rfl

/-- A number is read as a scalar. -/
theorem scanScalar_numeral {text rest : List Char} (h : IsNumeral text) (ends : Delimited rest) :
    scanScalar (text ++ rest) = .ok ((), rest) := by
  have skipped := h.skip ends
  obtain ⟨first, others, rfl, starts⟩ := h.exists_cons
  rw [List.cons_append] at skipped ⊢
  rw [scanScalar, if_neg (h.first_ne rfl (by decide)), if_neg (h.first_ne rfl (by decide)),
    if_neg (h.first_ne rfl (by decide)), if_neg (h.first_ne rfl (by decide)), if_pos starts,
    skipped]
  rfl

/-- A string is read as a scalar. -/
theorem scanScalar_text {content : List Char} (h : IsContent content) (rest : List Char) :
    scanScalar ('"' :: content ++ ['"'] ++ rest) = .ok ((), rest) := by
  have split : '"' :: content ++ ['"'] ++ rest = '"' :: (content ++ '"' :: rest) := by simp
  have skipped : scanScalar ('"' :: (content ++ '"' :: rest)) =
      (skipText (content ++ '"' :: rest)).map ((), ·) := rfl
  rw [split, skipped, h.skip]
  rfl

/-! ## Values -/

/-- A text that starts with neither a blank nor a closing bracket. -/
def StartsItem (text : List Char) : Prop :=
  ∃ c rest, text = c :: rest ∧ isBlank c = false ∧ ∀ frame : Frame, c ≠ frame.closing

/-- A first character that is neither starts an item. -/
theorem startsItem_cons {c : Char} (visible : isBlank c = false) (list : c ≠ ']')
    (object : c ≠ '\x7d') (rest : List Char) : StartsItem (c :: rest) := by
  refine ⟨c, rest, rfl, visible, fun frame => ?_⟩
  cases frame with
  | list => exact list
  | object => exact object

namespace StartsItem

variable {text : List Char}

/-- Only the start counts. -/
theorem append (h : StartsItem text) (rest : List Char) : StartsItem (text ++ rest) := by
  obtain ⟨c, others, rfl, visible, unclosed⟩ := h
  exact ⟨c, others ++ rest, rfl, visible, unclosed⟩

/-- Blanks before an item are skipped up to it. -/
theorem skip (h : StartsItem text) {blanks : List Char} (before : IsBlanks blanks) :
    skipBlanks (blanks ++ text) = text := by
  obtain ⟨c, rest, rfl, visible, -⟩ := h
  exact before.skip_cons visible rest

/-- The first item of a frame is not its end. -/
theorem skipFirst (h : StartsItem text) (frame : Frame) (frames : List Frame) :
    Json.skipFirst frame frames text = skipItem frame frames text := by
  obtain ⟨c, rest, rfl, -, unclosed⟩ := h
  rw [Json.skipFirst, if_neg (unclosed frame)]

end StartsItem

/-- A string starts an item. -/
theorem IsString.startsItem {text : String} {form : List Char} (h : IsString text form) :
    StartsItem form := by
  cases h
  exact startsItem_cons rfl (by decide) (by decide) _

/-- A number starts an item. -/
theorem IsNumeral.startsItem {text : List Char} (h : IsNumeral text) : StartsItem text := by
  obtain ⟨first, others, rfl, -⟩ := h.exists_cons
  have visible : isBlank first = false := by
    simp [isBlank, h.first_ne (c := ' ') rfl (by decide), h.first_ne (c := '\t') rfl (by decide),
      h.first_ne (c := '\n') rfl (by decide), h.first_ne (c := '\r') rfl (by decide)]
  exact startsItem_cons visible (h.first_ne rfl (by decide)) (h.first_ne rfl (by decide)) others

/-- Values and items start items. -/
theorem IsJson.startsItem {part : Part} {text : List Char} (h : IsJson part text) :
    StartsItem text := by
  induction h with
  | word known =>
    simp only [words, List.mem_cons, List.not_mem_nil, or_false] at known
    rcases known with rfl | rfl | rfl <;>
      exact startsItem_cons rfl (by decide) (by decide) _
  | numeral number => exact number.startsItem
  | text | member => exact startsItem_cons rfl (by decide) (by decide) _
  | @empty frame | @filled frame =>
    cases frame <;> exact startsItem_cons rfl (by decide) (by decide) _
  | element _ ih => exact ih
  | last _ _ ih => exact ih.append _
  | next _ _ _ _ ih _ =>
    simp only [List.append_assoc]
    exact ih.append _

/-- A part of a value is passed over, up to what follows it in the frames around it. -/
def Passed : Part → List Char → Prop
  | .value, text => ∀ frames rest, Delimited rest →
    skipValue frames (text ++ rest) = skipAfter frames rest
  | .item frame, text => ∀ frames rest, Delimited rest →
    skipItem frame frames (text ++ rest) = skipAfter (frame :: frames) rest
  | .items frame, text => ∀ frames rest,
    skipItem frame frames (text ++ frame.closing :: rest) = skipAfter frames rest

/-- A closing bracket is no blank. -/
theorem isBlank_closing (frame : Frame) : isBlank frame.closing = false := by
  cases frame <;> rfl

/-- A frame is opened by its own bracket. -/
theorem opened?_opening (frame : Frame) : Frame.opened? frame.opening = some frame := by
  cases frame <;> rfl

/-- A scalar is no bracket. -/
theorem opened?_of_scanScalar {c : Char} {text rest : List Char}
    (h : scanScalar (c :: text) = .ok ((), rest)) : Frame.opened? c = none := by
  unfold Frame.opened?
  split
  · cases h
  · cases h
  · rfl

/-- A scalar is passed over. -/
theorem passed_scalar {text : List Char}
    (scanned : ∀ rest, Delimited rest → scanScalar (text ++ rest) = .ok ((), rest)) :
    Passed .value text := by
  intro frames rest ends
  have read : scalar.scan (text ++ rest) = .ok ((), rest) := scanned rest ends
  cases whole : text ++ rest with
  | nil =>
    rw [whole] at read
    cases read
  | cons c others =>
    rw [whole] at read
    rw [skipValue]
    simp only [opened?_of_scanScalar read, Scanner.next_of_scan read]

/-- After the last item of a frame comes what follows the frame. -/
theorem skipAfter_closing {blanks : List Char} (h : IsBlanks blanks) (frame : Frame)
    (frames : List Frame) (rest : List Char) :
    skipAfter (frame :: frames) (blanks ++ frame.closing :: rest) = skipAfter frames rest := by
  have noComma : frame.closing ≠ ',' := by cases frame <;> decide
  rw [skipAfter, h.skip_cons (isBlank_closing frame), skipNext, if_neg noComma, if_pos rfl]

/-- After any other item comes the next one. -/
theorem skipAfter_comma {before after text : List Char} (first : IsBlanks before)
    (second : IsBlanks after) (h : StartsItem text) (frame : Frame) (frames : List Frame) :
    skipAfter (frame :: frames) (before ++ ',' :: (after ++ text)) =
      skipItem frame frames text := by
  rw [skipAfter, first.skip_cons rfl, skipNext, if_pos rfl, h.skip second]

/-- A bracket opens a frame, and its first item is looked for. -/
theorem skipValue_opening (frame : Frame) (frames : List Frame) (rest : List Char) :
    skipValue frames (frame.opening :: rest) = skipFirst frame frames (skipBlanks rest) := by
  rw [skipValue]
  simp only [opened?_opening]

/-- A colon is found after blanks. -/
theorem expectColon_append {blanks : List Char} (h : IsBlanks blanks) (rest : List Char) :
    expectColon (blanks ++ ':' :: rest) = .ok rest := by
  rw [expectColon, h.skip_cons rfl]
  rfl

/-- A key is passed over with its colon. -/
theorem scanKey_append {key before : List Char} (h : IsContent key) (blanks : IsBlanks before)
    (rest : List Char) :
    scanKey ('"' :: (key ++ '"' :: (before ++ ':' :: rest))) = .ok ((), rest) := by
  rw [scanKey, if_pos rfl, h.skip]
  simp only [Except.bind, expectColon_append blanks]
  rfl

/-- Every part of a value is passed over. -/
theorem IsJson.passed {part : Part} {text : List Char} (h : IsJson part text) :
    Passed part text := by
  induction h with
  | word known => exact passed_scalar fun rest _ => scanScalar_word known rest
  | numeral number => exact passed_scalar fun rest => scanScalar_numeral number
  | text content => exact passed_scalar fun rest _ => scanScalar_text content rest
  | @empty frame blanks spaces =>
    intro frames rest _
    have split : frame.opening :: blanks ++ [frame.closing] ++ rest =
        frame.opening :: (blanks ++ frame.closing :: rest) := by simp
    rw [split, skipValue_opening, spaces.skip_cons (isBlank_closing frame), skipFirst, if_pos rfl]
  | @filled frame blanks items spaces inside ih =>
    intro frames rest _
    have starts := inside.startsItem.append (frame.closing :: rest)
    have split : frame.opening :: blanks ++ items ++ [frame.closing] ++ rest =
        frame.opening :: (blanks ++ (items ++ frame.closing :: rest)) := by simp
    rw [split, skipValue_opening, starts.skip spaces, starts.skipFirst]
    exact ih frames rest
  | element _ ih =>
    intro frames rest ends
    rw [skipItem]
    exact ih (.list :: frames) rest ends
  | @member key before after value content first second inside ih =>
    intro frames rest ends
    have starts := inside.startsItem.append rest
    have scanned : passedKey.scan
        ('"' :: (key ++ '"' :: (before ++ ':' :: (after ++ (value ++ rest))))) =
          .ok ((), after ++ (value ++ rest)) := scanKey_append content first _
    have split : '"' :: key ++ '"' :: before ++ ':' :: after ++ value ++ rest =
        '"' :: (key ++ '"' :: (before ++ ':' :: (after ++ (value ++ rest)))) := by simp
    rw [split, skipItem]
    simp only [Scanner.next_of_scan scanned]
    rw [starts.skip second]
    exact ih (.object :: frames) rest ends
  | @last frame item blanks _ spaces ih =>
    intro frames rest
    rw [List.append_assoc, ih frames _ (spaces.delimited (delimited_closing frame rest)),
      skipAfter_closing spaces]
  | @next frame item before after items _ first second others ih more =>
    intro frames rest
    have starts := others.startsItem.append (frame.closing :: rest)
    have split : item ++ before ++ ',' :: after ++ items ++ frame.closing :: rest =
        item ++ (before ++ ',' :: (after ++ (items ++ frame.closing :: rest))) := by simp
    rw [split, ih frames _ (first.delimited (delimited_comma _)),
      skipAfter_comma first second starts]
    exact more frames rest

/-- A value that stands alone is passed over up to its end. -/
theorem skipValue_append {value rest : List Char} (h : IsJson .value value)
    (ends : Delimited rest) : skipValue [] (value ++ rest) = .ok rest := by
  rw [h.passed [] rest ends, skipAfter]

end Calculator.Json
