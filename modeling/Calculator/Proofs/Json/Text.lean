import Calculator.Json.Grammar
import Calculator.Json.Mismatch

/-!
# Every form of a string is read

Whatever stands for a character inside quotes is read on its own: what follows is read next, and
the character is put before it (`readText_charForm`). So a string is recovered character by
character, up to the quote that ends it and no further, whichever form each character has. The
forms that the writer gives are among them. A string whose content does not matter is passed over
in the same way (`IsContent.skip`).
-/

namespace Calculator.Json

/-! ## Blanks -/

/-- Blanks in the sense of the grammar are those that are skipped. -/
theorem isBlank_iff (c : Char) : isBlank c = true ↔ c ∈ [' ', '\t', '\n', '\r'] := by
  simp [isBlank, or_assoc]

/-- Nothing at all counts as blanks. -/
theorem isBlanks_nil : IsBlanks [] := List.forall_mem_nil _

/-- One blank on its own. -/
theorem isBlanks_singleton {c : Char} (h : isBlank c = true) : IsBlanks [c] :=
  List.forall_mem_singleton.mpr ((isBlank_iff c).mp h)

/-- Blanks before a text are skipped with it. -/
theorem IsBlanks.skip {blanks : List Char} (h : IsBlanks blanks) (text : List Char) :
    skipBlanks (blanks ++ text) = skipBlanks text :=
  List.dropWhile_append_of_pos fun c member => (isBlank_iff c).mpr (h c member)

/-- Nothing is left of blanks. -/
theorem IsBlanks.skip_all {blanks : List Char} (h : IsBlanks blanks) : skipBlanks blanks = [] := by
  have skipped := h.skip []
  rwa [List.append_nil] at skipped

/-- A character that is no blank is not skipped. -/
theorem skipBlanks_cons {c : Char} (h : isBlank c = false) (text : List Char) :
    skipBlanks (c :: text) = c :: text :=
  List.dropWhile_cons_of_neg (by simp [h])

/-- Blanks before a character that is none are skipped up to it. -/
theorem IsBlanks.skip_cons {blanks : List Char} (h : IsBlanks blanks) {c : Char}
    (visible : isBlank c = false) (text : List Char) :
    skipBlanks (blanks ++ c :: text) = c :: text :=
  (h.skip _).trans (skipBlanks_cons visible text)

/-! ## Escapes -/

/-- A hex digit has its value, in either case. -/
theorem hexDigit?_of_isHexDigit {value : Nat} {c : Char} (h : IsHexDigit value c) :
    hexDigit? c = some value := by
  have both : ∀ value < 16, hexDigit? (Nat.digitChar value) = some value ∧
      hexDigit? (Nat.digitChar value).toUpper = some value := by
    decide
  obtain ⟨small, rfl | rfl⟩ := h
  · exact (both value small).1
  · exact (both value small).2

/-- Four hex digits are read as their number. -/
theorem IsQuad.read {value : Nat} {digits : List Char} (h : IsQuad value digits)
    (rest : List Char) : hexQuad (digits ++ rest) = .ok (value, rest) := by
  cases h with
  | @digits first second third fourth _ _ _ _ h₁ h₂ h₃ h₄ =>
    have total : 16 * (16 * (16 * first + second) + third) + fourth =
        0x1000 * first + 0x100 * second + 0x10 * third + fourth := by omega
    simp [hexQuad, hexValue?, hexDigit?_of_isHexDigit h₁, hexDigit?_of_isHexDigit h₂,
      hexDigit?_of_isHexDigit h₃, hexDigit?_of_isHexDigit h₄, total]

/-- The letter of a short escape has its character, and is not the one of an escape by number. -/
theorem escapedChar?_of_mem {letter c : Char} (h : (letter, c) ∈ shortEscapes) :
    letter ≠ 'u' ∧ escapedChar? letter = some c := by
  simp only [shortEscapes, List.mem_cons, Prod.mk.injEq, List.not_mem_nil, or_false] at h
  rcases h with ⟨rfl, rfl⟩ | ⟨rfl, rfl⟩ | ⟨rfl, rfl⟩ | ⟨rfl, rfl⟩ | ⟨rfl, rfl⟩ | ⟨rfl, rfl⟩ |
    ⟨rfl, rfl⟩ | ⟨rfl, rfl⟩ <;> exact ⟨by decide, rfl⟩

/-- A short escape is read as its character. -/
theorem scanEscape_short {letter c : Char} (h : (letter, c) ∈ shortEscapes) (rest : List Char) :
    scanEscape (letter :: rest) = .ok (c, rest) := by
  obtain ⟨short, found⟩ := escapedChar?_of_mem h
  rw [scanEscape, if_neg short, found]

/-- The numbers that come first in a pair. -/
theorem isLeadingSurrogate_iff (value : Nat) :
    isLeadingSurrogate value = true ↔ 0xD800 ≤ value ∧ value ≤ 0xDBFF := by
  simp [isLeadingSurrogate]

/-- The numbers that come second in a pair. -/
theorem isTrailingSurrogate_iff (value : Nat) :
    isTrailingSurrogate value = true ↔ 0xDC00 ≤ value ∧ value ≤ 0xDFFF := by
  simp [isTrailingSurrogate]

/-- The number of a character is read as the character. -/
theorem scanEscape_number {c : Char} {digits : List Char} (h : IsQuad c.toNat digits)
    (rest : List Char) : scanEscape ('u' :: (digits ++ rest)) = .ok (c, rest) := by
  -- no character has the number of a surrogate
  have valid : c.toNat < 0xD800 ∨ 0xDFFF < c.toNat ∧ c.toNat < 0x110000 := c.valid
  have trailing : ¬isTrailingSurrogate c.toNat = true := by
    rw [isTrailingSurrogate_iff]
    omega
  have leading : ¬isLeadingSurrogate c.toNat = true := by
    rw [isLeadingSurrogate_iff]
    omega
  simp [scanEscape, numberedChar, h.read, bind, Except.bind, trailing, leading]

/-- The numbers of two surrogates are read as the character of the pair. -/
theorem scanEscape_pair {c : Char} {leading trailing : List Char} (large : 0x10000 ≤ c.toNat)
    (first : IsQuad (0xD800 + (c.toNat - 0x10000) / 0x400) leading)
    (second : IsQuad (0xDC00 + (c.toNat - 0x10000) % 0x400) trailing) (rest : List Char) :
    scanEscape ('u' :: (leading ++ '\\' :: 'u' :: (trailing ++ rest))) = .ok (c, rest) := by
  have valid : c.toNat < 0xD800 ∨ 0xDFFF < c.toNat ∧ c.toNat < 0x110000 := c.valid
  have pair : pairChar (0xD800 + (c.toNat - 0x10000) / 0x400)
      (0xDC00 + (c.toNat - 0x10000) % 0x400) = c := by
    have number : (0xD800 + (c.toNat - 0x10000) / 0x400 - 0xD800) * 0x400 +
        (0xDC00 + (c.toNat - 0x10000) % 0x400 - 0xDC00) + 0x10000 = c.toNat := by omega
    rw [pairChar, number, Char.ofNat_toNat]
  have notTrailing : ¬isTrailingSurrogate (0xD800 + (c.toNat - 0x10000) / 0x400) = true := by
    rw [isTrailingSurrogate_iff]
    omega
  have isLeading : isLeadingSurrogate (0xD800 + (c.toNat - 0x10000) / 0x400) = true := by
    rw [isLeadingSurrogate_iff]
    omega
  have isTrailing : isTrailingSurrogate (0xDC00 + (c.toNat - 0x10000) % 0x400) = true := by
    rw [isTrailingSurrogate_iff]
    omega
  simp [scanEscape, numberedChar, secondHalf, first.read, second.read, bind, Except.bind,
    notTrailing, isLeading, isTrailing, pair]

/-! ## Strings that are read -/

/-- An escape puts its character before what follows. -/
theorem readText_escape {text after : List Char} {c : Char}
    (h : scanEscape text = .ok (c, after)) :
    readText ('\\' :: text) = (readText after).map fun (more, last) => (c :: more, last) := by
  have scanned : escape.scan text = .ok (c, after) := h
  rw [readText, if_neg (by decide), if_pos rfl, Scanner.next_of_scan scanned]

/-- A character that needs no escape stands for itself. -/
theorem readText_raw {c : Char} (h : IsPlain c) (rest : List Char) :
    readText (c :: rest) = (readText rest).map fun (more, last) => (c :: more, last) := by
  obtain ⟨quote, backslash, printed⟩ := h
  rw [readText, if_neg quote, if_neg backslash, if_neg (Nat.not_lt.mpr printed)]

/-- Whatever stands for a character is read as it, and then what follows. -/
theorem readText_charForm {c : Char} {form : List Char} (h : CharForm c form) (rest : List Char) :
    readText (form ++ rest) = (readText rest).map fun (more, last) => (c :: more, last) := by
  cases h with
  | raw plain => exact readText_raw plain rest
  | short known => exact readText_escape (scanEscape_short known rest)
  | number quad => exact readText_escape (scanEscape_number quad rest)
  | @pair leading trailing large first second =>
    have split : '\\' :: 'u' :: leading ++ '\\' :: 'u' :: trailing ++ rest =
        '\\' :: 'u' :: (leading ++ '\\' :: 'u' :: (trailing ++ rest)) := by simp
    rw [split]
    exact readText_escape (scanEscape_pair large first second rest)

/-- Whatever stands for a text is read as it, up to the ending quote. -/
theorem TextForm.read {text form : List Char} (h : TextForm text form) (rest : List Char) :
    readText (form ++ '"' :: rest) = .ok (text, rest) := by
  induction h with
  | nil => rw [List.nil_append, readText, if_pos rfl]
  | cons head _ ih =>
    rw [List.append_assoc, readText_charForm head, ih]
    rfl

/-- A string is read where one is due. -/
theorem IsString.read {text : String} {form : List Char} (h : IsString text form)
    (rest : List Char) : scanString (form ++ rest) = .ok (text.toList, rest) := by
  cases h with
  | @quoted content stands =>
    have read := stands.read rest
    simpa [scanString] using read

/-! ## Strings that are written -/

/-- Two digits after two zeros are the number of a character below U+0100. -/
theorem isQuad_low {value : Nat} (h : value < 0x100) :
    IsQuad value ['0', '0', Nat.digitChar (value / 16), Nat.digitChar (value % 16)] := by
  have zero : IsHexDigit 0 '0' := ⟨by decide, .inl rfl⟩
  have high : IsHexDigit (value / 16) (Nat.digitChar (value / 16)) := ⟨by omega, .inl rfl⟩
  have low : IsHexDigit (value % 16) (Nat.digitChar (value % 16)) := ⟨by omega, .inl rfl⟩
  have total : 0x1000 * 0 + 0x100 * 0 + 0x10 * (value / 16) + value % 16 = value := by omega
  have quad := IsQuad.digits zero zero high low
  rwa [total] at quad

/-- The writer gives each character one of its forms. -/
theorem charForm_writeChar (c : Char) : CharForm c (writeChar c) := by
  unfold writeChar
  split
  case h_8 quote backslash _ _ _ _ _ =>
    split
    case isTrue control => exact .number (isQuad_low (Nat.lt_trans control (by decide)))
    case isFalse printed => exact .raw ⟨quote, backslash, Nat.not_lt.mp printed⟩
  -- the characters that have an escape of their own
  all_goals exact .short (by simp [shortEscapes])

/-- The writer gives a text one of its forms. -/
theorem textForm_writeChar (text : List Char) : TextForm text (text.flatMap writeChar) := by
  induction text with
  | nil => exact .nil
  | cons c text ih => exact .cons (charForm_writeChar c) ih

/-- A written string is one of the strings of its text. -/
theorem isString_writeText (text : String) : IsString text (writeText text.toList) :=
  .quoted (textForm_writeChar text.toList)

/-! ## Strings that are passed over -/

/-- An escape is passed over. -/
theorem skipText_escape {text after : List Char} (h : passEscape text = .ok ((), after)) :
    skipText ('\\' :: text) = skipText after := by
  have scanned : passedEscape.scan text = .ok ((), after) := h
  rw [skipText, if_neg (by decide), if_pos rfl, Scanner.next_of_scan scanned]

/-- The content of a string is passed over, up to the ending quote. -/
theorem IsContent.skip {content : List Char} (h : IsContent content) (rest : List Char) :
    skipText (content ++ '"' :: rest) = .ok rest := by
  induction h with
  | nil => rw [List.nil_append, skipText, if_pos rfl]
  | raw plain _ ih =>
    obtain ⟨quote, backslash, printed⟩ := plain
    rw [List.cons_append, skipText, if_neg quote, if_neg backslash,
      if_neg (Nat.not_lt.mpr printed), ih]
  | @short letter c after known _ ih =>
    obtain ⟨short, found⟩ := escapedChar?_of_mem known
    have passed : passEscape (letter :: (after ++ '"' :: rest)) =
        .ok ((), after ++ '"' :: rest) := by
      rw [passEscape, if_neg short, found]
      rfl
    exact (skipText_escape passed).trans ih
  | @number value digits after quad _ ih =>
    have passed : passEscape ('u' :: (digits ++ (after ++ '"' :: rest))) =
        .ok ((), after ++ '"' :: rest) := by
      rw [passEscape, if_pos rfl, quad.read]
      rfl
    have split : '\\' :: 'u' :: digits ++ after ++ '"' :: rest =
        '\\' :: 'u' :: (digits ++ (after ++ '"' :: rest)) := by simp
    rw [split]
    exact (skipText_escape passed).trans ih

end Calculator.Json
