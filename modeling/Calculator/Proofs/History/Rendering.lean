import Calculator.History.Content
import Calculator.History.Rendering
import Calculator.Proofs.Json.Skip
import Calculator.Proofs.Text.Bytes

/-!
# Every rendering of a history is read

The reader takes members in any order, so what carries the induction over the members of an
object is what is still due: each of the two texts of an entry is either kept, and no longer
among the names to come, or not kept, and among them once (`Due`). Objects and lists then follow
their grammar, each part being read up to what follows it (`read_of_renders`).
-/

namespace Calculator.History

open Calculator.Json (Delimited IsBlanks IsJson IsString StartsItem skipBlanks)

/-! ## Members -/

/-- A text that is kept, or due once among the names to come. -/
inductive Owed (value : String) : Option (List Char) → Nat → Prop where
  /-- It is still due. -/
  | due : Owed value none 1
  /-- It is kept. -/
  | kept : Owed value (some value.toList) 0

/-- What has been read of an entry and the names of the members to come. -/
structure Due (entry : Entry) (fields : Fields) (names : List String) : Prop where
  /-- The expression is kept or due. -/
  expression : Owed entry.expression fields.expression (names.count expressionKey)
  /-- The result is kept or due. -/
  result : Owed entry.result fields.result (names.count resultKey)

/-- What is among the names to come is not kept, and comes once. -/
theorem Owed.of_succ {value : String} {kept : Option (List Char)} {count : Nat}
    (h : Owed value kept (count + 1)) : kept = none ∧ count = 0 := by
  cases h
  exact ⟨rfl, rfl⟩

/-- Nothing is due any more when no member is to come, so the entry is complete. -/
theorem Due.finish {entry : Entry} {fields : Fields} (h : Due entry fields []) (rest : List Char) :
    fields.finish rest = .ok (entry, rest) := by
  obtain ⟨expression, result⟩ := fields
  obtain ⟨first, second⟩ := h
  cases first
  cases second
  simp [Fields.finish]

section Members

variable {entry : Entry} {fields : Fields} {name : String} {names : List String}
  {before after form text rest : List Char}

/-- A text that an entry keeps is read after its key. -/
theorem keepValue_append (keep : List Char → Fields) (first : IsBlanks before)
    (second : IsBlanks after) {value : String} (h : IsString value form) (rest : List Char) :
    keepValue keep (before ++ ':' :: (after ++ (form ++ rest))) =
      .ok (keep value.toList, rest) := by
  have starts : StartsItem (form ++ rest) := h.startsItem.append rest
  simp only [keepValue, Json.expectColon_append first, starts.skip second, h.read, bind,
    Except.bind]

/-- Any other value is passed over after its key. -/
theorem dropValue_append (fields : Fields) (first : IsBlanks before) (second : IsBlanks after)
    (h : IsJson .value form) (ends : Delimited rest) :
    dropValue fields (before ++ ':' :: (after ++ (form ++ rest))) = .ok (fields, rest) := by
  have starts : StartsItem (form ++ rest) := h.startsItem.append rest
  simp only [dropValue, Json.expectColon_append first, starts.skip second,
    Json.skipValue_append h ends, bind, Except.bind]

/-- The rest of a member after its key is read, and what is due afterwards is due to the names
after it. -/
theorem scanValue_append (due : Due entry fields (name :: names)) (first : IsBlanks before)
    (second : IsBlanks after) (h : RendersValue entry name form) (ends : Delimited rest) :
    ∃ kept, scanValue fields name.toList (before ++ ':' :: (after ++ (form ++ rest))) =
      .ok (kept, rest) ∧ Due entry kept names := by
  obtain ⟨expression, result⟩ := due
  cases h with
  | expression value =>
    rw [List.count_cons_self] at expression
    rw [List.count_cons_of_ne (by decide)] at result
    obtain ⟨unread, once⟩ := expression.of_succ
    have read := keepValue_append (fun value => { fields with expression := some value }) first
      second value rest
    refine ⟨{ fields with expression := some entry.expression.toList }, ?_, ?_, result⟩
    · rw [scanValue, if_pos rfl, unread, if_neg (by simp)]
      exact read
    · rw [once]
      exact .kept
  | result value =>
    rw [List.count_cons_of_ne (by decide)] at expression
    rw [List.count_cons_self] at result
    obtain ⟨unread, once⟩ := result.of_succ
    have read := keepValue_append (fun value => { fields with result := some value }) first
      second value rest
    refine ⟨{ fields with result := some entry.result.toList }, ?_, expression, ?_⟩
    · rw [scanValue, if_neg (by decide), if_pos rfl, unread, if_neg (by simp)]
      exact read
    · rw [once]
      exact .kept
  | other noExpression noResult value =>
    rw [List.count_cons_of_ne noExpression] at expression
    rw [List.count_cons_of_ne noResult] at result
    refine ⟨fields, ?_, expression, result⟩
    rw [scanValue, if_neg fun same => noExpression (String.toList_inj.mp same),
      if_neg fun same => noResult (String.toList_inj.mp same)]
    exact dropValue_append fields first second value ends

/-- A member starts with the quote of its key, and is read from after it. -/
theorem RendersMember.scan (h : RendersMember entry name text) :
    ∃ tail, text = '"' :: tail ∧ ∀ fields names rest, Due entry fields (name :: names) →
      Delimited rest → ∃ kept, (member fields).scan (tail ++ rest) = .ok (kept, rest) ∧
        Due entry kept names := by
  obtain ⟨⟨stands⟩, first, second, held⟩ := h
  rename_i before after value content
  refine ⟨content ++ '"' :: (before ++ ':' :: (after ++ value)), by simp, ?_⟩
  intro fields names rest due ends
  obtain ⟨kept, read, left⟩ := scanValue_append due first second held ends
  refine ⟨kept, ?_, left⟩
  have split : content ++ '"' :: (before ++ ':' :: (after ++ value)) ++ rest =
      content ++ '"' :: (before ++ ':' :: (after ++ (value ++ rest))) := by simp
  rw [split, member]
  simp only [stands.read, bind, Except.bind]
  exact read

/-- A member that another one follows adds to what has been read. -/
theorem readMembers_next {kept : Fields} {after rest : List Char}
    (value : (member fields).scan text = .ok (kept, after))
    (another : scanAfterMember after = .ok (true, rest)) :
    readMembers fields text = readMembers kept rest := by
  have following : afterMember.scan after = .ok (true, rest) := another
  rw [readMembers, Json.Scanner.next_of_scan value]
  simp only [Json.Scanner.next_of_scan following]

/-- The last member completes the entry. -/
theorem readMembers_last {kept : Fields} {after rest : List Char}
    (value : (member fields).scan text = .ok (kept, after))
    (closed : scanAfterMember after = .ok (false, rest)) :
    readMembers fields text = kept.finish rest := by
  have following : afterMember.scan after = .ok (false, rest) := closed
  rw [readMembers, Json.Scanner.next_of_scan value]
  simp only [Json.Scanner.next_of_scan following]

/-- A comma and a quote lead to the next member. -/
theorem scanAfterMember_comma (first : IsBlanks before) (second : IsBlanks after)
    (rest : List Char) :
    scanAfterMember (before ++ ',' :: (after ++ '"' :: rest)) = .ok (true, rest) := by
  simp only [scanAfterMember, first.skip_cons (c := ',') rfl, second.skip_cons (c := '"') rfl]
  rfl

/-- A brace ends the object. -/
theorem scanAfterMember_brace (h : IsBlanks before) (rest : List Char) :
    scanAfterMember (before ++ '\x7d' :: rest) = .ok (false, rest) := by
  rw [scanAfterMember, h.skip_cons rfl]
  rfl

/-- Members start with the quote of the first key, and are read from after it up to the end of
their object. -/
theorem RendersMembers.read (h : RendersMembers entry names text) :
    ∃ tail, text = '"' :: tail ∧ ∀ fields rest, Due entry fields names →
      readMembers fields (tail ++ '\x7d' :: rest) = .ok (entry, rest) := by
  induction h with
  | @last name member blanks pair spaces =>
    obtain ⟨tail, rfl, scan⟩ := pair.scan
    refine ⟨tail ++ blanks, rfl, fun fields rest due => ?_⟩
    obtain ⟨kept, read, left⟩ := scan fields [] (blanks ++ '\x7d' :: rest) due
      (spaces.delimited (Json.delimited_closing .object rest))
    rw [List.append_assoc, readMembers_last read (scanAfterMember_brace spaces rest)]
    exact left.finish rest
  | @next name names member before after members pair first second _ ih =>
    obtain ⟨tail, rfl, scan⟩ := pair.scan
    obtain ⟨others, rfl, readOthers⟩ := ih
    refine ⟨tail ++ (before ++ ',' :: (after ++ '"' :: others)), by simp, fun fields rest due => ?_⟩
    obtain ⟨kept, read, left⟩ := scan fields names
      (before ++ ',' :: (after ++ '"' :: (others ++ '\x7d' :: rest))) due
      (first.delimited (Json.delimited_comma _))
    have split : tail ++ (before ++ ',' :: (after ++ '"' :: others)) ++ '\x7d' :: rest =
        tail ++ (before ++ ',' :: (after ++ '"' :: (others ++ '\x7d' :: rest))) := by simp
    rw [split, readMembers_next read (scanAfterMember_comma first second _)]
    exact readOthers kept rest left

end Members

/-! ## Entries -/

section Entries

variable {entry : Entry} {entries : List Entry} {before after text rest : List Char}

/-- Both texts of an entry are due before any member is read. -/
theorem due_empty {names : List String} (expression : names.count expressionKey = 1)
    (result : names.count resultKey = 1) : Due entry .empty names := by
  constructor
  · rw [expression]
    exact .due
  · rw [result]
    exact .due

/-- The object of an entry is read up to its end. -/
theorem RendersEntry.read (h : RendersEntry entry text) (rest : List Char) :
    scanEntry (text ++ rest) = .ok (entry, rest) := by
  obtain ⟨spaces, inside, expression, result⟩ := h
  rename_i names blanks members
  obtain ⟨tail, rfl, read⟩ := inside.read
  have split : '\x7b' :: blanks ++ '"' :: tail ++ ['\x7d'] ++ rest =
      '\x7b' :: (blanks ++ '"' :: (tail ++ '\x7d' :: rest)) := by simp
  rw [split, scanEntry, readObject, spaces.skip_cons rfl]
  exact read _ rest (due_empty expression result)

/-- The object of an entry starts an item. -/
theorem RendersEntry.startsItem (h : RendersEntry entry text) : StartsItem text := by
  cases h
  exact Json.startsItem_cons rfl (by decide) (by decide) _

/-- So do the objects of a list. -/
theorem RendersEntries.startsItem (h : RendersEntries entries text) : StartsItem text := by
  cases h with
  | last object _ => exact object.startsItem.append _
  | next object _ _ _ =>
    simp only [List.append_assoc]
    exact object.startsItem.append _

/-- An entry that another one follows is put before what is read next. -/
theorem readEntries_next {after rest : List Char} {first : Entry}
    (value : scanEntry text = .ok (first, after))
    (another : scanAfterEntry after = .ok (true, rest)) :
    readEntries text = (readEntries rest).map fun (others, last) => (first :: others, last) := by
  have scanned : History.entry.scan text = .ok (first, after) := value
  have following : afterEntry.scan after = .ok (true, rest) := another
  rw [readEntries, Json.Scanner.next_of_scan scanned]
  simp only [Json.Scanner.next_of_scan following]

/-- The last entry ends the list. -/
theorem readEntries_last {after rest : List Char} {first : Entry}
    (value : scanEntry text = .ok (first, after))
    (closed : scanAfterEntry after = .ok (false, rest)) :
    readEntries text = .ok ([first], rest) := by
  have scanned : History.entry.scan text = .ok (first, after) := value
  have following : afterEntry.scan after = .ok (false, rest) := closed
  rw [readEntries, Json.Scanner.next_of_scan scanned]
  simp only [Json.Scanner.next_of_scan following]

/-- A comma leads to the next entry. -/
theorem scanAfterEntry_comma (first : IsBlanks before) (second : IsBlanks after)
    (h : StartsItem rest) :
    scanAfterEntry (before ++ ',' :: (after ++ rest)) = .ok (true, rest) := by
  obtain ⟨c, others, rfl, visible, unclosed⟩ := h
  rw [scanAfterEntry, first.skip_cons rfl]
  dsimp only
  rw [if_neg (by decide), if_pos rfl, second.skip_cons visible]
  split
  · cases ‹c :: others = []›
  · rename_i same
    cases same
    exact absurd rfl (unclosed .list)
  · rfl

/-- A bracket ends the list. -/
theorem scanAfterEntry_bracket (h : IsBlanks before) (rest : List Char) :
    scanAfterEntry (before ++ ']' :: rest) = .ok (false, rest) := by
  rw [scanAfterEntry, h.skip_cons rfl]
  rfl

/-- The entries of a list are read up to its end. -/
theorem RendersEntries.read (h : RendersEntries entries text) (rest : List Char) :
    readEntries (text ++ ']' :: rest) = .ok (entries, rest) := by
  induction h with
  | @last entry object blanks head spaces =>
    rw [List.append_assoc]
    exact readEntries_last (head.read _) (scanAfterEntry_bracket spaces rest)
  | @next entry entries object before after objects head first second others ih =>
    have starts := others.startsItem.append (']' :: rest)
    have split : object ++ before ++ ',' :: after ++ objects ++ ']' :: rest =
        object ++ (before ++ ',' :: (after ++ (objects ++ ']' :: rest))) := by simp
    rw [split, readEntries_next (head.read _) (scanAfterEntry_comma first second starts), ih]
    rfl

/-- A list of entries is read up to its end. -/
theorem readList_append (h : RendersEntries entries text) (spaces : IsBlanks before)
    (rest : List Char) :
    readList (before ++ (text ++ ']' :: rest)) = .ok (entries, rest) := by
  have read := h.read rest
  obtain ⟨c, others, same, visible, unclosed⟩ := h.startsItem.append (']' :: rest)
  rw [same] at read ⊢
  rw [readList, spaces.skip_cons visible]
  split
  · cases ‹c :: others = []›
  · rename_i closing
    cases closing
    exact absurd rfl (unclosed .list)
  · exact read

end Entries

/-! ## Histories -/

/-- A list at the front of a text, with blanks around it, is the history. -/
theorem read_of_readList {before after text : List Char} {entries : List Entry}
    (first : IsBlanks before) (last : IsBlanks after)
    (list : readList text = .ok (entries, after)) :
    read (before ++ '[' :: text) = .ok entries := by
  simp only [read, first.skip_cons (c := '[') rfl, readValue, list, bind, Except.bind,
    last.skip_all, if_pos]

/-- Every rendering of entries is read as these entries. -/
theorem read_of_renders {entries : List Entry} {text : List Char} (h : Renders entries text) :
    read text = .ok entries := by
  cases h with
  | @empty before blanks after first spaces last =>
    have list : readList (blanks ++ ']' :: after) = .ok ([], after) := by
      rw [readList, spaces.skip_cons rfl]
      rfl
    have read := read_of_readList first last list
    simpa using read
  | @filled _ before blanks objects after first spaces inside last =>
    have read := read_of_readList first last (readList_append inside spaces after)
    simpa using read

/-- A rendering is more than blanks. -/
theorem Renders.not_blank {entries : List Entry} {text : List Char} (h : Renders entries text) :
    text.all Text.isBlank = false := by
  have bracket : '[' ∈ text := by cases h <;> simp
  rw [List.all_eq_false]
  exact ⟨'[', bracket, by decide⟩

/-- The content of a file that holds a rendering of entries is these entries. -/
theorem entriesOf_encode {entries : List Entry} {text : String} (h : Renders entries text.toList) :
    entriesOf (Text.encode text) = .ok entries := by
  rw [entriesOf, Text.decode?_encode]
  dsimp only
  rw [entriesOfText, h.not_blank, if_neg Bool.false_ne_true, read_of_renders h]

end Calculator.History
