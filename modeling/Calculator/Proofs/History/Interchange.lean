import Calculator.Proofs.History.Refinement

/-!
# A history may come from another program

A file that holds a rendering of entries, in whatever layout, keeps these entries just as a file
does that was written here (`FileStore.holds_of_renders`): it can be read, and since a file that
can be read can be written, entries can be added to it.
-/

namespace Calculator.History

open Calculator.Json (IsBlanks IsJson IsNumeral IsQuad IsString isBlanks_nil)

variable {path : Files.Path} {files : Files.FileSystem} {entries : List Entry} {text : String}

/-- A file with a rendering of entries keeps them. -/
theorem FileStore.holds_of_renders (renders : Renders entries text.toList)
    (stored : files.read path = .ok (Text.encode text)) :
    FileStore.Holds path ⟨path, files⟩ entries := by
  obtain ⟨written, writable⟩ := Files.FileSystem.write_isOk_of_read stored []
  refine ⟨rfl, ?_, [], written, writable⟩
  change entriesFound (files.read path) = .ok entries
  rw [stored]
  exact entriesOf_encode renders

/-- The entries of a file are those that its text renders, in whatever layout, order of members
and escaping, and with whatever other members; and an entry that is added to them comes after
them when the file is read again. -/
theorem rendering_is_kept (renders : Renders entries text.toList)
    (stored : files.read path = .ok (Text.encode text)) :
    (Store.readAll (⟨path, files⟩ : FileStore)).result = .ok entries ∧
      ∀ entry, (Store.append (⟨path, files⟩ : FileStore) entry).result = .ok () ∧
        (Store.readAll (⟨path, (Store.append (⟨path, files⟩ : FileStore) entry).store.files⟩ :
          FileStore)).result = .ok (entries ++ [entry]) := by
  have keeps := FileStore.keeps path
  have held := FileStore.holds_of_renders renders stored
  refine ⟨(keeps.readAll held).1, fun entry => ?_⟩
  obtain ⟨added, after⟩ := keeps.append held entry
  refine ⟨added, ?_⟩
  have here : (Store.append (⟨path, files⟩ : FileStore) entry).store.path = path :=
    FileStore.path_of_serve ⟨path, files⟩ (.append entry)
  have same : (⟨path, (Store.append (⟨path, files⟩ : FileStore) entry).store.files⟩ : FileStore) =
      (Store.append (⟨path, files⟩ : FileStore) entry).store :=
    congrArg (FileStore.mk · _) here.symm
  rw [same]
  exact (keeps.readAll after).1

/-- A list of one entry with blanks of every kind, the result before the expression, and a member
between them that an entry does not have. A key and a text have escapes that need not be there. -/
def otherLayout : String :=
  "\n[ \x7b\"Result\" : \"\\u00e9\\/\\uD83d\\ude00\"\r,\"n\":[\x7b\"\\uD800\":-1.5E+2\x7d],\n" ++
    "\"\\u0045xpression\":\"5 -\"\x7d\t]"

/-- A store whose file, alone in its directory, holds a text. -/
def FileStore.ofText (text : String) : FileStore :=
  ⟨⟨[0x68]⟩, ⟨[([[0x68]], .file (Text.encode text))], []⟩⟩

/-- What the layout renders. -/
theorem renders_otherLayout : Renders [⟨"5 -", "é/😀"⟩] otherLayout.toList := by
  have accent : IsQuad 'é'.toNat ['0', '0', 'e', '9'] := Json.isQuad_low (by decide)
  have leading : IsQuad (0xD800 + ('😀'.toNat - 0x10000) / 0x400) ['D', '8', '3', 'd'] :=
    @IsQuad.digits 13 8 3 13 _ _ _ _ (by decide) (by decide) (by decide) (by decide)
  have trailing : IsQuad (0xDC00 + ('😀'.toNat - 0x10000) % 0x400) ['d', 'e', '0', '0'] :=
    @IsQuad.digits 13 14 0 0 _ _ _ _ (by decide) (by decide) (by decide) (by decide)
  have slash : ('/', '/') ∈ Json.shortEscapes := by simp [Json.shortEscapes]
  have face : Json.CharForm '😀' _ := .pair (by decide) leading trailing
  have value : IsString "é/😀" _ :=
    .quoted (.cons (.number accent) (.cons (.short slash) (.cons face .nil)))
  have space : IsBlanks [' '] := Json.isBlanks_singleton rfl
  have result : RendersMember ⟨"5 -", "é/😀"⟩ resultKey _ :=
    .pair (Json.isString_writeText resultKey) space space (.result value)
  -- half of a surrogate pair is no text, but may stand where no text is needed
  have lone : IsQuad 0xD800 ['D', '8', '0', '0'] :=
    @IsQuad.digits 13 8 0 0 _ _ _ _ (by decide) (by decide) (by decide) (by decide)
  have whole : Json.IsWhole ['1'] := .positive (by decide) (Json.isDigits_singleton rfl)
  have fraction : Json.IsFraction ['.', '5'] := .point (Json.isDigits_singleton rfl)
  have exponent : Json.IsExponent ['E', '+', '2'] :=
    .mark (by simp) (by simp : ['+'] ∈ [[], ['+'], ['-']]) (Json.isDigits_singleton rfl)
  have number : IsNumeral ['-', '1', '.', '5', 'E', '+', '2'] :=
    .parts (by simp : ['-'] ∈ [[], ['-']]) whole fraction exponent
  have object : IsJson .value _ := .filled isBlanks_nil
    (.last (.member (.number lone .nil) isBlanks_nil isBlanks_nil (.numeral number)) isBlanks_nil)
  have note : RendersMember ⟨"5 -", "é/😀"⟩ "n" _ :=
    .pair (Json.isString_writeText "n") isBlanks_nil isBlanks_nil
      (.other (by decide) (by decide) (.filled isBlanks_nil (.last (.element object) isBlanks_nil)))
  have letter : IsQuad 'E'.toNat ['0', '0', '4', '5'] := Json.isQuad_low (by decide)
  have key : IsString expressionKey _ :=
    .quoted (.cons (.number letter) (Json.textForm_writeChar "xpression".toList))
  have expression : RendersMember ⟨"5 -", "é/😀"⟩ expressionKey _ :=
    .pair key isBlanks_nil isBlanks_nil (.expression (Json.isString_writeText "5 -"))
  have carriageReturn : IsBlanks ['\r'] := Json.isBlanks_singleton rfl
  have lineFeed : IsBlanks ['\n'] := Json.isBlanks_singleton rfl
  have tab : IsBlanks ['\t'] := Json.isBlanks_singleton rfl
  have entry : RendersEntry ⟨"5 -", "é/😀"⟩ _ := .object isBlanks_nil
    (.next result carriageReturn isBlanks_nil
      (.next note isBlanks_nil lineFeed (.last expression isBlanks_nil)))
    (by decide) (by decide)
  exact .filled lineFeed space (.last entry tab) isBlanks_nil

/-- Such a layout is read, and an entry is added to it. -/
theorem otherLayout_is_kept :
    (Store.readAll (FileStore.ofText otherLayout)).result = .ok [⟨"5 -", "é/😀"⟩] ∧
      ∀ entry, (Store.append (FileStore.ofText otherLayout) entry).result = .ok () ∧
        (Store.readAll (⟨⟨[0x68]⟩,
          (Store.append (FileStore.ofText otherLayout) entry).store.files⟩ : FileStore)).result =
            .ok [⟨"5 -", "é/😀"⟩, entry] :=
  rendering_is_kept renders_otherLayout rfl

end Calculator.History
