import Calculator.History.Writer
import Calculator.Json.Grammar

/-!
# Histories as any program may write them

A text renders entries if it is a list of their objects in JSON, with any blanks between tokens.
The object of an entry has the members `Expression` and `Result` once each, and any other
members with any values; the members may stand in any order. What `write` gives is one of the
texts that render some entries.
-/

namespace Calculator.History

open Calculator.Json (IsBlanks IsJson IsString)

/-- What the object of an entry may have under a name. -/
inductive RendersValue (entry : Entry) : String → List Char → Prop where
  /-- The expression. -/
  | expression {value : List Char} :
    IsString entry.expression value → RendersValue entry expressionKey value
  /-- The result. -/
  | result {value : List Char} : IsString entry.result value → RendersValue entry resultKey value
  /-- Anything under another name. -/
  | other {name : String} {value : List Char} :
    name ≠ expressionKey → name ≠ resultKey → IsJson .value value → RendersValue entry name value

/-- A member of the object of an entry, and its name. -/
inductive RendersMember (entry : Entry) (name : String) : List Char → Prop where
  /-- The name and the value, with a colon between them. -/
  | pair {key before after value : List Char} :
    IsString name key → IsBlanks before → IsBlanks after → RendersValue entry name value →
      RendersMember entry name (key ++ before ++ ':' :: after ++ value)

/-- Members up to the end of the object of an entry, and their names. -/
inductive RendersMembers (entry : Entry) : List String → List Char → Prop where
  /-- Blanks may follow the last member. -/
  | last {name : String} {member blanks : List Char} :
    RendersMember entry name member → IsBlanks blanks →
      RendersMembers entry [name] (member ++ blanks)
  /-- A comma follows any other member. -/
  | next {name : String} {names : List String} {member before after members : List Char} :
    RendersMember entry name member → IsBlanks before → IsBlanks after →
      RendersMembers entry names members →
        RendersMembers entry (name :: names) (member ++ before ++ ',' :: after ++ members)

/-- The object of an entry. -/
inductive RendersEntry (entry : Entry) : List Char → Prop where
  /-- Both members of an entry stand among its members once. -/
  | object {names : List String} {blanks members : List Char} :
    IsBlanks blanks → RendersMembers entry names members → names.count expressionKey = 1 →
      names.count resultKey = 1 → RendersEntry entry ('\x7b' :: blanks ++ members ++ ['\x7d'])

/-- Entries up to the end of their list. -/
inductive RendersEntries : List Entry → List Char → Prop where
  /-- Blanks may follow the last entry. -/
  | last {entry : Entry} {object blanks : List Char} :
    RendersEntry entry object → IsBlanks blanks → RendersEntries [entry] (object ++ blanks)
  /-- A comma follows any other entry. -/
  | next {entry : Entry} {entries : List Entry} {object before after objects : List Char} :
    RendersEntry entry object → IsBlanks before → IsBlanks after →
      RendersEntries entries objects →
        RendersEntries (entry :: entries) (object ++ before ++ ',' :: after ++ objects)

/-- The texts of a whole history. -/
inductive Renders : List Entry → List Char → Prop where
  /-- A list without entries. -/
  | empty {before blanks after : List Char} :
    IsBlanks before → IsBlanks blanks → IsBlanks after →
      Renders [] (before ++ '[' :: blanks ++ ']' :: after)
  /-- A list of entries. -/
  | filled {entries : List Entry} {before blanks objects after : List Char} :
    IsBlanks before → IsBlanks blanks → RendersEntries entries objects → IsBlanks after →
      Renders entries (before ++ '[' :: blanks ++ objects ++ ']' :: after)

end Calculator.History
