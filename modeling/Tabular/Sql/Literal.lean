/-
**SQL literals.**

A value is written between single quotes, with every quote inside doubled.  Long values are cut
first: a literal stands for a bounded number of characters, and the cut never separates the two
halves of a doubled quote.  A value that is absent is written as the keyword `NULL`.

Main definitions:

* `Tabular.Sql.literalChars` — the characters of a literal;
* `Tabular.Sql.literal` — **the literal for a value that may be absent**;
* `Tabular.Sql.literalOf` — the same for a value of any type that has a text.
-/

set_option autoImplicit false

namespace Tabular

namespace Sql

/-- The single quote. -/
def quote : Char := '\''

/-- The number of characters that are kept unless another limit is chosen. -/
def defaultLimit : Nat := 255

/-- The characters with every quote doubled. -/
def doubleQuotes (cs : List Char) : List Char :=
  cs.flatMap fun c => if c = quote then [quote, quote] else [c]

theorem doubleQuotes_cons (c : Char) (cs : List Char) :
    doubleQuotes (c :: cs) = (if c = quote then [quote, quote] else [c]) ++ doubleQuotes cs :=
  rfl

/-- The literal that stands for the first `limit` characters. -/
def literalChars (limit : Nat) (cs : List Char) : List Char :=
  quote :: (doubleQuotes (cs.take limit) ++ [quote])

/-- **The literal for a value that may be absent.** -/
def literal (limit : Nat) : Option String → String
  | none => "NULL"
  | some value => String.ofList (literalChars limit value.toList)

/-- The literal for the text of a value that may be absent. -/
def literalOf {α : Type} [ToString α] (value : Option α) : String :=
  literal defaultLimit (value.map toString)

@[simp] theorem toList_literal_some (limit : Nat) (value : String) :
    (literal limit (some value)).toList = literalChars limit value.toList := by
  simp [literal]

end Sql

end Tabular
