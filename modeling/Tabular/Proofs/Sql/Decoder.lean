/-
**Reading INSERT statements back.**

A reader that knows the name of the target table and the token for the generated key, and nothing
else, finds in the written statements the values that were put in.  The text of a cell cannot get in
its way: a quote inside a literal is doubled, so a literal ends where a single quote stands, and
what looks like a separator, like the end of a statement or like another statement inside a literal
is part of the value.  Only the characters beyond the limit are lost.

Main definitions:

* `Tabular.Sql.readLiteral?`, `Tabular.Sql.readValues?`, `Tabular.Sql.readStatements?` — **the
  reader**, for a literal, for the values of a statement and for lines of statements;
* `Tabular.Sql.cut` — the characters of a value that a literal keeps.

Main results:

* `Tabular.Sql.eq_of_readBody?` — what is read as a literal is pairs of quotes and other characters;
* `Tabular.Sql.readLiteral?_literalChars` — a literal ends where it was ended;
* `Tabular.Sql.readStatements?_statements` — lines of statements are read as their values;
* `Tabular.Sql.decode?_printLines` — **written statements are decoded as the rows they stand for**.
-/

import Mathlib.Data.List.Basic
import Tabular.Sql.Insert
import Tabular.Writer

set_option autoImplicit false

namespace Tabular

namespace Sql

/-! ### The reader -/

/-- The value of a literal whose first quote has been read, and the text behind its last. -/
def readBody? : List Char → Option (List Char × List Char)
  | [] => none
  | c :: cs =>
      if c = quote then
        match cs with
        | [] => some ([], [])
        | next :: more =>
            if next = quote then (readBody? more).map fun (body, rest) => (quote :: body, rest)
            else some ([], next :: more)
      else (readBody? cs).map fun (body, rest) => (c :: body, rest)

/-- The value of the literal at the beginning of a text, and the text behind it. -/
def readLiteral? : List Char → Option (List Char × List Char)
  | [] => none
  | c :: cs => if c = quote then readBody? cs else none

/-- Behind the opening quote, what is read ends with a single quote and holds pairs of quotes only. -/
theorem eq_of_readBody? {cs body rest : List Char} (h : readBody? cs = some (body, rest)) :
    cs = doubleQuotes body ++ quote :: rest ∧ rest.head? ≠ some quote := by
  fun_induction readBody? cs generalizing body rest with
  | case1 => cases h
  | case2 =>
      cases h
      exact ⟨rfl, by simp⟩
  | case3 more ih =>
      -- a pair of quotes, which is one character of the value
      obtain ⟨⟨inner, behind⟩, hinner, heq⟩ := Option.map_eq_some_iff.1 h
      cases heq
      obtain ⟨rfl, hrest⟩ := ih hinner
      rw [doubleQuotes_cons, if_pos rfl]
      exact ⟨rfl, hrest⟩
  | case4 next more hnext =>
      -- the quote that stands alone, before a character that is none
      cases h
      exact ⟨rfl, by simpa using hnext⟩
  | case5 c cs hc ih =>
      obtain ⟨⟨inner, behind⟩, hinner, heq⟩ := Option.map_eq_some_iff.1 h
      cases heq
      obtain ⟨rfl, hrest⟩ := ih hinner
      rw [doubleQuotes_cons, if_neg hc]
      exact ⟨rfl, hrest⟩

theorem length_lt_of_readBody? {cs body rest : List Char} (h : readBody? cs = some (body, rest)) :
    rest.length < cs.length := by
  obtain ⟨rfl, -⟩ := eq_of_readBody? h
  simp only [List.length_append, List.length_cons]
  omega

theorem length_lt_of_readLiteral? {cs value rest : List Char}
    (h : readLiteral? cs = some (value, rest)) : rest.length < cs.length := by
  cases cs with
  | nil => cases h
  | cons c cs =>
      rw [readLiteral?] at h
      split at h
      · exact Nat.lt_succ_of_lt (length_lt_of_readBody? h)
      · cases h

theorem length_le_of_dropPrefix? {cs expected rest : List Char}
    (h : cs.dropPrefix? expected = some rest) : rest.length ≤ cs.length := by
  obtain ⟨found, rfl, -⟩ := List.dropPrefix?_eq_some_iff.1 h
  simp

/-- What stands between two values. -/
def separator : List Char := [',', ' ']

/-- What stands behind the last value of a statement, the end of its line included. -/
def closing : List Char := [')', ';', '\n']

/-- The values at the beginning of a text up to the end of their statement, and the text behind. -/
def readValues? (cs : List Char) : Option (Record × List Char) :=
  match _h : readLiteral? cs with
  | none => none
  | some (value, rest) =>
      match _hrest : rest.dropPrefix? separator with
      | some more =>
          (readValues? more).map fun (values, rest) => (String.ofList value :: values, rest)
      | none => (rest.dropPrefix? closing).map fun rest => ([String.ofList value], rest)
termination_by cs.length
decreasing_by
  exact Nat.lt_of_le_of_lt (length_le_of_dropPrefix? _hrest) (length_lt_of_readLiteral? _h)

theorem length_lt_of_readValues? {cs rest : List Char} {values : Record}
    (h : readValues? cs = some (values, rest)) : rest.length < cs.length := by
  fun_induction readValues? cs generalizing values rest with
  | case1 => cases h
  | case2 cs value behind hvalue more hmore ih =>
      obtain ⟨⟨inner, last⟩, hinner, heq⟩ := Option.map_eq_some_iff.1 h
      cases heq
      have hle := length_le_of_dropPrefix? hmore
      have hlt := length_lt_of_readLiteral? hvalue
      exact Nat.lt_trans (ih hinner) (Nat.lt_of_le_of_lt hle hlt)
  | case3 cs value behind hvalue hmore =>
      obtain ⟨last, hlast, heq⟩ := Option.map_eq_some_iff.1 h
      cases heq
      have hle := length_le_of_dropPrefix? hlast
      exact Nat.lt_of_le_of_lt hle (length_lt_of_readLiteral? hvalue)

/-- How every statement begins. -/
def opening (target : String) (surrogate : Option String) : List Char :=
  "INSERT INTO ".toList ++ target.toList ++ " VALUES (".toList
    ++ surrogate.toList.flatMap fun key => key.toList ++ separator

/-- **The values of the statements in a text**, one row for each statement. -/
def readStatements? (target : String) (surrogate : Option String) (cs : List Char) :
    Option Table :=
  match cs with
  | [] => some []
  | c :: cs =>
      match _hvalues : (c :: cs).dropPrefix? (opening target surrogate) with
      | none => none
      | some text =>
          match _h : readValues? text with
          | none => none
          | some (values, rest) => (readStatements? target surrogate rest).map (values :: ·)
termination_by cs.length
decreasing_by
  exact Nat.lt_of_lt_of_le (length_lt_of_readValues? _h) (length_le_of_dropPrefix? _hvalues)

/-- **The rows that a file of statements stands for.** -/
def decode? (target : String) (surrogate : Option String) (file : Bytes) : Option Table :=
  (Utf8.decode? file).bind fun text => readStatements? target surrogate text.toList

/-! ### Literals -/

theorem readBody?_cons_of_ne {c : Char} (h : c ≠ quote) (cs : List Char) :
    readBody? (c :: cs) = (readBody? cs).map fun (body, rest) => (c :: body, rest) := by
  cases cs <;> simp [readBody?, h]

/-- Behind a literal that no further quote follows, the reader has its value. -/
theorem readBody?_doubleQuotes (cs : List Char) {rest : List Char}
    (h : rest.head? ≠ some quote) :
    readBody? (doubleQuotes cs ++ quote :: rest) = some (cs, rest) := by
  induction cs with
  | nil =>
      cases rest with
      | nil => rfl
      | cons c rest =>
          -- the last quote is single, because none follows it
          have hc : c ≠ quote := by simpa using h
          simp [doubleQuotes, readBody?, hc]
  | cons c cs ih =>
      rw [doubleQuotes_cons]
      by_cases hc : c = quote
      · rw [if_pos hc, hc]
        simp [readBody?, ih]
      · rw [if_neg hc]
        simp [readBody?_cons_of_ne hc, ih]

/-- **A literal ends where it was ended**, whatever its characters are. -/
theorem readLiteral?_literalChars (limit : Nat) (cs : List Char) {rest : List Char}
    (h : rest.head? ≠ some quote) :
    readLiteral? (literalChars limit cs ++ rest) = some (cs.take limit, rest) := by
  have hbody := readBody?_doubleQuotes (cs.take limit) h
  simpa [literalChars, readLiteral?] using hbody

/-! ### Statements -/

/-- The characters of a value that a literal keeps. -/
def cut (limit : Nat) (value : String) : String := String.ofList (value.toList.take limit)

theorem readValues?_of_separator {cs value more : List Char}
    (h : readLiteral? cs = some (value, separator ++ more)) :
    readValues? cs
      = (readValues? more).map fun (values, rest) => (String.ofList value :: values, rest) := by
  have hmore : (separator ++ more).dropPrefix? separator = some more :=
    List.dropPrefix?_append_of_beq more (beq_self_eq_true separator)
  rw [readValues?]
  split
  · simp_all
  · next found rest hfound =>
      cases hfound.symm.trans h
      split
      · next after hafter =>
          cases hafter.symm.trans hmore
          rfl
      · simp_all

theorem readValues?_of_closing {cs value rest : List Char}
    (h : readLiteral? cs = some (value, closing ++ rest)) :
    readValues? cs = some ([String.ofList value], rest) := by
  have hrest : (closing ++ rest).dropPrefix? closing = some rest :=
    List.dropPrefix?_append_of_beq rest (beq_self_eq_true closing)
  rw [readValues?]
  split
  · simp_all
  · next found behind hfound =>
      cases hfound.symm.trans h
      split
      · next after hafter => cases hafter
      · rw [hrest]
        rfl

/-- The values of a statement are read as far as the literals keep them. -/
theorem readValues?_literals (limit : Nat) (cell : String) (cells : Record) (rest : List Char) :
    readValues? (separator.intercalate
        ((cell :: cells).map fun value => literalChars limit value.toList) ++ (closing ++ rest))
      = some ((cell :: cells).map (cut limit), rest) := by
  induction cells generalizing cell with
  | nil =>
      -- neither `closing` nor `separator` begins with a quote, so each literal ends in its place
      have hliteral : readLiteral? (literalChars limit cell.toList ++ (closing ++ rest))
          = some (cell.toList.take limit, closing ++ rest) :=
        readLiteral?_literalChars limit cell.toList (by simp [closing, quote])
      rw [List.map_singleton, List.intercalate_singleton, readValues?_of_closing hliteral]
      rfl
  | cons next cells ih =>
      have hliteral : ∀ more : List Char,
          readLiteral? (literalChars limit cell.toList ++ (separator ++ more))
            = some (cell.toList.take limit, separator ++ more) := fun more =>
        readLiteral?_literalChars limit cell.toList (by simp [separator, quote])
      have hrest := ih next
      rw [List.map_cons] at hrest
      rw [List.map_cons, List.map_cons, List.intercalate_cons_cons, List.append_assoc,
        List.append_assoc, readValues?_of_separator (hliteral _), hrest]
      rfl

theorem Inserter.toList_values (inserter : Inserter) (row : Record) :
    (inserter.values row).map String.toList
      = inserter.surrogate.toList.map String.toList
        ++ (row ++ inserter.partition.toList).map fun value =>
            literalChars inserter.limit value.toList := by
  rw [Inserter.values, List.map_append, List.map_map, List.append_cancel_left_eq]
  exact List.map_congr_left fun value _ => toList_literal_some inserter.limit value

/-- The text of a statement and the end of its line. -/
theorem toList_statementOf_line (inserter : Inserter) (cell : String) (row : Record) :
    (Inserter.statementOf inserter.target (inserter.values (cell :: row))).toList ++ ['\n']
      = opening inserter.target inserter.surrogate
        ++ (separator.intercalate ((cell :: (row ++ inserter.partition.toList)).map fun value =>
              literalChars inserter.limit value.toList)
          ++ closing) := by
  have hseparator : ", ".toList = separator := by decide
  have hclosing : ");".toList ++ ['\n'] = closing := by decide
  have hjoined : (", ".intercalate (inserter.values (cell :: row))).toList
      = (inserter.surrogate.toList.flatMap fun key => key.toList ++ separator)
        ++ separator.intercalate ((cell :: (row ++ inserter.partition.toList)).map fun value =>
              literalChars inserter.limit value.toList) := by
    rw [String.toList_intercalate, Inserter.toList_values, hseparator]
    cases inserter.surrogate with
    | none => simp
    | some key => simp [List.intercalate_cons_cons]
  unfold opening
  rw [Inserter.toList_statementOf, hjoined, List.append_assoc, hclosing]
  simp only [List.append_assoc]

/-- The rows of a table that are not blank, as far as literals keep their cells. -/
def kept (limit : Nat) (table : Table) : Table :=
  (table.filter fun row => !row.isEmpty).map (List.map (cut limit))

@[simp] theorem kept_nil_cons (limit : Nat) (table : Table) :
    kept limit ([] :: table) = kept limit table := rfl

@[simp] theorem kept_cons_cons (limit : Nat) (cell : String) (row : Record) (table : Table) :
    kept limit ((cell :: row) :: table) = (cell :: row).map (cut limit) :: kept limit table := rfl

/-- What the statements of a table stand for: the rows that are kept, each with the value that all
rows get at its end. -/
def Inserter.rows (inserter : Inserter) (table : Table) : Table :=
  (kept inserter.limit table).map (· ++ inserter.partition.toList.map (cut inserter.limit))

theorem readStatements?_opening {target : String} {surrogate : Option String} {values : Record}
    {text rest : List Char} (h : readValues? text = some (values, rest)) :
    readStatements? target surrogate (opening target surrogate ++ text)
      = (readStatements? target surrogate rest).map (values :: ·) := by
  have hopening : (opening target surrogate ++ text).dropPrefix? (opening target surrogate)
      = some text :=
    List.dropPrefix?_append_of_beq text (beq_self_eq_true _)
  have hne : opening target surrogate ++ text ≠ [] := by
    unfold opening
    simp
  obtain ⟨c, cs, hcs⟩ := List.exists_cons_of_ne_nil hne
  rw [hcs] at hopening ⊢
  rw [readStatements?]
  split
  · simp_all
  · next found hfound =>
      cases hfound.symm.trans hopening
      split
      · simp_all
      · next read behind hread =>
          cases hread.symm.trans h
          rfl

/-- **Lines of statements are read as the rows they stand for.** -/
theorem readStatements?_statements (inserter : Inserter) (table : Table) :
    readStatements? inserter.target inserter.surrogate
        ((inserter.statements table).flatMap fun line => line.toList ++ ['\n'])
      = some (inserter.rows table) := by
  induction table with
  | nil =>
      have hnone : inserter.statements [] = [] := rfl
      rw [hnone, List.flatMap_nil, readStatements?]
      rfl
  | cons row table ih =>
      cases row with
      | nil =>
          -- a blank row leaves nothing behind in the text
          rw [Inserter.statements_nil_cons, Inserter.rows, kept_nil_cons]
          exact ih
      | cons cell row =>
          have hrows : inserter.rows ((cell :: row) :: table)
              = (cell :: (row ++ inserter.partition.toList)).map (cut inserter.limit)
                :: inserter.rows table := by
            rw [Inserter.rows, kept_cons_cons, List.map_cons, ← List.map_append]
            rfl
          have hvalues := readValues?_literals inserter.limit cell
            (row ++ inserter.partition.toList)
            ((inserter.statements table).flatMap fun line => line.toList ++ ['\n'])
          rw [Inserter.statements_cons_cons, List.flatMap_cons, toList_statementOf_line,
            List.append_assoc, List.append_assoc, readStatements?_opening hvalues, ih, hrows]
          rfl

/-! ### What the statements of two tables have in common -/

theorem literal_cut (limit : Nat) (value : String) :
    literal limit (some (cut limit value)) = literal limit (some value) := by
  simp [literal, literalChars, cut, List.take_take]

theorem Inserter.values_map_cut (inserter : Inserter) (row : Record) :
    inserter.values (row.map (cut inserter.limit)) = inserter.values row := by
  have hrow : (row.map (cut inserter.limit)).map (fun cell => literal inserter.limit (some cell))
      = row.map fun cell => literal inserter.limit (some cell) := by
    rw [List.map_map]
    exact List.map_congr_left fun cell _ => literal_cut inserter.limit cell
  rw [Inserter.values, Inserter.values, List.map_append, List.map_append, hrow]

/-- The statements depend on what is kept of a table only. -/
theorem Inserter.statements_kept (inserter : Inserter) (table : Table) :
    inserter.statements (kept inserter.limit table) = inserter.statements table := by
  induction table with
  | nil => rfl
  | cons row table ih =>
      cases row with
      | nil =>
          rw [kept_nil_cons, statements_nil_cons]
          exact ih
      | cons cell row =>
          rw [kept_cons_cons, List.map_cons, statements_cons_cons, statements_cons_cons, ih,
            ← List.map_cons, inserter.values_map_cut]

theorem Inserter.rows_eq_iff (inserter : Inserter) (table other : Table) :
    inserter.rows table = inserter.rows other
      ↔ kept inserter.limit table = kept inserter.limit other := by
  have hinjective : Function.Injective
      fun row : Record => row ++ inserter.partition.toList.map (cut inserter.limit) :=
    fun _ _ h => List.append_cancel_right h
  exact (List.map_injective_iff.2 hinjective).eq_iff

/-! ### Files -/

theorem decode?_eq_readStatements? (target : String) (surrogate : Option String)
    (lines : List String) :
    decode? target surrogate (printLines lines)
      = readStatements? target surrogate (lines.flatMap fun line => line.toList ++ ['\n']) := by
  rw [decode?, printLines_eq_encode, Utf8.decode?_encode, Option.bind_some, String.toList_ofList]

/-- **Written statements are decoded as the rows they stand for.**  Two tables therefore have the
same statements exactly if the same is kept of them. -/
theorem decode?_printLines (inserter : Inserter) (table : Table) :
    decode? inserter.target inserter.surrogate (printLines (inserter.statements table))
        = some (inserter.rows table)
      ∧ ∀ other : Table,
          printLines (inserter.statements table) = printLines (inserter.statements other)
            ↔ kept inserter.limit table = kept inserter.limit other := by
  have hdecode : ∀ t : Table,
      decode? inserter.target inserter.surrogate (printLines (inserter.statements t))
        = some (inserter.rows t) := by
    intro t
    rw [decode?_eq_readStatements?]
    exact readStatements?_statements inserter t
  refine ⟨hdecode table, ?_⟩
  intro other
  constructor
  · intro h
    have hrows : some (inserter.rows table) = some (inserter.rows other) := by
      rw [← hdecode table, ← hdecode other, h]
    exact (inserter.rows_eq_iff table other).1 (Option.some.inj hrows)
  · intro h
    -- a literal is the same whether its value was cut before or not
    rw [← inserter.statements_kept table, h, inserter.statements_kept]

end Sql

end Tabular
