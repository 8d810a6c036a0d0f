/-
**All the ways to spell a table.**

A table can be written in many ways.  Each cell may stand in quotes, and may stand bare if it holds
no delimiter and no line break and does not begin with a quote; each line may end with a line feed,
a carriage return or both, and the last one with nothing.  Only what would be read otherwise is
excluded: a record of one empty cell has to be quoted, because an empty line is a record without
cells, and after a carriage return an empty line cannot end with a line feed alone, because both
bytes together are one terminator.

This module says which byte sequences spell a table and proves that each of them is read as that
table.  The proof follows the one-pass reader: behind each spelled cell the reader stands outside
quotes, and behind each spelled line it stands at the beginning of a line.

Main definitions:

* `Tabular.Delimited.ProperDelimiter` — a byte that is neither a quote nor part of a line break;
* `Tabular.Delimited.SpellsCell`, `Tabular.Delimited.SpellsRecord` — the spellings of a cell and of
  a record;
* `Tabular.Delimited.Spelling`, `Tabular.Delimited.Spelling.Legal` — **the spellings of a table**.

Main results:

* `Tabular.Delimited.run_spelledLines` — the pass over spelled lines finds their records;
* `Tabular.Delimited.onePass_spelling` — **every spelling is read as the table it spells**;
* `Tabular.Delimited.parse_spelling` — the same for parsing, with or without a mark in front.
-/

import Mathlib.Data.List.Chain
import Tabular.Delimited.Printer
import Tabular.Proofs.Delimited.OnePass

set_option autoImplicit false

namespace Tabular

namespace Delimited

/-! ### Spellings -/

/-- A byte that can stand between cells and is mistaken for nothing else. -/
structure ProperDelimiter (d : UInt8) : Prop where
  ne_quote : d ≠ quote
  ne_cr : d ≠ cr
  ne_lf : d ≠ lf

theorem properDelimiter_comma : ProperDelimiter comma := ⟨by decide, by decide, by decide⟩

/-- The spellings of a cell. -/
inductive SpellsCell (d : UInt8) (cell : String) : Bytes → Prop
  /-- In quotes, with its own quotes doubled. -/
  | quoted : SpellsCell d cell (quoted (Utf8.encode cell))
  | bare : (∀ b ∈ Utf8.encode cell, b ≠ d ∧ b ≠ cr ∧ b ≠ lf) →
      (Utf8.encode cell).head? ≠ some quote → SpellsCell d cell (Utf8.encode cell)

/-- The spellings of one or more cells, joined by the delimiter. -/
inductive SpellsCells (d : UInt8) : Record → Bytes → Prop
  | one {cell : String} {bytes : Bytes} : SpellsCell d cell bytes → SpellsCells d [cell] bytes
  | cons {cell : String} {bytes : Bytes} {record : Record} {rest : Bytes} :
      SpellsCell d cell bytes → SpellsCells d record rest →
        SpellsCells d (cell :: record) (bytes ++ d :: rest)

/-- The spellings of a record, without the end of its line. -/
inductive SpellsRecord (d : UInt8) : Record → Bytes → Prop
  /-- A record without cells is an empty line. -/
  | blank : SpellsRecord d [] []
  /-- One empty cell has to be quoted. -/
  | cells {record : Record} {bytes : Bytes} : SpellsCells d record bytes →
      (record = [""] → bytes = quoted []) → SpellsRecord d record bytes

/-- What may end a line. -/
inductive LineEnding
  | lf
  | crlf
  | cr
  deriving DecidableEq, Repr

/-- The bytes of a line ending. -/
def LineEnding.bytes : LineEnding → Bytes
  | .lf => [Delimited.lf]
  | .crlf => [Delimited.cr, Delimited.lf]
  | .cr => [Delimited.cr]

/-- A line of a spelling. -/
structure SpelledLine where
  record : Record
  /-- The bytes that spell it. -/
  text : Bytes
  ending : LineEnding

namespace SpelledLine

/-- The bytes of the line. -/
def bytes (line : SpelledLine) : Bytes := line.text ++ line.ending.bytes

/-- An empty line that ends with a line feed alone. -/
def IsBareFeed (line : SpelledLine) : Prop := line.record = [] ∧ line.ending = .lf

/-- Whether a line may directly follow another one. -/
def MayPrecede (line next : SpelledLine) : Prop := line.ending = .cr → ¬ next.IsBareFeed

end SpelledLine

/-- A table as it is spelled: its lines, and perhaps a last record whose line has no ending. -/
structure Spelling where
  /-- The lines that have an ending. -/
  lines : List SpelledLine
  /-- The last record with its bytes, if its line has no ending. -/
  unended : Option (Record × Bytes)

namespace Spelling

/-- The table that is spelled. -/
def table (spelling : Spelling) : Table :=
  spelling.lines.map SpelledLine.record ++ spelling.unended.toList.map Prod.fst

/-- The bytes of the spelling. -/
def text (spelling : Spelling) : Bytes :=
  spelling.lines.flatMap SpelledLine.bytes ++ spelling.unended.toList.flatMap Prod.snd

/-- **Whether a spelling is legal.** -/
structure Legal (d : UInt8) (spelling : Spelling) : Prop where
  lines : ∀ line ∈ spelling.lines, SpellsRecord d line.record line.text
  /-- Neighbouring lines cannot be mistaken for one. -/
  chain : spelling.lines.IsChain SpelledLine.MayPrecede
  /-- A record whose line has no ending has cells. -/
  unended : ∀ last ∈ spelling.unended, last.1 ≠ [] ∧ SpellsRecord d last.1 last.2

end Spelling

/-! ### How a spelling begins -/

theorem spelledCells_ne_nil {d : UInt8} {record : Record} {text : Bytes}
    (h : SpellsCells d record text) : record ≠ [] := by
  cases h <;> simp

theorem isLineBreak_head_spelledCell {d : UInt8} {cell : String} {bytes : Bytes}
    (h : SpellsCell d cell bytes) : ∀ b ∈ bytes.head?, isLineBreak b = false := by
  intro b hb
  cases h with
  | quoted =>
      obtain rfl : quote = b := by simpa [Delimited.quoted] using hb
      rfl
  | bare hbytes _ =>
      obtain ⟨-, hcr, hlf⟩ := hbytes b (List.mem_of_mem_head? hb)
      exact isLineBreak_eq_false_iff.2 ⟨hcr, hlf⟩

theorem encode_eq_nil_of_spelledCell {d : UInt8} {cell : String} {bytes : Bytes}
    (h : SpellsCell d cell bytes) (hnil : bytes = []) : Utf8.encode cell = [] := by
  cases h with
  | quoted => simp [Delimited.quoted] at hnil
  | bare => exact hnil

/-- A spelled record with cells begins with a byte that is no line break. -/
theorem exists_head_spelledCells {d : UInt8} (hd : ProperDelimiter d) {record : Record}
    {bytes : Bytes} (h : SpellsCells d record bytes) (hempty : record = [""] → bytes = quoted []) :
    ∃ b bs, bytes = b :: bs ∧ isLineBreak b = false := by
  cases h with
  | @one cell bytes hcell =>
      cases bytes with
      | cons b bs => exact ⟨b, bs, rfl, isLineBreak_head_spelledCell hcell b rfl⟩
      | nil =>
          -- only the empty cell has an empty spelling, and that one has to be quoted
          have hcell : cell = "" := Utf8.encode_injective (encode_eq_nil_of_spelledCell hcell rfl)
          cases hempty (by rw [hcell])
  | @cons cell bytes record rest hcell _ =>
      cases bytes with
      | nil => exact ⟨d, rest, rfl, isLineBreak_eq_false_iff.2 ⟨hd.ne_cr, hd.ne_lf⟩⟩
      | cons b bs => exact ⟨b, bs ++ d :: rest, rfl, isLineBreak_head_spelledCell hcell b rfl⟩

/-! ### Reading a cell -/

theorem bareMove_of_ne {d b : UInt8} (h : b ≠ d ∧ b ≠ cr ∧ b ≠ lf) :
    bareMove d b = .append .bare := by
  obtain ⟨hd, hcr, hlf⟩ := h
  simp [bareMove, isLineBreak, hd, hcr, hlf]

/-- Outside quotes all modes read a byte alike, unless it is a quote. -/
theorem move_of_ne_quoted {d b : UInt8} {mode : Mode} (hmode : mode ≠ .quoted) (hb : b ≠ quote) :
    mode.move d b = bareMove d b := by
  cases mode with
  | quoted => exact absurd rfl hmode
  | cellStart => simp [Mode.move, hb]
  | bare => rfl
  | quoteSeen => simp [Mode.move, hb]

namespace PassState

theorem run_bare {d : UInt8} {bs : Bytes} (h : ∀ b ∈ bs, b ≠ d ∧ b ≠ cr ∧ b ≠ lf) (cell : Bytes)
    (cells : List Bytes) (rest : Bytes) :
    run d (.inRecord .bare cell cells) (bs ++ rest)
      = run d (.inRecord .bare (cell ++ bs) cells) rest := by
  induction bs generalizing cell with
  | nil => simp
  | cons b bs ih =>
      have hmove : Mode.bare.move d b = .append .bare := bareMove_of_ne (h b (List.mem_cons_self ..))
      rw [List.cons_append, run_cons, step, stepRecord, hmove]
      have hbs : ∀ b ∈ bs, b ≠ d ∧ b ≠ cr ∧ b ≠ lf := fun b hb => h b (List.mem_cons_of_mem _ hb)
      simpa using ih hbs (cell ++ [b])

/-- Doubled quotes are read as quotes, and the first quote that is not doubled ends the cell. -/
theorem run_doubleQuotes (d : UInt8) (bs cell : Bytes) (cells : List Bytes) (rest : Bytes) :
    run d (.inRecord .quoted cell cells) (doubleQuotes bs ++ quote :: rest)
      = run d (.inRecord .quoteSeen (cell ++ bs) cells) rest := by
  induction bs generalizing cell with
  | nil => simp [doubleQuotes, run_cons, step, stepRecord, Mode.move]
  | cons b bs ih =>
      rw [doubleQuotes_cons]
      by_cases hb : b = quote
      · simpa [hb, run_cons, step, stepRecord, Mode.move] using ih (cell ++ [quote])
      · simpa [hb, run_cons, step, stepRecord, Mode.move] using ih (cell ++ [b])

/-- Behind a spelled cell the reader stands outside quotes and holds the cell. -/
theorem run_spelledCell {d : UInt8} {cell : String} {bytes : Bytes} (h : SpellsCell d cell bytes)
    (cells : List Bytes) (rest : Bytes) :
    ∃ mode, mode ≠ Mode.quoted ∧ run d (.inRecord .cellStart [] cells) (bytes ++ rest)
      = run d (.inRecord mode (Utf8.encode cell) cells) rest := by
  cases h with
  | quoted =>
      refine ⟨.quoteSeen, by decide, ?_⟩
      have hquoted := run_doubleQuotes d (Utf8.encode cell) [] cells rest
      simpa [Delimited.quoted, run_cons, step, stepRecord, Mode.move] using hquoted
  | bare hbytes hquote =>
      cases hcell : Utf8.encode cell with
      | nil => exact ⟨.cellStart, by decide, rfl⟩
      | cons b bs =>
          rw [hcell] at hbytes hquote
          refine ⟨.bare, by decide, ?_⟩
          have hb : b ≠ quote := by simpa using hquote
          have hmove : Mode.cellStart.move d b = .append .bare :=
            (move_of_ne_quoted (by decide) hb).trans (bareMove_of_ne (hbytes b (List.mem_cons_self ..)))
          have hbs : ∀ b ∈ bs, b ≠ d ∧ b ≠ cr ∧ b ≠ lf :=
            fun b hb => hbytes b (List.mem_cons_of_mem _ hb)
          rw [List.cons_append, run_cons, step, stepRecord, hmove]
          exact run_bare hbs [b] cells rest

/-! ### Reading a record -/

theorem run_delimiter {d : UInt8} (hd : ProperDelimiter d) {mode : Mode} (hmode : mode ≠ .quoted)
    (cell : Bytes) (cells : List Bytes) (rest : Bytes) :
    run d (.inRecord mode cell cells) (d :: rest)
      = run d (.inRecord .cellStart [] (cells ++ [cell])) rest := by
  have hmove : mode.move d d = .endCell := by
    rw [move_of_ne_quoted hmode hd.ne_quote]
    simp [bareMove]
  rw [run_cons, step, stepRecord, hmove]
  rfl

theorem run_lineBreak {d b : UInt8} (hd : ProperDelimiter d) (hb : isLineBreak b = true)
    {mode : Mode} (hmode : mode ≠ .quoted) (cell : Bytes) (cells : List Bytes) (rest : Bytes) :
    run d (.inRecord mode cell cells) (b :: rest)
      = .record (cells ++ [cell]) :: run d (.lineStart (b == cr)) rest := by
  have hne : b ≠ quote ∧ b ≠ d := by
    rcases isLineBreak_iff.1 hb with rfl | rfl
    · exact ⟨by decide, hd.ne_cr.symm⟩
    · exact ⟨by decide, hd.ne_lf.symm⟩
  have hmove : mode.move d b = .endRecord := by
    rw [move_of_ne_quoted hmode hne.1]
    simp [bareMove, hne.2, hb]
  rw [run_cons, step, stepRecord, hmove]
  rfl

/-- Behind spelled cells the reader stands outside quotes and holds them all. -/
theorem run_spelledCells {d : UInt8} (hd : ProperDelimiter d) {record : Record} {bytes : Bytes}
    (h : SpellsCells d record bytes) (cells : List Bytes) (rest : Bytes) :
    ∃ mode cell before, mode ≠ Mode.quoted ∧
      before ++ [cell] = cells ++ record.map Utf8.encode ∧
      run d (.inRecord .cellStart [] cells) (bytes ++ rest)
        = run d (.inRecord mode cell before) rest := by
  induction h generalizing cells with
  | @one cell bytes hcell =>
      obtain ⟨mode, hmode, hrun⟩ := run_spelledCell hcell cells rest
      exact ⟨mode, Utf8.encode cell, cells, hmode, by simp, hrun⟩
  | @cons cell bytes record tail hcell _ ih =>
      obtain ⟨mode, hmode, hrun⟩ := run_spelledCell hcell cells (d :: tail ++ rest)
      obtain ⟨last, lastCell, before, hlast, hcells, hrest⟩ := ih (cells ++ [Utf8.encode cell])
      refine ⟨last, lastCell, before, hlast, by simpa using hcells, ?_⟩
      rw [List.append_assoc, hrun, List.cons_append, run_delimiter hd hmode, hrest]

end PassState

/-! ### Reading lines -/

/-- What the pass finds where a record is spelled. -/
def Event.ofRecord : Record → Event
  | [] => .blankLine
  | cell :: cells => .record ((cell :: cells).map Utf8.encode)

theorem Event.ofRecord_of_ne_nil {record : Record} (h : record ≠ []) :
    Event.ofRecord record = .record (record.map Utf8.encode) := by
  cases record with
  | nil => exact absurd rfl h
  | cons => rfl

@[simp] theorem Event.cells_ofRecord (record : Record) :
    (Event.ofRecord record).cells = record.map Utf8.encode := by
  cases record <;> rfl

namespace PassState

theorem run_lineStart_ending (d : UInt8) {afterReturn : Bool} {ending : LineEnding}
    (h : afterReturn = true → ending ≠ .lf) (rest : Bytes) :
    run d (.lineStart afterReturn) (ending.bytes ++ rest)
      = .blankLine :: run d (.lineStart (ending == .cr)) rest := by
  cases ending with
  | lf =>
      have hreturn : afterReturn = false := by simpa using h
      subst hreturn
      exact run_lineStart_lf d rest
  | crlf =>
      exact (run_lineStart_cr d afterReturn (lf :: rest)).trans
        (congrArg _ (run_lineStart_true_lf d rest))
  | cr => exact run_lineStart_cr d afterReturn rest

theorem run_inRecord_ending {d : UInt8} (hd : ProperDelimiter d) {mode : Mode}
    (hmode : mode ≠ .quoted) (cell : Bytes) (cells : List Bytes) (ending : LineEnding)
    (rest : Bytes) :
    run d (.inRecord mode cell cells) (ending.bytes ++ rest)
      = .record (cells ++ [cell]) :: run d (.lineStart (ending == .cr)) rest := by
  cases ending with
  | lf => exact run_lineBreak hd rfl hmode cell cells rest
  | crlf =>
      exact (run_lineBreak hd rfl hmode cell cells (lf :: rest)).trans
        (congrArg _ (run_lineStart_true_lf d rest))
  | cr => exact run_lineBreak hd rfl hmode cell cells rest

/-- Behind a spelled record with cells the reader stands outside quotes and holds the record. -/
theorem run_spelledRecord {d : UInt8} (hd : ProperDelimiter d) {record : Record} {text : Bytes}
    (h : SpellsCells d record text) (hempty : record = [""] → text = quoted [])
    (afterReturn : Bool) (rest : Bytes) :
    ∃ mode cell before, mode ≠ Mode.quoted ∧
      .record (before ++ [cell]) = Event.ofRecord record ∧
      run d (.lineStart afterReturn) (text ++ rest) = run d (.inRecord mode cell before) rest := by
  obtain ⟨b, bs, rfl, hb⟩ := exists_head_spelledCells hd h hempty
  obtain ⟨mode, cell, before, hmode, hcells, hrun⟩ := run_spelledCells hd h [] rest
  refine ⟨mode, cell, before, hmode, ?_, ?_⟩
  · rw [Event.ofRecord_of_ne_nil (spelledCells_ne_nil h), hcells, List.nil_append]
  rw [← hrun]
  exact run_lineStart_of_not_lineBreak hb afterReturn (bs ++ rest)

/-- **A spelled line is read as its record.** -/
theorem run_spelledLine {d : UInt8} (hd : ProperDelimiter d) {record : Record} {text : Bytes}
    (h : SpellsRecord d record text) {afterReturn : Bool} {ending : LineEnding}
    (hreturn : afterReturn = true → ¬ (record = [] ∧ ending = .lf)) (rest : Bytes) :
    run d (.lineStart afterReturn) (text ++ (ending.bytes ++ rest))
      = .ofRecord record :: run d (.lineStart (ending == .cr)) rest := by
  cases h with
  | blank =>
      have hlf : afterReturn = true → ending ≠ .lf := fun hr hlf => hreturn hr ⟨rfl, hlf⟩
      exact run_lineStart_ending d hlf rest
  | cells hcells hempty =>
      obtain ⟨mode, cell, before, hmode, hevent, hrun⟩ :=
        run_spelledRecord hd hcells hempty afterReturn (ending.bytes ++ rest)
      rw [hrun, run_inRecord_ending hd hmode, hevent]

/-- **Spelled lines are read as their records**, and the reader stands at the beginning of a line
again.  Only a line that ends with a lone carriage return leaves a trace. -/
theorem run_spelledLines {d : UInt8} (hd : ProperDelimiter d) {lines : List SpelledLine}
    (h : ∀ line ∈ lines, SpellsRecord d line.record line.text)
    (hchain : lines.IsChain SpelledLine.MayPrecede) (afterReturn : Bool)
    (hreturn : afterReturn = true → ∀ line ∈ lines.head?, ¬ line.IsBareFeed) (rest : Bytes) :
    ∃ returned : Bool,
      (returned = true → afterReturn = true ∨ ∃ line ∈ lines, line.ending = .cr) ∧
      run d (.lineStart afterReturn) (lines.flatMap SpelledLine.bytes ++ rest)
        = lines.map (fun line => .ofRecord line.record) ++ run d (.lineStart returned) rest := by
  induction lines generalizing afterReturn with
  | nil => exact ⟨afterReturn, Or.inl, rfl⟩
  | cons line lines ih =>
      -- what the next line may be depends on how this one ends, not on what it holds
      have hline := run_spelledLine hd (h line (List.mem_cons_self ..))
        (fun hr => hreturn hr line rfl) (lines.flatMap SpelledLine.bytes ++ rest)
      have htail : lines.IsChain SpelledLine.MayPrecede ∧
          ((line.ending == .cr) = true → ∀ next ∈ lines.head?, ¬ next.IsBareFeed) := by
        cases lines with
        | nil => exact ⟨.nil, by simp⟩
        | cons next lines =>
            rw [List.isChain_cons_cons] at hchain
            refine ⟨hchain.2, fun hr m hm => ?_⟩
            obtain rfl : next = m := by simpa using hm
            exact hchain.1 (by simpa using hr)
      obtain ⟨returned, hcr, hlines⟩ :=
        ih (fun line hmem => h line (List.mem_cons_of_mem _ hmem)) htail.1 _ htail.2
      refine ⟨returned, fun hr => Or.inr ?_, ?_⟩
      · rcases hcr hr with hline | ⟨next, hmem, hnext⟩
        · exact ⟨line, List.mem_cons_self .., by simpa using hline⟩
        · exact ⟨next, List.mem_cons_of_mem _ hmem, hnext⟩
      rw [List.flatMap_cons, SpelledLine.bytes, List.append_assoc, List.append_assoc, hline, hlines]
      rfl

end PassState

/-! ### Reading a whole table -/

/-- **Every spelling is read as the table it spells.** -/
theorem onePass_spelling {d : UInt8} (hd : ProperDelimiter d) {spelling : Spelling}
    (h : spelling.Legal d) : onePass d spelling.text = spelling.table.map Event.ofRecord := by
  obtain ⟨lines, unended⟩ := spelling
  obtain ⟨hlines, hchain, hunended⟩ := h
  obtain ⟨returned, -, hrun⟩ := PassState.run_spelledLines hd hlines hchain
    false (by simp) (unended.toList.flatMap Prod.snd)
  rw [onePass, Spelling.text, hrun, Spelling.table, List.map_append, List.map_map]
  congr 1
  cases unended with
  | none => rfl
  | some last =>
      obtain ⟨hne, hlast⟩ := hunended last rfl
      obtain ⟨record, text⟩ := last
      cases hlast with
      | blank => exact absurd rfl hne
      | cells hcells hempty =>
          obtain ⟨mode, cell, before, -, hevent, hend⟩ :=
            PassState.run_spelledRecord hd hcells hempty returned []
          simpa [PassState.finish, hevent] using hend

theorem map_cells_ofRecord (t : Table) : (t.map Event.ofRecord).map Event.cells = t.bytes := by
  rw [List.map_map, Table.bytes]
  exact List.map_congr_left fun record _ => Event.cells_ofRecord record

/-- **Every spelling parses as the table it spells**, with or without a byte order mark in front. -/
theorem parse_spelling {d : UInt8} (hd : ProperDelimiter d) {spelling : Spelling}
    (h : spelling.Legal d) (hmark : ¬ Utf8.mark <+: spelling.text) :
    parse d spelling.text = .ok spelling.table ∧
      parse d (Utf8.mark ++ spelling.text) = .ok spelling.table := by
  have hcells : (onePass d spelling.text).map Event.cells = spelling.table.bytes := by
    rw [onePass_spelling hd h, map_cells_ofRecord]
  constructor
  · have hsource := Utf8.dropMark_of_not_isPrefix hmark
    exact (parse_eq_ok_iff_onePass d hmark hsource spelling.table).2 hcells
  · have hsource := Utf8.dropMark_mark_append spelling.text
    exact (parse_eq_ok_iff_onePass d hmark hsource spelling.table).2 hcells

/-- A bare quote, a quoted delimiter, a blank line between two lone carriage returns, and a quoted
empty cell without a line ending. -/
def mixedSpelling : Spelling where
  lines := [⟨["a\"b", "c,d"], Utf8.encode "a\"b" ++ comma :: quoted (Utf8.encode "c,d"), .cr⟩,
    ⟨[], [], .crlf⟩]
  unended := some ([""], quoted [])

theorem parse_spelling_mixed :
    ProperDelimiter comma ∧ mixedSpelling.Legal comma ∧ ¬ Utf8.mark <+: mixedSpelling.text ∧
      mixedSpelling.text = Utf8.encode "a\"b,\"c,d\"\r\r\n\"\"" ∧
      parse comma (Utf8.mark ++ mixedSpelling.text) = .ok [["a\"b", "c,d"], [], [""]] := by
  have hd : ProperDelimiter comma := ⟨by decide, by decide, by decide⟩
  have hlegal : mixedSpelling.Legal comma := by
    refine ⟨?_, ?_, ?_⟩
    · intro line hline
      rcases List.mem_cons.1 hline with rfl | hline
      · exact .cells (.cons (.bare (by decide +kernel) (by decide)) (.one .quoted)) (by decide)
      · obtain rfl := List.mem_singleton.1 hline
        exact .blank
    · exact .cons_cons (fun _ h => by cases h.2) (.singleton _)
    · intro last hlast
      obtain rfl := Option.mem_some.1 hlast
      exact ⟨by decide, .cells (.one .quoted) (by decide)⟩
  have hmark : ¬ Utf8.mark <+: mixedSpelling.text := by decide
  exact ⟨hd, hlegal, hmark, by decide, (parse_spelling hd hlegal hmark).2⟩

end Delimited

end Tabular
