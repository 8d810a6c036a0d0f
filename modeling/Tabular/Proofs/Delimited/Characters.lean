/-
**No cell ends inside a character.**

The reader of records works on bytes and knows nothing of characters, and each cell is decoded on
its own.  Still, in a text that is UTF-8 as a whole every cell is.  Whatever ends a cell or is left
out of it (a quote, a line break, an ASCII delimiter) is a whole character, and the bytes of any
other character belong to the cell in every mode of the reader.  So the reader stands between two
characters whenever a cell begins or ends, and a mark in front, which is a whole character too,
changes nothing.

A delimiter beyond ASCII is excluded because it could stand inside a character.

Main definitions:

* `Tabular.Delimited.Event.Valid`, `Tabular.Delimited.PassState.Valid` — events and states of the
  pass all of whose cells are UTF-8.

Main results:

* `Tabular.Delimited.PassState.exists_run_utf8EncodeChar` — one character keeps the cells valid;
* `Tabular.Delimited.PassState.valid_of_mem_run` — and so does a text;
* `Tabular.Delimited.valid_of_mem_lines` — **the cells on the lines of a text in UTF-8 are
  UTF-8**.
-/

import Tabular.Proofs.Delimited.OnePass
import Tabular.Proofs.Utf8

set_option autoImplicit false

namespace Tabular

namespace Utf8

/-! ### Valid byte sequences -/

theorem valid_nil : Valid [] := ⟨"", rfl⟩

theorem Valid.append {bs cs : Bytes} (hbs : Valid bs) (hcs : Valid cs) : Valid (bs ++ cs) := by
  obtain ⟨s, rfl⟩ := hbs
  obtain ⟨t, rfl⟩ := hcs
  exact ⟨s ++ t, encode_append s t⟩

theorem valid_utf8EncodeChar (c : Char) : Valid (String.utf8EncodeChar c) := by
  refine ⟨String.ofList [c], ?_⟩
  rw [encode_ofList_cons]
  exact List.append_nil _

theorem forall_valid_concat {cells : List Bytes} {cell : Bytes} (hcells : ∀ c ∈ cells, Valid c)
    (hcell : Valid cell) : ∀ c ∈ cells ++ [cell], Valid c := by
  intro c hc
  rcases List.mem_append.1 hc with hc | hc
  · exact hcells c hc
  · obtain rfl := List.mem_singleton.1 hc
    exact hcell

/-- A text without the mark it may begin with is still UTF-8. -/
theorem Valid.dropMark {bs : Bytes} (h : Valid bs) : Valid (dropMark bs) := by
  obtain ⟨s, rfl⟩ := h
  by_cases hmark : mark <+: encode s
  · obtain ⟨tail, htail⟩ := exists_encode_eq_mark_append ((mark_isPrefix_encode_iff s).1 hmark)
    rw [htail, dropMark_mark_append]
    exact ⟨tail, rfl⟩
  · rw [dropMark_of_not_isPrefix hmark]
    exact ⟨s, rfl⟩

end Utf8

namespace Delimited

/-! ### States whose cells are UTF-8 -/

/-- An event all of whose cells are UTF-8. -/
def Event.Valid (event : Event) : Prop := ∀ cell ∈ event.cells, Utf8.Valid cell

/-- A state all of whose cells are UTF-8, the one that is being read included. -/
def PassState.Valid : PassState → Prop
  | .lineStart _ => True
  | .inRecord _ cell cells => Utf8.Valid cell ∧ ∀ before ∈ cells, Utf8.Valid before

namespace PassState

theorem Valid.finish {state : PassState} (h : state.Valid) :
    ∀ event ∈ state.finish, event.Valid := by
  intro event hevent
  cases state with
  | lineStart afterReturn => cases hevent
  | inRecord mode cell cells =>
      obtain rfl := Option.some.inj hevent
      exact Utf8.forall_valid_concat h.2 h.1

/-! ### One character -/

/-- A byte that is a character by itself is left out, ends a cell or is added to it as a whole. -/
theorem Valid.stepRecord {d b : UInt8} (hb : Utf8.Valid [b]) {mode : Mode} {cell : Bytes}
    {cells : List Bytes} (hcell : Utf8.Valid cell) (hcells : ∀ before ∈ cells, Utf8.Valid before) :
    (∀ event ∈ (stepRecord d mode cell cells b).1, event.Valid) ∧
      (stepRecord d mode cell cells b).2.Valid := by
  rw [PassState.stepRecord]
  cases mode.move d b with
  | append next => exact ⟨by simp, hcell.append hb, hcells⟩
  | skip next => exact ⟨by simp, hcell, hcells⟩
  | endCell => exact ⟨by simp, Utf8.valid_nil, Utf8.forall_valid_concat hcells hcell⟩
  | endRecord =>
      refine ⟨?_, trivial⟩
      intro event hevent
      obtain rfl := Option.some.inj hevent
      exact Utf8.forall_valid_concat hcells hcell

theorem Valid.step {d b : UInt8} (hb : Utf8.Valid [b]) {state : PassState} (h : state.Valid) :
    (∀ event ∈ (state.step d b).1, event.Valid) ∧ (state.step d b).2.Valid := by
  cases state with
  | inRecord mode cell cells => exact Valid.stepRecord hb h.1 h.2
  | lineStart afterReturn =>
      have hblank : Event.blankLine.Valid := by
        intro cell hcell
        cases hcell
      rw [PassState.step]
      split
      · refine ⟨?_, trivial⟩
        split <;> simp [hblank]
      · split
        · exact ⟨by simp [hblank], trivial⟩
        · exact Valid.stepRecord hb Utf8.valid_nil (by simp)

section

variable {d : UInt8} (hd : d < 0x80)
include hd

/-- A byte of a character beyond ASCII belongs to the cell, whatever the mode. -/
theorem exists_move_eq_append {b : UInt8} (hb : 0x80 ≤ b) (mode : Mode) :
    ∃ next, mode.move d b = .append next := by
  have hlt : ∀ c : UInt8, c < 0x80 → b ≠ c := by
    rintro c hc rfl
    exact absurd hc (UInt8.not_lt.2 hb)
  have hquote : b ≠ quote := hlt quote (by decide)
  have hbare : bareMove d b = .append .bare := by
    simp [bareMove, isLineBreak, hlt d hd, hlt cr (by decide), hlt lf (by decide)]
  cases mode with
  | quoted => exact ⟨.quoted, by simp [Mode.move, hquote]⟩
  | cellStart => exact ⟨.bare, by simp [Mode.move, hquote, hbare]⟩
  | bare => exact ⟨.bare, hbare⟩
  | quoteSeen => exact ⟨.bare, by simp [Mode.move, hquote, hbare]⟩

/-- All bytes of such a character are added to the cell. -/
theorem exists_run_inRecord_append {bs : Bytes} (hbs : ∀ b ∈ bs, 0x80 ≤ b) (mode : Mode)
    (cell : Bytes) (cells : List Bytes) (rest : Bytes) :
    ∃ next, run d (.inRecord mode cell cells) (bs ++ rest)
      = run d (.inRecord next (cell ++ bs) cells) rest := by
  induction bs generalizing mode cell with
  | nil => exact ⟨mode, by rw [List.append_nil, List.nil_append]⟩
  | cons b bs ih =>
      obtain ⟨hb, hbs⟩ := List.forall_mem_cons.1 hbs
      obtain ⟨middle, hmove⟩ := exists_move_eq_append hd hb mode
      obtain ⟨next, hrun⟩ := ih hbs middle (cell ++ [b])
      refine ⟨next, ?_⟩
      rw [List.cons_append, run_cons, PassState.step, PassState.stepRecord, hmove]
      simpa using hrun

/-- **One character keeps the cells valid**: behind it the pass has found valid events and stands in
a valid state. -/
theorem exists_run_utf8EncodeChar (c : Char) {state : PassState} (h : state.Valid)
    (rest : Bytes) :
    ∃ (found : List Event) (next : PassState), (∀ event ∈ found, event.Valid) ∧ next.Valid ∧
      run d state (String.utf8EncodeChar c ++ rest) = found ++ run d next rest := by
  have hc := Utf8.valid_utf8EncodeChar c
  rcases Nat.lt_or_ge 127 c.val.toNat with hgt | hle
  · have hbytes : ∀ b ∈ String.utf8EncodeChar c, 0x80 ≤ b := fun b =>
      Utf8.le_toNat_of_mem_utf8EncodeChar hgt
    cases state with
    | inRecord mode cell cells =>
        obtain ⟨next, hrun⟩ := exists_run_inRecord_append hd hbytes mode cell cells rest
        exact ⟨[], .inRecord next (cell ++ String.utf8EncodeChar c) cells, by simp,
          ⟨h.1.append hc, h.2⟩, hrun⟩
    | lineStart afterReturn =>
        -- such a character begins a record
        obtain ⟨next, hrun⟩ := exists_run_inRecord_append hd hbytes .cellStart [] [] rest
        refine ⟨[], .inRecord next (String.utf8EncodeChar c) [], by simp, ⟨hc, by simp⟩, ?_⟩
        obtain ⟨b, bs, hb⟩ := List.exists_cons_of_ne_nil (String.utf8EncodeChar_ne_nil (c := c))
        rw [hb] at hbytes hrun ⊢
        have hge : 0x80 ≤ b := hbytes b (List.mem_cons_self ..)
        have hbreak : isLineBreak b = false := by
          rw [isLineBreak_eq_false_iff]
          constructor <;> rintro rfl <;> exact absurd hge (by decide)
        rw [List.cons_append, run_lineStart_of_not_lineBreak hbreak]
        exact hrun
  · rw [Utf8.utf8EncodeChar_of_le hle] at hc ⊢
    obtain ⟨hevents, hnext⟩ := Valid.step (d := d) hc h
    exact ⟨_, _, fun event hevent => hevents event (Option.mem_toList.1 hevent), hnext,
      run_cons d state _ rest⟩

/-! ### Texts -/

/-- A text in UTF-8 has valid events, from a valid state on. -/
theorem valid_of_mem_run (cs : List Char) {state : PassState} (h : state.Valid) :
    ∀ event ∈ run d state (Utf8.encode (String.ofList cs)), event.Valid := by
  induction cs generalizing state with
  | nil =>
      intro event hevent
      exact h.finish event (Option.mem_toList.1 hevent)
  | cons c cs ih =>
      intro event hevent
      obtain ⟨found, next, hfound, hnext, hrun⟩ :=
        exists_run_utf8EncodeChar hd c h (Utf8.encode (String.ofList cs))
      rw [Utf8.encode_ofList_cons, hrun] at hevent
      rcases List.mem_append.1 hevent with hevent | hevent
      · exact hfound event hevent
      · exact ih hnext event hevent

end

end PassState

section

variable {d : UInt8} (hd : d < 0x80)
include hd

theorem valid_of_mem_onePass {text : Bytes} (h : Utf8.Valid text) :
    ∀ event ∈ onePass d text, event.Valid := by
  obtain ⟨s, rfl⟩ := h
  have hstart : PassState.Valid (.lineStart false) := trivial
  have hevents := PassState.valid_of_mem_run hd s.toList hstart
  rwa [String.ofList_toList] at hevents

theorem valid_of_mem_fromRecord {text : Bytes} (h : Utf8.Valid text) :
    ∀ event ∈ fromRecord d text, event.Valid := by
  intro event hevent
  refine valid_of_mem_onePass hd h event ?_
  rw [onePass, run_lineStart]
  exact List.mem_append_right _ hevent

/-- **The cells on the lines of a text in UTF-8 are UTF-8**, also where a mark stands in front. -/
theorem valid_of_mem_lines {text : Bytes} (h : Utf8.Valid text) :
    ∀ row ∈ (lines d text).map Line.cells, ∀ cell ∈ row, Utf8.Valid cell := by
  intro row hrow
  by_cases hmark : Utf8.mark <+: text
  · obtain ⟨rest, rfl⟩ := hmark
    have hrest : Utf8.Valid rest := by
      have hdrop := h.dropMark
      rwa [Utf8.dropMark_mark_append] at hdrop
    rw [cells_lines_mark_append] at hrow
    obtain ⟨event, hevent, rfl⟩ := List.mem_map.1 hrow
    exact valid_of_mem_fromRecord hd hrest event hevent
  · rw [cells_lines d hmark] at hrow
    obtain ⟨event, hevent, rfl⟩ := List.mem_map.1 hrow
    exact valid_of_mem_onePass hd h event hevent

end

/-- A delimiter beyond ASCII: it is the second byte of the only character. -/
example : parse 0xA9 (Utf8.encode "é") = .error (.notUtf8 ⟨0, 1, 0⟩ ⟨0, 0⟩) := by decide +kernel

end Delimited

end Tabular
