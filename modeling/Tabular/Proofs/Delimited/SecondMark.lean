/-
**A second byte order mark.**

One mark in front of a text is left out before the text is cut into lines.  A second one is left out as
well, but only where records are read: the blank lines in front of the first record are counted from
this mark on, and no line break stands there.  Behind the first record both ways of looking at the text
have passed the mark, and every place is counted as without it.  So a second mark costs exactly the
blank lines in front of the text, and moves all records up by their number.

Main results:

* `Tabular.Delimited.countTerminators_eq_zero_iff` — when a text begins with a blank line;
* `Tabular.Delimited.parse_eq_ok_iff_mark_mark` — the table of a text, and what is read of the text
  behind two marks;
* `Tabular.Delimited.parse_mark_mark_append` — **a second mark costs the blank lines in front**.
-/

import Tabular.Proofs.Delimited.OnePass

set_option autoImplicit false

namespace Tabular

namespace Delimited

/-! ### Blank lines in front -/

/-- A text begins with a blank line exactly if its first byte is a line break. -/
theorem countTerminators_eq_zero_iff {text : Bytes} :
    countTerminators text = 0 ↔ ∀ b ∈ text.head?, isLineBreak b = false := by
  cases h : afterTerminator? text with
  | none => exact iff_of_true (countTerminators_of_none h) (isLineBreak_of_afterTerminator?_none h)
  | some rest =>
      rw [countTerminators_of_some h]
      refine iff_of_false (Nat.succ_ne_zero _) fun hbreak => ?_
      rcases eq_of_afterTerminator?_some h with rfl | rfl | ⟨rfl, -⟩
      · exact absurd (hbreak lf rfl) (by decide)
      · exact absurd (hbreak cr rfl) (by decide)
      · exact absurd (hbreak cr rfl) (by decide)

/-- From the next record on there is no blank line in front. -/
theorem cells_ne_nil_of_mem_head?_fromRecord {d : UInt8} {text : Bytes} :
    ∀ event ∈ (fromRecord d text).head?, event.cells ≠ [] := by
  intro event hevent
  have hrun := run_lineStart d text
  rw [fromRecord] at hevent hrun
  cases hnext : nextRecord? d text with
  | none =>
      rw [hnext] at hevent
      cases hevent
  | some next =>
      rw [hnext] at hevent hrun
      cases hevent
      have hmem : .record next.cells ∈ PassState.run d (.lineStart false) text := by
        rw [hrun]
        exact List.mem_append_right _ (List.mem_cons_self ..)
      exact cells_ne_nil_of_mem_run hmem

/-- Where a table is cut behind its blank lines in front. -/
theorem span_replicate_append {n : Nat} {u : Table} (h : u.head? ≠ some []) :
    (List.replicate n [] ++ u).takeWhile List.isEmpty = List.replicate n [] ∧
      (List.replicate n [] ++ u).dropWhile List.isEmpty = u := by
  have hblank : ∀ record ∈ List.replicate n ([] : Record), record.isEmpty = true := by simp
  rw [List.takeWhile_append_of_pos hblank, List.dropWhile_append_of_pos hblank]
  cases u with
  | nil => exact ⟨List.append_nil _, rfl⟩
  | cons record u =>
      have hrecord : ¬ record.isEmpty = true := by simpa using h
      rw [List.takeWhile_cons_of_neg hrecord, List.dropWhile_cons_of_neg hrecord]
      exact ⟨List.append_nil _, rfl⟩

/-! ### Two marks -/

/-- Behind two marks a text is read from its first record on. -/
theorem parse_mark_mark_eq_ok_iff (d : UInt8) (text : Bytes) (u : Table) :
    parse d (Utf8.mark ++ (Utf8.mark ++ text)) = .ok u ↔
      (fromRecord d text).map Event.cells = u.bytes := by
  rw [parse_eq_ok_iff, Utf8.dropMark_mark_append, cells_lines_mark_append]

theorem head?_ne_of_parse_mark_mark {d : UInt8} {text : Bytes} {u : Table}
    (h : parse d (Utf8.mark ++ (Utf8.mark ++ text)) = .ok u) : u.head? ≠ some [] := by
  intro hblank
  have hhead : (fromRecord d text).head?.map Event.cells = some [] := by
    rw [← List.head?_map, (parse_mark_mark_eq_ok_iff d text u).1 h, Table.bytes, List.head?_map,
      hblank]
    rfl
  obtain ⟨event, hevent, hcells⟩ := Option.map_eq_some_iff.1 hhead
  exact cells_ne_nil_of_mem_head?_fromRecord event hevent hcells

/-- The table of a text is what is read of it behind two marks, and before that its blank lines in
front. -/
theorem parse_eq_ok_iff_mark_mark (d : UInt8) {text : Bytes} (h : ¬ Utf8.mark <+: text)
    (t : Table) :
    parse d text = .ok t ↔
      ∃ u, parse d (Utf8.mark ++ (Utf8.mark ++ text)) = .ok u ∧
        t = List.replicate (countTerminators text) [] ++ u := by
  have hblank : (List.replicate (countTerminators text) Event.blankLine).map Event.cells
      = Table.bytes (List.replicate (countTerminators text) []) := by
    rw [Table.bytes, List.map_replicate, List.map_replicate]
    rfl
  simp only [parse_mark_mark_eq_ok_iff]
  rw [parse_eq_ok_iff_onePass d h (Utf8.dropMark_of_not_isPrefix h), onePass, run_lineStart,
    List.map_append, hblank]
  -- what follows the blank lines is the same list of events in both texts
  constructor
  · intro hbytes
    obtain ⟨u, rfl, hu⟩ := Table.exists_append_eq_of_bytes hbytes
    exact ⟨u, hu, rfl⟩
  · rintro ⟨u, hu, rfl⟩
    rw [hu, Table.bytes, Table.bytes, Table.bytes, List.map_append]

/-- **A second mark costs the blank lines in front**: behind two marks a text parses if it parses
alone, and then to its records without the blank ones in front.  This is the same table exactly if the
text does not begin with a line break.  Otherwise all records that are left stand earlier by the number
of the blank ones, which is that of the line terminators in front. -/
theorem parse_mark_mark_append (d : UInt8) {text : Bytes} (h : ¬ Utf8.mark <+: text) :
    ((∃ u, parse d (Utf8.mark ++ (Utf8.mark ++ text)) = .ok u) ↔ ∃ t, parse d text = .ok t) ∧
      ∀ t, parse d text = .ok t →
        parse d (Utf8.mark ++ (Utf8.mark ++ text)) = .ok (t.dropWhile List.isEmpty) ∧
          (parse d (Utf8.mark ++ (Utf8.mark ++ text)) = .ok t ↔
            ∀ b ∈ text.head?, isLineBreak b = false) ∧
          (t.takeWhile List.isEmpty).length = countTerminators text ∧
          ∀ place : Nat,
            (t.dropWhile List.isEmpty)[place]? = t[countTerminators text + place]? := by
  have hiff := parse_eq_ok_iff_mark_mark d h
  refine ⟨⟨?_, ?_⟩, ?_⟩
  · rintro ⟨u, hu⟩
    exact ⟨_, (hiff _).2 ⟨u, hu, rfl⟩⟩
  · rintro ⟨t, ht⟩
    obtain ⟨u, hu, -⟩ := (hiff t).1 ht
    exact ⟨u, hu⟩
  · intro t ht
    obtain ⟨u, hu, rfl⟩ := (hiff t).1 ht
    obtain ⟨hblank, hrecords⟩ := span_replicate_append (n := countTerminators text)
      (head?_ne_of_parse_mark_mark hu)
    rw [hblank, hrecords, hu]
    refine ⟨rfl, ?_, List.length_replicate, ?_⟩
    · rw [← countTerminators_eq_zero_iff, Except.ok.injEq]
      simp
    · intro place
      rw [List.getElem?_append_right (by simp)]
      simp

/-- Blank lines of three kinds in front, and one behind the first record that stays. -/
theorem parse_mark_mark_append_blankLines :
    ¬ Utf8.mark <+: Utf8.encode "\r\n\r\r\na\n\nb" ∧
      parse comma (Utf8.encode "\r\n\r\r\na\n\nb") = .ok [[], [], [], ["a"], [], ["b"]] ∧
      parse comma (Utf8.mark ++ (Utf8.mark ++ Utf8.encode "\r\n\r\r\na\n\nb"))
        = .ok [["a"], [], ["b"]] ∧
      countTerminators (Utf8.encode "\r\n\r\r\na\n\nb") = 3 := by
  have hmark : ¬ Utf8.mark <+: Utf8.encode "\r\n\r\r\na\n\nb" := by decide
  have hparse : parse comma (Utf8.encode "\r\n\r\r\na\n\nb")
      = .ok [[], [], [], ["a"], [], ["b"]] := by decide +kernel
  obtain ⟨-, hrest⟩ := parse_mark_mark_append comma hmark
  obtain ⟨hdropped, -, hcount, -⟩ := hrest _ hparse
  exact ⟨hmark, hparse, hdropped, hcount.symm⟩

end Delimited

end Tabular
