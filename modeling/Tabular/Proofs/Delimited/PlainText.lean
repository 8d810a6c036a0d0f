/-
**Text without quotes.**

A text that holds no double quote can be read without the machine: it is cut into lines at its line
breaks, and each line that is not empty is cut into fields at the delimiter.  Parsing agrees with
this for every ASCII delimiter, so that the number of a record is the number of its line.

A delimiter beyond ASCII is excluded because it could stand inside a character.

Main definitions:

* `Tabular.Delimited.textLines` — **the lines of a text**, at all three line endings;
* `Tabular.Delimited.fieldsOf` — the fields of a line.

Main results:

* `Tabular.Delimited.run_linesFrom` — the pass over a text finds its lines;
* `Tabular.Delimited.parse_plainText` — **a text without quotes parses as the fields of its lines**.
-/

import Tabular.Proofs.Delimited.RoundTrip

set_option autoImplicit false

namespace Tabular

namespace Delimited

/-! ### Lines and fields -/

/-- The lines of `front` and the text after it, where no line has ended yet in `front`. -/
def linesFrom (front : List Char) : List Char → List (List Char)
  | [] => if front = [] then [] else [front]
  | '\n' :: cs => front :: linesFrom [] cs
  | '\r' :: '\n' :: cs => front :: linesFrom [] cs
  | '\r' :: cs => front :: linesFrom [] cs
  | c :: cs => linesFrom (front ++ [c]) cs

/-- **The lines of a text**, without their endings.  Nothing is a line behind the last ending. -/
def textLines (text : String) : List (List Char) := linesFrom [] text.toList

/-- The fields of a line; an empty line has none. -/
def fieldsOf (delimiter : Char) (line : List Char) : Record :=
  if line = [] then [] else (line.splitOn delimiter).map String.ofList

@[simp] theorem fieldsOf_nil (delimiter : Char) : fieldsOf delimiter [] = [] := rfl

theorem fieldsOf_eq_nil_iff {delimiter : Char} {line : List Char} :
    fieldsOf delimiter line = [] ↔ line = [] := by
  rw [fieldsOf]
  split <;> simp_all

/-! ### Fields are bare cells -/

theorem mem_of_mem_splitOn {delimiter : Char} {line field : List Char}
    (h : field ∈ line.splitOn delimiter) : ∀ c ∈ field, c ∈ line ∧ c ≠ delimiter := by
  induction line generalizing field with
  | nil =>
      obtain rfl : field = [] := by simpa using h
      simp
  | cons c line ih =>
      rw [List.splitOn_cons_eq_if_modifyHead] at h
      intro b hb
      by_cases hc : c = delimiter
      · rw [if_pos (by simpa using hc)] at h
        rcases List.mem_cons.1 h with rfl | h
        · cases hb
        · obtain ⟨hmem, hne⟩ := ih h b hb
          exact ⟨List.mem_cons_of_mem _ hmem, hne⟩
      · rw [if_neg (by simpa using hc)] at h
        obtain ⟨first, rest, hsplit⟩ :=
          List.exists_cons_of_ne_nil (List.splitOn_ne_nil delimiter line)
        rw [hsplit, List.modifyHead_cons] at h
        rcases List.mem_cons.1 h with rfl | h
        · rcases List.mem_cons.1 hb with rfl | hb
          · exact ⟨List.mem_cons_self .., hc⟩
          · obtain ⟨hmem, hne⟩ := ih (hsplit ▸ List.mem_cons_self ..) b hb
            exact ⟨List.mem_cons_of_mem _ hmem, hne⟩
        · obtain ⟨hmem, hne⟩ := ih (hsplit ▸ List.mem_cons_of_mem _ h) b hb
          exact ⟨List.mem_cons_of_mem _ hmem, hne⟩

/-- A character that can stand in a bare cell, whatever the delimiter. -/
def IsPlain (c : Char) : Prop := c ≠ '"' ∧ c ≠ '\r' ∧ c ≠ '\n'

theorem encode_intercalate {d : UInt8} (hascii : d < 0x80) (fields : List (List Char)) :
    Utf8.encode (String.ofList ([Char.ofUInt8 d].intercalate fields))
      = [d].intercalate (fields.map fun field => Utf8.encode (String.ofList field)) := by
  induction fields with
  | nil => rfl
  | cons field fields ih =>
      cases fields with
      | nil => simp
      | cons next fields =>
          rw [List.map_cons] at ih ⊢
          rw [List.intercalate_cons_cons, List.map_cons, List.intercalate_cons_cons, ← ih,
            String.ofList_append, String.ofList_append, Utf8.encode_append, Utf8.encode_append,
            Utf8.encode_ofList_cons, Utf8.utf8EncodeChar_ofUInt8 hascii]
          rfl

section Line

variable {d : UInt8} {line : List Char}

/-- A field of a plain line is written as it stands. -/
theorem printCell_of_mem_splitOn (hascii : d < 0x80) (hline : ∀ c ∈ line, IsPlain c)
    {field : List Char} (h : field ∈ line.splitOn (Char.ofUInt8 d)) :
    printCell d (Utf8.encode (String.ofList field)) = Utf8.encode (String.ofList field) := by
  have hchar {b : UInt8} (hb : b < 0x80) (hmem : b ∈ Utf8.encode (String.ofList field)) :
      Char.ofUInt8 b ∈ line ∧ Char.ofUInt8 b ≠ Char.ofUInt8 d := by
    have hfield := Utf8.ofUInt8_mem_of_mem_encode hb hmem
    rw [String.toList_ofList] at hfield
    exact mem_of_mem_splitOn h _ hfield
  have hquotes : needsQuotes d (Utf8.encode (String.ofList field)) = false := by
    rw [needsQuotes_eq_false_iff]
    intro b hb
    refine ⟨?_, ?_, ?_, ?_⟩
    · rintro rfl
      exact (hchar hascii hb).2 rfl
    · rintro rfl
      exact (hline _ (hchar (by decide) hb).1).1 rfl
    · rintro rfl
      exact (hline _ (hchar (by decide) hb).1).2.1 rfl
    · rintro rfl
      exact (hline _ (hchar (by decide) hb).1).2.2 rfl
  rw [printCell, hquotes]
  rfl

theorem joinCells_fieldsOf (hascii : d < 0x80) (hline : ∀ c ∈ line, IsPlain c) :
    joinCells d (fieldsOf (Char.ofUInt8 d) line) = Utf8.encode (String.ofList line) := by
  by_cases hnil : line = []
  · subst hnil
    rfl
  have hcells : (fieldsOf (Char.ofUInt8 d) line).map
      (fun cell => printCell d (Utf8.encode cell))
        = (line.splitOn (Char.ofUInt8 d)).map fun field => Utf8.encode (String.ofList field) := by
    rw [fieldsOf, if_neg hnil, List.map_map]
    refine List.map_congr_left ?_
    intro field hfield
    exact printCell_of_mem_splitOn hascii hline hfield
  rw [joinCells, hcells, ← encode_intercalate hascii, List.intercalate_splitOn]

/-- **A plain line spells its fields.** -/
theorem spellsRecord_fieldsOf (hascii : d < 0x80) (hline : ∀ c ∈ line, IsPlain c) :
    SpellsRecord d (fieldsOf (Char.ofUInt8 d) line) (Utf8.encode (String.ofList line)) := by
  cases hfields : fieldsOf (Char.ofUInt8 d) line with
  | nil =>
      rw [fieldsOf_eq_nil_iff.1 hfields]
      exact .blank
  | cons cell cells =>
      have hjoin := joinCells_fieldsOf hascii hline
      rw [hfields] at hjoin
      rw [← hjoin]
      refine .cells (spellsCells_joinCells d cell cells) ?_
      intro hempty
      -- a line whose only field is empty is empty and has no field
      rw [hempty] at hjoin
      have hline : String.ofList line = "" := Utf8.encode_eq_nil_iff.1 hjoin.symm
      have hnil : line = [] := by simpa using congrArg String.toList hline
      rw [hnil] at hfields
      cases hfields

end Line

/-! ### Reading the lines -/

section Reading

variable {d : UInt8} (hascii : d < 0x80) (hd : ProperDelimiter d)
include hascii hd

/-- A plain line is read as its fields, and the reader stands behind its ending. -/
theorem run_plainLine {line : List Char} (hline : ∀ c ∈ line, IsPlain c) (ending : LineEnding)
    {afterReturn : Bool} (hreturn : afterReturn = true → ending = .lf → line ≠ []) (rest : Bytes) :
    PassState.run d (.lineStart afterReturn)
        (Utf8.encode (String.ofList line) ++ (ending.bytes ++ rest))
      = Event.ofRecord (fieldsOf (Char.ofUInt8 d) line)
        :: PassState.run d (.lineStart (ending == .cr)) rest := by
  refine PassState.run_spelledLine hd (spellsRecord_fieldsOf hascii hline) ?_ rest
  rintro hr ⟨hblank, hlf⟩
  exact hreturn hr hlf (fieldsOf_eq_nil_iff.1 hblank)

theorem run_lastLine {line : List Char} (hline : ∀ c ∈ line, IsPlain c) (hne : line ≠ [])
    (afterReturn : Bool) :
    PassState.run d (.lineStart afterReturn) (Utf8.encode (String.ofList line))
      = [Event.ofRecord (fieldsOf (Char.ofUInt8 d) line)] := by
  have hspells := spellsRecord_fieldsOf hascii hline
  have hfields : fieldsOf (Char.ofUInt8 d) line ≠ [] := mt fieldsOf_eq_nil_iff.1 hne
  generalize fieldsOf (Char.ofUInt8 d) line = record at hspells hfields ⊢
  generalize Utf8.encode (String.ofList line) = text at hspells ⊢
  cases hspells with
  | blank => exact absurd rfl hfields
  | cells hcells hempty =>
      obtain ⟨mode, cell, before, -, hevent, hrun⟩ :=
        PassState.run_spelledRecord hd hcells hempty afterReturn []
      simpa [PassState.finish, hevent] using hrun

/-- **The pass over a text finds its lines**, where `front` is what was read of the first one. -/
theorem run_linesFrom (front cs : List Char) (hfront : ∀ c ∈ front, IsPlain c) (hquote : '"' ∉ cs)
    (afterReturn : Bool) (hreturn : afterReturn = true → (front ++ cs).head? ≠ some '\n') :
    PassState.run d (.lineStart afterReturn)
        (Utf8.encode (String.ofList front) ++ Utf8.encode (String.ofList cs))
      = (linesFrom front cs).map fun line => Event.ofRecord (fieldsOf (Char.ofUInt8 d) line) := by
  have hlf (cs : List Char) :
      Utf8.encode (String.ofList ('\n' :: cs)) = lf :: Utf8.encode (String.ofList cs) :=
    Utf8.encode_ofList_cons ..
  have hcr (cs : List Char) :
      Utf8.encode (String.ofList ('\r' :: cs)) = cr :: Utf8.encode (String.ofList cs) :=
    Utf8.encode_ofList_cons ..
  fun_induction linesFrom front cs generalizing afterReturn with
  | case1 => rfl
  | case2 front hne => simpa using run_lastLine hascii hd hfront hne afterReturn
  | case3 front cs ih =>
      rw [hlf, List.map_cons, ← ih (by simp) (by simp_all) false (by simp)]
      refine run_plainLine hascii hd hfront .lf ?_ _
      rintro hr - rfl
      exact hreturn hr rfl
  | case4 front cs ih =>
      rw [hcr, hlf, List.map_cons, ← ih (by simp) (by simp_all) false (by simp)]
      exact run_plainLine hascii hd hfront .crlf (by simp) _
  | case5 front cs hcs ih =>
      have hreturn' : true = true → ([] ++ cs).head? ≠ some '\n' := by
        intro _ hhead
        obtain ⟨rest, hrest⟩ := List.head?_eq_some_iff.1 hhead
        exact hcs rest hrest
      rw [hcr, List.map_cons, ← ih (by simp) (by simp_all) true hreturn']
      exact run_plainLine hascii hd hfront .cr (by simp) _
  | case6 front c cs hc _ hc' ih =>
      -- the line goes on, so that the character may as well have been read already
      have hmove : Utf8.encode (String.ofList (front ++ [c])) ++ Utf8.encode (String.ofList cs)
          = Utf8.encode (String.ofList front) ++ Utf8.encode (String.ofList (c :: cs)) := by
        rw [String.ofList_append, Utf8.encode_append, List.append_assoc, ← Utf8.encode_append,
          ← String.ofList_append]
        rfl
      have hfront' : ∀ b ∈ front ++ [c], IsPlain b := by
        intro b hb
        rcases List.mem_append.1 hb with hb | hb
        · exact hfront b hb
        · obtain rfl := List.mem_singleton.1 hb
          refine ⟨?_, hc', hc⟩
          rintro rfl
          exact hquote (List.mem_cons_self ..)
      rw [← hmove]
      refine ih hfront' (fun hmem => hquote (List.mem_cons_of_mem _ hmem)) afterReturn ?_
      simpa using hreturn

/-- **A text without quotes parses as the fields of its lines**, with or without a byte order mark
in front. -/
theorem parse_plainText {text : String} (hquote : '"' ∉ text.toList)
    (hmark : text.toList.head? ≠ some Utf8.markChar) {source : Bytes}
    (hsource : source = Utf8.encode text ∨ source = Utf8.mark ++ Utf8.encode text) :
    parse d source = .ok ((textLines text).map (fieldsOf (Char.ofUInt8 d))) := by
  have hmark' : ¬ Utf8.mark <+: Utf8.encode text := by
    rwa [Utf8.mark_isPrefix_encode_iff]
  have hdrop : Utf8.dropMark source = Utf8.encode text := by
    rcases hsource with rfl | rfl
    · exact Utf8.dropMark_of_not_isPrefix hmark'
    · exact Utf8.dropMark_mark_append (Utf8.encode text)
  rw [parse_eq_ok_iff_onePass d hmark' hdrop]
  have hrun := run_linesFrom hascii hd [] text.toList (by simp) hquote false (by simp)
  rw [String.ofList_toList] at hrun
  have honePass : onePass d (Utf8.encode text)
      = ((textLines text).map (fieldsOf (Char.ofUInt8 d))).map Event.ofRecord := by
    rw [List.map_map]
    exact hrun
  rw [honePass, map_cells_ofRecord]

end Reading

end Delimited

end Tabular
