/-
**Reading a report back.**

A report is a text with one JSON object on each line.  The reader below knows objects whose members
have integers as values, in any order and with gaps between their parts, and turns an object with
the members `row`, `index` and `width` into a note.  It finds in a report the notes that the report
was made of.  A number ends where its digits do, and behind each number of a report stands a comma
or a brace; and no object has a line feed in it, so that the lines of a report are its objects.

Keys with escapes in them, other values and objects without members are refused.

Main definitions:

* `Tabular.Report.readInteger?`, `Tabular.Report.readMembers?`, `Tabular.Report.readObject?` — the
  reader, for a number, for the members of an object and for an object;
* `Tabular.Report.decode?` — **the notes in a report**;
* `Tabular.Report.objectText` — the text of an object.

Main results:

* `Tabular.Report.readInteger?_append` — a number is read as itself;
* `Tabular.Report.readObject?_objectText` — an object is read as its members;
* `Tabular.Report.decode?_reportBytes` — **a report is decoded as the notes it was made of**.
-/

import Mathlib.Data.List.Basic
import Tabular.Job
import Tabular.Number

set_option autoImplicit false

namespace Tabular

namespace Report

/-! ### The reader -/

/-- Whether a character may stand between the parts of an object. -/
def isGap (c : Char) : Bool := c == ' ' || c == '\t' || c == '\n' || c == '\r'

/-- The text behind an expected character, without the gaps around that character. -/
def expect? (expected : Char) (cs : List Char) : Option (List Char) :=
  match cs.dropWhile isGap with
  | [] => none
  | c :: rest => if c = expected then some (rest.dropWhile isGap) else none

/-- The number at the beginning of a text, and the text behind it.  Its digits do not begin with a
zero unless that is the whole number. -/
def readCount? (cs : List Char) : Option (Nat × List Char) :=
  let digits := cs.takeWhile Char.isDigit
  if digits.head? = some '0' ∧ digits ≠ ['0'] then none
  else (Number.digits? digits).map fun n => (n, cs.dropWhile Char.isDigit)

/-- The number at the beginning of a text, perhaps with a minus sign, and the text behind it. -/
def readInteger? (cs : List Char) : Option (Int × List Char) :=
  if cs.head? = some '-' then (readCount? cs.tail).map fun found => (-(found.1 : Int), found.2)
  else (readCount? cs).map fun found => ((found.1 : Int), found.2)

/-- Whether a character stands for itself in a key. -/
def isPlain (c : Char) : Bool := c != '"' && c != '\\'

/-- The key at the beginning of a text, and the text behind it. -/
def readKey? : List Char → Option (String × List Char)
  | '"' :: cs =>
      match cs.dropWhile isPlain with
      | '"' :: rest => some (String.ofList (cs.takeWhile isPlain), rest)
      | _ => none
  | _ => none

/-- The member at the beginning of a text, and the text behind it. -/
def readMember? (cs : List Char) : Option ((String × Int) × List Char) := do
  let (key, behindKey) ← readKey? cs
  let (value, rest) ← readInteger? (← expect? ':' behindKey)
  return ((key, value), rest)

theorem length_lt_of_expect? {expected : Char} {cs rest : List Char}
    (h : expect? expected cs = some rest) : rest.length < cs.length := by
  have hcs : (cs.dropWhile isGap).length ≤ cs.length := (List.dropWhile_suffix isGap).length_le
  rw [expect?] at h
  split at h
  · cases h
  · next c more heq =>
      split at h
      · obtain rfl := Option.some.inj h
        have hmore : (more.dropWhile isGap).length ≤ more.length :=
          (List.dropWhile_suffix isGap).length_le
        rw [heq, List.length_cons] at hcs
        omega
      · cases h

theorem length_le_of_readCount? {cs : List Char} {found : Nat × List Char}
    (h : readCount? cs = some found) : found.2.length ≤ cs.length := by
  rw [readCount?] at h
  split at h
  · cases h
  · obtain ⟨_, -, rfl⟩ := Option.map_eq_some_iff.1 h
    exact (List.dropWhile_suffix Char.isDigit).length_le

theorem length_le_of_readInteger? {cs : List Char} {found : Int × List Char}
    (h : readInteger? cs = some found) : found.2.length ≤ cs.length := by
  rw [readInteger?] at h
  split at h
  · obtain ⟨count, hcount, rfl⟩ := Option.map_eq_some_iff.1 h
    have htail : cs.tail.length ≤ cs.length := (List.tail_suffix cs).length_le
    exact Nat.le_trans (length_le_of_readCount? hcount) htail
  · obtain ⟨count, hcount, rfl⟩ := Option.map_eq_some_iff.1 h
    exact length_le_of_readCount? hcount

theorem length_lt_of_readKey? {cs : List Char} {found : String × List Char}
    (h : readKey? cs = some found) : found.2.length < cs.length := by
  rw [readKey?.eq_def] at h
  split at h
  · next cs =>
      split at h
      · next rest heq =>
          obtain rfl := Option.some.inj h
          have hle : (cs.dropWhile isPlain).length ≤ cs.length :=
            (List.dropWhile_suffix isPlain).length_le
          rw [heq, List.length_cons] at hle
          exact Nat.lt_succ_of_lt hle
      · cases h
  · cases h

theorem length_lt_of_readMember? {cs : List Char} {found : (String × Int) × List Char}
    (h : readMember? cs = some found) : found.2.length < cs.length := by
  simp only [readMember?, Option.bind_eq_bind, Option.bind_eq_some_iff] at h
  obtain ⟨key, hkey, behindColon, hcolon, value, hvalue, heq⟩ := h
  obtain rfl := Option.some.inj heq
  have hlt := Nat.lt_trans (length_lt_of_expect? hcolon) (length_lt_of_readKey? hkey)
  exact Nat.lt_of_le_of_lt (length_le_of_readInteger? hvalue) hlt

/-- The members at the beginning of a text up to the end of their object, and the text behind. -/
def readMembers? (cs : List Char) : Option (List (String × Int) × List Char) :=
  match _h : readMember? cs with
  | none => none
  | some (member, rest) =>
      match _hrest : expect? ',' rest with
      | some more => (readMembers? more).map fun found => (member :: found.1, found.2)
      | none => (expect? '\x7d' rest).map fun rest => ([member], rest)
termination_by cs.length
decreasing_by exact Nat.lt_trans (length_lt_of_expect? _hrest) (length_lt_of_readMember? _h)

/-- The members of the object that a text is. -/
def readObject? (cs : List Char) : Option (List (String × Int)) := do
  let (members, rest) ← readMembers? (← expect? '\x7b' cs)
  if rest = [] then some members else none

/-- The note that an object with three members stands for. -/
def noteOf? (members : List (String × Int)) : Option MissingColumn := do
  let row ← (← members.lookup "row").toNat?
  let index ← members.lookup "index"
  let width ← (← members.lookup "width").toNat?
  if members.length = 3 then some ⟨row, index, width⟩ else none

/-- The lines of a text, each of which a line feed ends. -/
def endedLines? (cs : List Char) : Option (List (List Char)) :=
  let pieces := cs.splitOn '\n'
  if pieces.getLast? = some [] then some pieces.dropLast else none

/-- **The notes in a report**, one for each line. -/
def decode? (report : Bytes) : Option (List MissingColumn) := do
  let text ← Utf8.decode? report
  (← endedLines? text.toList).mapM fun line => do noteOf? (← readObject? line)

/-! ### Numbers -/

theorem isDigit_of_mem_toDigits {n : Nat} {c : Char} (h : c ∈ Nat.toDigits 10 n) :
    c.isDigit = true := Nat.isDigit_of_mem_toDigits (by decide) (by decide) h

theorem head?_toDigits_ne {n : Nat} (hn : n ≠ 0) : (Nat.toDigits 10 n).head? ≠ some '0' := by
  induction n using Nat.strongRecOn with
  | _ n ih =>
      rcases Nat.lt_or_ge n 10 with hlt | hge
      · have hdigit : ∀ k < 10, k ≠ 0 → [k.digitChar].head? ≠ some '0' := by decide
        rw [Nat.toDigits_of_lt_base hlt]
        exact hdigit n hlt hn
      · -- the last digit stands behind those of the tenth part
        rw [Nat.toDigits_of_base_le (by decide) hge,
          List.head?_append_of_ne_nil _ Nat.toDigits_ne_nil]
        exact ih (n / 10) (by omega) (by omega)

theorem digits?_toDigits (n : Nat) : Number.digits? (Nat.toDigits 10 n) = some n := by
  have hall : (Nat.toDigits 10 n).all Char.isDigit = true :=
    List.all_eq_true.2 fun c hc => isDigit_of_mem_toDigits hc
  have hvalue : Number.ofDigits (Nat.toDigits 10 n) = n := by
    rw [Number.ofDigits, ← Nat.ofDigitChars_eq_foldl, Nat.ofDigitChars_ten_toDigits]
  rw [Number.digits?, hall, hvalue]
  simp

/-- A number ends in front of anything but a digit. -/
theorem readCount?_append (n : Nat) {c : Char} (hc : c.isDigit = false) (cs : List Char) :
    readCount? (Nat.toDigits 10 n ++ c :: cs) = some (n, c :: cs) := by
  have hall : ∀ d ∈ Nat.toDigits 10 n, d.isDigit = true := fun d => isDigit_of_mem_toDigits
  have hend : ¬ c.isDigit = true := Bool.eq_false_iff.1 hc
  have hzero : ¬ ((Nat.toDigits 10 n).head? = some '0' ∧ Nat.toDigits 10 n ≠ ['0']) := by
    rintro ⟨hhead, hne⟩
    by_cases hn : n = 0
    · rw [hn] at hne
      exact hne (Nat.toDigits_zero 10)
    · exact head?_toDigits_ne hn hhead
  simp only [readCount?, List.takeWhile_append_of_pos hall, List.dropWhile_append_of_pos hall,
    List.takeWhile_cons_of_neg hend, List.dropWhile_cons_of_neg hend, List.append_nil,
    if_neg hzero, digits?_toDigits, Option.map_some]

/-- The characters of a number: digits, and a sign in front if it is below 0. -/
theorem toList_toString (i : Int) :
    (toString i).toList
      = if 0 ≤ i then Nat.toDigits 10 i.toNat else '-' :: Nat.toDigits 10 (-i).toNat := by
  rw [Int.toString_eq_repr, Int.repr_eq_if]
  split
  · rw [Nat.repr_eq_ofList_toDigits, String.toList_ofList]
  · rw [Nat.repr_eq_ofList_toDigits, String.toList_append, String.toList_ofList]
    simp

theorem isDigit_or_eq_of_mem_toString {i : Int} {c : Char} (h : c ∈ (toString i).toList) :
    c.isDigit = true ∨ c = '-' := by
  rw [toList_toString] at h
  split at h
  · exact Or.inl (isDigit_of_mem_toDigits h)
  · rcases List.mem_cons.1 h with rfl | hmem
    · exact Or.inr rfl
    · exact Or.inl (isDigit_of_mem_toDigits hmem)

/-- There are no gaps in a number. -/
theorem isGap_of_mem_toString {i : Int} {c : Char} (h : c ∈ (toString i).toList) :
    isGap c = false := by
  rw [← Bool.not_eq_true]
  intro hgap
  simp only [isGap, Bool.or_eq_true, beq_iff_eq] at hgap
  have hdigit := isDigit_or_eq_of_mem_toString h
  rcases hgap with ((rfl | rfl) | rfl) | rfl <;> exact absurd hdigit (by decide)

/-- **A number is read as itself**, whatever its size and sign. -/
theorem readInteger?_append (i : Int) {c : Char} (hc : c.isDigit = false) (cs : List Char) :
    readInteger? ((toString i).toList ++ c :: cs) = some (i, c :: cs) := by
  rw [toList_toString]
  split
  · next hi =>
      have hsign : (Nat.toDigits 10 i.toNat ++ c :: cs).head? ≠ some '-' := by
        rw [List.head?_append_of_ne_nil _ Nat.toDigits_ne_nil]
        intro hhead
        exact absurd (isDigit_of_mem_toDigits (List.mem_of_mem_head? hhead)) (by decide)
      rw [readInteger?, if_neg hsign, readCount?_append _ hc, Option.map_some]
      dsimp only
      rw [Int.toNat_of_nonneg hi]
  · next hi =>
      rw [List.cons_append, readInteger?, if_pos List.head?_cons, List.tail_cons,
        readCount?_append _ hc, Option.map_some]
      dsimp only
      rw [Int.toNat_of_nonneg (by omega), Int.neg_neg]

/-! ### Objects -/

/-- The text of a member. -/
def memberText (member : String × Int) : List Char :=
  '"' :: (member.1.toList ++ '"' :: ':' :: (toString member.2).toList)

/-- The text of members and of the end of their object. -/
def membersText : List (String × Int) → List Char
  | [] => ['\x7d']
  | [member] => memberText member ++ ['\x7d']
  | member :: members => memberText member ++ ',' :: membersText members

/-- The text of an object. -/
def objectText (members : List (String × Int)) : List Char := '\x7b' :: membersText members

/-- Where no gap follows, only the expected character is left out. -/
theorem expect?_cons_cons {expected c : Char} (hexpected : isGap expected = false)
    (hc : isGap c = false) (cs : List Char) :
    expect? expected (expected :: c :: cs) = some (c :: cs) := by
  simp [expect?, hexpected, hc]

theorem exists_toString_eq_cons (i : Int) :
    ∃ c cs, (toString i).toList = c :: cs ∧ isGap c = false := by
  have hne : (toString i).toList ≠ [] := by
    rw [toList_toString]
    split
    · exact Nat.toDigits_ne_nil
    · exact List.cons_ne_nil _ _
  obtain ⟨c, cs, hcs⟩ := List.exists_cons_of_ne_nil hne
  refine ⟨c, cs, hcs, isGap_of_mem_toString (i := i) ?_⟩
  rw [hcs]
  exact List.mem_cons_self ..

theorem readKey?_append {key : String} (hkey : ∀ c ∈ key.toList, isPlain c = true)
    (rest : List Char) : readKey? ('"' :: (key.toList ++ '"' :: rest)) = some (key, rest) := by
  have hquote : ¬ isPlain '"' = true := by decide
  rw [readKey?, List.dropWhile_append_of_pos hkey, List.dropWhile_cons_of_neg hquote,
    List.takeWhile_append_of_pos hkey, List.takeWhile_cons_of_neg hquote, List.append_nil,
    String.ofList_toList]
  rfl

theorem readMember?_append {member : String × Int} (hkey : ∀ c ∈ member.1.toList, isPlain c = true)
    {c : Char} (hc : c.isDigit = false) (cs : List Char) :
    readMember? (memberText member ++ c :: cs) = some (member, c :: cs) := by
  obtain ⟨key, value⟩ := member
  have hread : readKey? (memberText (key, value) ++ c :: cs)
      = some (key, ':' :: ((toString value).toList ++ c :: cs)) := by
    rw [← readKey?_append hkey, memberText]
    simp
  have hcolon : expect? ':' (':' :: ((toString value).toList ++ c :: cs))
      = some ((toString value).toList ++ c :: cs) := by
    obtain ⟨first, more, hvalue, hfirst⟩ := exists_toString_eq_cons value
    rw [hvalue]
    exact expect?_cons_cons (by decide) hfirst _
  simp only [readMember?, hread, hcolon, readInteger?_append value hc, Option.bind_eq_bind,
    Option.bind_some, Option.pure_def]

theorem readMembers?_of_comma {cs rest more : List Char} {member : String × Int}
    (h : readMember? cs = some (member, rest)) (hmore : expect? ',' rest = some more) :
    readMembers? cs = (readMembers? more).map fun found => (member :: found.1, found.2) := by
  rw [readMembers?]
  split
  · simp_all
  · next found behind hfound =>
      cases hfound.symm.trans h
      split
      · next after hafter =>
          cases hafter.symm.trans hmore
          rfl
      · simp_all

theorem readMembers?_of_brace {cs rest behind : List Char} {member : String × Int}
    (h : readMember? cs = some (member, rest)) (hcomma : expect? ',' rest = none)
    (hbrace : expect? '\x7d' rest = some behind) : readMembers? cs = some ([member], behind) := by
  rw [readMembers?]
  split
  · simp_all
  · next found after hfound =>
      cases hfound.symm.trans h
      split
      · simp_all
      · rw [hbrace]
        rfl

theorem exists_membersText_eq_cons {members : List (String × Int)} (h : members ≠ []) :
    ∃ cs, membersText members = '"' :: cs := by
  obtain ⟨member, members, rfl⟩ := List.exists_cons_of_ne_nil h
  cases members <;> exact ⟨_, rfl⟩

/-- Members are read as they were written. -/
theorem readMembers?_membersText {members : List (String × Int)} (hne : members ≠ [])
    (hkeys : ∀ member ∈ members, ∀ c ∈ member.1.toList, isPlain c = true) :
    readMembers? (membersText members) = some (members, []) := by
  induction members with
  | nil => exact absurd rfl hne
  | cons member members ih =>
      have hkey := hkeys member (List.mem_cons_self ..)
      cases members with
      | nil =>
          have hread : readMember? (memberText member ++ ['\x7d']) = some (member, ['\x7d']) :=
            readMember?_append hkey (by decide) []
          exact readMembers?_of_brace hread rfl rfl
      | cons next members =>
          have hread : readMember? (memberText member ++ ',' :: membersText (next :: members))
              = some (member, ',' :: membersText (next :: members)) :=
            readMember?_append hkey (by decide) _
          have hcomma : expect? ',' (',' :: membersText (next :: members))
              = some (membersText (next :: members)) := by
            obtain ⟨cs, hcs⟩ := exists_membersText_eq_cons (List.cons_ne_nil next members)
            rw [hcs]
            exact expect?_cons_cons (by decide) (by decide) cs
          have hmembers := ih (List.cons_ne_nil next members) fun other hmem =>
            hkeys other (List.mem_cons_of_mem _ hmem)
          have htext : membersText (member :: next :: members)
              = memberText member ++ ',' :: membersText (next :: members) := rfl
          rw [htext, readMembers?_of_comma hread hcomma, hmembers]
          rfl

/-- **An object is read as its members.** -/
theorem readObject?_objectText {members : List (String × Int)} (hne : members ≠ [])
    (hkeys : ∀ member ∈ members, ∀ c ∈ member.1.toList, isPlain c = true) :
    readObject? (objectText members) = some members := by
  have hbrace : expect? '\x7b' (objectText members) = some (membersText members) := by
    obtain ⟨cs, hcs⟩ := exists_membersText_eq_cons hne
    rw [objectText, hcs]
    exact expect?_cons_cons (by decide) (by decide) cs
  simp only [readObject?, hbrace, readMembers?_membersText hne hkeys, Option.bind_eq_bind,
    Option.bind_some, if_pos]

/-! ### Reports -/

/-- The members of the object for a note. -/
def membersOf (note : MissingColumn) : List (String × Int) :=
  [("row", note.row), ("index", note.index), ("width", note.width)]

theorem toList_json (note : MissingColumn) : note.json.toList = objectText (membersOf note) := by
  have hnat : ∀ n : Nat, toString (n : Int) = toString n := fun _ => rfl
  simp [MissingColumn.json, objectText, membersOf, membersText, memberText, hnat]

theorem noteOf?_membersOf (note : MissingColumn) : noteOf? (membersOf note) = some note := by
  have hnat : ∀ n : Nat, (n : Int).toNat? = some n := fun _ => rfl
  simp [noteOf?, membersOf, List.lookup_cons, hnat]

theorem readObject?_json (note : MissingColumn) :
    readObject? note.json.toList = some (membersOf note) := by
  have hkeys : ∀ key ∈ ["row", "index", "width"], ∀ c ∈ key.toList, isPlain c = true := by
    simp [isPlain]
  rw [toList_json]
  refine readObject?_objectText (List.cons_ne_nil _ _) fun member hmem => hkeys member.1 ?_
  exact List.mem_map_of_mem (f := Prod.fst) hmem

theorem lf_not_mem_toString (i : Int) : '\n' ∉ (toString i).toList := by
  intro h
  exact absurd (isGap_of_mem_toString h) (by decide)

/-- The object for a note stands on one line. -/
theorem lf_not_mem_json (note : MissingColumn) : '\n' ∉ note.json.toList := by
  have hrow := lf_not_mem_toString note.row
  have hindex := lf_not_mem_toString note.index
  have hwidth := lf_not_mem_toString note.width
  simp_all [toList_json, objectText, membersOf, membersText, memberText]

theorem splitOn_flatMap_lines {lines : List (List Char)} (h : ∀ line ∈ lines, '\n' ∉ line) :
    (lines.flatMap (· ++ ['\n'])).splitOn '\n' = lines ++ [[]] := by
  induction lines with
  | nil => rfl
  | cons line lines ih =>
      have hlf : ∀ other ∈ [line], '\n' ∉ other := by simpa using h line (List.mem_cons_self ..)
      have hline : line.splitOn '\n' = [line] := by
        have hone := List.splitOn_intercalate '\n' hlf (List.cons_ne_nil line [])
        rwa [List.intercalate_singleton] at hone
      rw [List.flatMap_cons, List.append_assoc, List.singleton_append,
        List.splitOn_append_cons_self, hline, ih fun other hmem => h other (List.mem_cons_of_mem _ hmem)]
      rfl

theorem endedLines?_flatMap {lines : List (List Char)} (h : ∀ line ∈ lines, '\n' ∉ line) :
    endedLines? (lines.flatMap (· ++ ['\n'])) = some lines := by
  simp only [endedLines?, splitOn_flatMap_lines h, List.getLast?_concat, List.dropLast_concat,
    if_pos]

/-- **A report is decoded as the notes it was made of.** -/
theorem decode?_reportBytes (notes : List MissingColumn) :
    decode? (reportBytes notes) = some notes := by
  have hlines : endedLines? ((notes.map fun note => note.json.toList).flatMap (· ++ ['\n']))
      = some (notes.map fun note => note.json.toList) := by
    refine endedLines?_flatMap fun line hmem => ?_
    obtain ⟨note, -, rfl⟩ := List.mem_map.1 hmem
    exact lf_not_mem_json note
  have hnote : ∀ note : MissingColumn,
      (do noteOf? (← readObject? note.json.toList)) = some note := by
    intro note
    rw [readObject?_json]
    exact noteOf?_membersOf note
  rw [decode?, reportBytes, printLines_eq_encode, Utf8.decode?_encode, Option.bind_eq_bind,
    Option.bind_some, String.toList_ofList, List.flatMap_map,
    ← List.flatMap_map (g := (· ++ ['\n'])), hlines, Option.bind_eq_bind, Option.bind_some, List.mapM_map]
  simp only [Function.comp_def, hnote]
  exact List.mapM_pure.trans (congrArg some (List.map_id _))

end Report

end Tabular
