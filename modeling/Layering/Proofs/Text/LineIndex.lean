import Layering.Proofs.Sorting
import Layering.Proofs.Source.Positions
import Layering.Proofs.Text.Offsets

/-! Lines and columns by the index of the lines. The index finds a place for every offset. The line tells the line breaks
before it, and the column tells the characters since the last of them, provided that a character starts or the text ends
there. -/
namespace Layering

namespace Text

open String (utf8EncodeChar)

section Bytes

/-- The bytes of characters in UTF-8. -/
def bytes (cs : List Char) : List UInt8 := cs.flatMap utf8EncodeChar

theorem bytes_toList (text : String) : bytes text.toList = text.toUTF8.data.toList := by
  rw [String.toUTF8, ← String.utf8Encode_toList, List.utf8Encode, bytes]
  exact (List.data_toByteArray).symm ▸ rfl

@[simp] theorem bytes_nil : bytes [] = [] := rfl

@[simp] theorem bytes_cons (c : Char) (cs : List Char) : bytes (c :: cs) = utf8EncodeChar c ++ bytes cs := rfl

@[simp] theorem bytes_append (as bs : List Char) : bytes (as ++ bs) = bytes as ++ bytes bs := List.flatMap_append

theorem length_bytes (text : String) : (bytes text.toList).length = text.utf8ByteSize := by
  rw [bytes_toList]
  rfl

theorem length_bytes_cons (c : Char) (cs : List Char) :
    (bytes (c :: cs)).length = c.utf8Size + (bytes cs).length := by
  rw [bytes_cons, List.length_append, String.length_utf8EncodeChar]

@[simp] theorem bytes_eq_nil {cs : List Char} : bytes cs = [] ↔ cs = [] := by
  cases cs <;> simp

theorem eq_newline_of_mem {c : Char} (listed : (10 : UInt8) ∈ utf8EncodeChar c) : c = '\n' := by
  have code {n : Nat} : (10 : UInt8) = UInt8.ofNat n ↔ n % 256 = 10 := by
    rw [← UInt8.toNat_inj, UInt8.toNat_ofNat', eq_comm]
    rfl
  have ascii : c.val.toNat = 10 := by
    simp only [utf8EncodeChar] at listed
    split_ifs at listed <;> simp only [List.mem_cons, List.not_mem_nil, or_false, code] at listed <;> omega
  exact Char.ext (UInt32.toNat_inj.mp ascii)

theorem count_utf8EncodeChar (c : Char) : (utf8EncodeChar c).count 10 = if c = '\n' then 1 else 0 := by
  split
  · rename_i same
    subst same
    decide
  · rename_i other
    exact List.count_eq_zero.mpr fun listed => other (eq_newline_of_mem listed)

end Bytes

section Breaks

variable {start n : Nat} {cs as bs middle : List Char}

theorem afterBreaks_append (start : Nat) (as bs : List Char) :
    afterBreaks start (as ++ bs) = afterBreaks start as ++ afterBreaks (start + (bytes as).length) bs := by
  induction as generalizing start with
  | nil => rfl
  | cons c as ih =>
    simp only [List.cons_append, afterBreaks, ih, length_bytes_cons, ← Nat.add_assoc]
    split <;> rfl

theorem mem_afterBreaks (listed : n ∈ afterBreaks start cs) : start < n ∧ n ≤ start + (bytes cs).length := by
  induction cs generalizing start with
  | nil => cases listed
  | cons c cs ih =>
    have wide := c.utf8Size_pos
    have later (listed : n ∈ afterBreaks (start + c.utf8Size) cs) :
        start < n ∧ n ≤ start + (bytes (c :: cs)).length := by
      have bounds := ih listed
      rw [length_bytes_cons]
      omega
    simp only [afterBreaks] at listed
    split at listed
    · rcases List.mem_cons.mp listed with rfl | listed
      · rw [length_bytes_cons]
        omega
      · exact later listed
    · exact later listed

theorem le_of_mem_afterBreaks_cons {c : Char} (listed : n ∈ afterBreaks start (c :: cs)) : start + c.utf8Size ≤ n := by
  simp only [afterBreaks] at listed
  split at listed
  · rcases List.mem_cons.mp listed with rfl | listed
    · exact Nat.le_refl _
    · exact (mem_afterBreaks listed).1.le
  · exact (mem_afterBreaks listed).1.le

theorem pairwise_afterBreaks (start : Nat) (cs : List Char) : (afterBreaks start cs).Pairwise (· < ·) := by
  induction cs generalizing start with
  | nil => exact .nil
  | cons c cs ih =>
    simp only [afterBreaks]
    split
    · exact .cons (fun n listed => (mem_afterBreaks listed).1) (ih _)
    · exact ih _

/-- The starts of lines up to an offset are as many as the line breaks before it. -/
theorem countP_afterBreaks (start n : Nat) (cs : List Char) :
    (afterBreaks start cs).countP (· ≤ start + n) = ((bytes cs).take n).count 10 := by
  induction cs generalizing start n with
  | nil => simp [afterBreaks]
  | cons c cs ih =>
    have size := String.length_utf8EncodeChar c
    rcases Nat.lt_or_ge n c.utf8Size with inside | behind
    · have none : ((utf8EncodeChar c).take n).count 10 = 0 := by
        refine List.count_eq_zero.mpr fun listed => ?_
        obtain rfl := eq_newline_of_mem (List.mem_of_mem_take listed)
        obtain rfl : n = 0 := Nat.lt_one_iff.mp inside
        cases listed
      rw [bytes_cons, List.take_append_of_le_length (by omega), none, List.countP_eq_zero]
      intro m listed
      have far := le_of_mem_afterBreaks_cons listed
      simp only [decide_eq_true_eq]
      omega
    · obtain ⟨m, rfl⟩ := Nat.exists_eq_add_of_le behind
      rw [bytes_cons, ← size, List.take_length_add_append, List.count_append, count_utf8EncodeChar, ← ih, size]
      simp only [afterBreaks, ← Nat.add_assoc]
      split
      · rw [List.countP_cons_of_pos (by simp), Nat.add_comm]
      · rw [Nat.zero_add]

theorem length_afterBreaks (start : Nat) (cs : List Char) : (afterBreaks start cs).length = (bytes cs).count 10 := by
  have counted := countP_afterBreaks start (bytes cs).length cs
  rw [List.take_length, List.countP_eq_length.mpr fun n listed => by simpa using (mem_afterBreaks listed).2] at counted
  exact counted

end Breaks

section Slices

variable {start stop n : Nat} {cs rest middle : List Char}

theorem dropBytes?_eq_some :
    dropBytes? n cs = some rest ↔ ∃ before, cs = before ++ rest ∧ (bytes before).length = n := by
  fun_induction dropBytes? n cs with
  | case1 cs =>
    simp only [Option.some.injEq, List.length_eq_zero_iff, bytes_eq_nil]
    exact ⟨fun same => ⟨[], same, rfl⟩, by rintro ⟨_, rfl, rfl⟩; rfl⟩
  | case2 n => simp +contextual
  | case3 n c cs inside =>
    simp only [reduceCtorEq, false_iff, not_exists, not_and]
    rintro (_ | ⟨d, before⟩) split length
    · cases length
    · obtain rfl := (List.cons.inj split).1
      rw [length_bytes_cons] at length
      omega
  | case4 n c cs whole ih =>
    rw [ih]
    clear ih
    constructor
    · rintro ⟨before, rfl, length⟩
      refine ⟨c :: before, rfl, ?_⟩
      rw [length_bytes_cons]
      omega
    · rintro ⟨_ | ⟨d, before⟩, split, length⟩
      · cases length
      · obtain ⟨rfl, rfl⟩ := List.cons.inj split
        rw [length_bytes_cons] at length
        exact ⟨before, rfl, by omega⟩

theorem takeBytes?_eq_some :
    takeBytes? n cs = some middle ↔ ∃ after, cs = middle ++ after ∧ (bytes middle).length = n := by
  fun_induction takeBytes? n cs generalizing middle with
  | case1 cs =>
    simp only [Option.some.injEq, List.length_eq_zero_iff, bytes_eq_nil]
    exact ⟨by rintro rfl; exact ⟨cs, rfl, rfl⟩, fun ⟨_, _, empty⟩ => empty.symm⟩
  | case2 n => simp +contextual
  | case3 n c cs inside =>
    simp only [reduceCtorEq, false_iff, not_exists, not_and]
    intro after split length
    cases middle with
    | nil => cases length
    | cons d middle =>
      obtain rfl := (List.cons.inj split).1
      rw [length_bytes_cons] at length
      omega
  | case4 n c cs whole ih =>
    simp only [Option.map_eq_some_iff, ih]
    clear ih
    constructor
    · rintro ⟨middle, ⟨after, rfl, length⟩, rfl⟩
      refine ⟨after, rfl, ?_⟩
      rw [length_bytes_cons]
      omega
    · rintro ⟨after, split, length⟩
      cases middle with
      | nil => cases length
      | cons d middle =>
        obtain ⟨rfl, rfl⟩ := List.cons.inj split
        rw [length_bytes_cons] at length
        exact ⟨middle, ⟨after, rfl, by omega⟩, rfl⟩

/-- A part of a text is what stands between the ends of two runs of characters at its start. -/
theorem slice?_eq_some : slice? start stop cs = some middle ↔ ∃ before after, cs = before ++ middle ++ after ∧
    (bytes before).length = start ∧ (bytes (before ++ middle)).length = stop := by
  rw [slice?]
  split
  · rename_i order
    simp only [Option.bind_eq_some_iff, dropBytes?_eq_some, takeBytes?_eq_some]
    constructor
    · rintro ⟨_, ⟨before, rfl, rfl⟩, after, rfl, length⟩
      exact ⟨before, after, by rw [List.append_assoc], rfl, by rw [bytes_append, List.length_append]; omega⟩
    · rintro ⟨before, after, rfl, rfl, rfl⟩
      exact ⟨middle ++ after, ⟨before, by rw [List.append_assoc], rfl⟩, after, rfl, by simp⟩
  · rename_i order
    simp only [reduceCtorEq, false_iff, not_exists, not_and]
    rintro before after - rfl rfl
    simp at order

end Slices

section Lines

variable {cs as bs : List Char}

/-- The characters after the last line break. -/
def lastLine (cs : List Char) : List Char := (cs.reverse.takeWhile (· ≠ '\n')).reverse

/-- The characters up to the last line break. -/
def earlierLines (cs : List Char) : List Char := (cs.reverse.dropWhile (· ≠ '\n')).reverse

theorem earlierLines_append_lastLine (cs : List Char) : earlierLines cs ++ lastLine cs = cs := by
  rw [earlierLines, lastLine, ← List.reverse_append, List.takeWhile_append_dropWhile, List.reverse_reverse]

theorem not_mem_lastLine (cs : List Char) : '\n' ∉ lastLine cs := by
  intro listed
  have test := List.all_eq_true.mp List.all_takeWhile _ (List.mem_reverse.mp listed)
  simp at test

theorem lastLine_append_singleton (cs : List Char) (c : Char) :
    lastLine (cs ++ [c]) = if c = '\n' then [] else lastLine cs ++ [c] := by
  rw [lastLine, List.reverse_append, List.reverse_singleton, List.singleton_append, List.takeWhile_cons]
  by_cases newline : c = '\n' <;> simp [newline, lastLine]

theorem earlierLines_eq (cs : List Char) : earlierLines cs = [] ∨ ∃ ds, earlierLines cs = ds ++ ['\n'] := by
  cases left : cs.reverse.dropWhile (· ≠ '\n') with
  | nil => exact .inl (by rw [earlierLines, left, List.reverse_nil])
  | cons c ds =>
    have test := List.head?_dropWhile_not (· ≠ '\n') cs.reverse
    rw [left] at test
    obtain rfl : c = '\n' := by simpa using test
    exact .inr ⟨ds.reverse, by rw [earlierLines, left, List.reverse_cons]⟩

theorem afterBreaks_eq_nil (start : Nat) (unbroken : '\n' ∉ cs) : afterBreaks start cs = [] := by
  induction cs generalizing start with
  | nil => rfl
  | cons c cs ih =>
    rw [List.mem_cons, not_or] at unbroken
    simp only [afterBreaks, if_neg (Ne.symm unbroken.1), ih _ unbroken.2]

/-- The last of the starts is the one of the last line. -/
theorem getLast?_starts (cs : List Char) : (0 :: afterBreaks 0 cs).getLast? = some (bytes (earlierLines cs)).length := by
  conv_lhs => rw [← earlierLines_append_lastLine cs, afterBreaks_append, afterBreaks_eq_nil _ (not_mem_lastLine cs),
    List.append_nil]
  obtain none | ⟨ds, ends⟩ := earlierLines_eq cs
  · rw [none]
    rfl
  · rw [ends, afterBreaks_append, ← List.cons_append, Nat.zero_add, bytes_append, List.length_append]
    exact List.getLast?_concat

/-- The place after some characters, told by the lines among them. -/
theorem advance_start (cs : List Char) :
    Position.start.advance cs = ⟨(bytes cs).count 10 + 1, (lastLine cs).length + 1⟩ := by
  induction cs using List.reverseRecOn with
  | nil => rfl
  | append_singleton cs c ih =>
    rw [Position.advance_append, ih, Position.advance_cons, Position.advance_nil, bytes_append, bytes_cons, bytes_nil,
      List.append_nil, List.count_append, count_utf8EncodeChar, lastLine_append_singleton, Position.next]
    by_cases newline : c = '\n' <;> simp [newline]

end Lines

end Text

namespace LineIndex

open Text

variable {text : String} {offset : Nat}

theorem partitionPoint_starts (text : String) (offset : Nat) :
    partitionPoint (· ≤ offset) (ofText text).starts = ((bytes text.toList).take offset).count 10 + 1 := by
  have rises : (ofText text).starts.Pairwise (· < ·) :=
    .cons (fun n listed => (mem_afterBreaks listed).1) (pairwise_afterBreaks 0 text.toList)
  rw [partitionPoint_eq_countP (rises.imp fun {a b} less reached => by simp at *; omega), ofText,
    List.countP_cons_of_pos (by simp)]
  simpa using countP_afterBreaks 0 offset text.toList

/-- A place is found for every offset. -/
theorem exists_position? (text : String) (offset : Nat) : ∃ start,
    (ofText text).starts[((bytes text.toList).take offset).count 10]? = some start ∧
      (ofText text).position? offset = some ⟨((bytes text.toList).take offset).count 10 + 1,
        ((slice? start offset text.toList).map List.length).getD 0 + 1⟩ := by
  have inside : ((bytes text.toList).take offset).count 10 < (ofText text).starts.length := by
    have counted := countP_afterBreaks 0 offset text.toList
    rw [← counted, ofText, List.length_cons]
    exact Nat.lt_succ_of_le List.countP_le_length
  refine ⟨_, List.getElem?_eq_getElem inside, ?_⟩
  rw [position?, partitionPoint_starts]
  simp only [List.getElem?_eq_getElem inside]
  rfl

theorem position?_eq (text : String) (offset : Nat) : (ofText text).position? offset = some (position text offset) := by
  obtain ⟨start, -, found⟩ := exists_position? text offset
  rw [position, found]
  rfl

theorem line_position (text : String) (offset : Nat) :
    (position text offset).line = ((bytes text.toList).take offset).count 10 + 1 := by
  obtain ⟨start, -, found⟩ := exists_position? text offset
  rw [position, found]
  rfl

/-- Where a character starts or the text ends, the place is the one that is reached by going through the characters
before it. -/
theorem position_boundary {as bs : List Char} (split : text.toList = as ++ bs) :
    position text (bytes as).length = Position.start.advance as := by
  obtain ⟨start, starts, found⟩ := exists_position? text (bytes as).length
  rw [split, bytes_append, List.take_left] at starts found
  have line : (ofText text).starts[(bytes as).count 10]? = some (bytes (earlierLines as)).length := by
    rw [← getLast?_starts, List.getLast?_eq_getElem?, List.length_cons, Nat.add_sub_cancel, length_afterBreaks, ofText,
      split, afterBreaks_append, ← List.cons_append]
    exact List.getElem?_append_left (by rw [List.length_cons, length_afterBreaks]; omega)
  obtain rfl := Option.some.inj (starts.symm.trans line)
  have part : slice? (bytes (earlierLines as)).length (bytes as).length (as ++ bs) = some (lastLine as) := by
    refine slice?_eq_some.mpr ⟨earlierLines as, bs, ?_, rfl, ?_⟩ <;> rw [earlierLines_append_lastLine]
  rw [position, found, part, advance_start]
  rfl

/-- Inside a character and past the end the column is one. -/
theorem column_position_of_not_boundary
    (apart : ∀ as bs, text.toList = as ++ bs → offset ≠ (bytes as).length) : (position text offset).column = 1 := by
  obtain ⟨start, -, found⟩ := exists_position? text offset
  have none : slice? start offset text.toList = none := by
    rw [Option.eq_none_iff_forall_ne_some]
    intro middle part
    obtain ⟨before, after, split, -, stops⟩ := slice?_eq_some.mp part
    exact apart (before ++ middle) after split stops.symm
  rw [position, found, none]
  rfl

end LineIndex

namespace Text

theorem position_offset (text : String) (n : Nat) :
    position text (offset text.toList n) = Position.start.advance (text.toList.take n) := by
  have size : offset text.toList n = (bytes (text.toList.take n)).length := by
    rw [offset, ← length_bytes, String.toList_ofList]
  rw [size]
  exact LineIndex.position_boundary (List.take_append_drop n text.toList).symm

/-- A byte offset at which a character of a text starts or the text ends. -/
def IsBoundary (text : String) (offset : Nat) : Prop :=
  ∃ before after, text = before ++ after ∧ before.utf8ByteSize = offset

theorem isBoundary_iff {text : String} {offset : Nat} :
    IsBoundary text offset ↔ ∃ as bs, text.toList = as ++ bs ∧ (bytes as).length = offset := by
  constructor
  · rintro ⟨before, after, rfl, size⟩
    exact ⟨before.toList, after.toList, String.toList_append, by rw [length_bytes, size]⟩
  · rintro ⟨as, bs, split, size⟩
    refine ⟨.ofList as, .ofList bs, ?_, by rw [← length_bytes, String.toList_ofList, size]⟩
    rw [← String.ofList_append, ← split, String.ofList_toList]

theorem isBoundary_iff_isSome {text : String} {offset : Nat} :
    IsBoundary text offset ↔ (dropBytes? offset text.toList).isSome = true := by
  rw [isBoundary_iff, Option.isSome_iff_exists, exists_comm]
  simp only [dropBytes?_eq_some]

instance (text : String) (offset : Nat) : Decidable (IsBoundary text offset) :=
  decidable_of_iff _ isBoundary_iff_isSome.symm

theorem position_before {text : String} {first second : Nat} (starts : IsBoundary text first)
    (starts' : IsBoundary text second) (order : first < second) :
    (position text first).Before (position text second) := by
  obtain ⟨as, bs, split, rfl⟩ := isBoundary_iff.mp starts
  obtain ⟨as', bs', split', rfl⟩ := isBoundary_iff.mp starts'
  rw [LineIndex.position_boundary split, LineIndex.position_boundary split']
  rcases List.append_eq_append_iff.mp (split.symm.trans split') with ⟨between, rfl, -⟩ | ⟨between, rfl, -⟩
  · rw [Position.advance_append]
    cases between with
    | nil => simp at order
    | cons c between => exact Position.before_advance_cons _ c between
  · rw [bytes_append, List.length_append] at order
    omega

theorem column_position {text before after : String} (split : text = before ++ after) :
    (position text before.utf8ByteSize).column = (before.toList.reverse.takeWhile (· ≠ '\n')).length + 1 := by
  have place : position text (bytes before.toList).length = _ :=
    LineIndex.position_boundary (split ▸ String.toList_append)
  rw [← length_bytes, place, advance_start, lastLine, List.length_reverse]

/-- The index of the lines of a text finds the place of every byte offset. The line is one more than the number of line
breaks among the bytes before it. Where a character starts or the text ends, the column is one more than the number of
characters since the last line break, and such places increase strictly with their offsets, so that no two of them are
the same. Anywhere else the column is one. -/
theorem position_exact (text : String) (offset : Nat) :
    (LineIndex.ofText text).position? offset = some (position text offset) ∧
      (position text offset).line = (text.toUTF8.data.toList.take offset).count 10 + 1 ∧
      (∀ before after, text = before ++ after → before.utf8ByteSize = offset →
        (position text offset).column = (before.toList.reverse.takeWhile (· ≠ '\n')).length + 1) ∧
      (¬IsBoundary text offset → (position text offset).column = 1) ∧
      ∀ other, IsBoundary text offset → IsBoundary text other →
        (offset < other ↔ (position text offset).Before (position text other)) ∧
        (position text offset = position text other → offset = other) := by
  refine ⟨LineIndex.position?_eq text offset, bytes_toList text ▸ LineIndex.line_position text offset, ?_, ?_, ?_⟩
  · rintro before after split rfl
    exact column_position split
  · intro apart
    refine LineIndex.column_position_of_not_boundary fun as bs split size => apart ?_
    exact isBoundary_iff.mpr ⟨as, bs, split, size.symm⟩
  · intro other starts starts'
    rcases Nat.lt_trichotomy offset other with less | rfl | greater
    · have before := position_before starts starts' less
      exact ⟨iff_of_true less before, fun same => absurd same before.ne⟩
    · exact ⟨iff_of_false (Nat.lt_irrefl _) fun before => before.ne rfl, fun _ => rfl⟩
    · have before := position_before starts' starts greater
      exact ⟨iff_of_false (Nat.not_lt.mpr greater.le) before.not_before, fun same => absurd same.symm before.ne⟩

/-- Offsets right before, inside of and right after a wide character. -/
theorem position_exact_wide : (position "ab\ncdé\nf" 5).column = 3 ∧ (position "ab\ncdé\nf" 6).column = 1 ∧
    (position "ab\ncdé\nf" 5).Before (position "ab\ncdé\nf" 7) := by
  obtain ⟨-, -, column, -, order⟩ := position_exact "ab\ncdé\nf" 5
  obtain ⟨-, -, -, inside, -⟩ := position_exact "ab\ncdé\nf" 6
  refine ⟨(column "ab\ncd" "é\nf" (by decide +kernel) (by decide +kernel)).trans (by decide +kernel),
    inside (by decide +kernel), ?_⟩
  exact (order 7 (by decide +kernel) (by decide +kernel)).1.mp (by decide)

end Text

end Layering
