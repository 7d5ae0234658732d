import Layering.Json.Printer
import Layering.Json.Reader
import Mathlib.Data.List.TakeWhile
import Mathlib.Tactic.IntervalCases

/-! Reading undoes printing. Each piece of a printed value is read in front of any text that does not go on with it,
and a value takes no more steps to read than it has characters. -/
namespace Layering.Json

/-- A value whose numbers are all natural. -/
inductive Plain : Json → Prop
  | null : Plain null
  | bool (value : Bool) : Plain (bool value)
  | nat (value : Nat) : Plain (nat value)
  | string (text : String) : Plain (string text)
  | array {items : List Json} (each : ∀ item ∈ items, Plain item) : Plain (array items)
  | object {members : List (String × Json)} (each : ∀ member ∈ members, Plain member.2) : Plain (object members)

/-- A text that no number before it goes on with. -/
def EndsNumber (cs : List Char) : Prop := ∀ c ∈ cs.head?, isNumberChar c = false

section Strings

theorem hexValue?_hexDigit : ∀ n < 16, hexValue? (hexDigit n) = some n := by decide

theorem hexUnit?_hexDigit {n : Nat} (small : n < 256) :
    hexUnit? '0' '0' (hexDigit (n / 16)) (hexDigit (n % 16)) = some n := by
  have zero : hexValue? '0' = some 0 := by decide
  have high := hexValue?_hexDigit (n / 16) (by omega)
  have low := hexValue?_hexDigit (n % 16) (by omega)
  simp only [hexUnit?, zero, high, low, Option.bind_eq_bind, Option.bind_some, Option.pure_def, Option.some.injEq]
  omega

theorem stringChars_escapeChar (c : Char) (rest : List Char) :
    stringChars (escapeChar c ++ rest) = (stringChars rest).map fun (cs, rest) => (c :: cs, rest) := by
  by_cases lettered : c ∈ ['"', '\\', '\n', '\r', '\t', '\x08', '\x0c']
  · simp only [List.mem_cons, List.not_mem_nil, or_false] at lettered
    rcases lettered with rfl | rfl | rfl | rfl | rfl | rfl | rfl <;> simp [escapeChar, stringChars, unescape?]
  · simp only [List.mem_cons, List.not_mem_nil, or_false, not_or] at lettered
    obtain ⟨quote, backslash, line, carriage, tab, notBack, notFeed⟩ := lettered
    have back : c.toNat ≠ 8 := fun code => notBack (Char.toNat_inj.mp code)
    have feed : c.toNat ≠ 12 := fun code => notFeed (Char.toNat_inj.mp code)
    by_cases control : c.toNat < 32
    · have notHigh : isHighSurrogate c.toNat = false := by
        simp only [isHighSurrogate, Bool.and_eq_false_imp, decide_eq_true_eq]
        omega
      have notLow : isLowSurrogate c.toNat = false := by
        simp only [isLowSurrogate, Bool.and_eq_false_imp, decide_eq_true_eq]
        omega
      simp [escapeChar, quote, backslash, line, carriage, tab, back, feed, control, stringChars,
        hexUnit?_hexDigit (show c.toNat < 256 by omega), notHigh, notLow]
    · simp [escapeChar, quote, backslash, line, carriage, tab, back, feed, control, stringChars]

theorem stringChars_quoted (cs rest : List Char) :
    stringChars (cs.flatMap escapeChar ++ '"' :: rest) = some (cs, rest) := by
  induction cs with
  | nil => simp [stringChars]
  | cons c cs ih => rw [List.flatMap_cons, List.append_assoc, stringChars_escapeChar, ih, Option.map_some]

end Strings

section Numbers

theorem natOfDigits_digits (n : Nat) : natOfDigits (digits n) = n := by
  have read : Nat.ofDigitChars 10 (Nat.toDigits 10 n) 0 = n := Nat.ofDigitChars_ten_toDigits
  rw [Nat.ofDigitChars_eq_foldl] at read
  simpa only [natOfDigits, digits, Nat.mul_comm] using read

theorem isDigit_of_mem_digits {n : Nat} {c : Char} (listed : c ∈ digits n) : c.isDigit = true :=
  Nat.isDigit_of_mem_toDigits (by decide) (by decide) listed

/-- Only zero starts with a zero. -/
theorem head?_digits {n : Nat} (positive : n ≠ 0) : (digits n).head? ≠ some '0' := by
  induction n using Nat.strongRecOn with
  | ind n ih =>
    rcases Nat.lt_or_ge n 10 with small | large
    · rw [digits, Nat.toDigits_of_lt_base small]
      interval_cases n <;> simp_all
    · have front := ih (n / 10) (by omega) (by omega)
      have here : (Nat.toDigits 10 (n / 10)).head?.isSome = true := List.isSome_head?.mpr Nat.toDigits_ne_nil
      rwa [digits, Nat.toDigits_of_base_le (by decide) large, List.head?_append, Option.or_of_isSome here]

theorem isBlank_of_isDigit {c : Char} (digit : c.isDigit = true) : isBlank c = false := by
  by_contra blank
  simp only [isBlank, Bool.not_eq_false, Bool.or_eq_true, decide_eq_true_eq] at blank
  rcases blank with ((rfl | rfl) | rfl) | rfl <;> cases digit

theorem isWholePart_digits (n : Nat) : isWholePart (digits n) = true := by
  by_cases zero : n = 0
  · subst zero
    decide
  · have head := head?_digits zero
    have each : ∀ c ∈ digits n, c.isDigit = true := fun _ => isDigit_of_mem_digits
    cases spelt : digits n with
    | nil => exact absurd spelt Nat.toDigits_ne_nil
    | cons c rest =>
      rw [spelt] at head each
      rw [isWholePart.eq_def]
      split <;> simp_all

theorem number?_digits (n : Nat) : number? (digits n) = some (nat n) := by
  simp [number?, isWholePart_digits, natOfDigits_digits]

/-- In front of a text that does not go on with it, a number is all that number characters make up. -/
theorem span_digits (n : Nat) {rest : List Char} (ends : EndsNumber rest) :
    (digits n ++ rest).takeWhile isNumberChar = digits n ∧ (digits n ++ rest).dropWhile isNumberChar = rest := by
  have each : ∀ c ∈ digits n, isNumberChar c = true := fun c listed => by
    simp [isNumberChar, isDigit_of_mem_digits listed]
  rw [List.takeWhile_append_of_pos each, List.dropWhile_append_of_pos each]
  cases rest with
  | nil => simp
  | cons c rest =>
    have stop : isNumberChar c = false := ends c rfl
    simp [stop]

end Numbers

section Values

/-- Blanks at the start of a text are passed over. -/
theorem skipBlanks_append {blanks : List Char} (blank : ∀ c ∈ blanks, isBlank c = true) (cs : List Char) :
    skipBlanks (blanks ++ cs) = skipBlanks cs :=
  List.dropWhile_append_of_pos blank

theorem skipBlanks_newline (level : Nat) (cs : List Char) : skipBlanks (newline level ++ cs) = skipBlanks cs := by
  refine skipBlanks_append (fun c listed => ?_) cs
  rcases List.mem_cons.mp listed with rfl | indentation
  · rfl
  · rw [List.eq_of_mem_replicate indentation]
    rfl

theorem skipBlanks_cons {c : Char} (proper : isBlank c = false) (cs : List Char) : skipBlanks (c :: cs) = c :: cs := by
  simp [skipBlanks, proper]

theorem valueChars_newline (fuel level : Nat) (cs : List Char) :
    valueChars fuel (newline level ++ cs) = valueChars fuel cs := by
  cases fuel <;> simp [valueChars, skipBlanks_newline]

theorem itemChars_newline (fuel level : Nat) (cs : List Char) :
    itemChars fuel (newline level ++ cs) = itemChars fuel cs := by
  cases fuel <;> simp [itemChars, valueChars_newline]

theorem memberChars_newline (fuel level : Nat) (cs : List Char) :
    memberChars fuel (newline level ++ cs) = memberChars fuel cs := by
  cases fuel <;> simp [memberChars, skipBlanks_newline]

/-- A printed value is read in front of any text that no number goes on with. -/
def Reads (value : Json) : Prop :=
  ∀ (fuel level : Nat) (rest : List Char), (prettyChars level value).length ≤ fuel → EndsNumber rest →
    valueChars fuel (prettyChars level value ++ rest) = some (value, rest)

/-- The first character of a value is neither a blank nor the end of a list. -/
theorem exists_prettyChars {value : Json} (plain : value.Plain) (level : Nat) :
    ∃ c rest, prettyChars level value = c :: rest ∧ isBlank c = false ∧ c ≠ ']' := by
  cases plain with
  | null => exact ⟨_, _, rfl, by decide⟩
  | bool value => cases value <;> exact ⟨_, _, rfl, by decide⟩
  | string text => exact ⟨_, _, rfl, by decide⟩
  | @array items each => cases items <;> exact ⟨_, _, rfl, by decide⟩
  | @object members each => cases members <;> exact ⟨_, _, rfl, by decide⟩
  | nat value =>
    cases spelt : digits value with
    | nil => exact absurd spelt Nat.toDigits_ne_nil
    | cons c rest =>
      have digit : c.isDigit = true := isDigit_of_mem_digits (spelt ▸ List.mem_cons_self)
      refine ⟨c, rest, by rw [prettyChars, spelt], isBlank_of_isDigit digit, ?_⟩
      rintro rfl
      cases digit

/-- Since no text of a value is empty, reading it starts with a step. -/
theorem Plain.reads {value : Json} (plain : value.Plain)
    (read : ∀ (fuel level : Nat) (rest : List Char), (prettyChars level value).length ≤ fuel + 1 → EndsNumber rest →
      valueChars (fuel + 1) (prettyChars level value ++ rest) = some (value, rest)) : value.Reads := by
  intro fuel level rest enough ends
  cases fuel with
  | zero =>
    obtain ⟨c, tail, spelt, -⟩ := exists_prettyChars plain level
    simp [spelt] at enough
  | succ fuel => exact read fuel level rest enough ends

theorem endsNumber_items (level outer : Nat) (items : List Json) (rest : List Char) :
    EndsNumber (prettyItems level items ++ (newline outer ++ rest)) := by
  cases items <;> simp [EndsNumber, prettyItems, newline, isNumberChar]

theorem endsNumber_members (level outer : Nat) (members : List (String × Json)) (rest : List Char) :
    EndsNumber (prettyMembers level members ++ (newline outer ++ rest)) := by
  obtain _ | ⟨⟨name, value⟩, members⟩ := members <;> simp [EndsNumber, prettyMembers, newline, isNumberChar]

theorem itemChars_items {item : Json} {items : List Json} (first : item.Reads) (later : ∀ item ∈ items, item.Reads)
    (fuel level outer : Nat) (rest : List Char)
    (enough : (prettyChars level item).length + (prettyItems level items).length < fuel) :
    itemChars fuel (prettyChars level item ++ (prettyItems level items ++ (newline outer ++ ']' :: rest))) =
      some (item :: items, rest) := by
  induction items generalizing item fuel with
  | nil =>
    obtain _ | fuel := fuel
    · omega
    · rw [itemChars, first _ _ _ (by omega) (endsNumber_items level outer [] (']' :: rest))]
      simp [prettyItems, skipBlanks_newline, skipBlanks_cons, isBlank]
  | cons next items ih =>
    obtain _ | fuel := fuel
    · omega
    · rw [itemChars, first _ _ _ (by omega) (endsNumber_items level outer (next :: items) (']' :: rest))]
      have on := ih (later next List.mem_cons_self) (fun item listed => later item (List.mem_cons_of_mem _ listed))
        fuel (by simp [prettyItems] at enough; omega)
      simp [prettyItems, skipBlanks_cons, isBlank, itemChars_newline, on]

/-- One member of an object, and what the mark after it decides. -/
theorem memberChars_member {fuel : Nat} {cs rest after : List Char} {value : Json} (name : String)
    (read : valueChars fuel cs = some (value, rest)) :
    (skipBlanks rest = ',' :: after → memberChars (fuel + 1) (quoted name ++ ':' :: ' ' :: cs) =
      (memberChars fuel after).map fun listed => ((name, value) :: listed.1, listed.2)) ∧
    (skipBlanks rest = '\x7d' :: after →
      memberChars (fuel + 1) (quoted name ++ ':' :: ' ' :: cs) = some ([(name, value)], after)) := by
  have blank : valueChars fuel (' ' :: cs) = valueChars fuel cs := by
    cases fuel <;> simp [valueChars, skipBlanks, isBlank]
  have start : skipBlanks (quoted name ++ ':' :: ' ' :: cs) =
      '"' :: (name.toList.flatMap escapeChar ++ '"' :: ':' :: ' ' :: cs) := by
    simp [quoted, skipBlanks_cons, isBlank]
  have colon : skipBlanks (':' :: ' ' :: cs) = ':' :: ' ' :: cs := skipBlanks_cons (by decide) _
  constructor <;> intro mark <;> rw [memberChars, start] <;> simp [stringChars_quoted, colon, blank, read, mark]

theorem memberChars_members (name : String) {value : Json} {members : List (String × Json)} (first : value.Reads)
    (later : ∀ member ∈ members, member.2.Reads) (fuel level outer : Nat) (rest : List Char)
    (enough : (prettyChars level value).length + (prettyMembers level members).length < fuel) :
    memberChars fuel (quoted name ++ ':' :: ' ' :: (prettyChars level value ++
        (prettyMembers level members ++ (newline outer ++ '\x7d' :: rest)))) =
      some ((name, value) :: members, rest) := by
  induction members generalizing name value fuel with
  | nil =>
    obtain _ | fuel := fuel
    · omega
    · have read := first fuel level _ (by omega) (endsNumber_members level outer [] ('\x7d' :: rest))
      refine (memberChars_member name read).2 ?_
      simp [prettyMembers, skipBlanks_newline, skipBlanks_cons, isBlank]
  | cons next members ih =>
    obtain _ | fuel := fuel
    · omega
    · have read := first fuel level _ (by omega) (endsNumber_members level outer (next :: members) ('\x7d' :: rest))
      have on := ih next.1 (later next List.mem_cons_self)
        (fun member listed => later member (List.mem_cons_of_mem _ listed)) fuel
        (by simp [prettyMembers] at enough; omega)
      rw [(memberChars_member name read).1
        (by simp only [prettyMembers, List.cons_append]; exact skipBlanks_cons (by decide) _)]
      simp [memberChars_newline, on]

/-- A number is what number characters make up. -/
theorem valueChars_digit {c : Char} (digit : c.isDigit = true) (fuel : Nat) (cs : List Char) :
    valueChars (fuel + 1) (c :: cs) =
      (number? ((c :: cs).takeWhile isNumberChar)).map fun n : Json => (n, (c :: cs).dropWhile isNumberChar) := by
  have proper : isBlank c = false := isBlank_of_isDigit digit
  rw [valueChars, skipBlanks_cons proper]
  split <;> simp_all

/-- What is between the brackets of an array that is not empty. -/
theorem valueChars_bracket {c : Char} (proper : isBlank c = false) (other : c ≠ ']') (fuel level : Nat)
    (cs : List Char) :
    valueChars (fuel + 1) ('[' :: (newline level ++ c :: cs)) =
      (itemChars fuel (c :: cs)).map fun (items, rest) => (array items, rest) := by
  rw [valueChars, skipBlanks_cons (by decide)]
  simp only [skipBlanks_newline, skipBlanks_cons proper]
  split
  · simp_all
  · rfl

/-- What is between the braces of an object that is not empty. -/
theorem valueChars_brace (fuel level : Nat) (cs : List Char) :
    valueChars (fuel + 1) ('\x7b' :: (newline level ++ '"' :: cs)) =
      (memberChars fuel ('"' :: cs)).map fun (members, rest) => (object members, rest) := by
  rw [valueChars, skipBlanks_cons (by decide)]
  simp only [skipBlanks_newline]
  rfl

theorem reads_digits (n : Nat) : Reads (nat n) := by
  refine Plain.reads (.nat n) fun fuel level rest _ ends => ?_
  obtain ⟨before, after⟩ := span_digits n ends
  rw [prettyChars]
  cases spelt : digits n with
  | nil => exact absurd spelt Nat.toDigits_ne_nil
  | cons c tail =>
    have digit : c.isDigit = true := isDigit_of_mem_digits (spelt ▸ List.mem_cons_self)
    rw [List.cons_append, valueChars_digit digit, ← List.cons_append, ← spelt, before, after, number?_digits,
      Option.map_some]

theorem reads_array {item : Json} {items : List Json} (plain : ∀ item' ∈ item :: items, item'.Plain)
    (first : item.Reads) (later : ∀ item ∈ items, item.Reads) : Reads (array (item :: items)) := by
  refine Plain.reads (.array plain) fun fuel level rest enough _ => ?_
  obtain ⟨c, tail, spelt, proper, other⟩ := exists_prettyChars (plain item List.mem_cons_self) (level + 1)
  have between := itemChars_items first later fuel (level + 1) level rest (by simp [prettyChars] at enough; omega)
  rw [spelt, List.cons_append] at between
  simp [prettyChars, spelt, valueChars_bracket proper other, between]

theorem reads_object {name : String} {value : Json} {members : List (String × Json)}
    (plain : ∀ member ∈ (name, value) :: members, member.2.Plain) (first : value.Reads)
    (later : ∀ member ∈ members, member.2.Reads) : Reads (object ((name, value) :: members)) := by
  refine Plain.reads (.object plain) fun fuel level rest enough _ => ?_
  have between := memberChars_members name first later fuel (level + 1) level rest
    (by simp [prettyChars] at enough; omega)
  simp only [quoted, List.cons_append] at between
  simp [prettyChars, quoted, valueChars_brace] at between ⊢
  simp [between]

/-- Every plain value is read back. -/
theorem reads_of_plain {value : Json} (plain : value.Plain) : value.Reads := by
  induction plain with
  | null =>
    refine Plain.reads .null fun fuel level rest _ _ => ?_
    simp [prettyChars, valueChars, skipBlanks_cons, isBlank, word?]
  | bool value =>
    refine Plain.reads (.bool value) fun fuel level rest _ _ => ?_
    cases value <;> simp [prettyChars, valueChars, skipBlanks_cons, isBlank, word?]
  | nat value => exact reads_digits value
  | string text =>
    refine Plain.reads (.string text) fun fuel level rest _ _ => ?_
    simp [prettyChars, valueChars, quoted, skipBlanks_cons, isBlank, stringChars_quoted]
  | @array items each ih =>
    cases items with
    | nil =>
      refine Plain.reads (.array each) fun fuel level rest _ _ => ?_
      simp [prettyChars, valueChars, skipBlanks_cons, isBlank]
    | cons item items =>
      exact reads_array each (ih item List.mem_cons_self) fun item listed => ih item (List.mem_cons_of_mem _ listed)
  | @object members each ih =>
    obtain _ | ⟨⟨name, value⟩, members⟩ := members
    · refine Plain.reads (.object each) fun fuel level rest _ _ => ?_
      simp [prettyChars, valueChars, skipBlanks_cons, isBlank]
    · exact reads_object each (ih (name, value) List.mem_cons_self)
        fun member listed => ih member (List.mem_cons_of_mem _ listed)

end Values

/-- A plain value is read from its text, blanks after it or not. -/
theorem read?_pretty {value : Json} (plain : value.Plain) {blanks : String}
    (blank : ∀ c ∈ blanks.toList, isBlank c = true) : read? (value.pretty ++ blanks) = some value := by
  have ends : EndsNumber blanks.toList := fun c first => by
    have space := blank c (List.mem_of_mem_head? first)
    simp only [isBlank, Bool.or_eq_true, decide_eq_true_eq] at space
    rcases space with ((rfl | rfl) | rfl) | rfl <;> rfl
  have after : skipBlanks blanks.toList = [] := List.dropWhile_eq_nil_iff.mpr blank
  have spelt : (value.pretty ++ blanks).toList = prettyChars 0 value ++ blanks.toList := by
    simp [pretty]
  have whole := reads_of_plain plain (2 * (prettyChars 0 value ++ blanks.toList).length + 1) 0 blanks.toList
    (by rw [List.length_append]; omega) ends
  simp only [read?, spelt, whole, after, List.isEmpty_nil, if_true]

end Layering.Json
