import Layering.Text.Character

/-! Blanks and words. No blank can be part of a word, also beyond ASCII, where the tables of the standard decide. -/
namespace Layering

/-- Membership in a set of code points, computed along the list of its bounds. -/
theorem Unicode.CodeSet.contains_eq_foldl (s : CodeSet) (n : Nat) :
    s.contains n = s.bounds.toList.foldl (fun inside bound => if bound ≤ n then !inside else inside) false :=
  (Array.foldl_toList _).symm

namespace Text

/-- The code points of the blanks beyond ASCII. -/
def distantBlanks : List Nat :=
  List.range' 0x2000 11 ++ [0x85, 0xA0, 0x1680, 0x2028, 0x2029, 0x202F, 0x205F, 0x3000]

theorem mem_distantBlanks_of_isBlank {c : Char} (blank : isBlank c = true) (distant : ¬c.toNat < 128) :
    c.toNat ∈ distantBlanks := by
  simp only [isBlank, Bool.or_eq_true, Bool.and_eq_true, decide_eq_true_eq] at blank
  simp only [distantBlanks, List.mem_append, List.mem_range'_1, List.mem_cons, List.not_mem_nil, or_false]
  omega

open Unicode in
/-- The tables of the characters beyond ASCII that words are made of. -/
def wordTables : List CodeSet :=
  [Property.alphabetic, Category.decimalNumber.codes, Category.letterNumber.codes, Category.otherNumber.codes]

theorem not_contains_distantBlanks : ∀ codes ∈ wordTables, ∀ n ∈ distantBlanks, codes.contains n = false := by
  simp only [Unicode.CodeSet.contains_eq_foldl]
  decide +kernel

theorem not_isIdentifierChar_of_distant {c : Char} (distant : ¬c.toNat < 128)
    (outside : ∀ codes ∈ wordTables, codes.contains c.toNat = false) : isIdentifierChar c = false := by
  have plain : c ≠ '_' ∧ c ≠ '$' := by
    constructor <;> rintro rfl <;> exact distant (by decide)
  simp only [wordTables, List.mem_cons, List.not_mem_nil, or_false, forall_eq_or_imp, forall_eq] at outside
  simp [isIdentifierChar, isLetterOrNumber, isLetter, isNumber, distant, outside, plain]

theorem not_isIdentifierChar_of_isBlank {c : Char} (blank : isBlank c = true) : isIdentifierChar c = false := by
  by_cases near : c.toNat < 128
  · have each : ∀ n < 128, isBlank (Char.ofNat n) = true → isIdentifierChar (Char.ofNat n) = false := by
      decide +kernel
    have known := each c.toNat near
    rw [Char.ofNat_toNat] at known
    exact known blank
  · have listed := mem_distantBlanks_of_isBlank blank near
    exact not_isIdentifierChar_of_distant near fun codes member => not_contains_distantBlanks codes member c.toNat listed

theorem not_isIdentifierStart_of_not_isIdentifierChar {c : Char} (other : isIdentifierChar c = false) :
    isIdentifierStart c = false := by
  cases start : isIdentifierStart c with
  | false => rfl
  | true =>
    have part := isIdentifierChar_of_isIdentifierStart start
    rw [other] at part
    cases part

theorem not_isIdentifierStart_of_isBlank {c : Char} (blank : isBlank c = true) : isIdentifierStart c = false :=
  not_isIdentifierStart_of_not_isIdentifierChar (not_isIdentifierChar_of_isBlank blank)

/-- The text does not start with a part of a word. -/
def EndsWord (cs : List Char) : Prop := ∀ c ∈ cs.head?, isIdentifierChar c = false

theorem takeWhile_append_of_endsWord (front : List Char) {rest : List Char} (ends : EndsWord rest) :
    (front ++ rest).takeWhile isIdentifierChar = front.takeWhile isIdentifierChar := by
  induction front with
  | nil =>
    cases rest with
    | nil => rfl
    | cons c rest => simp [ends c rfl]
  | cons c front ih => rw [List.cons_append, List.takeWhile_cons, List.takeWhile_cons, ih]

theorem dropWhile_append_of_endsWord {front rest : List Char} (part : ∀ c ∈ front, isIdentifierChar c = true)
    (ends : EndsWord rest) : (front ++ rest).dropWhile isIdentifierChar = rest := by
  rw [List.dropWhile_append_of_pos part]
  cases rest with
  | nil => rfl
  | cons c rest => simp [ends c rfl]

end Text

end Layering
