import Layering.Source.Sanitize
import Mathlib.Tactic.SplitIfs

/-! Sanitising, character by character. Every step writes one character, which depends on what the reader is inside of
but not on what it has written, and so the character at a position of the result is the one that is written there. -/
namespace Layering.Source

theorem isBlank_blank (c : Char) : Text.isBlank (blank c) = true := by
  unfold blank
  split <;> decide

@[simp] theorem blank_eq_newline_iff {c : Char} : blank c = '\n' ↔ c = '\n' := by
  unfold blank
  split <;> simp_all

/-- What is written for a character of the text. -/
def emitted (blankTemplates : Bool) (s : State) (c : Char) (next : Option Char) : Char :=
  match s.mode with
  | .code =>
    if c = '/' ∧ (next = some '/' ∨ next = some '*') then ' '
    else if c = '}' ∧ s.depths.head? = some 0 ∧ blankTemplates = true then ' '
    else c
  | .lineComment | .blockOpen | .blockComment | .blockClose => blank c
  | .template => if c = '`' ∨ blankTemplates = false then c else blank c
  | .templateEscape | .templateOpen => if blankTemplates then blank c else c
  | _ => c

theorem before_stepCode (blankTemplates : Bool) (depths : List Nat) (before : List Char) (c : Char)
    (next : Option Char) :
    (stepCode blankTemplates ⟨.code, depths, before⟩ c next).before =
      emitted blankTemplates ⟨.code, depths, before⟩ c next :: before := by
  by_cases closing : c = '}'
  · subst closing
    match depths with
    | [] => simp [stepCode, emitted, State.emit]
    | 0 :: depths => cases blankTemplates <;> simp [stepCode, emitted, State.emit]
    | (depth + 1) :: depths => simp [stepCode, emitted, State.emit]
  · unfold stepCode
    rw [if_neg closing]
    split_ifs with slash line block regex quote backquote opening
    · simp [emitted, State.emit, slash, line]
    · simp [emitted, State.emit, slash, block]
    · simp [emitted, State.emit, slash, line, block]
    · simp [emitted, State.emit, slash, line, block]
    · rcases quote with rfl | rfl <;> simp [emitted, State.emit]
    · simp [emitted, State.emit, backquote]
    · subst opening
      cases depths <;> simp [emitted, State.emit]
    · simp [emitted, State.emit, slash, closing]

/-- Every step writes one character. -/
theorem before_step (blankTemplates : Bool) (s : State) (c : Char) (next : Option Char) :
    (step blankTemplates s c next).before = emitted blankTemplates s c next :: s.before := by
  obtain ⟨mode, depths, before⟩ := s
  cases mode with
  | code => exact before_stepCode blankTemplates depths before c next
  | quoted quote =>
    simp only [step, emitted, State.emit]
    split_ifs <;> rfl
  | template =>
    simp only [step, emitted, State.emit]
    cases blankTemplates <;> split_ifs <;> simp_all
  | _ => rfl

/-- A character is kept or becomes a blank. -/
theorem emitted_eq (blankTemplates : Bool) (s : State) (c : Char) (next : Option Char) :
    emitted blankTemplates s c next = c ∨ emitted blankTemplates s c next = blank c := by
  unfold emitted
  split
  · split
    · rename_i comment
      exact .inr (by rw [comment.1]; rfl)
    · split
      · rename_i closing
        exact .inr (by rw [closing.1]; rfl)
      · exact .inl rfl
  · exact .inr rfl
  · exact .inr rfl
  · exact .inr rfl
  · exact .inr rfl
  · split
    · exact .inl rfl
    · exact .inr rfl
  · split
    · exact .inr rfl
    · exact .inl rfl
  · split
    · exact .inr rfl
    · exact .inl rfl
  · exact .inl rfl

@[simp] theorem emitted_eq_newline_iff {blankTemplates : Bool} {s : State} {c : Char} {next : Option Char} :
    emitted blankTemplates s c next = '\n' ↔ c = '\n' := by
  rcases emitted_eq blankTemplates s c next with kept | blanked
  · rw [kept]
  · rw [blanked, blank_eq_newline_iff]

/-- What is written for a text. -/
def output (blankTemplates : Bool) : State → List Char → List Char
  | _, [] => []
  | s, c :: cs => emitted blankTemplates s c cs.head? :: output blankTemplates (step blankTemplates s c cs.head?) cs

theorem before_scan (blankTemplates : Bool) (s : State) (cs : List Char) :
    (scan blankTemplates s cs).before = (output blankTemplates s cs).reverse ++ s.before := by
  induction cs generalizing s with
  | nil => rfl
  | cons c cs ih => rw [scan, ih, before_step, output, List.reverse_cons, List.append_assoc, List.singleton_append]

theorem toList_sanitize (blankTemplates : Bool) (text : String) :
    (sanitize blankTemplates text).toList = output blankTemplates .initial text.toList := by
  rw [sanitize, String.toList_ofList, before_scan, State.initial, List.append_nil, List.reverse_reverse]

/-- The state of the reader when it has read the first characters. -/
def scanTo (blankTemplates : Bool) : Nat → State → List Char → State
  | 0, s, _ => s
  | _ + 1, s, [] => s
  | n + 1, s, c :: cs => scanTo blankTemplates n (step blankTemplates s c cs.head?) cs

section Reaching

variable {blankTemplates : Bool} {s : State} {cs : List Char}

theorem scanTo_length (s : State) (cs : List Char) :
    scanTo blankTemplates cs.length s cs = scan blankTemplates s cs := by
  induction cs generalizing s with
  | nil => rfl
  | cons c cs ih => exact ih _

theorem scanTo_succ {i : Nat} {c : Char} (here : cs[i]? = some c) :
    scanTo blankTemplates (i + 1) s cs = step blankTemplates (scanTo blankTemplates i s cs) c cs[i + 1]? := by
  induction i generalizing s cs with
  | zero =>
    cases cs with
    | nil => contradiction
    | cons d cs =>
      obtain rfl : d = c := by simpa using here
      simp [scanTo, List.head?_eq_getElem?]
  | succ i ih =>
    cases cs with
    | nil => contradiction
    | cons d cs => exact ih here

theorem scanTo_of_end {i : Nat} (here : cs[i]? = none) :
    scanTo blankTemplates (i + 1) s cs = scanTo blankTemplates i s cs := by
  induction i generalizing s cs with
  | zero =>
    cases cs with
    | nil => rfl
    | cons d cs => contradiction
  | succ i ih =>
    cases cs with
    | nil => rfl
    | cons d cs => exact ih here

/-- What has been read does not depend on what comes after the next character. -/
theorem scanTo_append {i : Nat} (inside : i < cs.length) (rest : List Char) :
    scanTo blankTemplates i s (cs ++ rest) = scanTo blankTemplates i s cs := by
  induction i generalizing s cs with
  | zero => cases cs <;> rfl
  | succ i ih =>
    match cs, inside with
    | c :: d :: cs, inside => exact ih (Nat.lt_of_succ_lt_succ inside)

/-- What is written grows at its front. -/
theorem suffix_scan (i : Nat) (s : State) (cs : List Char) :
    (scanTo blankTemplates i s cs).before <:+ (scan blankTemplates s cs).before := by
  induction cs generalizing i s with
  | nil => cases i <;> exact List.suffix_rfl
  | cons c cs ih =>
    cases i with
    | zero =>
      have later := ih 0 (step blankTemplates s c cs.head?)
      rw [scanTo, before_step] at later
      exact (List.suffix_cons _ _).trans later
    | succ i => exact ih i _

theorem length_scanTo {i : Nat} (inside : i ≤ cs.length) :
    (scanTo blankTemplates i s cs).before.length = s.before.length + i := by
  induction i generalizing s cs with
  | zero => rfl
  | succ i ih =>
    match cs, inside with
    | c :: cs, inside =>
      rw [scanTo, ih (Nat.le_of_succ_le_succ inside), before_step, List.length_cons]
      omega

end Reaching

/-- The state of the reader when it has read the first characters of a text. -/
def reached (blankTemplates : Bool) (text : String) (i : Nat) : State :=
  scanTo blankTemplates i .initial text.toList

section Reached

variable {blankTemplates : Bool} {text : String} {i : Nat} {c : Char}

theorem reached_succ (here : text.toList[i]? = some c) :
    reached blankTemplates text (i + 1) = step blankTemplates (reached blankTemplates text i) c text.toList[i + 1]? :=
  scanTo_succ here

theorem reached_succ_of_end (here : text.toList[i]? = none) :
    reached blankTemplates text (i + 1) = reached blankTemplates text i :=
  scanTo_of_end here

theorem before_reached_succ (here : text.toList[i]? = some c) : (reached blankTemplates text (i + 1)).before =
    emitted blankTemplates (reached blankTemplates text i) c text.toList[i + 1]? ::
      (reached blankTemplates text i).before := by
  rw [reached_succ here, before_step]

theorem length_reached (inside : i ≤ text.toList.length) : (reached blankTemplates text i).before.length = i := by
  rw [reached, length_scanTo inside, State.initial]
  simp

/-- Every character stays in its place. -/
theorem length_sanitize (blankTemplates : Bool) (text : String) :
    (sanitize blankTemplates text).toList.length = text.toList.length := by
  rw [sanitize, String.toList_ofList, List.length_reverse, ← scanTo_length]
  exact length_reached (Nat.le_refl _)

/-- The character at a position of the sanitised text. -/
theorem getElem?_sanitize (here : text.toList[i]? = some c) : (sanitize blankTemplates text).toList[i]? =
    some (emitted blankTemplates (reached blankTemplates text i) c text.toList[i + 1]?) := by
  obtain ⟨inside, -⟩ := List.getElem?_eq_some_iff.mp here
  have part : (reached blankTemplates text (i + 1)).before.reverse <+: (sanitize blankTemplates text).toList := by
    rw [sanitize, String.toList_ofList]
    exact List.reverse_prefix.mpr (suffix_scan (i + 1) _ _)
  rw [before_reached_succ here, List.reverse_cons] at part
  obtain ⟨rest, whole⟩ := part
  have length : (reached blankTemplates text i).before.reverse.length = i := by
    rw [List.length_reverse, length_reached (Nat.le_of_lt inside)]
  rw [← whole, List.append_assoc, List.getElem?_append_right (by omega), length, Nat.sub_self]
  rfl

end Reached

end Layering.Source
