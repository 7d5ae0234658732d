import Layering.Proofs.Text.Lines
import Layering.Report.Rendering
import Mathlib.Data.List.Basic

/-! Styles on a terminal. A style is started and ended by control sequences around a text, and a text that has no escape
character of its own can neither start such a sequence nor complete one. So taking the sequences away gives the report
without styles, whatever digits and brackets stand next to them. -/
namespace Layering

namespace Terminal

/-- What a terminal is sent: a character to show, or the digits of a sequence that changes the style. -/
inductive Token where
  | char (c : Char)
  | sequence (digits : List Char)
  deriving Repr, DecidableEq

/-- The sequence with the given digits. -/
def code (digits : List Char) : String := "\x1b[" ++ .ofList digits ++ "m"

namespace Token

def shown? : Token → Option Char
  | char c => some c
  | sequence _ => none

def code? : Token → Option String
  | char _ => none
  | sequence digits => some (code digits)

end Token

/-- The digits of the sequence that a text starts with, and the rest of the text. A sequence is an escape character and
an opening bracket, digits, and the letter m. -/
def sequence? : List Char → Option (List Char × List Char)
  | '\x1b' :: '[' :: cs =>
    match cs.takeWhile Char.isDigit, cs.dropWhile Char.isDigit with
    | d :: ds, 'm' :: rest => some (d :: ds, rest)
    | _, _ => none
  | _ => none

theorem length_sequence?_lt {cs digits rest : List Char} (found : sequence? cs = some (digits, rest)) :
    rest.length < cs.length := by
  unfold sequence? at found
  split at found
  · rename_i cs
    split at found
    · rename_i left
      obtain ⟨-, rfl⟩ := Prod.mk.inj (Option.some.inj found)
      have suffix := (List.dropWhile_suffix (l := cs) Char.isDigit).length_le
      rw [left] at suffix
      simp only [List.length_cons] at suffix ⊢
      omega
    · cases found
  · cases found

/-- A text as a terminal reads it. -/
def tokens : List Char → List Token
  | [] => []
  | c :: cs =>
    match found : sequence? (c :: cs) with
    | some (digits, rest) =>
      have := length_sequence?_lt found
      .sequence digits :: tokens rest
    | none => .char c :: tokens cs
termination_by cs => cs.length
decreasing_by
  · assumption
  · exact Nat.lt_succ_self _

/-- The text without its sequences. -/
def shown (text : String) : String := .ofList ((tokens text.toList).filterMap Token.shown?)

/-- The sequences of a text. -/
def sequences (text : String) : List String := (tokens text.toList).filterMap Token.code?

/-- A text without escape characters. -/
def EscapeFree (text : String) : Prop := '\x1b' ∉ text.toList

instance (text : String) : Decidable (EscapeFree text) := inferInstanceAs (Decidable ¬_)

@[simp] theorem escapeFree_append {text more : String} :
    EscapeFree (text ++ more) ↔ EscapeFree text ∧ EscapeFree more := by
  simp [EscapeFree]

@[simp] theorem escapeFree_repr (n : Nat) : EscapeFree n.repr := fun listed => by
  cases (Text.isDigit_of_mem_repr listed : '\x1b'.isDigit = true)

section Tokens

variable {c : Char} {cs digits rest : List Char}

theorem tokens_of_ne (plain : c ≠ '\x1b') : tokens (c :: cs) = .char c :: tokens cs := by
  have none : sequence? (c :: cs) = none := by simp [sequence?, plain]
  rw [tokens]
  split
  · rename_i found
    rw [none] at found
    cases found
  · rfl

theorem tokens_of_sequence? (found : sequence? cs = some (digits, rest)) :
    tokens cs = .sequence digits :: tokens rest := by
  cases cs with
  | nil => cases found
  | cons c cs =>
    rw [tokens]
    split
    · rename_i found'
      obtain ⟨rfl, rfl⟩ := Prod.mk.inj (Option.some.inj (found.symm.trans found'))
      rfl
    · rename_i none
      rw [none] at found
      cases found

theorem tokens_append (plain : '\x1b' ∉ cs) (rest : List Char) :
    tokens (cs ++ rest) = cs.map .char ++ tokens rest := by
  induction cs with
  | nil => rfl
  | cons c cs ih =>
    rw [List.mem_cons, not_or] at plain
    rw [List.cons_append, tokens_of_ne (Ne.symm plain.1), ih plain.2, List.map_cons, List.cons_append]

theorem tokens_code (some? : digits ≠ []) (each : digits.all Char.isDigit = true) (rest : List Char) :
    tokens ((code digits).toList ++ rest) = .sequence digits :: tokens rest := by
  have spelt : (code digits).toList ++ rest = '\x1b' :: '[' :: (digits ++ 'm' :: rest) := by simp [code]
  have stop : 'm'.isDigit = false := by decide
  have cut := (Text.takeWhile_and_dropWhile_eq stop (digits ++ 'm' :: rest) digits rest).mpr
    ⟨rfl, List.all_eq_true.mp each⟩
  obtain ⟨d, ds, rfl⟩ := List.exists_cons_of_ne_nil some?
  refine tokens_of_sequence? ?_
  simp only [spelt, sequence?, cut]

theorem start_eq_code (style : Style) :
    ∃ digits ≠ [], digits.all Char.isDigit = true ∧ style.start = code digits := by
  cases style with
  | red => exact ⟨['3', '1'], by decide⟩
  | yellow => exact ⟨['3', '3'], by decide⟩
  | blue => exact ⟨['3', '4'], by decide⟩
  | green => exact ⟨['3', '2'], by decide⟩
  | bold => exact ⟨['1'], by decide⟩

theorem reset_eq_code : Style.reset = code ['0'] := by decide

end Tokens

/-- A text with styles, and what is seen of it. Styles do not overlap. -/
inductive Painted : List Char → List Char → Prop
  | nil : Painted [] []
  | char {c : Char} {cs ds : List Char} (plain : c ≠ '\x1b') (rest : Painted cs ds) : Painted (c :: cs) (c :: ds)
  | styled (style : Style) {text : String} {cs ds : List Char} (plain : EscapeFree text) (rest : Painted cs ds) :
      Painted ((style.start ++ text ++ Style.reset).toList ++ cs) (text.toList ++ ds)

section Painted

variable {cs ds : List Char} {s t s' t' text : String}

theorem tokens_styled (style : Style) (plain : EscapeFree text) (cs : List Char) : ∃ digits,
    style.start = code digits ∧ tokens ((style.start ++ text ++ Style.reset).toList ++ cs) =
      .sequence digits :: (text.toList.map .char ++ .sequence ['0'] :: tokens cs) := by
  obtain ⟨digits, some?, each, spelt⟩ := start_eq_code style
  refine ⟨digits, spelt, ?_⟩
  rw [spelt, reset_eq_code, String.toList_append, String.toList_append, List.append_assoc, List.append_assoc,
    tokens_code some? each, tokens_append plain, tokens_code (by decide) (by decide)]

/-- What is seen is the text without its sequences, every style is ended before the next one starts, and what is seen
has no escape characters. -/
theorem Painted.read (painted : Painted cs ds) : (tokens cs).filterMap Token.shown? = ds ∧
    (∃ styles : List Style,
      (tokens cs).filterMap Token.code? = styles.flatMap fun style => [style.start, Style.reset]) ∧
    '\x1b' ∉ ds := by
  induction painted with
  | nil => exact ⟨by rw [tokens]; rfl, ⟨[], by rw [tokens]; rfl⟩, List.not_mem_nil⟩
  | char plain rest ih =>
    obtain ⟨seen, ⟨styles, codes⟩, free⟩ := ih
    rw [tokens_of_ne plain]
    exact ⟨congrArg _ seen, ⟨styles, codes⟩, List.not_mem_cons_of_ne_of_not_mem (Ne.symm plain) free⟩
  | @styled style text cs ds plain rest ih =>
    obtain ⟨seen, ⟨styles, codes⟩, free⟩ := ih
    obtain ⟨digits, start, read⟩ := tokens_styled style plain cs
    have own : (text.toList.map Token.char).filterMap Token.shown? = text.toList := by
      rw [List.filterMap_map]
      exact List.filterMap_some
    have bare : (text.toList.map Token.char).filterMap Token.code? = [] := by
      rw [List.filterMap_map]
      exact List.filterMap_none _
    rw [read]
    refine ⟨?_, ⟨style :: styles, ?_⟩, List.not_mem_append plain free⟩
    · simp only [List.filterMap_cons, List.filterMap_append, Token.shown?, own, seen]
    · simp only [List.filterMap_cons, List.filterMap_append, Token.code?, bare, codes, start, reset_eq_code,
        List.flatMap_cons, List.cons_append, List.nil_append]

theorem Painted.append {cs' ds' : List Char} (first : Painted cs ds) (later : Painted cs' ds') :
    Painted (cs ++ cs') (ds ++ ds') := by
  induction first with
  | nil => exact later
  | char plain _ ih => exact .char plain ih
  | styled style plain _ ih =>
    rw [List.append_assoc, List.append_assoc]
    exact .styled style plain ih

/-- Texts of which the second one is what is seen of the first one. -/
def Shows (text seen : String) : Prop := Painted text.toList seen.toList

theorem Shows.append (first : Shows s t) (later : Shows s' t') : Shows (s ++ s') (t ++ t') := by
  rw [Shows, String.toList_append, String.toList_append]
  exact Painted.append first later

theorem shows_of_escapeFree (plain : EscapeFree text) : Shows text text := by
  rw [Shows]
  rw [EscapeFree] at plain
  generalize text.toList = cs at plain
  induction cs with
  | nil => exact .nil
  | cons c cs ih =>
    rw [List.mem_cons, not_or] at plain
    exact .char (Ne.symm plain.1) (ih plain.2)

theorem shows_paint (style : Style) (plain : EscapeFree text) :
    Shows (Style.paint true style text) (Style.paint false style text) := by
  have whole := Painted.styled style plain .nil
  rwa [List.append_nil, List.append_nil] at whole

theorem shows_join {items : List α} {f g : α → String} (each : ∀ a ∈ items, Shows (f a) (g a)) :
    Shows (String.join (items.map f)) (String.join (items.map g)) := by
  induction items with
  | nil => exact Painted.nil
  | cons a items ih =>
    obtain ⟨first, later⟩ := List.forall_mem_cons.mp each
    rw [List.map_cons, List.map_cons, String.join_cons, String.join_cons]
    exact first.append (ih later)

end Painted

end Terminal

open Terminal

/-- What is shown of a path has no characters but slashes, dots and those of the path. -/
theorem Path.mem_display {p : Path} {c : Char} (shown : c ∈ p.display.toList) :
    c = '/' ∨ c = '.' ∨ c ∈ p.text.toList := by
  rw [display, displayParts, parts_eq_lead_append, List.map_append, map_text_steps] at shown
  rcases Text.mem_join shown with slash | ⟨text, listed, inside⟩
  · exact .inl (by simpa using slash)
  rcases List.mem_append.mp listed with start | step
  · obtain ⟨part, own, rfl⟩ := List.mem_map.mp start
    rcases of_mem_lead own with rfl | rfl
    · exact .inl (by simpa [Part.text] using inside)
    · exact .inr (.inl (by simpa [Part.text] using inside))
  · obtain ⟨piece, within, rfl⟩ := List.mem_map.mp (List.mem_of_mem_filter step)
    exact .inr (.inr (Text.mem_of_mem_segments within (by simpa using inside)))

theorem Path.escapeFree_display {p : Path} (plain : EscapeFree p.text) : EscapeFree p.display := by
  intro shown
  rcases mem_display shown with slash | dot | own
  · exact absurd slash (by decide)
  · exact absurd dot (by decide)
  · exact plain own

/-- The texts that a report shows of a finding have no escape characters. -/
structure Violation.EscapeFree (v : Violation) : Prop where
  code : Terminal.EscapeFree v.code
  file : Terminal.EscapeFree v.location.file.text
  message : Terminal.EscapeFree v.message
  suggestion : ∀ text ∈ v.suggestion, Terminal.EscapeFree text

namespace Report

theorem shows_findingText {v : Violation} (plain : v.EscapeFree) :
    Shows (findingText true v) (findingText false v) := by
  have position : EscapeFree (if v.location.line = 0 then ""
      else toString v.location.line ++ ":" ++ toString v.location.column ++ " ") := by
    split
    · decide
    · simp only [escapeFree_append, Nat.toString_eq_repr, escapeFree_repr, true_and, and_true]
      decide
  have grade : EscapeFree v.severity.text := by cases v.severity <;> decide
  have opening := (shows_of_escapeFree (by decide : EscapeFree "  ")).append (shows_of_escapeFree position)
  have graded := opening.append (shows_paint (.ofSeverity v.severity) grade)
  have coded := ((graded.append (shows_of_escapeFree (by decide : EscapeFree "["))).append
    (shows_of_escapeFree plain.code)).append (shows_of_escapeFree (by decide : EscapeFree "] "))
  have told := (coded.append (shows_of_escapeFree plain.message)).append
    (shows_of_escapeFree (by decide : EscapeFree "\n"))
  simp only [findingText]
  refine told.append (shows_of_escapeFree ?_)
  cases advice : v.suggestion with
  | none => exact (by decide : EscapeFree "")
  | some message =>
    simp only [escapeFree_append, plain.suggestion message advice, and_true]
    decide

theorem shows_groupText {group : List Violation} (plain : ∀ v ∈ group, v.EscapeFree) :
    Shows (groupText true group) (groupText false group) := by
  have newline : Shows "\n" "\n" := shows_of_escapeFree (by decide)
  refine (Shows.append ?_ (shows_join fun v listed => shows_findingText (plain v listed))).append newline
  cases group with
  | nil => exact shows_of_escapeFree (by decide)
  | cons v rest => exact (shows_paint _ (Path.escapeFree_display (plain v List.mem_cons_self).file)).append newline

/-- Runs hold the findings that they are made of. -/
theorem flatten_groups (vs : List Violation) : (groups vs).flatten = vs := by
  fun_induction groups vs <;> simp_all

theorem escapeFree_summary (r : Report) : EscapeFree r.summary := by
  rw [summary]
  split <;> simp only [escapeFree_append, Nat.toString_eq_repr, escapeFree_repr, true_and, and_true] <;> decide

theorem shows_text {r : Report} (plain : ∀ v ∈ r.violations, v.EscapeFree) : Shows (r.text true) (r.text false) := by
  have newline : Shows "\n" "\n" := shows_of_escapeFree (by decide)
  refine (Shows.append (shows_join fun group listed => ?_) (shows_paint _ (escapeFree_summary r))).append newline
  refine shows_groupText fun v member => plain v ?_
  rw [← flatten_groups r.violations]
  exact List.mem_flatten_of_mem listed member

/-- Styles add nothing but sequences to a report: without them it is the report without styles, which has no escape
characters, and every style is ended by a reset before another one starts. -/
theorem render_styled {r : Report} (plain : ∀ v ∈ r.violations, v.EscapeFree) :
    shown (r.render true .text) = r.render false .text ∧
    (∃ styles : List Style, sequences (r.render true .text) = styles.flatMap fun style => [style.start, Style.reset]) ∧
    EscapeFree (r.render false .text) := by
  obtain ⟨seen, codes, free⟩ := (shows_text plain).read
  refine ⟨?_, codes, free⟩
  rw [shown, render, seen, render, String.ofList_toList]

/-- What looks like the rest of a sequence stays. -/
theorem render_styled_bracketedMessage :
    let r : Report := ⟨[Rule.layerDirection.violation .error ⟨⟨"src/[1m.ts"⟩, 3, 31⟩ "[31m0m" (some "0m")], 1, 1⟩
    (∀ v ∈ r.violations, v.EscapeFree) ∧
    shown (r.render true .text) = r.render false .text ∧
    (∃ styles : List Style, sequences (r.render true .text) = styles.flatMap fun style => [style.start, Style.reset]) ∧
    EscapeFree (r.render false .text) := by
  intro r
  have plain : ∀ v ∈ r.violations, v.EscapeFree := by
    refine List.forall_mem_singleton.mpr ⟨by decide, by decide, by decide, ?_⟩
    rintro text ⟨⟩
    decide
  exact ⟨plain, render_styled plain⟩

end Report

end Layering
