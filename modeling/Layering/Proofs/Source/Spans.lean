import Layering.Proofs.Source.Origins

/-! How far tokens reach. The text is read once more into tokens, each with the offsets of its first character and of the
first one behind it. What is read as a string starts at a quote, and all quotes between strings start one: words, numbers
and punctuation hold none, so that the strings are found without the other tokens. -/
namespace Layering.Source

/-- A part of a text that is read as a string with its quotes, from one offset to before another, and whether it is
closed there. -/
structure StringSpan where
  start : Nat
  stop : Nat
  closed : Bool
  deriving Repr, DecidableEq

/-- The same part when there are some more characters in front of the text. -/
def StringSpan.shift (n : Nat) (s : StringSpan) : StringSpan := ⟨n + s.start, n + s.stop, s.closed⟩

theorem StringSpan.shift_zero : shift 0 = id := by
  funext s
  simp [shift]

theorem StringSpan.map_shift_shift (n m : Nat) (ss : List StringSpan) :
    (ss.map (shift m)).map (shift n) = ss.map (shift (n + m)) := by
  simp [shift, Nat.add_assoc]

/-- A character that strings start with. -/
def IsQuote (c : Char) : Prop := c = '\'' ∨ c = '"'

instance (c : Char) : Decidable (IsQuote c) := by unfold IsQuote; infer_instance

/-- A token and the part of the text that it is read from. -/
structure Token.Span where
  token : Token
  start : Nat
  stop : Nat
  /-- For what is read as a string, whether it is closed. -/
  closed? : Option Bool

/-- The part of the text, if the token is read as a string. -/
def Token.Span.string? (s : Token.Span) : Option StringSpan := s.closed?.map (⟨s.start, s.stop, ·⟩)

theorem Token.Span.string?_some (token : Token) (start stop : Nat) (closed : Bool) :
    (⟨token, start, stop, some closed⟩ : Token.Span).string? = some ⟨start, stop, closed⟩ := rfl

namespace Token

/-- The tokens of a text that starts at an offset and a place. -/
def spansFrom (n : Nat) (p : Position) (startsLine : Bool) : List Char → List Span
  | [] => []
  | c :: cs =>
    if c = '\n' then spansFrom (n + 1) (p.next c) true cs
    else if Text.isBlank c then spansFrom (n + 1) (p.next c) startsLine cs
    else if Text.isIdentifierStart c then
      let word := c :: cs.takeWhile Text.isIdentifierChar
      ⟨⟨.word (.ofList word), p, startsLine⟩, n, n + word.length, none⟩ ::
        spansFrom (n + word.length) (p.advance word) false (cs.dropWhile Text.isIdentifierChar)
    else if c = '\'' ∨ c = '"' then
      let read := readString c (p.next c) cs
      let kind := match read.1 with
        | some text => .string (.ofList text)
        | none => .other
      let stop := n + 1 + (cs.length - read.2.2.length)
      ⟨⟨kind, p, startsLine⟩, n, stop, some read.1.isSome⟩ :: spansFrom stop read.2.1 false read.2.2
    else if '0' ≤ c ∧ c ≤ '9' then
      let number := c :: cs.takeWhile isNumberChar
      ⟨⟨.other, p, startsLine⟩, n, n + number.length, none⟩ ::
        spansFrom (n + number.length) (p.advance number) false (cs.dropWhile isNumberChar)
    else ⟨⟨.punctuation c, p, startsLine⟩, n, n + 1, none⟩ :: spansFrom (n + 1) (p.next c) false cs
termination_by cs => cs.length
decreasing_by
  · simp
  · simp
  · exact Nat.lt_succ_of_le (List.dropWhile_sublist _).length_le
  · exact Nat.lt_succ_of_le (length_readString_le _ _ _)
  · exact Nat.lt_succ_of_le (List.dropWhile_sublist _).length_le
  · simp

/-- The tokens of a whole text. -/
def spans (text : String) : List Span := spansFrom 0 .start true text.toList

/-- The parts of a text that are read as strings, found from quote to quote. -/
def strings : List Char → List StringSpan
  | [] => []
  | c :: cs =>
    if IsQuote c then
      let read := readString c .start cs
      let stop := 1 + (cs.length - read.2.2.length)
      ⟨0, stop, read.1.isSome⟩ :: (strings read.2.2).map (StringSpan.shift stop)
    else (strings cs).map (StringSpan.shift 1)
termination_by cs => cs.length
decreasing_by
  · exact Nat.lt_succ_of_le (length_readString_le _ _ _)
  · simp

/-- The offsets are an addition: without them the spans are the tokens. -/
theorem map_token_spansFrom (n : Nat) (p : Position) (startsLine : Bool) (cs : List Char) :
    (spansFrom n p startsLine cs).map Span.token = scan p startsLine cs := by
  fun_induction spansFrom n p startsLine cs with
  | case1 => rw [scan, List.map_nil]
  | case2 n p startsLine cs ih => rw [scan, if_pos rfl, ih]
  | case3 n p startsLine c cs newline blank ih => rw [scan, if_neg newline, if_pos blank, ih]
  | case4 n p startsLine c cs newline solid starts word ih =>
    rw [scan, if_neg newline, if_neg solid, if_pos starts, List.map_cons, ih]
  | case5 n p startsLine c cs newline solid other quote read kind stop ih =>
    rw [scan, if_neg newline, if_neg solid, if_neg other, if_pos quote, List.map_cons]
    exact congrArg (List.cons _) ih
  | case6 n p startsLine c cs newline solid other noQuote digit number ih =>
    rw [scan, if_neg newline, if_neg solid, if_neg other, if_neg noQuote, if_pos digit, List.map_cons, ih]
  | case7 n p startsLine c cs newline solid other noQuote noDigit ih =>
    rw [scan, if_neg newline, if_neg solid, if_neg other, if_neg noQuote, if_neg noDigit, List.map_cons, ih]

/-- What the reader of tokens goes through from an offset and a place on: characters that are no quotes, with a token or
without one, and strings. -/
inductive Reads : Nat → Position → List Char → List Span → Prop
  | nil (n : Nat) (p : Position) : Reads n p [] []
  | blank {n : Nat} {p : Position} {c : Char} {cs : List Char} {ss : List Span} (noQuote : ¬IsQuote c)
      (later : Reads (n + 1) (p.next c) cs ss) : Reads n p (c :: cs) ss
  | solid {n : Nat} {p : Position} {c : Char} {body rest : List Char} {ss : List Span} {kind : Kind} (startsLine : Bool)
      (other : ∀ text, kind ≠ .string text) (noQuote : ∀ d ∈ c :: body, ¬IsQuote d)
      (later : Reads (n + (c :: body).length) (p.advance (c :: body)) rest ss) :
      Reads n p (c :: (body ++ rest)) (⟨⟨kind, p, startsLine⟩, n, n + (c :: body).length, none⟩ :: ss)
  | string {n : Nat} {p : Position} {c : Char} {body rest : List Char} {text : Option (List Char)} {ss : List Span}
      {kind : Kind} (startsLine : Bool) (complete : text.isSome = true ↔ ∃ text, kind = .string text) (quote : IsQuote c)
      (read : ∀ q, readString c q (body ++ rest) = (text, q.advance body, rest))
      (later : Reads (n + (c :: body).length) (p.advance (c :: body)) rest ss) :
      Reads n p (c :: (body ++ rest)) (⟨⟨kind, p, startsLine⟩, n, n + (c :: body).length, some text.isSome⟩ :: ss)

section Spans

variable {n : Nat} {p : Position} {startsLine : Bool} {cs rest : List Char} {c : Char} {ss : List Span}

theorem not_isQuote_of_isIdentifierChar (part : Text.isIdentifierChar c = true) : ¬IsQuote c := by
  rintro (rfl | rfl) <;> exact absurd part (by decide)

theorem not_isQuote_of_isNumberChar (part : isNumberChar c = true) : ¬IsQuote c := by
  rintro (rfl | rfl) <;> exact absurd part (by decide)

theorem reads_spansFrom (n : Nat) (p : Position) (startsLine : Bool) (cs : List Char) :
    Reads n p cs (spansFrom n p startsLine cs) := by
  fun_induction spansFrom n p startsLine cs with
  | case1 n p => exact .nil n p
  | case2 n p startsLine cs ih => exact .blank (by decide) ih
  | case3 n p startsLine c cs newline blank ih =>
    refine .blank ?_ ih
    rintro (rfl | rfl) <;> exact absurd blank (by decide)
  | case4 n p startsLine c cs newline solid starts word ih =>
    have whole : c :: cs = c :: (cs.takeWhile Text.isIdentifierChar ++ cs.dropWhile Text.isIdentifierChar) :=
      congrArg (c :: ·) List.takeWhile_append_dropWhile.symm
    have part : ∀ d ∈ word, Text.isIdentifierChar d = true := List.forall_mem_cons.mpr
      ⟨Text.isIdentifierChar_of_isIdentifierStart starts, List.all_eq_true.mp List.all_takeWhile⟩
    rw [whole]
    exact .solid startsLine (by simp) (fun d member => not_isQuote_of_isIdentifierChar (part d member)) ih
  | case5 n p startsLine c cs newline solid other quote read kind stop ih =>
    obtain ⟨text, body, rest, rfl, each⟩ := exists_readString c cs
    have same : read = (text, (p.next c).advance body, rest) := each (p.next c)
    have length : stop = n + (c :: body).length := by
      simp only [stop, same, List.length_append, List.length_cons]
      omega
    have complete : text.isSome = true ↔ ∃ text, kind = .string text := by
      simp only [kind, same]
      cases text <;> simp
    clear_value kind stop read
    subst same length
    exact .string startsLine complete quote each ih
  | case6 n p startsLine c cs newline solid other noQuote digit number ih =>
    have whole : c :: cs = c :: (cs.takeWhile isNumberChar ++ cs.dropWhile isNumberChar) :=
      congrArg (c :: ·) List.takeWhile_append_dropWhile.symm
    have part : ∀ d ∈ number, ¬IsQuote d := List.forall_mem_cons.mpr
      ⟨noQuote, fun d member => not_isQuote_of_isNumberChar (List.all_eq_true.mp List.all_takeWhile d member)⟩
    rw [whole]
    exact .solid startsLine (by simp) part ih
  | case7 n p startsLine c cs newline solid other noQuote noDigit ih =>
    exact Reads.solid startsLine (by simp) (List.forall_mem_singleton.mpr noQuote) ih

/-- What a token says of a text that starts at an offset and a place: it starts at a character of the text, at the place
of that character, and it is read as a string if that is a quote. -/
structure Span.StandsIn (n : Nat) (p : Position) (cs : List Char) (s : Span) : Prop where
  starts : ∃ front c back, cs = front ++ c :: back ∧ s.start = n + front.length ∧ s.token.position = p.advance front ∧
    (s.closed?.isSome = true ↔ IsQuote c)
  complete : s.closed? = some true ↔ ∃ text, s.token.kind = .string text

theorem Span.StandsIn.later {s : Span} (body : List Char)
    (stands : s.StandsIn (n + body.length) (p.advance body) rest) : s.StandsIn n p (body ++ rest) := by
  obtain ⟨⟨front, c, back, rfl, start, place, quote⟩, complete⟩ := stands
  refine ⟨⟨body ++ front, c, back, by simp, ?_, ?_, quote⟩, complete⟩
  · rw [start, List.length_append, Nat.add_assoc]
  · rw [place, Position.advance_append]

theorem Reads.standsIn (reads : Reads n p cs ss) : ∀ s ∈ ss, s.StandsIn n p cs := by
  induction reads with
  | nil => simp
  | @blank n p c cs ss _ _ ih => exact fun s listed => (ih s listed).later [c]
  | @solid n p c body rest ss kind startsLine other noQuote _ ih =>
    refine List.forall_mem_cons.mpr ⟨⟨⟨[], c, body ++ rest, rfl, rfl, rfl, ?_⟩, ?_⟩, fun s listed => ?_⟩
    · simp [noQuote c List.mem_cons_self]
    · simp [other]
    · exact (ih s listed).later (c :: body)
  | @string n p c body rest text ss kind startsLine complete quote _ _ ih =>
    refine List.forall_mem_cons.mpr ⟨⟨⟨[], c, body ++ rest, rfl, rfl, rfl, ?_⟩, ?_⟩, fun s listed => ?_⟩
    · simp [quote]
    · rw [← complete, Option.some.injEq]
    · exact (ih s listed).later (c :: body)

theorem Reads.le_start (reads : Reads n p cs ss) : ∀ s ∈ ss, n ≤ s.start := by
  intro s listed
  obtain ⟨front, -, -, -, start, -⟩ := (reads.standsIn s listed).starts
  omega

/-- No token reaches into the next one. -/
theorem Reads.ordered (reads : Reads n p cs ss) : ss.Pairwise fun a b => a.stop ≤ b.start := by
  induction reads with
  | nil => exact .nil
  | blank _ _ ih => exact ih
  | solid _ _ _ later ih => exact ih.cons later.le_start
  | string _ _ _ _ later ih => exact ih.cons later.le_start

theorem strings_cons_of_not_isQuote (noQuote : ¬IsQuote c) : strings (c :: cs) = (strings cs).map (StringSpan.shift 1) := by
  rw [strings, if_neg noQuote]

/-- Between strings there are no quotes, and so nothing that would have to be read. -/
theorem strings_append {body : List Char} (noQuote : ∀ c ∈ body, ¬IsQuote c) :
    strings (body ++ rest) = (strings rest).map (StringSpan.shift body.length) := by
  induction body with
  | nil => rw [List.nil_append, List.length_nil, StringSpan.shift_zero, List.map_id]
  | cons c body ih =>
    obtain ⟨first, later⟩ := List.forall_mem_cons.mp noQuote
    rw [List.cons_append, strings_cons_of_not_isQuote first, ih later, StringSpan.map_shift_shift, List.length_cons,
      Nat.add_comm]

theorem strings_cons_of_isQuote {body : List Char} {text : Option (List Char)} (quote : IsQuote c)
    (read : ∀ q, readString c q (body ++ rest) = (text, q.advance body, rest)) :
    strings (c :: (body ++ rest)) =
      ⟨0, (c :: body).length, text.isSome⟩ :: (strings rest).map (StringSpan.shift (c :: body).length) := by
  rw [strings, if_pos quote, read]
  simp [Nat.add_comm]

/-- The strings among the tokens are those found from quote to quote. -/
theorem Reads.filterMap_string? (reads : Reads n p cs ss) :
    ss.filterMap Span.string? = (strings cs).map (StringSpan.shift n) := by
  induction reads with
  | nil => simp [strings]
  | blank noQuote _ ih => rw [strings_cons_of_not_isQuote noQuote, StringSpan.map_shift_shift, ih]
  | @solid n p c body rest ss kind startsLine _ noQuote _ ih =>
    rw [← List.cons_append, strings_append noQuote, StringSpan.map_shift_shift, List.filterMap_cons_none rfl, ih]
  | string startsLine _ quote read _ ih =>
    rw [strings_cons_of_isQuote quote read, List.map_cons, StringSpan.map_shift_shift,
      List.filterMap_cons_some (Span.string?_some _ _ _ _), ih]
    rfl

end Spans

/-- Spans that cut a text: they are those of its tokens and follow each other, each starts where its token stands, what is
read as a string are the tokens that start with a quote, and the closed ones among them are the complete strings. -/
structure Cuts (text : String) (ss : List Span) : Prop where
  tokens : ss.map Span.token = Token.tokens text
  ordered : ss.Pairwise fun a b => a.stop ≤ b.start
  places : ∀ s ∈ ss, s.token.position = place text.toList s.start
  quotes : ∀ s ∈ ss, s.closed?.isSome = true ↔ ∃ c ∈ text.toList[s.start]?, IsQuote c
  complete : ∀ s ∈ ss, s.closed? = some true ↔ ∃ string, s.token.kind = .string string

theorem cuts_spans (text : String) : Cuts text (spans text) := by
  have reads := reads_spansFrom 0 .start true text.toList
  refine ⟨map_token_spansFrom _ _ _ _, reads.ordered, fun s listed => ?_, fun s listed => ?_,
    fun s listed => (reads.standsIn s listed).complete⟩
  · obtain ⟨front, c, back, whole, start, same, -⟩ := (reads.standsIn s listed).starts
    rw [place, whole, start, Nat.zero_add, List.take_left, same]
  · obtain ⟨front, c, back, whole, start, -, quote⟩ := (reads.standsIn s listed).starts
    simpa [whole, start] using quote

/-- No two tokens share a character. -/
theorem Cuts.eq_of_overlap {text : String} {ss : List Span} {a b : Span} {n : Nat} (cuts : Cuts text ss) (first : a ∈ ss)
    (second : b ∈ ss) (inFirst : a.start ≤ n ∧ n < a.stop) (inSecond : b.start ≤ n ∧ n < b.stop) : a = b := by
  let Same (a b : Span) : Prop := a.start ≤ n ∧ n < a.stop → b.start ≤ n ∧ n < b.stop → a = b
  have forward : ss.Pairwise Same := cuts.ordered.imp fun apart inFirst inSecond => by omega
  have backward : ss.Pairwise (flip Same) := cuts.ordered.imp fun apart inSecond inFirst => by omega
  exact forward.forall_of_forall_of_flip (fun _ _ _ _ => rfl) backward first second inFirst inSecond

end Token

end Layering.Source
