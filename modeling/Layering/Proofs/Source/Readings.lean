import Layering.Proofs.Source.Steps
import Layering.Proofs.Text.Character
import Mathlib.Data.List.TakeWhile

/-! The two ways to sanitise a text, with templates kept and with templates blanked. They read the text alike up to the
first slash that opens a regular expression at the start of an expression of a template only if the template is kept:
where it is blanked, the reader looks back past the expression to what stands before it. -/
namespace Layering.Source

/-- The character at a position of the text is replaced. -/
def Blanks (blankTemplates : Bool) (text : String) (i : Nat) : Prop :=
  (sanitize blankTemplates text).toList[i]? ≠ text.toList[i]?

/-- The character is literal text of a template, or part of the marks around one of its expressions. -/
def State.InLiteral (s : State) (c : Char) : Prop :=
  match s.mode with
  | .code => c = '}' ∧ s.depths.head? = some 0
  | .template => c ≠ '`'
  | .templateEscape | .templateOpen => True
  | _ => False

/-- What is blanked where templates are kept is blanked anyway, and what is blanked only where they are blanked belongs
to a template. -/
def AgreeAt (text : String) (i : Nat) : Prop :=
  (Blanks false text i → Blanks true text i) ∧
    (Blanks true text i → ¬Blanks false text i →
      ∃ c ∈ text.toList[i]?, (reached false text i).InLiteral c)

/-- Both ways read the text alike up to a position. -/
def SameReading (text : String) (i : Nat) : Prop :=
  (reached true text i).mode = (reached false text i).mode ∧
    (reached true text i).depths = (reached false text i).depths

/-- Between the start of an expression of a template and the position stand only blanks and comments. -/
def StartsExpression (text : String) (i : Nat) : Prop :=
  ∃ blanks before, (reached false text i).before = blanks ++ '{' :: before ∧
    (∀ c ∈ blanks, Text.isBlank c = true) ∧ (reached false text before.length).mode = .templateOpen

/-- A slash that opens a regular expression where the template is kept, but not where it is blanked. -/
structure Misread (text : String) (i : Nat) : Prop where
  code : (reached false text i).mode = .code
  slash : text.toList[i]? = some '/'
  noComment : text.toList[i + 1]? ≠ some '/' ∧ text.toList[i + 1]? ≠ some '*'
  first : StartsExpression text i
  division : opensRegex (reached true text i).before = false

section LookingBack

theorem dropWhile_append_of_ne_nil {p : α → Bool} {front : List α} (stops : front.dropWhile p ≠ [])
    (rest : List α) : (front ++ rest).dropWhile p = front.dropWhile p ++ rest := by
  simp [List.dropWhile_append, stops]

/-- Looking back stops in a text that is not all blank. -/
theorem opensRegex_append {front a b : List Char} (visible : front.dropWhile Text.isBlank ≠ []) (ha : Text.EndsWord a)
    (hb : Text.EndsWord b) : opensRegex (front ++ a) = opensRegex (front ++ b) := by
  unfold opensRegex
  rw [dropWhile_append_of_ne_nil visible, dropWhile_append_of_ne_nil visible]
  cases seen : front.dropWhile Text.isBlank with
  | nil => contradiction
  | cons c rest =>
    simp only [List.cons_append]
    rw [← List.cons_append, ← List.cons_append, Text.takeWhile_append_of_endsWord _ ha,
      Text.takeWhile_append_of_endsWord _ hb]

theorem opensRegex_of_blank {front : List Char} (blank : ∀ c ∈ front, Text.isBlank c = true) (rest : List Char) :
    opensRegex (front ++ rest) = opensRegex rest := by
  unfold opensRegex
  rw [List.dropWhile_append_of_pos blank]

end LookingBack

section Steps

variable {blankTemplates : Bool} {s s' : State} {c : Char} {next : Option Char}

/-- Text of a template, where only one of the ways keeps what it reads. -/
def Mode.IsLiteral : Mode → Prop
  | .template | .templateEscape | .templateOpen => True
  | _ => False

/-- A slash that is not the start of a comment. -/
def Decides (s : State) (c : Char) (next : Option Char) : Prop :=
  s.mode = .code ∧ c = '/' ∧ next ≠ some '/' ∧ next ≠ some '*'

/-- What is read next depends on the text written so far only at a slash. -/
theorem step_alike (modes : s.mode = s'.mode) (levels : s.depths = s'.depths)
    (decides : Decides s c next → opensRegex s.before = opensRegex s'.before) :
    (step true s c next).mode = (step false s' c next).mode ∧
      (step true s c next).depths = (step false s' c next).depths := by
  obtain ⟨mode, depths, before⟩ := s
  obtain ⟨mode', depths', before'⟩ := s'
  obtain rfl : mode = mode' := modes
  obtain rfl : depths = depths' := levels
  cases mode with
  | code =>
    by_cases slash : c = '/'
    · by_cases line : next = some '/'
      · simp [step, stepCode, State.emit, slash, line]
      · by_cases block : next = some '*'
        · simp [step, stepCode, State.emit, slash, block]
        · have same : opensRegex before = opensRegex before' := decides ⟨rfl, slash, line, block⟩
          simp only [step, stepCode, if_pos slash, if_neg line, if_neg block, same]
          split <;> exact ⟨rfl, rfl⟩
    · simp only [step, stepCode, if_neg slash]
      split
      · exact ⟨rfl, rfl⟩
      · split
        · exact ⟨rfl, rfl⟩
        · split
          · split <;> exact ⟨rfl, rfl⟩
          · split
            · split <;> exact ⟨rfl, rfl⟩
            · exact ⟨rfl, rfl⟩
  | quoted quote =>
    simp only [step]
    split <;> exact ⟨rfl, rfl⟩
  | template =>
    simp only [step]
    split
    · exact ⟨rfl, rfl⟩
    · split <;> exact ⟨rfl, rfl⟩
  | _ => exact ⟨rfl, rfl⟩

/-- Of the text written so far, only the look back from a slash counts. -/
theorem step_congr (modes : s.mode = s'.mode) (levels : s.depths = s'.depths)
    (opens : opensRegex s.before = opensRegex s'.before) (c : Char) (next : Option Char) :
    (step true s c next).mode = (step true s' c next).mode ∧
      (step true s c next).depths = (step true s' c next).depths := by
  have first : (step true s c next).mode = (step false s' c next).mode ∧
      (step true s c next).depths = (step false s' c next).depths := step_alike modes levels fun _ => opens
  have second : (step true s' c next).mode = (step false s' c next).mode ∧
      (step true s' c next).depths = (step false s' c next).depths := step_alike rfl rfl fun _ => rfl
  exact ⟨first.1.trans second.1.symm, first.2.trans second.2.symm⟩

theorem emitted_congr (modes : s.mode = s'.mode) (levels : s.depths = s'.depths) :
    emitted blankTemplates s c next = emitted blankTemplates s' c next := by
  simp only [emitted, modes, levels]

/-- From the text of a template only its closing mark and the opening mark of an expression lead back to code. -/
theorem literal_of_step (literal : s.mode.IsLiteral) (code : ¬(step blankTemplates s c next).mode.IsLiteral) :
    s.mode = .template ∧ c = '`' ∨ s.mode = .templateOpen := by
  obtain ⟨mode, depths, before⟩ := s
  cases mode with
  | template =>
    by_cases closing : c = '`'
    · exact .inl ⟨rfl, closing⟩
    · simp only [step, if_neg closing, State.emit] at code
      repeat' split at code
      all_goals exact absurd trivial code
  | templateEscape => exact absurd trivial code
  | templateOpen => exact .inr rfl
  | _ => exact absurd literal id

/-- Both ways write the same, except where the text of a template is kept. -/
theorem emitted_alike (modes : s.mode = s'.mode) (levels : s.depths = s'.depths) :
    emitted true s c next = emitted false s' c next ∨ s'.InLiteral c ∧ emitted false s' c next = c := by
  obtain ⟨mode, depths, before⟩ := s
  obtain ⟨mode', depths', before'⟩ := s'
  obtain rfl : mode = mode' := modes
  obtain rfl : depths = depths' := levels
  cases mode with
  | code =>
    by_cases closing : c = '}' ∧ depths.head? = some 0
    · refine .inr ⟨closing, ?_⟩
      simp [emitted, closing]
    · left
      simp only [emitted]
      split
      · rfl
      · rw [if_neg fun h => closing ⟨h.1, h.2.1⟩, if_neg fun h => closing ⟨h.1, h.2.1⟩]
  | template =>
    by_cases closing : c = '`'
    · left
      simp [emitted, closing]
    · right
      exact ⟨closing, by simp [emitted]⟩
  | templateEscape => exact .inr ⟨trivial, rfl⟩
  | templateOpen => exact .inr ⟨trivial, rfl⟩
  | _ => exact .inl rfl

/-- The end of an expression leads back to the text of its template. -/
theorem literal_of_inLiteral (inside : s.InLiteral c) (code : ¬s.mode.IsLiteral) :
    (step blankTemplates s c next).mode.IsLiteral := by
  obtain ⟨mode, depths, before⟩ := s
  cases mode with
  | code =>
    obtain ⟨rfl, last⟩ : c = '}' ∧ depths.head? = some 0 := inside
    obtain ⟨rest, rfl⟩ := List.head?_eq_some_iff.mp last
    exact trivial
  | template => exact absurd trivial code
  | templateEscape => exact absurd trivial code
  | templateOpen => exact absurd trivial code
  | _ => exact absurd inside id

/-- The opening mark of an expression is two characters long. -/
theorem next_of_templateOpen (opens : (step blankTemplates s c next).mode = .templateOpen) : next = some '{' := by
  obtain ⟨mode, depths, before⟩ := s
  cases mode with
  | code =>
    simp only [step, stepCode] at opens
    repeat' split at opens
    all_goals cases opens
  | quoted quote =>
    simp only [step] at opens
    repeat' split at opens
    all_goals cases opens
  | template =>
    simp only [step] at opens
    split at opens
    · cases opens
    · split at opens
      · cases opens
      · simp only [State.emit] at opens
        split at opens
        · rename_i mark
          exact mark.2
        · cases opens
  | _ =>
    simp only [step, State.emit] at opens
    repeat' split at opens
    all_goals cases opens

end Steps

section Runs

variable {text : String} {i : Nat}

/-- The ends of what both ways have written, last character first, from where on they need not be the same. -/
inductive Boundary (text : String) : List Char → List Char → Prop where
  | start : Boundary text [] []
  | closed (a b : List Char) : Boundary text ('`' :: a) ('`' :: b)
  | opened {a : List Char} (b : List Char) (mark : (reached false text a.length).mode = .templateOpen) :
      Boundary text ('{' :: a) (' ' :: b)

theorem Boundary.endsWord {a b : List Char} (boundary : Boundary text a b) :
    Text.EndsWord a ∧ Text.EndsWord b := by
  cases boundary with
  | start => exact ⟨nofun, nofun⟩
  | closed a b => exact ⟨by simp [Text.EndsWord]; decide, by simp [Text.EndsWord]; decide⟩
  | opened b mark => exact ⟨by simp [Text.EndsWord]; decide, by simp [Text.EndsWord]; decide⟩

/-- What both ways have written is the same back to the last mark of a template. -/
def Aligned (text : String) (kept blanked : List Char) : Prop :=
  ∃ front a b, kept = front ++ a ∧ blanked = front ++ b ∧ Boundary text a b

/-- What both ways have in common before a position. -/
structure Twin (text : String) (i : Nat) : Prop where
  same : SameReading text i
  opens : (reached false text i).mode = .templateOpen → text.toList[i]? = some '{'
  aligned : ¬(reached false text i).mode.IsLiteral →
    Aligned text (reached false text i).before (reached true text i).before

theorem opensRegex_of_starts (starts : StartsExpression text i) : opensRegex (reached false text i).before = true := by
  obtain ⟨blanks, before, kept, blank, -⟩ := starts
  rw [kept, opensRegex_of_blank blank]
  have solid : Text.isBlank '{' = false := by decide
  have other : Text.isIdentifierChar '{' = false := by decide
  simp [opensRegex, solid, other]

/-- Looking back gives the same answer both ways, except at the start of an expression. -/
theorem opensRegex_of_aligned
    (aligned : Aligned text (reached false text i).before (reached true text i).before) :
    opensRegex (reached true text i).before = opensRegex (reached false text i).before ∨ StartsExpression text i := by
  obtain ⟨front, a, b, kept, blanked, boundary⟩ := aligned
  by_cases visible : front.dropWhile Text.isBlank = []
  · have blank : ∀ c ∈ front, Text.isBlank c = true := List.dropWhile_eq_nil_iff.mp visible
    rw [kept, blanked, opensRegex_of_blank blank, opensRegex_of_blank blank]
    cases boundary with
    | start => exact .inl rfl
    | closed a b =>
      have solid : Text.isBlank '`' = false := by decide
      left
      simp [opensRegex, solid]
    | opened b mark => exact .inr ⟨front, _, kept, blank, mark⟩
  · left
    obtain ⟨ha, hb⟩ := boundary.endsWord
    rw [kept, blanked, opensRegex_append visible hb ha]

theorem Twin.zero (text : String) : Twin text 0 where
  same := ⟨rfl, rfl⟩
  opens := nofun
  aligned _ := ⟨[], [], [], rfl, rfl, .start⟩

/-- One character on, both ways still have the same in common, unless it is a slash that one of them misreads. -/
theorem Twin.succ (twin : Twin text i) (read : ¬Misread text i) : Twin text (i + 1) := by
  cases here : text.toList[i]? with
  | none =>
    obtain ⟨same, opens, aligned⟩ := twin
    refine ⟨?_, ?_, ?_⟩
    · rwa [SameReading, reached_succ_of_end here, reached_succ_of_end here]
    · rw [reached_succ_of_end here]
      intro mode
      rw [here] at opens
      exact absurd (opens mode) nofun
    · rwa [reached_succ_of_end here, reached_succ_of_end here]
  | some c =>
    have decides : Decides (reached true text i) c text.toList[i + 1]? →
        opensRegex (reached true text i).before = opensRegex (reached false text i).before := by
      rintro ⟨mode, rfl, noLine, noBlock⟩
      have code : (reached false text i).mode = .code := twin.same.1 ▸ mode
      rcases opensRegex_of_aligned (twin.aligned (code ▸ id)) with equal | starts
      · exact equal
      · rw [opensRegex_of_starts starts]
        by_contra division
        exact read ⟨code, here, ⟨noLine, noBlock⟩, starts, Bool.not_eq_true _ ▸ division⟩
    obtain ⟨modes, levels⟩ := step_alike twin.same.1 twin.same.2 decides
    refine ⟨?_, ?_, ?_⟩
    · rw [SameReading, reached_succ here, reached_succ here]
      exact ⟨modes, levels⟩
    · rw [reached_succ here]
      exact next_of_templateOpen
    · intro code
      rw [before_reached_succ here, before_reached_succ here]
      rw [reached_succ here] at code
      by_cases literal : (reached false text i).mode.IsLiteral
      -- Back from a template to code: whatever was written before, the mark that is written now is the new boundary.
      · rcases literal_of_step literal code with ⟨mode, rfl⟩ | mode
        · have mode' : (reached true text i).mode = .template := twin.same.1.trans mode
          refine ⟨[], _, _, rfl, rfl, ?_⟩
          simp only [emitted, mode, mode', true_or, if_true]
          exact .closed _ _
        · have mode' : (reached true text i).mode = .templateOpen := twin.same.1.trans mode
          obtain rfl : c = '{' := Option.some.inj (here.symm.trans (twin.opens mode))
          have inside : i ≤ text.toList.length := Nat.le_of_lt (List.getElem?_eq_some_iff.mp here).1
          refine ⟨[], _, _, rfl, rfl, ?_⟩
          simp only [emitted, mode, mode', if_true, Bool.false_eq_true, if_false]
          exact .opened _ (by rwa [length_reached inside])
      -- On in code: both ways write the same, and the boundary stays where it is.
      · obtain ⟨front, a, b, kept, blanked, boundary⟩ := twin.aligned literal
        have equal : emitted true (reached true text i) c text.toList[i + 1]? =
            emitted false (reached false text i) c text.toList[i + 1]? := by
          rcases emitted_alike twin.same.1 twin.same.2 with equal | ⟨inside, -⟩
          · exact equal
          · exact absurd (literal_of_inLiteral inside literal) code
        rw [equal, kept, blanked]
        exact ⟨_ :: front, a, b, rfl, rfl, boundary⟩

/-- By induction both ways agree as far as no slash is misread. -/
theorem twin_of_read {n : Nat} (read : ∀ j < n, ¬Misread text j) : Twin text n := by
  induction n with
  | zero => exact Twin.zero text
  | succ n ih => exact (ih fun j before => read j (Nat.lt_succ_of_lt before)).succ (read n (Nat.lt_succ_self n))

theorem blanks_iff {blankTemplates : Bool} {c : Char} (here : text.toList[i]? = some c) :
    Blanks blankTemplates text i ↔
      emitted blankTemplates (reached blankTemplates text i) c text.toList[i + 1]? ≠ c := by
  rw [Blanks, getElem?_sanitize here, here, ne_eq, Option.some_inj]

theorem not_blanks_of_end {blankTemplates : Bool} (here : text.toList[i]? = none) :
    ¬Blanks blankTemplates text i := by
  have past : (sanitize blankTemplates text).toList.length ≤ i := by
    rw [length_sanitize]
    exact List.getElem?_eq_none_iff.mp here
  rw [Blanks, here, List.getElem?_eq_none past]
  exact not_not_intro rfl

theorem agreeAt_of_same (same : SameReading text i) : AgreeAt text i := by
  cases here : text.toList[i]? with
  | none =>
    refine ⟨fun blanks => absurd blanks (not_blanks_of_end here), fun blanks => ?_⟩
    exact absurd blanks (not_blanks_of_end here)
  | some c =>
    rw [AgreeAt, blanks_iff here, blanks_iff here, here]
    rcases emitted_alike same.1 same.2 with equal | ⟨inside, kept⟩
    · rw [equal]
      exact ⟨id, fun blanks keeps => absurd blanks keeps⟩
    · exact ⟨fun blanks => absurd kept blanks, fun _ _ => ⟨c, rfl, inside⟩⟩

/-- After a misread slash the one way is inside of a regular expression, and the other one is not. -/
theorem modes_of_misread (same : SameReading text i) (misread : Misread text i) :
    (reached false text (i + 1)).mode = .regex false ∧ (reached true text (i + 1)).mode = .code := by
  obtain ⟨code, slash, ⟨noLine, noBlock⟩, starts, division⟩ := misread
  have code' : (reached true text i).mode = .code := same.1.trans code
  rw [reached_succ slash, reached_succ slash]
  constructor
  · simp [step, stepCode, code, noLine, noBlock, opensRegex_of_starts starts, State.emit]
  · simp [step, stepCode, code', noLine, noBlock, division, State.emit]

/-- Behind a misread slash a quote, a slash and the start of a comment are a comment only in one way. -/
theorem not_agreeAt_of_modes (kept : (reached false text i).mode = .regex false)
    (blanked : (reached true text i).mode = .code) (quote : text.toList[i]? = some '\'')
    (first : text.toList[i + 1]? = some '/') (second : text.toList[i + 2]? = some '/')
    (star : text.toList[i + 3]? = some '*') : ¬AgreeAt text (i + 2) := by
  have code : (reached false text (i + 2)).mode = .code := by
    rw [reached_succ first, reached_succ quote]
    simp [step, kept, State.emit]
  have quoted : (reached true text (i + 2)).mode = .quoted '\'' := by
    rw [reached_succ first, reached_succ quote]
    simp [step, stepCode, blanked, State.emit]
  rintro ⟨both, -⟩
  rw [blanks_iff second, blanks_iff second] at both
  exact both (by simp [emitted, code, star]) (by simp [emitted, quoted])

/-- The text up to a position and the character there, with another text after it. -/
def continued (text : String) (n : Nat) (rest : List Char) : String := .ofList (text.toList.take (n + 1) ++ rest)

/-- What has been read up to a position is the same in every text that starts alike. -/
theorem reached_continued {n : Nat} (blankTemplates : Bool) (inside : n < text.toList.length) (le : i ≤ n)
    (rest : List Char) : reached blankTemplates (continued text n rest) i = reached blankTemplates text i := by
  have length : i < (text.toList.take (n + 1)).length := by
    rw [List.length_take]
    omega
  have whole : scanTo blankTemplates i .initial (text.toList.take (n + 1) ++ text.toList.drop (n + 1)) =
      scanTo blankTemplates i .initial (text.toList.take (n + 1)) := scanTo_append length _
  rw [List.take_append_drop] at whole
  rw [reached, reached, continued, String.toList_ofList, scanTo_append length, whole]

theorem getElem?_continued {n : Nat} (inside : n < text.toList.length) (rest : List Char) (k : Nat) :
    (continued text n rest).toList[n + 1 + k]? = rest[k]? := by
  have length : (text.toList.take (n + 1)).length = n + 1 := by
    rw [List.length_take]
    omega
  rw [continued, String.toList_ofList, List.getElem?_append_right (by omega), length, Nat.add_sub_cancel_left]

/-- A slash is misread whatever comes after it, if that does not make it the start of a comment. -/
theorem misread_continued {n : Nat} (misread : Misread text n) {rest : List Char}
    (noComment : rest[0]? ≠ some '/' ∧ rest[0]? ≠ some '*') : Misread (continued text n rest) n := by
  obtain ⟨code, slash, -, ⟨blanks, before, kept, blank, mark⟩, division⟩ := misread
  have inside : n < text.toList.length := (List.getElem?_eq_some_iff.mp slash).1
  have same := fun b {i : Nat} (le : i ≤ n) => reached_continued b inside le rest
  have shorter : before.length ≤ n := by
    have length := congrArg List.length kept
    rw [length_reached (Nat.le_of_lt inside), List.length_append, List.length_cons] at length
    omega
  refine ⟨?_, ?_, ?_, ⟨blanks, before, ?_, blank, ?_⟩, ?_⟩
  · rwa [same false (Nat.le_refl n)]
  · rw [continued, String.toList_ofList, List.getElem?_append_left, List.getElem?_take, if_pos (Nat.lt_succ_self n),
      slash]
    rw [List.length_take]
    omega
  · rwa [← Nat.add_zero (n + 1), getElem?_continued inside]
  · rwa [same false (Nat.le_refl n)]
  · rwa [same false shorter]
  · rwa [same true (Nat.le_refl n)]

end Runs

/-- Both ways read a text alike exactly as far as no slash is misread, and so far they agree on what is a comment. From
the first misread slash on a text can go on in such a way that they do not. -/
theorem readings_agree (text : String) (n : Nat) :
    ((∀ i ≤ n, SameReading text i) ↔ ∀ j < n, ¬Misread text j) ∧
      ((∀ j < n, ¬Misread text j) → ∀ i ≤ n, AgreeAt text i) ∧
      ((∀ j < n, ¬Misread text j) → Misread text n →
        ∃ rest, ¬AgreeAt (continued text n rest) (n + 3)) := by
  have same (read : ∀ j < n, ¬Misread text j) : ∀ i ≤ n, SameReading text i := fun i le =>
    (twin_of_read fun j before => read j (Nat.lt_of_lt_of_le before le)).same
  refine ⟨⟨fun alike j before misread => ?_, same⟩, fun read i le => agreeAt_of_same (same read i le), ?_⟩
  · obtain ⟨kept, blanked⟩ := modes_of_misread (alike j (Nat.le_of_lt before)) misread
    have modes := (alike (j + 1) before).1
    rw [kept, blanked] at modes
    contradiction
  · intro read misread
    have inside : n < text.toList.length := (List.getElem?_eq_some_iff.mp misread.slash).1
    have start : SameReading (continued text n ['\'', '/', '/', '*']) n := by
      rw [SameReading, reached_continued true inside (Nat.le_refl n), reached_continued false inside (Nat.le_refl n)]
      exact same read n (Nat.le_refl n)
    obtain ⟨kept, blanked⟩ := modes_of_misread start (misread_continued misread (by decide))
    have next := getElem?_continued inside ['\'', '/', '/', '*']
    exact ⟨_, not_agreeAt_of_modes kept blanked (next 0) (next 1) (next 2) (next 3)⟩

/-- Read as a division, the slash leaves a quote open that runs past the end of the template and over the comment. -/
theorem readings_disagree : ¬∀ i, AgreeAt "`$\x7b/'/\x7d`//c" i := by
  intro agree
  have blanked : Blanks true "`$\x7b/'/\x7d`//c" 8 := (agree 8).1 (by unfold Blanks; decide +kernel)
  exact blanked (by decide +kernel)

end Layering.Source
