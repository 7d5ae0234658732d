import Layering.Proofs.Path
import Layering.Proofs.Source.Positions
import Layering.Proofs.Source.Readings
import Layering.Proofs.Source.Tokens
import Mathlib.Data.List.Forall2
import Mathlib.Tactic.Choose

/-! Where references come from, in any text whatever. A token stands at an offset of the sanitised text, and if it
starts a line only blanks stand before it there. So each reference has a keyword of its own, which comes after the
specifier of the reference before; and neither the keyword nor the quote of the specifier was blanked. -/
namespace Layering.Source

/-- The place of the character at an offset. -/
def place (cs : List Char) (n : Nat) : Position := Position.start.advance (cs.take n)

/-- After its last line break the text is blank. -/
def EndsInBlanks (cs : List Char) : Prop := ∀ c ∈ cs.reverse.takeWhile (· ≠ '\n'), Text.isBlank c = true

section Places

variable {cs : List Char} {n m : Nat} {c : Char}

theorem place_zero (cs : List Char) : place cs 0 = .start := rfl

theorem place_add (cs : List Char) (n k : Nat) : place cs (n + k) = (place cs n).advance ((cs.drop n).take k) := by
  rw [place, place, List.take_add, Position.advance_append]

theorem place_succ (cs : List Char) (n : Nat) : place cs (n + 1) = (place cs n).advance cs[n]?.toList := by
  rw [place, List.take_add_one, Position.advance_append, place]

theorem atOrBefore_place (cs : List Char) (le : n ≤ m) : (place cs n).AtOrBefore (place cs m) := by
  obtain ⟨k, rfl⟩ := Nat.exists_eq_add_of_le le
  rw [place_add]
  exact Position.atOrBefore_advance _ _

/-- Places come in the order of their offsets. -/
theorem lt_of_before_place (before : (place cs n).Before (place cs m)) : n < m := by
  by_contra later
  have back := atOrBefore_place cs (Nat.le_of_not_lt later)
  unfold Position.Before at before
  unfold Position.AtOrBefore at back
  omega

theorem line_lt_advance (p : Position) (broken : '\n' ∈ cs) : p.line < (p.advance cs).line := by
  obtain ⟨before, after, rfl⟩ := List.append_of_mem broken
  rw [Position.advance_append, Position.advance_cons]
  have first := (Position.atOrBefore_advance p before).line_le
  have rest := (Position.atOrBefore_advance ((p.advance before).next '\n') after).line_le
  have down : ((p.advance before).next '\n').line = (p.advance before).line + 1 := rfl
  omega

theorem EndsInBlanks.nil : EndsInBlanks [] := by simp [EndsInBlanks]

theorem EndsInBlanks.newline (cs : List Char) : EndsInBlanks (cs ++ ['\n']) := by simp [EndsInBlanks]

theorem EndsInBlanks.blank (ends : EndsInBlanks cs) (blank : Text.isBlank c = true) : EndsInBlanks (cs ++ [c]) := by
  intro d member
  rw [List.reverse_append, List.reverse_singleton, List.singleton_append, List.takeWhile_cons] at member
  split at member
  · rcases List.mem_cons.mp member with rfl | member
    · exact blank
    · exact ends d member
  · cases member

/-- What is not blank does not stand on a line that is blank so far. -/
theorem line_lt_place (here : cs[n]? = some c) (solid : Text.isBlank c = false) (later : n < m)
    (ends : EndsInBlanks (cs.take m)) : (place cs n).line < (place cs m).line := by
  obtain ⟨inside, rfl⟩ := List.getElem?_eq_some_iff.mp here
  obtain ⟨k, rfl⟩ := Nat.exists_eq_add_of_lt later
  have onward : (cs.drop n).take (k + 1) = cs[n] :: (cs.drop (n + 1)).take k := by
    rw [List.drop_eq_getElem_cons inside, List.take_succ_cons]
  rw [Nat.add_assoc, place_add]
  refine line_lt_advance _ ?_
  by_contra unbroken
  have sameLine : ∀ d ∈ ((cs.drop n).take (k + 1)).reverse, decide (d ≠ '\n') = true := by
    intro d member
    rw [decide_eq_true_iff]
    rintro rfl
    exact unbroken (List.mem_reverse.mp member)
  rw [EndsInBlanks, Nat.add_assoc, List.take_add, List.reverse_append, List.takeWhile_append_of_pos sameLine,
    onward] at ends
  have white := ends cs[n] (by simp)
  rw [solid] at white
  cases white

end Places

namespace Token

variable {p : Position} {startsLine : Bool} {front cs : List Char}

/-- What a token says of the text that it was read from, at its offset. -/
structure StandsAt (t : Token) (cs : List Char) (n : Nat) : Prop where
  place : Source.place cs n = t.position
  leads : t.startsLine = true → EndsInBlanks (cs.take n)
  word : ∀ text, t.kind = .word text → ∃ rest, cs.drop n = text.toList ++ rest ∧ Text.EndsWord rest
  string : ∀ text, t.kind = .string text → cs[n]? = some '\'' ∨ cs[n]? = some '"'

theorem StandsAt.lt {t u : Token} {n m : Nat} (stands : t.StandsAt cs n) (stands' : u.StandsAt cs m)
    (before : t.position.Before u.position) : n < m :=
  lt_of_before_place (by rwa [stands.place, stands'.place])

/-- A token stands where the text before it ends. -/
theorem exists_standsAt_cons {kind : Kind} (body : List Char) {rest : List Char} {ts : List Token}
    (start : p = Position.start.advance front) (leads : startsLine = true → EndsInBlanks front)
    (whole : cs = body ++ rest) (word : ∀ text, kind = .word text → body = text.toList ∧ Text.EndsWord rest)
    (string : ∀ text, kind = .string text → cs.head? = some '\'' ∨ cs.head? = some '"')
    (later : ∀ t ∈ ts, ∃ n, t.StandsAt (front ++ body ++ rest) n) :
    ∀ t ∈ (⟨kind, p, startsLine⟩ : Token) :: ts, ∃ n, t.StandsAt (front ++ cs) n := by
  intro t member
  rcases List.mem_cons.mp member with rfl | member
  · refine ⟨front.length, ?_, ?_, fun text same => ?_, fun text same => ?_⟩
    · rw [Source.place, List.take_left, start]
    · rwa [List.take_left]
    · obtain ⟨spelt, ends⟩ := word text same
      exact ⟨rest, by rw [List.drop_left, whole, spelt], ends⟩
    · rw [List.getElem?_append_right (Nat.le_refl _), Nat.sub_self, ← List.head?_eq_getElem?]
      exact string text same
  · rw [whole, ← List.append_assoc]
    exact later t member

theorem advance_onward (start : p = Position.start.advance front) (body : List Char) :
    p.advance body = Position.start.advance (front ++ body) := by
  rw [start, Position.advance_append]

/-- Every token stands somewhere in the text, if the text before it is blank on its last line wherever the next token
starts a line. -/
theorem exists_standsAt (start : p = Position.start.advance front)
    (leads : startsLine = true → EndsInBlanks front) :
    ∀ t ∈ scan p startsLine cs, ∃ n, t.StandsAt (front ++ cs) n := by
  fun_induction scan p startsLine cs generalizing front with
  | case1 => simp
  | case2 p startsLine cs ih =>
    have later := ih (advance_onward start ['\n']) fun _ => .newline front
    simpa using later
  | case3 p startsLine c cs newline blank ih =>
    have later := ih (advance_onward start [c]) fun first => (leads first).blank blank
    simpa using later
  | case4 p startsLine c cs newline solid starts word =>
    rename_i ih
    refine exists_standsAt_cons word start leads ?_ (fun text same => ?_) (by simp)
      (ih (advance_onward start word) (by simp))
    · exact congrArg (c :: ·) List.takeWhile_append_dropWhile.symm
    · refine ⟨?_, fun d first => Text.not_of_head?_dropWhile first⟩
      rw [← Kind.word.inj same, String.toList_ofList]
  | case5 p startsLine c cs newline solid other quote read kind =>
    rename_i ih
    obtain ⟨text, body, rest, whole, each⟩ := exists_readString c cs
    obtain ⟨place, left⟩ := Prod.mk.inj (Prod.mk.inj (each (p.next c))).2
    refine exists_standsAt_cons (c :: body) start leads ?_ (fun text same => ?_)
      (fun _ _ => quote.imp (congrArg some) (congrArg some)) (ih ?_ (by simp))
    · exact (congrArg (c :: ·) whole).trans (congrArg (c :: body ++ ·) left.symm)
    · simp only [kind] at same
      split at same <;> cases same
    · exact place.trans (advance_onward start (c :: body))
  | case6 p startsLine c cs newline solid other noQuote digit number =>
    rename_i ih
    refine exists_standsAt_cons number start leads ?_ (by simp) (by simp) (ih (advance_onward start number) (by simp))
    exact congrArg (c :: ·) List.takeWhile_append_dropWhile.symm
  | case7 p startsLine c cs newline solid other noQuote noDigit ih =>
    exact exists_standsAt_cons [c] start leads rfl (by simp) (by simp) (ih (advance_onward start [c]) (by simp))

theorem exists_standsAt_tokens (clean : String) : ∀ t ∈ tokens clean, ∃ n, t.StandsAt clean.toList n := by
  intro t listed
  have stands := exists_standsAt (Position.advance_nil .start).symm (fun _ => .nil) t listed
  rwa [List.nil_append] at stands

theorem isKeyword_of_readStatement {t : Token} {ts rest : List Token} {found : Import}
    (read : readStatement t ts = some (found, rest)) : t.isKeyword = true := by
  unfold readStatement at read
  split at read
  · rename_i first
    split at read
    · rename_i word
      simp [isKeyword, first, word]
    · split at read
      · rename_i word
        simp [isKeyword, first, word]
      · cases read
  · cases read

/-- The tokens of a keyword and of a specifier that give a reference. -/
structure Gives (statement : Token × Token) (i : Import) : Prop where
  keyword : statement.1.isKeyword = true
  specifier : statement.2.kind = .string i.specifier
  position : statement.2.position = i.position

/-- The statements of the references stand one after the other among the tokens. -/
theorem exists_statements (ts : List Token) : ∃ statements : List (Token × Token),
    (statements.flatMap fun statement => [statement.1, statement.2]).Sublist ts ∧
      List.Forall₂ Gives statements (imports ts) := by
  fun_induction imports ts with
  | case1 => exact ⟨[], List.Sublist.slnil, .nil⟩
  | case2 t ts found rest read _ ih =>
    obtain ⟨statements, listed, given⟩ := ih
    obtain ⟨before, specifier, rfl, kind, place⟩ := readAt_readStatement read
    refine ⟨(t, specifier) :: statements, ?_, .cons ⟨isKeyword_of_readStatement read, kind, place⟩ given⟩
    exact (List.sublist_append_of_sublist_right (listed.cons_cons specifier)).cons_cons t
  | case3 t ts _ ih =>
    obtain ⟨statements, listed, given⟩ := ih
    exact ⟨statements, listed.cons t, given⟩

end Token

section Sanitized

variable {blankTemplates : Bool} {text : String} {n : Nat} {c : Char}

theorem getElem?_sanitize_of_end (past : text.toList[n]? = none) :
    (sanitize blankTemplates text).toList[n]? = none := by
  rw [List.getElem?_eq_none_iff] at past ⊢
  rwa [length_sanitize]

/-- What is not blank after sanitising was there before. -/
theorem getElem?_of_visible (here : (sanitize blankTemplates text).toList[n]? = some c)
    (solid : Text.isBlank c = false) : text.toList[n]? = some c := by
  cases source : text.toList[n]? with
  | none =>
    rw [getElem?_sanitize_of_end source] at here
    cases here
  | some d =>
    rw [getElem?_sanitize source] at here
    obtain rfl := Option.some.inj here
    rcases emitted_eq blankTemplates (reached blankTemplates text n) d text.toList[n + 1]? with kept | blanked
    · rw [kept]
    · rw [blanked, isBlank_blank] at solid
      cases solid

/-- Sanitising leaves every character in its place. -/
theorem place_sanitize (blankTemplates : Bool) (text : String) (n : Nat) :
    place (sanitize blankTemplates text).toList n = place text.toList n := by
  induction n with
  | zero => rw [place_zero, place_zero]
  | succ n ih =>
    rw [place_succ, place_succ, ih]
    cases source : text.toList[n]? with
    | none => rw [getElem?_sanitize_of_end source]
    | some c => simp [getElem?_sanitize source, Position.next]

end Sanitized

/-- The first token of a line of sanitised text is a keyword, with nothing but blanks before it on the line. -/
structure KeywordAt (clean : String) (n : Nat) (word : String) : Prop where
  keyword : word ∈ ["import", "export"]
  token : (⟨.word word, place clean.toList n, true⟩ : Token) ∈ Token.tokens clean
  spelt : ∃ rest, clean.toList.drop n = word.toList ++ rest ∧ Text.EndsWord rest
  leads : EndsInBlanks (clean.toList.take n)

/-- The offsets of the keyword of a statement and of the opening quote of its specifier. -/
structure Origin where
  keyword : Nat
  quote : Nat

/-- A statement of the text gives the reference, and no comment and no text of a template does. -/
structure Origin.Gives (text : String) (o : Origin) (i : Import) : Prop where
  keyword : ∃ word, KeywordAt (sanitize true text) o.keyword word
  order : o.keyword < o.quote
  specifier : ∃ startsLine, (⟨.string i.specifier, i.position, startsLine⟩ : Token) ∈
    Token.tokens (sanitize true text)
  position : place text.toList o.quote = i.position
  quote : text.toList[o.quote]? = some '\'' ∨ text.toList[o.quote]? = some '"'
  kept : ∀ n, o.keyword ≤ n ∧ n < o.keyword + 6 ∨ n = o.quote → ¬Blanks true text n

section Origins

variable {text : String} {n : Nat}

theorem exists_keywordAt {clean : String} {t : Token} (listed : t ∈ Token.tokens clean) (keyword : t.isKeyword = true)
    (stands : t.StandsAt clean.toList n) : ∃ word, KeywordAt clean n word := by
  simp only [Token.isKeyword, Bool.and_eq_true, Bool.or_eq_true, decide_eq_true_eq] at keyword
  obtain ⟨first, kind⟩ := keyword
  obtain ⟨word, isKeyword, kind⟩ : ∃ word ∈ ["import", "export"], t.kind = .word word := by
    rcases kind with kind | kind
    · exact ⟨_, by simp, kind⟩
    · exact ⟨_, by simp, kind⟩
  refine ⟨word, isKeyword, ?_, stands.word word kind, stands.leads first⟩
  rwa [stands.place, ← kind, ← first]

/-- What is visible after sanitising is not blanked. -/
theorem not_blanks_of_visible {c : Char} (here : (sanitize true text).toList[n]? = some c)
    (solid : Text.isBlank c = false) : ¬Blanks true text n := by
  rw [Blanks, here, getElem?_of_visible here solid]
  exact not_not_intro rfl

theorem KeywordAt.getElem? {clean word : String} (keyword : KeywordAt clean n word) {k : Nat} (inside : k < 6) :
    ∃ c, clean.toList[n + k]? = some c ∧ Text.isBlank c = false := by
  obtain ⟨rest, spelt, -⟩ := keyword.spelt
  obtain ⟨length, solid⟩ : word.toList.length = 6 ∧ word.toList.all (!Text.isBlank ·) = true := by
    have words := keyword.keyword
    simp only [List.mem_cons, List.not_mem_nil, or_false] at words
    rcases words with rfl | rfl <;> decide
  have listed : k < word.toList.length := by omega
  refine ⟨word.toList[k], ?_, by simpa using List.all_eq_true.mp solid _ (List.getElem_mem listed)⟩
  rw [← List.getElem?_drop, spelt, List.getElem?_append_left listed, List.getElem?_eq_getElem listed]

theorem gives_of_standsAt {statement : Token × Token} {m : Nat} {i : Import} (given : Token.Gives statement i)
    (listed : statement.1 ∈ Token.tokens (sanitize true text))
    (listed' : statement.2 ∈ Token.tokens (sanitize true text))
    (stands : statement.1.StandsAt (sanitize true text).toList n)
    (stands' : statement.2.StandsAt (sanitize true text).toList m) (order : n < m) :
    (⟨n, m⟩ : Origin).Gives text i := by
  obtain ⟨word, keyword⟩ := exists_keywordAt listed given.keyword stands
  have quote := stands'.string i.specifier given.specifier
  obtain ⟨c, here, solid⟩ : ∃ c, (sanitize true text).toList[m]? = some c ∧ Text.isBlank c = false := by
    rcases quote with quote | quote
    · exact ⟨_, quote, by decide⟩
    · exact ⟨_, quote, by decide⟩
  refine ⟨⟨word, keyword⟩, order, ⟨statement.2.startsLine, ?_⟩, ?_, ?_, ?_⟩
  · rwa [← given.specifier, ← given.position]
  · rw [← place_sanitize true, stands'.place, given.position]
  · rwa [getElem?_of_visible here solid, ← here]
  · rintro k (⟨after, inside⟩ | rfl)
    · obtain ⟨j, rfl⟩ := Nat.exists_eq_add_of_le after
      obtain ⟨d, letter, visible⟩ := keyword.getElem? (k := j) (by omega)
      exact not_blanks_of_visible letter visible
    · exact not_blanks_of_visible here solid

/-- Between the specifier of a statement and the next keyword a line ends. -/
theorem line_lt_of_gives {a b : Origin} {i j : Import} (first : a.Gives text i) (second : b.Gives text j)
    (later : a.quote < b.keyword) : (place text.toList a.keyword).line < (place text.toList b.keyword).line := by
  obtain ⟨word, keyword⟩ := second.keyword
  have sameLine := (atOrBefore_place text.toList first.order.le).line_le
  have lineEnds : (place text.toList a.quote).line < (place text.toList b.keyword).line := by
    rw [← place_sanitize true text a.quote, ← place_sanitize true text b.keyword]
    have kept : (sanitize true text).toList[a.quote]? = text.toList[a.quote]? :=
      Decidable.not_not.mp (first.kept a.quote (.inr rfl))
    rcases first.quote with quote | quote
    · exact line_lt_place (kept.trans quote) (by decide) later keyword.leads
    · exact line_lt_place (kept.trans quote) (by decide) later keyword.leads
  omega

theorem exists_of_mem_left {R : α → β → Prop} {as : List α} {bs : List β} (each : List.Forall₂ R as bs) {a : α}
    (listed : a ∈ as) : ∃ b, R a b := by
  induction each with
  | nil => cases listed
  | cons here _ ih =>
    rcases List.mem_cons.mp listed with rfl | later
    · exact ⟨_, here⟩
    · exact ih later

end Origins

/-- In every text, the references come from statements that follow each other: the keyword of a statement is the first
token of its line, it comes after the specifier of the statement before, and no two of them share a line. -/
theorem imports_sound (text : String) : ∃ origins : List Origin,
    List.Forall₂ (Origin.Gives text) origins (imports text) ∧
    origins.Pairwise (fun a b => a.quote < b.keyword ∧
      (place text.toList a.keyword).line < (place text.toList b.keyword).line) ∧
    (imports text).Pairwise fun a b => a.position.Before b.position := by
  have stand := Token.exists_standsAt_tokens (sanitize true text)
  choose! offset stands using stand
  obtain ⟨statements, listed, given⟩ := Token.exists_statements (Token.tokens (sanitize true text))
  have ordered := (Token.ascends_scan .start true (sanitize true text).toList).2.sublist listed
  rw [List.pairwise_flatMap] at ordered
  have members (statement : Token × Token) (member : statement ∈ statements) :
      statement.1 ∈ Token.tokens (sanitize true text) ∧ statement.2 ∈ Token.tokens (sanitize true text) :=
    ⟨listed.subset (List.mem_flatMap.mpr ⟨statement, member, by simp⟩),
      listed.subset (List.mem_flatMap.mpr ⟨statement, member, by simp⟩)⟩
  have inside (statement : Token × Token) (member : statement ∈ statements) :
      offset statement.1 < offset statement.2 := by
    have before : statement.1.position.Before statement.2.position := by simpa using ordered.1 statement member
    exact (stands _ (members statement member).1).lt (stands _ (members statement member).2) before
  have gives : List.Forall₂ (Origin.Gives text)
      (statements.map fun statement => ⟨offset statement.1, offset statement.2⟩) (imports text) := by
    rw [List.forall₂_map_left_iff]
    refine ((List.forall₂_and_left _ _).mpr ⟨fun _ member => member, given⟩).imp ?_
    rintro statement i ⟨member, gives⟩
    obtain ⟨keyword, specifier⟩ := members statement member
    exact gives_of_standsAt gives keyword specifier (stands _ keyword) (stands _ specifier) (inside statement member)
  refine ⟨_, gives, ?_, pairwise_imports text⟩
  rw [List.pairwise_map]
  refine ordered.2.imp_of_mem fun {a b} first second before => ?_
  have later : offset a.2 < offset b.1 :=
    (stands _ (members a first).2).lt (stands _ (members b second).1) (before a.2 (by simp) b.1 (by simp))
  obtain ⟨i, gives₁⟩ := exists_of_mem_left gives (List.mem_map_of_mem first)
  obtain ⟨j, gives₂⟩ := exists_of_mem_left gives (List.mem_map_of_mem second)
  exact ⟨later, line_lt_of_gives gives₁ gives₂ later⟩

end Layering.Source
