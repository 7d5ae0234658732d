import Layering.Proofs.Source.Extraction
import Layering.Proofs.Source.Origins
import Mathlib

/-! A byte order mark in front of a text. The mark is neither white space nor a part of a word, so it is a token of its
own. The tokens after it are the same and on the same lines, but the first token of the text does not start its line any
more if it stands on the first one. A statement that begins there is lost, unless its specifier is found from an import
inside of it as well. -/
namespace Layering.Source

/-- The character that a file may start with to tell its encoding. -/
def byteOrderMark : Char := '\uFEFF'

/-- The text with a mark in front. -/
def marked (text : String) : String := .ofList (byteOrderMark :: text.toList)

section Mark

theorem not_isIdentifierChar_byteOrderMark : Text.isIdentifierChar byteOrderMark = false := by
  refine Text.not_isIdentifierChar_of_distant (by decide) ?_
  simp only [Unicode.CodeSet.contains_eq_foldl]
  decide +kernel

end Mark

section Sanitizing

/-- A slash right after the mark opens a regular expression, as it does at the start of a text. -/
theorem opensRegex_append_mark (before : List Char) : opensRegex (before ++ [byteOrderMark]) = opensRegex before := by
  by_cases visible : before.dropWhile Text.isBlank = []
  · have blank := List.dropWhile_eq_nil_iff.mp visible
    have solid : Text.isBlank byteOrderMark = false := by decide
    have other : byteOrderMark ∉ [')', ']', '}', '<', '\'', '"', '`'] := by decide
    have alone : opensRegex [byteOrderMark] = opensRegex [] := by
      simp only [opensRegex, List.dropWhile_cons, solid, Bool.false_eq_true, if_false, if_neg other,
        not_isIdentifierChar_byteOrderMark, List.dropWhile_nil]
    rw [opensRegex_of_blank blank, alone, ← opensRegex_of_blank blank, List.append_nil]
  · have ends : Text.EndsWord [byteOrderMark] := by
      simpa [Text.EndsWord] using not_isIdentifierChar_byteOrderMark
    have nothing : Text.EndsWord [] := by simp [Text.EndsWord]
    rw [opensRegex_append visible ends nothing, List.append_nil]

theorem output_append_mark {s s' : State} (modes : s.mode = s'.mode) (levels : s.depths = s'.depths)
    (before : s'.before = s.before ++ [byteOrderMark]) (cs : List Char) : output true s' cs = output true s cs := by
  induction cs generalizing s s' with
  | nil => rfl
  | cons c cs ih =>
    have opens : opensRegex s.before = opensRegex s'.before := by rw [before, opensRegex_append_mark]
    obtain ⟨modes', levels'⟩ := step_congr modes levels opens c cs.head?
    rw [output, output, ← emitted_congr modes levels, ih modes' levels']
    rw [before_step, before_step, before, emitted_congr modes levels, List.cons_append]

/-- What comes after the mark is sanitised as it is without the mark. -/
theorem toList_sanitize_marked (text : String) :
    (sanitize true (marked text)).toList = byteOrderMark :: (sanitize true text).toList := by
  have plain : byteOrderMark ∉ turns := by decide
  have after : output true ⟨.code, [], [byteOrderMark]⟩ text.toList = output true .initial text.toList :=
    @output_append_mark .initial ⟨.code, [], [byteOrderMark]⟩ rfl rfl rfl text.toList
  rw [toList_sanitize true text, ← after, sanitize, marked, String.toList_ofList, String.toList_ofList, State.initial,
    scan_plain true [] [] text.toList plain, before_scan, List.reverse_append, List.reverse_reverse]
  rfl

end Sanitizing

/-- The line of a place, with no column. -/
def lineOf (p : Position) : Position := ⟨p.line, 1⟩

/-- The token at another place. -/
def Token.moved (f : Position → Position) (t : Token) : Token := { t with position := f t.position }

def Import.moved (f : Position → Position) (i : Import) : Import := { i with position := f i.position }

namespace Token

section Places

variable {p q : Position} {startsLine : Bool}

theorem line_advance (sameLine : p.line = q.line) (cs : List Char) : (p.advance cs).line = (q.advance cs).line := by
  induction cs generalizing p q with
  | nil => exact sameLine
  | cons c cs ih =>
    refine ih ?_
    simp only [Position.next]
    split <;> simp [sameLine]

theorem map_moved_cons {kind : Kind} {ts us : List Token} (sameLine : p.line = q.line)
    (later : ts.map (moved lineOf) = us.map (moved lineOf)) :
    ((⟨kind, p, startsLine⟩ : Token) :: ts).map (moved lineOf) =
      ((⟨kind, q, startsLine⟩ : Token) :: us).map (moved lineOf) := by
  rw [List.map_cons, List.map_cons, later]
  simp [moved, lineOf, sameLine]

/-- By induction along the text the tokens are the same but for their columns, from all places on one line. -/
theorem map_scan (sameLine : p.line = q.line) (cs : List Char) :
    (scan p startsLine cs).map (moved lineOf) = (scan q startsLine cs).map (moved lineOf) := by
  fun_induction scan p startsLine cs generalizing q with
  | case1 => rw [scan]
  | case2 p startsLine cs ih =>
    rw [scan, if_pos rfl]
    exact ih (line_advance sameLine ['\n'])
  | case3 p startsLine c cs newline blank ih =>
    rw [scan, if_neg newline, if_pos blank]
    exact ih (line_advance sameLine [c])
  | case4 p startsLine c cs newline solid starts word =>
    rename_i ih
    rw [scan, if_neg newline, if_neg solid, if_pos starts]
    exact map_moved_cons sameLine (ih (line_advance sameLine word))
  | case5 p startsLine c cs newline solid other quote =>
    rename_i read kind ih
    obtain ⟨text, body, rest, -, each⟩ := exists_readString c cs
    rw [scan, if_neg newline, if_neg solid, if_neg other, if_pos quote]
    simp only [kind, read, each] at ih ⊢
    exact map_moved_cons sameLine (ih (line_advance sameLine (c :: body)))
  | case6 p startsLine c cs newline solid other noQuote digit number =>
    rename_i ih
    rw [scan, if_neg newline, if_neg solid, if_neg other, if_neg noQuote, if_pos digit]
    exact map_moved_cons sameLine (ih (line_advance sameLine number))
  | case7 p startsLine c cs newline solid other noQuote noDigit ih =>
    rw [scan, if_neg newline, if_neg solid, if_neg other, if_neg noQuote, if_neg noDigit]
    exact map_moved_cons sameLine (ih (line_advance sameLine [c]))

theorem exists_scan_cons {c : Char} (newline : c ≠ '\n') (solid : ¬Text.isBlank c = true) (p : Position)
    (cs : List Char) : ∃ kind ts, ∀ startsLine, scan p startsLine (c :: cs) = ⟨kind, p, startsLine⟩ :: ts := by
  by_cases starts : Text.isIdentifierStart c = true
  · exact ⟨_, _, fun startsLine => by rw [scan, if_neg newline, if_neg solid, if_pos starts]⟩
  · by_cases quote : c = '\'' ∨ c = '"'
    · exact ⟨_, _, fun startsLine => by rw [scan, if_neg newline, if_neg solid, if_neg starts, if_pos quote]⟩
    · by_cases digit : '0' ≤ c ∧ c ≤ '9'
      · exact ⟨_, _, fun startsLine => by
          rw [scan, if_neg newline, if_neg solid, if_neg starts, if_neg quote, if_pos digit]⟩
      · exact ⟨_, _, fun startsLine => by
          rw [scan, if_neg newline, if_neg solid, if_neg starts, if_neg quote, if_neg digit]⟩

/-- The tokens of the rest of a line and of a whole one differ at most in whether the first of them starts its line,
which it does anyway if it comes on a later one. -/
theorem scan_rest (p : Position) (cs : List Char) : scan p true cs = [] ∧ scan p false cs = [] ∨
    ∃ t ts, scan p true cs = t :: ts ∧ t.startsLine = true ∧ p.line ≤ t.position.line ∧
      scan p false cs = { t with startsLine := decide (p.line < t.position.line) } :: ts := by
  induction cs generalizing p with
  | nil => exact .inl ⟨by rw [scan], by rw [scan]⟩
  | cons c cs ih =>
    by_cases newline : c = '\n'
    · -- On the next line it does not matter any more.
      subst newline
      rw [scan, if_pos rfl, scan, if_pos rfl]
      rcases ih (p.next '\n') with ⟨none, -⟩ | ⟨t, ts, some, first, below, -⟩
      · exact .inl ⟨none, none⟩
      · have later : p.line < t.position.line := below
        refine .inr ⟨t, ts, some, first, later.le, ?_⟩
        rw [some, decide_eq_true later, ← first]
    · by_cases blank : Text.isBlank c = true
      · have sameLine : (p.next c).line = p.line := by simp [Position.next, newline]
        rw [scan, if_neg newline, if_pos blank, scan, if_neg newline, if_pos blank, ← sameLine]
        exact ih (p.next c)
      · obtain ⟨kind, ts, each⟩ := exists_scan_cons newline blank p cs
        refine .inr ⟨⟨kind, p, true⟩, ts, each true, rfl, Nat.le_refl _, ?_⟩
        rw [each, decide_eq_false (Nat.lt_irrefl p.line)]

end Places

section Reading

variable (f : Position → Position)

@[simp] theorem kind_moved (t : Token) : (t.moved f).kind = t.kind := rfl

@[simp] theorem isKeyword_moved (t : Token) : (t.moved f).isKeyword = t.isKeyword := rfl

/-- The search for a specifier does not look at places. -/
theorem findFrom_moved (isFirst : Bool) (depth : Nat) (ts : List Token) :
    findFrom isFirst depth (ts.map (moved f)) =
      (findFrom isFirst depth ts).map (Prod.map (Prod.map id f) (List.map (moved f))) := by
  fun_induction findFrom isFirst depth ts with
  | case9 isFirst t passed specifier place first rest kind =>
    rw [List.map_cons, List.map_cons, findFrom, isKeyword_moved, if_neg passed, kind_moved, kind]
    rfl
  | case10 isFirst depth t ts passed text kind other ih =>
    rw [List.map_cons, findFrom, isKeyword_moved, if_neg passed, kind_moved, kind, ← ih]
    simp only
    split
    · -- A string follows the word from in neither list.
      rename_i followed
      obtain ⟨⟨kind', place, first⟩, us, rfl, head, -⟩ := List.map_eq_cons_iff.mp followed
      obtain rfl : kind' = .string _ := congrArg Token.kind head
      exact (other _ _ _ _ rfl rfl rfl).elim
    · rfl
  | _ => simp_all [findFrom]

theorem map_findFrom_moved (kind : ImportKind) (ts : List Token) :
    (findFrom true 0 (ts.map (moved f))).map (fun (found, rest) => ((⟨found.1, found.2, kind⟩ : Import), rest)) =
      ((findFrom true 0 ts).map fun (found, rest) => ((⟨found.1, found.2, kind⟩ : Import), rest)).map
        (Prod.map (Import.moved f) (List.map (moved f))) := by
  rw [findFrom_moved, Option.map_map, Option.map_map]
  rfl

theorem readImport_moved (ts : List Token) :
    readImport (ts.map (moved f)) = (readImport ts).map (Prod.map (Import.moved f) (List.map (moved f))) := by
  cases ts with
  | nil => rfl
  | cons t ts =>
    have search := map_findFrom_moved f .binding (t :: ts)
    rw [List.map_cons] at search ⊢
    unfold readImport
    simp only [kind_moved]
    split
    · rfl
    · rfl
    · rfl
    · exact search

theorem readExport_moved (ts : List Token) :
    readExport (ts.map (moved f)) = (readExport ts).map (Prod.map (Import.moved f) (List.map (moved f))) := by
  have search := map_findFrom_moved f .reExport
  cases ts with
  | nil => rfl
  | cons t ts =>
    obtain ⟨kind, place, first⟩ := t
    simp only [readExport, List.map_cons, moved]
    split_ifs
    · exact search (⟨kind, place, first⟩ :: ts)
    · cases ts with
      | nil => rfl
      | cons u us =>
        obtain ⟨kind', place', first'⟩ := u
        simp only [List.map_cons, moved]
        split_ifs
        · exact search (⟨kind', place', first'⟩ :: us)
        · rfl
    · rfl

theorem readStatement_moved (t : Token) (ts : List Token) : readStatement (t.moved f) (ts.map (moved f)) =
    (readStatement t ts).map (Prod.map (Import.moved f) (List.map (moved f))) := by
  have first : (t.moved f).startsLine = t.startsLine := rfl
  unfold readStatement
  rw [first, kind_moved]
  split
  · split
    · exact readImport_moved f ts
    · split
      · exact readExport_moved f ts
      · rfl
  · rfl

theorem imports_moved (ts : List Token) : imports (ts.map (moved f)) = (imports ts).map (Import.moved f) := by
  fun_induction imports ts with
  | case1 => rw [List.map_nil, imports]; rfl
  | case2 t ts found rest read _ ih =>
    have read' := readStatement_moved f t ts
    rw [read] at read'
    rw [List.map_cons, imports_of_read read', ih]
    rfl
  | case3 t ts none ih =>
    have none' := readStatement_moved f t ts
    rw [none] at none'
    rw [List.map_cons, imports_of_not_read none', ih]

end Reading

section Passing

variable {t u : Token} {ts us rest rest' : List Token} {found found' : Import}

theorem readStatement_of_not_keyword (other : t.isKeyword = false) (ts : List Token) : readStatement t ts = none := by
  cases read : readStatement t ts with
  | none => rfl
  | some result =>
    rw [isKeyword_of_readStatement read] at other
    cases other

/-- No statement starts at the first token. -/
def Quiet : List Token → Prop
  | [] => True
  | t :: ts => readStatement t ts = none

/-- The search for a specifier passes over no statement, if none starts right where it begins. -/
theorem imports_of_findFrom {isFirst : Bool} {depth : Nat} {read : String × Position}
    (search : findFrom isFirst depth ts = some (read, rest)) (quiet : isFirst = true → Quiet ts) :
    imports ts = imports rest := by
  have passes {isFirst : Bool} {t : Token} {us : List Token} (passed : ¬(!isFirst && t.isKeyword) = true)
      (quiet : isFirst = true → Quiet (t :: us)) : readStatement t us = none := by
    cases isFirst with
    | true => exact quiet rfl
    | false => exact readStatement_of_not_keyword (by simpa using passed) us
  fun_induction findFrom isFirst depth ts with
  | case3 _ _ t us passed _ ih => rw [imports_of_not_read (passes passed quiet), ih search (by simp)]
  | case4 _ _ t us passed _ ih => rw [imports_of_not_read (passes passed quiet), ih search (by simp)]
  | case9 _ t passed specifier place first us =>
    obtain rfl : us = rest := (Prod.mk.inj (Option.some.inj search)).2
    rw [imports_of_not_read (passes passed quiet), imports_of_not_read (readStatement_of_not_keyword ?_ _)]
    simp [isKeyword]
  | case10 _ _ t us passed _ _ _ ih => rw [imports_of_not_read (passes passed quiet), ih search (by simp)]
  | case11 _ _ t us passed =>
    rename_i ih
    rw [imports_of_not_read (passes passed quiet), ih search (by simp)]
  | _ => contradiction

theorem imports_of_not_keywords {skipped : List Token} (others : ∀ t ∈ skipped, t.isKeyword = false) (ts : List Token) :
    imports (skipped ++ ts) = imports ts := by
  induction skipped with
  | nil => rfl
  | cons t skipped ih =>
    rw [List.cons_append, imports_of_not_read (readStatement_of_not_keyword (others t List.mem_cons_self) _)]
    exact ih fun u member => others u (List.mem_cons_of_mem _ member)

/-- Where nothing starts at the token after the keyword of a statement, nothing starts inside of the statement. -/
theorem imports_inside (read : readStatement t us = some (found, rest)) (quiet : Quiet us) :
    imports us = imports rest := by
  unfold readStatement at read
  split_ifs at read
  · cases us with
    | nil => cases read
    | cons u us =>
      rcases search_of_readImport read with ⟨-, -, -, rfl⟩ | ⟨-, search⟩
      · exact imports_of_not_read quiet
      · exact imports_of_findFrom search fun _ => quiet
  · obtain ⟨-, skipped, u, us, rfl, others, search⟩ := search_of_readExport read
    rw [imports_of_not_keywords fun v member => others v (List.mem_append_left _ member)]
    exact imports_of_findFrom search fun _ => readStatement_of_not_keyword (others u (by simp)) us

/-- A statement with another one right after its keyword is an import, and its specifier is searched in that one. -/
theorem search_inside (read : readStatement t (u :: us) = some (found, rest)) (keyword : u.isKeyword = true) :
    found.kind = .binding ∧ findFrom false 0 us = some ((found.specifier, found.position), rest) := by
  have word : u.kind = .word "import" ∨ u.kind = .word "export" := by
    simp only [isKeyword, Bool.and_eq_true, Bool.or_eq_true, decide_eq_true_eq] at keyword
    exact keyword.2
  unfold readStatement at read
  split_ifs at read
  · rcases search_of_readImport read with ⟨-, kind, -, -⟩ | ⟨kind, search⟩
    · rcases word with word | word <;> simp [kind] at word
    · refine ⟨kind, ?_⟩
      rw [findFrom] at search
      rcases word with word | word <;> simpa [word] using search
  · obtain ⟨-, skipped, v, vs, whole, others, -⟩ := search_of_readExport read
    have head : u ∈ skipped ++ [v] := by
      cases skipped with
      | nil => simp_all
      | cons w skipped => simp_all
    rw [others u head] at keyword
    cases keyword

theorem readStatement_inside (read : readStatement t (u :: us) = some (found, rest))
    (inner : readStatement u us = some (found', rest')) :
    found.kind = .binding ∧ (u.kind = .word "import" → found' = found ∧ rest' = rest) ∧
      (u.kind ≠ .word "import" → found'.kind = .reExport) := by
  obtain ⟨kind, search⟩ := search_inside read (isKeyword_of_readStatement inner)
  unfold readStatement at inner
  refine ⟨kind, fun word => ?_, fun other => ?_⟩
  · split_ifs at inner
    cases us with
    | nil => cases inner
    | cons v vs =>
      have single : v.isKeyword = false := by
        by_contra keyword
        simp [findFrom, keyword] at search
      rcases search_of_readImport inner with ⟨-, string, -, -⟩ | ⟨kind', search'⟩
      · simp [findFrom, single, string] at search
      · rw [findFrom_first single, search] at search'
        obtain ⟨same, left⟩ := Prod.mk.inj (Option.some.inj search')
        obtain ⟨specifier, position⟩ := Prod.mk.inj same
        cases found
        cases found'
        simp_all
  · split_ifs at inner
    exact (search_of_readExport inner).1

end Passing

end Token

/-- What a reference says without its column. -/
def Import.outline (i : Import) : String × Nat × ImportKind := (i.specifier, i.position.line, i.kind)

/-- The first token starts an import. -/
def StartsImport : List Token → Prop
  | [] => False
  | t :: ts => t.kind = .word "import" ∧ (Token.readStatement t ts).isSome

/-- The first token stands on the first line and starts a statement, and the token after it does not start an import
that the specifier of the statement is found from as well. -/
def HidesFirst : List Token → Prop
  | [] => False
  | t :: ts => t.position.line = 1 ∧ (Token.readStatement t ts).isSome ∧ ¬StartsImport ts

section Marked

/-- Without its first token, a statement gives the same reference only if it is given by the import that follows. -/
theorem map_outline_tail_iff {t : Token} {us : List Token} (starts : (Token.readStatement t us).isSome) :
    (Token.imports us).map Import.outline = (Token.imports (t :: us)).map Import.outline ↔ StartsImport us := by
  obtain ⟨⟨found, rest⟩, read⟩ := Option.isSome_iff_exists.mp starts
  rw [imports_of_read read]
  cases us with
  | nil => exact absurd (Token.length_readStatement_lt read) (Nat.not_lt_zero _)
  | cons u us =>
    cases inner : Token.readStatement u us with
    | none =>
      -- One reference is missing.
      rw [Token.imports_inside read inner]
      constructor
      · intro same
        have lengths := congrArg List.length same
        simp at lengths
      · rintro ⟨-, some⟩
        rw [inner] at some
        cases some
    | some result =>
      obtain ⟨found', rest'⟩ := result
      obtain ⟨binds, import', export'⟩ := Token.readStatement_inside read inner
      rw [imports_of_read inner]
      constructor
      · intro same
        refine ⟨?_, by simp [inner]⟩
        -- Otherwise an import has become a re-export.
        by_contra word
        have kinds := congrArg (fun i => i.2.2) (List.cons.inj same).1
        rw [Import.outline, Import.outline, binds, export' word] at kinds
        cases kinds
      · rintro ⟨word, -⟩
        obtain ⟨rfl, rfl⟩ := import' word
        rfl

theorem map_outline_moved (is : List Import) :
    (is.map (Import.moved lineOf)).map Import.outline = is.map Import.outline := by
  rw [List.map_map]
  rfl

theorem map_outline_congr {ts us : List Token} (same : ts.map (Token.moved lineOf) = us.map (Token.moved lineOf)) :
    (Token.imports ts).map Import.outline = (Token.imports us).map Import.outline := by
  rw [← map_outline_moved, ← Token.imports_moved, same, Token.imports_moved, map_outline_moved]

theorem scan_byteOrderMark (p : Position) (startsLine : Bool) (cs : List Char) :
    Token.scan p startsLine (byteOrderMark :: cs) =
      ⟨.punctuation byteOrderMark, p, startsLine⟩ :: Token.scan (p.next byteOrderMark) false cs := by
  have visible : byteOrderMark ≠ '\n' := by decide
  have solid : ¬Text.isBlank byteOrderMark = true := by decide
  have other : ¬Text.isIdentifierStart byteOrderMark = true := by
    simp [Text.not_isIdentifierStart_of_not_isIdentifierChar not_isIdentifierChar_byteOrderMark]
  have noQuote : ¬(byteOrderMark = '\'' ∨ byteOrderMark = '"') := by decide
  have noDigit : ¬('0' ≤ byteOrderMark ∧ byteOrderMark ≤ '9') := by decide
  rw [Token.scan, if_neg visible, if_neg solid, if_neg other, if_neg noQuote, if_neg noDigit]

/-- With a mark in front the text is read like the rest of a line. -/
theorem map_outline_marked (text : String) : (imports (marked text)).map Import.outline =
    (Token.imports (Token.scan .start false (sanitize true text).toList)).map Import.outline := by
  have sameLine : (Position.start.next byteOrderMark).line = Position.start.line := by decide
  rw [imports, Token.tokens, toList_sanitize_marked, scan_byteOrderMark,
    imports_of_not_read (Token.readStatement_of_not_keyword rfl _)]
  exact map_outline_congr (Token.map_scan sameLine _)

/-- A mark changes no specifier, no kind and no line of a reference, exactly if it does not hide the first statement. -/
theorem outlines_marked_iff (text : String) :
    (imports (marked text)).map Import.outline = (imports text).map Import.outline ↔
      ¬HidesFirst (Token.tokens (sanitize true text)) := by
  rw [map_outline_marked, imports, Token.tokens]
  rcases Token.scan_rest .start (sanitize true text).toList with ⟨none, none'⟩ | ⟨t, ts, some, first, below, some'⟩
  · rw [none, none']
    exact ⟨fun _ => id, fun _ => rfl⟩
  · rw [some, some']
    by_cases later : Position.start.line < t.position.line
    · rw [decide_eq_true later, ← first]
      exact ⟨fun _ hides => Nat.ne_of_gt later hides.1, fun _ => rfl⟩
    · have line : t.position.line = 1 := Nat.le_antisymm (Nat.le_of_not_lt later) below
      rw [decide_eq_false later, imports_of_not_read (Token.readStatement_of_not_keyword rfl ts)]
      by_cases starts : (Token.readStatement t ts).isSome
      · rw [map_outline_tail_iff starts]
        simp [HidesFirst, line, starts]
      · rw [imports_of_not_read (Option.not_isSome_iff_eq_none.mp starts)]
        exact ⟨fun _ hides => starts hides.2.1, fun _ => rfl⟩

/-- A mark hides the first of two imports. -/
theorem outlines_marked_differ :
    (imports (marked "import a from 'a'\nimport b from 'b'\n")).map Import.outline ≠
      (imports "import a from 'a'\nimport b from 'b'\n").map Import.outline := by
  have without : imports "import a from 'a'\nimport b from 'b'\n" =
      [⟨"a", ⟨1, 15⟩, .binding⟩, ⟨"b", ⟨2, 15⟩, .binding⟩] := by cbv
  have with' : Token.imports (Token.scan .start false
      (sanitize true "import a from 'a'\nimport b from 'b'\n").toList) = [⟨"b", ⟨2, 15⟩, .binding⟩] := by cbv
  rw [map_outline_marked, with', without]
  decide

end Marked

end Layering.Source
