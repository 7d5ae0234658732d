import Layering.Proofs.Source.Tokens

/-! The references found in written statements. The search for the specifier of a statement passes over everything in
front of it, whatever its names are, and so the references of a listing are exactly those that it was written with. -/
namespace Layering.Source

section Passing

/-- A lexeme at which the search for a specifier goes on. -/
def Lexeme.isPassed : Lexeme → Bool
  | .specifier _ => false
  | .mark m => m ≠ .semicolon
  | .word _ => true

/-- How many braces are open after lexemes. -/
def depthAfter (depth : Nat) : List Lexeme → Nat
  | [] => depth
  | .mark .opening :: ls => depthAfter (depth + 1) ls
  | .mark .closing :: ls => depthAfter (depth - 1) ls
  | _ :: ls => depthAfter depth ls

/-- Lexemes that the search for a specifier passes over, and that close the braces they open. -/
structure Passed (ls : List Lexeme) : Prop where
  passed : ∀ l ∈ ls, l.isPassed = true
  balanced : ∀ depth, depthAfter depth ls = depth

theorem depthAfter_append (depth : Nat) (first second : List Lexeme) :
    depthAfter depth (first ++ second) = depthAfter (depthAfter depth first) second := by
  fun_induction depthAfter depth first with
  | case1 => rfl
  | case2 depth ls ih => exact ih
  | case3 depth ls ih => exact ih
  | case4 depth l ls noOpening noClosing ih =>
    rw [List.cons_append, depthAfter, ih]
    · exact noOpening
    · exact noClosing

namespace Passed

theorem nil : Passed [] := ⟨by simp, fun _ => rfl⟩

theorem append {first second : List Lexeme} (before : Passed first) (after : Passed second) :
    Passed (first ++ second) where
  passed l member := by
    rcases List.mem_append.mp member with member | member
    · exact before.passed l member
    · exact after.passed l member
  balanced depth := by rw [depthAfter_append, before.balanced, after.balanced]

theorem word (w : Word) : Passed [.word w] := ⟨by simp [Lexeme.isPassed], fun _ => rfl⟩

theorem star : Passed [.mark .star] := ⟨by simp [Lexeme.isPassed], fun _ => rfl⟩

theorem comma : Passed [.mark .comma] := ⟨by simp [Lexeme.isPassed], fun _ => rfl⟩

theorem braces {ls : List Lexeme} (inside : Passed ls) : Passed (.mark .opening :: (ls ++ [.mark .closing])) where
  passed l member := by
    rcases List.mem_cons.mp member with rfl | member
    · rfl
    · rcases List.mem_append.mp member with member | member
      · exact inside.passed l member
      · obtain rfl := List.mem_singleton.mp member
        rfl
  balanced depth := by
    rw [depthAfter, depthAfter_append, inside.balanced]
    rfl

theorem typePrefix (isType : Bool) : Passed (typePrefix isType) := by
  cases isType
  · exact nil
  · exact word _

theorem binding (b : Binding) : Passed b.lexemes := by
  obtain ⟨isType, name, alias?⟩ := b
  apply (typePrefix isType).append
  cases alias? with
  | none => exact word name
  | some other => exact (word name).append ((word _).append (word other))

theorem inner (trailingComma : Bool) (bs : List Binding) : Passed (Names.inner trailingComma bs) := by
  fun_induction Names.inner trailingComma bs with
  | case1 => exact nil
  | case2 b =>
    apply (binding b).append
    cases trailingComma
    · exact nil
    · exact comma
  | case3 b bs more ih => exact (binding b).append (comma.append ih)

theorem names (n : Names) : Passed n.lexemes := (inner n.trailingComma n.bindings).braces

theorem bindings (b : Bindings) : Passed b.lexemes := by
  cases b with
  | default name => exact word name
  | all name => exact star.append ((word _).append (word name))
  | named n => exact names n
  | defaultAndAll main name => exact (word main).append (comma.append (star.append ((word _).append (word name))))
  | defaultAndNamed main n => exact (word main).append (comma.append (names n))

theorem exports (e : Exports) : Passed e.lexemes := by
  cases e with
  | all => exact star
  | allAs name => exact star.append ((word _).append (word name))
  | named n => exact names n

end Passed

end Passing

section Searching

open Token

variable {depth : Nat} {t : Token} {ts next : List Token}

/-- The next token is not a string. -/
def NoString (ts : List Token) : Prop := ∀ t ∈ ts.head?, ∀ text, t.kind ≠ .string text

theorem NoString.of_kind {l : Lexeme} (passed : l.isPassed = true) (kind : t.kind = l.kind) : NoString (t :: ts) := by
  intro u first text same
  obtain rfl : t = u := by simpa using first
  rw [kind] at same
  cases l with
  | word w => cases same
  | mark m => cases same
  | specifier s => contradiction

/-- A word ends the search only if it is followed by a string. -/
theorem findFrom_word {text : String} (kind : t.kind = .word text) (noKeyword : t.isKeyword = false)
    (noString : NoString ts) : findFrom false depth (t :: ts) = findFrom false depth ts := by
  rw [findFrom, noKeyword, kind]
  simp only [Bool.not_false, Bool.and_false, Bool.false_eq_true, if_false]
  split
  · rename_i specifier _ _ _
    exact absurd rfl (noString _ rfl specifier)
  · rfl

theorem findFrom_lexeme {l : Lexeme} (passed : l.isPassed = true) (kind : t.kind = l.kind)
    (noKeyword : t.isKeyword = false) (noString : NoString ts) :
    findFrom false depth (t :: ts) = findFrom false (depthAfter depth [l]) ts := by
  cases l with
  | word w => exact findFrom_word kind noKeyword noString
  | mark m =>
    rw [findFrom, noKeyword, kind]
    cases m with
    | semicolon => contradiction
    | _ => rfl
  | specifier s => contradiction

/-- By induction along the tokens the search passes over them. -/
theorem findFrom_append {ls : List Lexeme} (passed : ∀ l ∈ ls, l.isPassed = true)
    (kinds : ts.map Token.kind = ls.map Lexeme.kind) (noKeyword : ∀ t ∈ ts, t.isKeyword = false)
    (noString : NoString next) :
    findFrom false depth (ts ++ next) = findFrom false (depthAfter depth ls) next := by
  induction ls generalizing ts depth with
  | nil =>
    obtain rfl := List.map_eq_nil_iff.mp kinds
    rfl
  | cons l ls ih =>
    obtain ⟨t, ts, rfl, kind, kinds⟩ := List.map_eq_cons_iff.mp kinds
    have later := @ih (depthAfter depth [l]) ts (fun m member => passed m (List.mem_cons_of_mem _ member)) kinds
      fun u member => noKeyword u (List.mem_cons_of_mem _ member)
    -- A word from, too, is passed over here: what follows it is another lexeme of the lead or the last from.
    have follow : NoString (ts ++ next) := by
      cases ls with
      | nil =>
        obtain rfl := List.map_eq_nil_iff.mp kinds
        exact noString
      | cons m ls =>
        obtain ⟨u, us, rfl, kind, -⟩ := List.map_eq_cons_iff.mp kinds
        exact NoString.of_kind (passed m (by simp)) kind
    rw [List.cons_append, findFrom_lexeme (passed l List.mem_cons_self) kind (noKeyword t List.mem_cons_self) follow,
      later, ← depthAfter_append]
    rfl

theorem findFrom_first (noKeyword : t.isKeyword = false) (depth : Nat) (ts : List Token) :
    findFrom true depth (t :: ts) = findFrom false depth (t :: ts) := by
  rw [findFrom, findFrom, noKeyword]
  rfl

/-- The search finds the specifier after what it passes over. -/
theorem findFrom_written (next : List Token) {ls : List Lexeme} (passed : Passed ls)
    (kinds : ts.map Token.kind = ls.map Lexeme.kind ++ [Lexeme.fromKeyword.kind])
    (noKeyword : ∀ t ∈ ts, t.isKeyword = false) {s : Specifier} {specifier : Token}
    (string : specifier.kind = (Lexeme.specifier s).kind) :
    findFrom true 0 (ts ++ specifier :: next) = some ((.ofList s.text, specifier.position), next) := by
  obtain ⟨before, last, rfl, ahead, final⟩ := List.map_eq_append_iff.mp kinds
  obtain ⟨keyword, none, rfl, kind, empty⟩ := List.map_eq_cons_iff.mp final
  obtain rfl := List.map_eq_nil_iff.mp empty
  have found : findFrom false 0 (before ++ keyword :: specifier :: next) =
      some ((.ofList s.text, specifier.position), next) := by
    rw [findFrom_append passed.passed ahead (fun t member => noKeyword t (List.mem_append_left _ member))
      (NoString.of_kind (l := .fromKeyword) rfl kind), passed.balanced, findFrom, noKeyword keyword (by simp), kind]
    obtain ⟨_, position, _⟩ := specifier
    obtain rfl := string
    rfl
  have same : before ++ [keyword] ++ specifier :: next = before ++ keyword :: specifier :: next := by simp
  rw [same, ← found]
  cases before with
  | nil => exact findFrom_first (noKeyword keyword (by simp)) 0 _
  | cons t before => exact findFrom_first (noKeyword t (by simp)) 0 _

theorem readImport_passed {l : Lexeme} (passed : l.isPassed = true) (kind : t.kind = l.kind) :
    readImport (t :: ts) =
      (findFrom true 0 (t :: ts)).map fun (found, rest) => (⟨found.1, found.2, .binding⟩, rest) := by
  rw [readImport, kind]
  cases l with
  | word w => rfl
  | mark m => cases m <;> rfl
  | specifier s => contradiction

theorem readExport_opening {m : Mark} (opening : m = .star ∨ m = .opening) (kind : t.kind = (Lexeme.mark m).kind) :
    readExport (t :: ts) =
      (findFrom true 0 (t :: ts)).map fun (found, rest) => (⟨found.1, found.2, .reExport⟩, rest) := by
  rcases opening with rfl | rfl <;> simp [readExport, kind, Lexeme.kind, Mark.char]

theorem readExport_type (kind : t.kind = Lexeme.typeKeyword.kind) {m : Mark} {u : Token}
    (opening : m = .star ∨ m = .opening) (kind' : u.kind = (Lexeme.mark m).kind) :
    readExport (t :: u :: ts) =
      (findFrom true 0 (u :: ts)).map fun (found, rest) => (⟨found.1, found.2, .reExport⟩, rest) := by
  have word : t.kind = .word "type" := kind
  rcases opening with rfl | rfl <;> simp [readExport, word, kind', Lexeme.kind, Mark.char]

/-- The tokens of a re-export after its keyword: its specifier is searched from the star or the brace on. -/
theorem readExport_written {isType : Bool} {e : Exports}
    (kinds : ts.map Token.kind =
      (typePrefix isType ++ e.lexemes).map Lexeme.kind ++ [Lexeme.fromKeyword.kind])
    (noKeyword : ∀ t ∈ ts, t.isKeyword = false) {s : Specifier} {specifier : Token}
    (string : specifier.kind = (Lexeme.specifier s).kind) :
    readExport (ts ++ specifier :: next) = some (⟨.ofList s.text, specifier.position, .reExport⟩, next) := by
  obtain ⟨m, ls, lexemes, opening⟩ : ∃ m ls, e.lexemes = .mark m :: ls ∧ (m = .star ∨ m = .opening) := by
    cases e with
    | all => exact ⟨_, _, rfl, .inl rfl⟩
    | allAs name => exact ⟨_, _, rfl, .inl rfl⟩
    | named n => exact ⟨_, _, rfl, .inr rfl⟩
  have passed := Passed.exports e
  cases isType with
  | false =>
    have search := findFrom_written next passed kinds noKeyword string
    rw [lexemes] at kinds
    obtain ⟨t, ts, rfl, kind, -⟩ := List.map_eq_cons_iff.mp kinds
    rw [List.cons_append] at search ⊢
    rw [readExport_opening opening kind, search]
    rfl
  | true =>
    obtain ⟨t, us, rfl, kind, after⟩ := List.map_eq_cons_iff.mp kinds
    have search := findFrom_written next passed after
      (fun u member => noKeyword u (List.mem_cons_of_mem _ member)) string
    change us.map Token.kind = e.lexemes.map Lexeme.kind ++ _ at after
    rw [lexemes] at after
    obtain ⟨u, us, rfl, kind', -⟩ := List.map_eq_cons_iff.mp after
    rw [List.cons_append] at search
    rw [List.cons_append, List.cons_append, readExport_type kind opening kind', search]
    rfl

/-- The tokens of an import after its keyword: the search starts right there. -/
theorem readImport_written {isType : Bool} {b : Bindings}
    (kinds : ts.map Token.kind =
      (typePrefix isType ++ b.lexemes).map Lexeme.kind ++ [Lexeme.fromKeyword.kind])
    (noKeyword : ∀ t ∈ ts, t.isKeyword = false) {s : Specifier} {specifier : Token}
    (string : specifier.kind = (Lexeme.specifier s).kind) :
    readImport (ts ++ specifier :: next) = some (⟨.ofList s.text, specifier.position, .binding⟩, next) := by
  have passed := (Passed.typePrefix isType).append (Passed.bindings b)
  have search := findFrom_written next passed kinds noKeyword string
  cases lexemes : typePrefix isType ++ b.lexemes with
  | nil => cases isType <;> cases b <;> simp [typePrefix, Bindings.lexemes, Names.lexemes] at lexemes
  | cons l ls =>
    rw [lexemes] at kinds passed
    obtain ⟨t, ts, rfl, kind, -⟩ := List.map_eq_cons_iff.mp kinds
    rw [List.cons_append] at search ⊢
    rw [readImport_passed (passed.passed l List.mem_cons_self) kind, search]
    rfl

/-- The tokens of a statement from its keyword on. -/
theorem readStatement_written {shape : Shape} {keyword : Token} (starts : keyword.startsLine = true)
    (kinds : (keyword :: ts).map Token.kind = shape.lexemes.map Lexeme.kind)
    (noKeyword : ∀ t ∈ ts, t.isKeyword = false) {s : Specifier} {specifier : Token}
    (string : specifier.kind = (Lexeme.specifier s).kind) :
    readStatement keyword (ts ++ specifier :: next) =
      some (⟨.ofList s.text, specifier.position, shape.kind⟩, next) := by
  cases shape with
  | run =>
    obtain ⟨kind, after⟩ := List.cons.inj kinds
    have import' : keyword.kind = .word "import" := kind
    obtain rfl := List.map_eq_nil_iff.mp after
    rw [readStatement, if_pos starts, if_pos import', List.nil_append, readImport, string]
    rfl
  | bind isType b =>
    obtain ⟨kind, after⟩ := List.cons.inj kinds
    have import' : keyword.kind = .word "import" := kind
    rw [List.map_append] at after
    rw [readStatement, if_pos starts, if_pos import']
    exact readImport_written after noKeyword string
  | reExport isType e =>
    obtain ⟨kind, after⟩ := List.cons.inj kinds
    have export' : keyword.kind = .word "export" := kind
    have other : keyword.kind ≠ .word "import" := by
      rw [export']
      decide
    rw [List.map_append] at after
    rw [readStatement, if_pos starts, if_neg other, if_pos export']
    exact readExport_written after noKeyword string

theorem imports_of_read {found : Import} {rest : List Token} (read : readStatement t ts = some (found, rest)) :
    Token.imports (t :: ts) = found :: Token.imports rest := by
  rw [Token.imports]
  split
  · rename_i found' rest' same
    obtain ⟨rfl, rfl⟩ := Prod.mk.inj (Option.some.inj (read.symm.trans same))
    rfl
  · rename_i same
    rw [read] at same
    contradiction

theorem imports_of_not_read (none : readStatement t ts = none) : Token.imports (t :: ts) = Token.imports ts := by
  rw [Token.imports]
  split
  · rename_i same
    rw [none] at same
    contradiction
  · rfl

end Searching

section Statements

variable {p : Position} {startsLine : Bool} {rest : List Token}

theorem Piece.map_kind_tokens (p : Position) (startsLine : Bool) (pieces : List Piece) :
    (Piece.tokens p startsLine pieces).map Token.kind = (pieces.map Piece.lexeme).map Lexeme.kind := by
  induction pieces generalizing p startsLine with
  | nil => rfl
  | cons piece pieces ih => rw [Piece.tokens, List.map_cons, List.map_cons, List.map_cons, ih]

/-- Where no lexeme starts a line with the keyword of a statement, no token does. -/
theorem Piece.isKeyword_of_mem_tokens {pieces : List Piece}
    (single : ∀ piece ∈ pieces, piece.lexeme.isKeyword = true → ¬piece.BreaksLine) :
    ∀ t ∈ Piece.tokens p false pieces, t.isKeyword = false := by
  induction pieces generalizing p with
  | nil => simp [Piece.tokens]
  | cons piece pieces ih =>
    intro t member
    rcases List.mem_cons.mp member with rfl | member
    · have first := single piece List.mem_cons_self
      cases keyword : piece.lexeme.isKeyword with
      | false => simpa [Token.isKeyword, Lexeme.isKeyword] using fun _ => keyword
      | true => simpa [Token.isKeyword, Piece.BreaksLine] using fun broken => absurd broken (first keyword)
    · exact ih (fun q member => single q (List.mem_cons_of_mem _ member)) t member

theorem Piece.tokens_append {first : Piece} (before after : List Piece) :
    Piece.tokens p startsLine (first :: before ++ after) =
      Piece.tokens p startsLine (first :: before) ++
        Piece.tokens (p.advance ((first :: before).flatMap Piece.chars)) false after := by
  induction before generalizing first p startsLine with
  | nil => simp [Piece.tokens]
  | cons second before ih =>
    rw [Piece.advance_cons, List.cons_append, Piece.tokens, ih]
    rfl

/-- One statement at the start of a line gives one reference. -/
theorem imports_written (w : Written) (starts : startsLine = true ∨ w.BreaksLine) :
    Token.imports (Piece.tokens p startsLine w.pieces ++ rest) = w.reference p :: Token.imports rest := by
  obtain ⟨shape, specifier, lead, gap, semicolon, complete, apart, single⟩ := w
  cases lead with
  | nil => cases shape <;> simp [Shape.lexemes] at complete
  | cons first others =>
    have opens : (startsLine || decide ('\n' ∈ first.gap.chars)) = true := by
      rcases starts with starts | broken
      · simp [starts]
      · simpa [Piece.BreaksLine] using .inr (broken first rfl)
    have kinds := Piece.map_kind_tokens p startsLine (first :: others)
    rw [complete] at kinds
    rw [Written.pieces, Piece.tokens_append, List.append_assoc, Piece.tokens, List.cons_append]
    refine (imports_of_read (readStatement_written opens kinds (Piece.isKeyword_of_mem_tokens single) rfl)).trans ?_
    congr 1
    · rw [Written.reference, Written.leadChars, Position.advance_append]
    · cases semicolon with
      | none => rfl
      | some gap' => exact imports_of_not_read (by simp [Token.readStatement, Lexeme.kind])

/-- By induction along the statements. The rest of the text has no tokens. -/
theorem imports_statements {ws : List Written} {ending : List Char} {p : Position} {startsLine : Bool}
    (first : startsLine = true ∨ ∀ w ∈ ws.head?, w.BreaksLine) (separate : ∀ w ∈ ws.tail, w.BreaksLine)
    (blank : ∀ c ∈ ending, Text.isBlank c = true) :
    Token.imports (Token.scan p startsLine (ws.flatMap Written.clean ++ ending)) = Written.references p ws := by
  induction ws generalizing p startsLine with
  | nil =>
    have nothing := @scan_blanks p startsLine [] ending blank
    rw [List.append_nil] at nothing
    rw [List.flatMap_nil, List.nil_append, nothing, Token.scan, Token.imports]
    rfl
  | cons w ws ih =>
    have later : ∀ v ∈ ws.head?, v.BreaksLine := fun v member => separate v (List.mem_of_mem_head? member)
    rw [List.flatMap_cons, List.append_assoc, scan_written, imports_written w (first.imp id fun each => each w rfl),
      ih (.inr later) fun v member => separate v (List.mem_of_mem_tail member)]
    rfl

/-- The references found in a listing are those that its statements were written with, in order, each with its kind
and with the place of its specifier's opening quote. -/
theorem imports_text (l : Listing) : imports l.text = l.references := by
  rw [imports, sanitize_text, Token.tokens, String.toList_ofList, List.append_assoc]
  apply imports_statements (.inl rfl) l.separate
  intro c member
  rcases List.mem_append.mp member with member | member
  · exact l.gap.isBlank_of_mem_clean c member
  · obtain ⟨d, -, rfl⟩ := List.mem_map.mp member
    exact isBlank_blank d

end Statements

/-- A default name that reads like a keyword, and a comment and a specifier that read like each other. -/
example : ∃ w : Written, w.chars = "import type// from 'x'\nfrom from\"a//b\";".toList ∧
    w.reference .start = ⟨"a//b", ⟨2, 10⟩, .binding⟩ := by
  have noKeyword : Lexeme.typeKeyword.isKeyword = false ∧ Lexeme.fromKeyword.isKeyword = false := by decide
  refine ⟨{
    shape := .bind true (.default ⟨'f', "rom".toList, by decide, by decide⟩)
    specifier := ⟨'"', "a//b".toList, .inr rfl, by simp⟩
    lead := [⟨[], .importKeyword⟩, ⟨[.white ' ' rfl], .typeKeyword⟩,
      ⟨[.lineComment " from 'x'".toList (by simp)], .fromKeyword⟩, ⟨[.white ' ' rfl], .fromKeyword⟩]
    gap := []
    semicolon := some []
    complete := rfl
    apart := by simp [Piece.Apart]
    single := by simp [noKeyword] }, rfl, rfl⟩

end Layering.Source
