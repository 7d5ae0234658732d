import Layering.Source.Sanitize
import Layering.Source.Token

/-! Static imports and re-exports. A statement counts if its keyword is the first token of its line, and only
its shape up to the specifier is read: this scans tokens and does not parse the language. -/
namespace Layering.Source

/-- How a statement refers to another file. -/
inductive ImportKind where
  /-- It binds names of the other file. -/
  | binding
  /-- It only runs the other file. -/
  | sideEffect
  /-- It exports names of the other file. -/
  | reExport
  deriving Repr, DecidableEq

/-- A reference to another file. -/
structure Import where
  specifier : String
  /-- The place of the specifier's opening quote. -/
  position : Position
  kind : ImportKind
  deriving Repr, DecidableEq

namespace Token

/-- Whether the token can start a statement of interest. -/
def isKeyword (t : Token) : Bool :=
  t.startsLine && (t.kind = .word "import" || t.kind = .word "export")

/-- The specifier after the statement's from, if the statement whose tokens follow has one, and the tokens after
it. The first token is never taken for the keyword of another statement. -/
def findFrom : Bool → Nat → List Token → Option ((String × Position) × List Token)
  | _, _, [] => none
  | isFirst, depth, t :: ts =>
    if !isFirst && t.isKeyword then none
    else match t.kind with
      | .punctuation '{' => findFrom false (depth + 1) ts
      | .punctuation '}' => findFrom false (depth - 1) ts
      | .punctuation ';' | .punctuation '=' | .punctuation '(' => none
      | .string _ => none
      | .word text =>
        match depth, text, ts with
        | 0, "from", ⟨.string specifier, position, _⟩ :: rest => some ((specifier, position), rest)
        | _, _, _ => findFrom false depth ts
      | _ => findFrom false depth ts

theorem length_findFrom_lt {isFirst : Bool} {depth : Nat} {ts rest : List Token} {found : String × Position}
    (h : findFrom isFirst depth ts = some (found, rest)) : rest.length < ts.length := by
  fun_induction findFrom isFirst depth ts <;> simp_all <;> omega

/-- The specifier of an import statement, after its keyword. -/
def readImport : List Token → Option (Import × List Token)
  | [] => none
  | t :: ts =>
    match t.kind with
    | .string specifier => some (⟨specifier, t.position, .sideEffect⟩, ts)
    | .punctuation '(' | .punctuation '.' => none
    | _ => (findFrom true 0 (t :: ts)).map fun (found, rest) => (⟨found.1, found.2, .binding⟩, rest)

/-- The specifier of an export statement that names another file, after its keyword. -/
def readExport (ts : List Token) : Option (Import × List Token) :=
  let opens (t : Token) : Bool := t.kind = .punctuation '*' || t.kind = .punctuation '{'
  let read (ts : List Token) :=
    (findFrom true 0 ts).map fun (found, rest) => (⟨found.1, found.2, .reExport⟩, rest)
  match ts with
  | [] => none
  | t :: ts =>
    if opens t then read (t :: ts)
    else if t.kind = .word "type" then
      match ts with
      | [] => none
      | u :: us => if opens u then read (u :: us) else none
    else none

theorem length_readImport_lt {ts rest : List Token} {found : Import}
    (h : readImport ts = some (found, rest)) : rest.length < ts.length := by
  unfold readImport at h
  split at h
  · simp at h
  · split at h
    · simp_all
    · simp at h
    · simp at h
    · simp only [Option.map_eq_some_iff, Prod.mk.injEq] at h
      obtain ⟨⟨_, _⟩, h, _, rfl⟩ := h
      exact length_findFrom_lt h

theorem length_readExport_lt {ts rest : List Token} {found : Import}
    (h : readExport ts = some (found, rest)) : rest.length < ts.length := by
  simp only [readExport] at h
  split at h
  · simp at h
  · split at h
    · simp only [Option.map_eq_some_iff, Prod.mk.injEq] at h
      obtain ⟨⟨_, _⟩, h, _, rfl⟩ := h
      exact length_findFrom_lt h
    · split at h
      · split at h
        · simp at h
        · split at h
          · simp only [Option.map_eq_some_iff, Prod.mk.injEq] at h
            obtain ⟨⟨_, _⟩, h, _, rfl⟩ := h
            exact Nat.lt_succ_of_lt (length_findFrom_lt h)
          · simp at h
      · simp at h

/-- The reference that starts at a token, given the tokens after it. -/
def readStatement (t : Token) (ts : List Token) : Option (Import × List Token) :=
  if t.startsLine then
    if t.kind = .word "import" then readImport ts
    else if t.kind = .word "export" then readExport ts
    else none
  else none

theorem length_readStatement_lt {t : Token} {ts rest : List Token} {found : Import}
    (h : readStatement t ts = some (found, rest)) : rest.length < ts.length := by
  unfold readStatement at h
  split at h
  · split at h
    · exact length_readImport_lt h
    · split at h
      · exact length_readExport_lt h
      · simp at h
  · simp at h

/-- All references among the tokens, in order. The search goes on after the specifier of a reference. -/
def imports : List Token → List Import
  | [] => []
  | t :: ts =>
    match h : readStatement t ts with
    | some (found, rest) =>
      have := length_readStatement_lt h
      found :: imports rest
    | none => imports ts
termination_by ts => ts.length

end Token

/-- The static imports and re-exports of a source text, in order. -/
def imports (text : String) : List Import :=
  Token.imports (Token.tokens (sanitize true text))

end Layering.Source
