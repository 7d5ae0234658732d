import Layering.Text.Slashed

/-! Patterns of ignore files. They describe paths byte by byte: a question mark and a class stand for one byte, a
star for a run of bytes without a slash, two stars that make up a whole component for any number of directories,
and braces for one of several patterns. -/
namespace Layering.Ignore

/-- A part of a pattern. -/
inductive Token where
  | byte (byte : UInt8)
  /-- Any byte except a slash. -/
  | anyByte
  /-- Any run of bytes without a slash. -/
  | anyRun
  /-- Any number of directories, each with its slash. -/
  | leading
  /-- A slash, and any number of directories after it. -/
  | between
  /-- A slash and anything after it. -/
  | trailing
  /-- A byte within one of the ranges, or outside of all of them. -/
  | oneByte (within : Bool) (ranges : List (UInt8 × UInt8))
  /-- One of several patterns. Without any it stands for nothing. -/
  | oneOf (branches : List (List Token))

/-- Why a pattern cannot be read. -/
inductive PatternError where
  | unopenedGroup
  | unclosedGroup
  | danglingEscape
  | invalidRange (first last : Char)
  deriving Repr, DecidableEq

def PatternError.message : PatternError → String
  | unopenedGroup => "unopened alternate group; missing '\x7b' (maybe escape '\x7d' with '[\x7d]'?)"
  | unclosedGroup => "unclosed alternate group; missing '\x7d' (maybe escape '\x7b' with '[\x7b]'?)"
  | danglingEscape => "dangling '\\'"
  | invalidRange first last =>
    "invalid range; '" ++ first.toString ++ "' > '" ++ last.toString ++ "'"

/-- The bytes of a character. -/
def bytesOf (c : Char) : List UInt8 := String.utf8EncodeChar c

/-- A character class: its ranges so far, last range first, and whether the next character ends a range. -/
structure ClassDraft where
  ranges : List (Char × Char) := []
  isOpen : Bool := false

/-- How reading a class ends. -/
inductive ClassResult where
  /-- There is no closing bracket. -/
  | unclosed
  | invalid (error : PatternError)
  | closed (ranges : List (Char × Char)) (rest : List Char)

/-- Takes a character into a class, unless it makes a range that ends before it starts. -/
def ClassDraft.add (draft : ClassDraft) (c : Char) : Except PatternError ClassDraft :=
  match draft with
  | ⟨(first, _) :: ranges, true⟩ =>
    if c < first then .error (.invalidRange first c) else .ok ⟨(first, c) :: ranges, false⟩
  | ⟨ranges, _⟩ => .ok ⟨(c, c) :: ranges, false⟩

/-- Reads a class after its opening bracket. A closing bracket and a dash at the start stand for themselves, and so
does a dash at the end. -/
def readClass (draft : ClassDraft) : List Char → ClassResult
  | [] => .unclosed
  | c :: cs =>
    if c = ']' ∧ draft.ranges ≠ [] then
      let ranges := if draft.isOpen then ('-', '-') :: draft.ranges else draft.ranges
      .closed ranges.reverse cs
    else if c = '-' ∧ draft.ranges ≠ [] ∧ draft.isOpen = false then readClass { draft with isOpen := true } cs
    else
      match draft.add c with
      | .ok draft => readClass draft cs
      | .error e => .invalid e

/-- The ranges of bytes of a range of characters. Only the last byte of the first character and the first byte of
the last one make a range; all others stand alone. -/
def byteRanges (range : Char × Char) : List (UInt8 × UInt8) :=
  let single (b : UInt8) := (b, b)
  if range.1 = range.2 then (bytesOf range.1).map single
  else
    match (bytesOf range.1).reverse, bytesOf range.2 with
    | first :: before, last :: after => before.reverse.map single ++ (first, last) :: after.map single
    | _, _ => []

/-- A pattern that is being read: the tokens so far, last token first, and for every open group its complete
branches and the tokens before it, both last first. -/
structure Draft where
  tokens : List Token := []
  groups : List (List (List Token) × List Token) := []

namespace Draft

def push (d : Draft) (token : Token) : Draft := { d with tokens := token :: d.tokens }

def pushChar (d : Draft) (c : Char) : Draft :=
  { d with tokens := ((bytesOf c).map Token.byte).reverse ++ d.tokens }

/-- Two stars that are no whole component are like one. -/
def pushRuns (d : Draft) : Draft := (d.push .anyRun).push .anyRun

/-- Whether a branch stands for nothing. -/
def isVoid (branch : List Token) : Bool :=
  branch.all fun token =>
    match token with
    | .oneOf [] => true
    | _ => false

/-- Ends the last branch of the innermost group. -/
def close (d : Draft) : Except PatternError Draft :=
  match d.groups with
  | [] => .error .unopenedGroup
  | (branches, tokens) :: groups =>
    let complete := (d.tokens.reverse :: branches).reverse.filter fun branch => !isVoid branch
    .ok { tokens := .oneOf complete :: tokens, groups }

/-- Puts two stars in place of the slash before them, unless there are two stars already. -/
def replaceSlash (d : Draft) (token : Token) : Draft :=
  match d.tokens with
  | .leading :: _ | .trailing :: _ => d
  | _ :: tokens => { d with tokens := token :: tokens }
  | [] => d.push token

/-- Reads two stars, given the character before them and the text after them. The result tells how much of that text
belongs to them: nothing or one slash. -/
def stars (d : Draft) (before : Option Char) (rest : List Char) : Draft × Bool :=
  let inGroup := !d.groups.isEmpty
  if d.tokens.isEmpty then
    match rest with
    | [] => (d.push .leading, false)
    | '/' :: _ => (d.push .leading, true)
    | _ => (d.pushRuns, false)
  else if before ≠ some '/' ∧ ¬ (inGroup ∧ (before = some ',' ∨ before = some '{')) then (d.pushRuns, false)
  else
    match rest with
    | [] => (d.replaceSlash .trailing, false)
    | '/' :: _ => (d.replaceSlash .between, true)
    | c :: _ => if inGroup && (c = ',' || c = '}') then (d.replaceSlash .trailing, false) else (d.pushRuns, false)

end Draft

/-- Reads the rest of a pattern, given the character before it. After a bracket that is never closed, brackets stand
for themselves. The first argument bounds the number of steps. -/
def readPattern : Nat → Option Char → Bool → Draft → List Char → Except PatternError (List Token)
  | 0, _, _, d, _ => .ok d.tokens.reverse
  | _ + 1, _, _, d, [] => if d.groups.isEmpty then .ok d.tokens.reverse else .error .unclosedGroup
  | fuel + 1, before, plainBrackets, d, c :: cs =>
    match c, cs with
    | '?', _ => readPattern fuel c plainBrackets (d.push .anyByte) cs
    | '*', '*' :: rest =>
      match d.stars before rest with
      | (d, true) => readPattern fuel (some '/') plainBrackets d (rest.drop 1)
      | (d, false) => readPattern fuel c plainBrackets d rest
    | '*', _ => readPattern fuel c plainBrackets (d.push .anyRun) cs
    | '{', _ => readPattern fuel c plainBrackets ⟨[], ([], d.tokens) :: d.groups⟩ cs
    | '}', _ => do readPattern fuel c plainBrackets (← d.close) cs
    | ',', _ =>
      match d.groups with
      | [] => readPattern fuel c plainBrackets (d.pushChar c) cs
      | (branches, tokens) :: groups =>
        readPattern fuel c plainBrackets ⟨[], (d.tokens.reverse :: branches, tokens) :: groups⟩ cs
    | '\\', [] => .error .danglingEscape
    | '\\', escaped :: rest => readPattern fuel (some escaped) plainBrackets (d.pushChar escaped) rest
    | '[', _ =>
      if plainBrackets then readPattern fuel c plainBrackets (d.pushChar c) cs
      else
        let negated := cs.head? = some '!' || cs.head? = some '^'
        match readClass {} (if negated then cs.drop 1 else cs) with
        | .unclosed => readPattern fuel c true (d.pushChar c) cs
        | .invalid e => .error e
        | .closed ranges rest =>
          readPattern fuel (some ']') plainBrackets (d.push (.oneByte (!negated) (ranges.flatMap byteRanges))) rest
    | c, cs => readPattern fuel c plainBrackets (d.pushChar c) cs

/-- Reads a pattern. Every step takes a character. -/
def tokens? (pattern : String) : Except PatternError (List Token) :=
  readPattern (pattern.toList.length + 1) none false {} pattern.toList

/-- A slash as a byte. -/
def slash : UInt8 := 47

/-- What follows each slash of a path. -/
def afterSlashes : List UInt8 → List (List UInt8)
  | [] => []
  | b :: bs => if b = slash then bs :: afterSlashes bs else afterSlashes bs

/-- What is left after any run of bytes without a slash. -/
def afterRuns : List UInt8 → List (List UInt8)
  | [] => [[]]
  | b :: bs => (b :: bs) :: if b = slash then [] else afterRuns bs

/-- All ends of a path. -/
def ends : List UInt8 → List (List UInt8)
  | [] => [[]]
  | b :: bs => (b :: bs) :: ends bs

/-- Keeps one of several ends of the same path that have the same length. -/
def distinctEnds (paths : List (List UInt8)) : List (List UInt8) :=
  paths.foldl (fun kept path => if kept.any fun other => other.length = path.length then kept else path :: kept) []

mutual

/-- What may be left of a path after a part that a token describes. -/
def Token.rests (path : List UInt8) : Token → List (List UInt8)
  | .byte b =>
    match path with
    | c :: cs => if b = c then [cs] else []
    | [] => []
  | .anyByte =>
    match path with
    | c :: cs => if c = slash then [] else [cs]
    | [] => []
  | .oneByte within ranges =>
    match path with
    | c :: cs => if (ranges.any fun range => range.1 ≤ c && c ≤ range.2) = within then [cs] else []
    | [] => []
  | .anyRun => afterRuns path
  | .leading => path :: afterSlashes path
  | .between =>
    match path with
    | c :: cs => if c = slash then cs :: afterSlashes cs else []
    | [] => []
  | .trailing =>
    match path with
    | c :: cs => if c = slash then ends cs else []
    | [] => []
  | .oneOf [] => [path]
  | .oneOf (branch :: branches) => restsAll branch [path] ++ restsAny branches path

/-- What may be left of one of several paths after parts that the tokens describe. -/
def restsAll : List Token → List (List UInt8) → List (List UInt8)
  | [], paths => paths
  | token :: tokens, paths => restsAll tokens (distinctEnds (paths.flatMap fun path => token.rests path))

/-- What may be left of a path after a part that one of the branches describes. -/
def restsAny : List (List Token) → List UInt8 → List (List UInt8)
  | [], _ => []
  | branch :: branches, path => restsAll branch [path] ++ restsAny branches path

end

/-- Whether a path is of the form that the tokens describe. Two stars alone describe every path. -/
def matchesPath (tokens : List Token) (path : String) : Bool :=
  match tokens with
  | [.leading] => true
  | _ => (restsAll tokens [path.toUTF8.data.toList]).any List.isEmpty

end Layering.Ignore
