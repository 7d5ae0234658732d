import Layering.Toml.Scalar
import Layering.Toml.Table

/-! Reading a TOML document: arrays and inline tables, keys, and the lines of a document. There is no limit to
how deep values are nested or to numbers that are no integers, so that documents are accepted which a reader with a limit
of eighty levels or of sixty-four bits refuses. -/
namespace Layering.Toml

/-- Removes a comment, which ends before the line break. -/
def skipComment : List Char → Option (List Char)
  | '#' :: rest =>
    let isText (c : Char) : Bool := !isControl c
    some (rest.dropWhile isText)
  | rest => some rest

/-- Removes what may end a line: spaces, a comment, and the line break or the end of the text. -/
def endLine? (cs : List Char) : Option (List Char) := do
  let rest ← skipComment (skipSpaces cs)
  if rest.isEmpty then some [] else newline? rest

/-- Removes spaces, comments and line breaks, which may stand between the items of an array. -/
def skipLines : Nat → List Char → List Char
  | 0, cs => cs
  | fuel + 1, cs =>
    let rest := skipSpaces cs
    match newline? ((skipComment rest).getD rest) with
    | some rest => skipLines fuel rest
    | none => rest

def isBareKeyChar (c : Char) : Bool :=
  ('a' ≤ c && c ≤ 'z') || ('A' ≤ c && c ≤ 'Z') || ('0' ≤ c && c ≤ '9') || c = '_' || c = '-'

/-- One part of a key, bare or in quotes. -/
def simpleKey? (cs : List Char) : Option (String × List Char) :=
  match lineString? cs with
  | some read => some read
  | none =>
    let bare := cs.takeWhile isBareKeyChar
    if bare.isEmpty then none else some (.ofList bare, cs.dropWhile isBareKeyChar)

/-- The parts of a key with dots between them. Spaces may stand around each part. -/
def dottedKey? : Nat → List Char → Option (List String × List Char)
  | 0, _ => none
  | fuel + 1, cs => do
    let (part, rest) ← simpleKey? (skipSpaces cs)
    match skipSpaces rest with
    | '.' :: rest =>
      let (parts, rest) ← dottedKey? fuel rest
      some (part :: parts, rest)
    | rest => some ([part], rest)

/-- Cuts the last part off a key. -/
def splitKey? (parts : List String) : Option (List String × String) :=
  match parts.reverse with
  | [] => none
  | key :: path => some (path.reverse, key)

mutual

/-- A value. The first argument bounds the nesting and the number of items. -/
def value? : Nat → List Char → Option (Toml × List Char)
  | 0, _ => none
  | fuel + 1, '[' :: rest => (items? fuel (skipLines fuel rest)).map fun (items, rest) => (.array items, rest)
  | fuel + 1, '\x7b' :: rest =>
    match skipSpaces rest with
    | '\x7d' :: rest => some (.table .inline [], rest)
    | rest => do
      let (settings, rest) ← inlineSettings? fuel rest
      let entries ← setAll .inlineDotted settings []
      some (.table .inline entries, rest)
  | _, cs => scalar? cs

/-- The items of an array and its closing bracket. -/
def items? : Nat → List Char → Option (List Toml × List Char)
  | 0, _ => none
  | _, ']' :: rest => some ([], rest)
  | fuel + 1, cs => do
    let (item, rest) ← value? fuel cs
    match skipLines fuel rest with
    | ',' :: rest =>
      let (items, rest) ← items? fuel (skipLines fuel rest)
      some (item :: items, rest)
    | ']' :: rest => some ([item], rest)
    | _ => none

/-- A key and its value. -/
def setting? : Nat → List Char → Option (Setting × List Char)
  | 0, _ => none
  | fuel + 1, cs => do
    let (parts, rest) ← dottedKey? fuel cs
    let (path, key) ← splitKey? parts
    let rest ← char? '=' rest
    let (value, rest) ← value? fuel (skipSpaces rest)
    some (⟨path, key, value⟩, rest)

/-- The keys of a table between braces and the closing brace. -/
def inlineSettings? : Nat → List Char → Option (List Setting × List Char)
  | 0, _ => none
  | fuel + 1, cs => do
    let (setting, rest) ← setting? fuel cs
    match skipSpaces rest with
    | ',' :: rest =>
      let (settings, rest) ← inlineSettings? fuel rest
      some (setting :: settings, rest)
    | '\x7d' :: rest => some ([setting], rest)
    | _ => none

end

/-- The header of a section, after its first bracket. -/
def header? (fuel : Nat) (cs : List Char) : Option (Section × List Char) := do
  let (addsToArray, cs) := match cs with
    | '[' :: rest => (true, rest)
    | rest => (false, rest)
  let (parts, rest) ← dottedKey? fuel cs
  let (path, key) ← splitKey? parts
  let rest ← char? ']' rest
  let rest ← if addsToArray then char? ']' rest else some rest
  let rest ← endLine? rest
  some (⟨addsToArray, path, key, []⟩, rest)

/-- The lines of a document: the keys before the first header, and the sections. -/
def lines? : Nat → List Char → Option (List Setting × List Section)
  | 0, _ => none
  | fuel + 1, cs =>
    match skipSpaces cs with
    | [] => some ([], [])
    | '[' :: rest => do
      let (found, rest) ← header? fuel rest
      let (settings, sections) ← lines? fuel rest
      some ([], { found with settings } :: sections)
    | c :: rest =>
      if c = '#' ∨ c = '\n' ∨ c = '\r' then (endLine? (c :: rest)).bind (lines? fuel)
      else do
        let (setting, rest) ← setting? fuel (c :: rest)
        let rest ← endLine? rest
        let (settings, sections) ← lines? fuel rest
        some (setting :: settings, sections)

/-- The root table of a document. A mark of the byte order before it is skipped. -/
def read? (text : String) : Option Entries := do
  let cs := match text.toList with
    | '\ufeff' :: rest => rest
    | cs => cs
  let (settings, sections) ← lines? (2 * cs.length + 2) cs
  build settings sections

end Layering.Toml
