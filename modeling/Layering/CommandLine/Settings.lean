import Layering.Ignore.Rules
import Layering.Policy.Source

/-! The ignore file of the user. Git settings may name it in one of two files; otherwise it lies beside the second one.
The settings are not read as a whole: the first line that sets the file counts, in whatever section it stands. -/
namespace Layering.CommandLine

open Policy (Surroundings)

namespace Settings

/-- A blank or a line break. -/
def isSpace (b : UInt8) : Bool := b = 32 || (9 ≤ b && b ≤ 13)

def skipSpaces (text : List UInt8) : List UInt8 := text.dropWhile isSpace

/-- Whether nothing but spaces is left of a line. -/
def endsLine (text : List UInt8) : Bool := (skipSpaces text).isEmpty || (text.takeWhile isSpace).contains 10

/-- Whether a value may end before a text: nothing but spaces, and a quote among them, is left of the line. -/
def endsValue (text : List UInt8) : Bool :=
  endsLine text ||
    match skipSpaces text with
    | 34 :: rest => endsLine rest
    | _ => false

/-- The value that a text starts with. It has no spaces and is as short as it can be. -/
def value? : List UInt8 → Option (List UInt8)
  | [] => none
  | b :: rest =>
    if isSpace b then none
    else if endsValue rest then some [b]
    else (value? rest).map (b :: ·)

def lower (b : UInt8) : UInt8 := if 65 ≤ b && b ≤ 90 then b + 32 else b

/-- The rest of a text that starts with a word in letters of any case. -/
def dropWord? : List UInt8 → List UInt8 → Option (List UInt8)
  | [], text => some text
  | _ :: _, [] => none
  | a :: word, b :: text => if lower b = a then dropWord? word text else none

/-- The name of the setting. -/
def settingName : List UInt8 := "excludesfile".toUTF8.data.toList

/-- The value of the setting, if the text starts with it. A quote before the value does not belong to it, unless there
is no value without it. -/
def settingHere? (text : List UInt8) : Option (List UInt8) :=
  (dropWord? settingName (skipSpaces text)).bind fun afterName =>
    match skipSpaces afterName with
    | 61 :: rest =>
      match skipSpaces rest with
      | 34 :: quoted => (value? (skipSpaces quoted)).or (value? (34 :: quoted))
      | plain => value? plain
    | _ => none

/-- What follows each line break of a text. -/
def afterBreaks : List UInt8 → List (List UInt8)
  | [] => []
  | b :: rest => if b = 10 then rest :: afterBreaks rest else afterBreaks rest

/-- The value of the setting on the first line that has one. -/
def setting? (text : List UInt8) : Option (List UInt8) := (text :: afterBreaks text).findSome? settingHere?

/-- A text with a directory in place of every tilde. -/
def expandTilde (home : Option Path) (text : String) : String :=
  match home with
  | some directory => .ofList (text.toList.flatMap fun c => if c = '~' then directory.text.toList else [c])
  | none => text

/-- The ignore file that a file with settings names. -/
def named? (s : Surroundings) (tree : Tree) (file : Path) : Option Path := do
  let settings ← tree.bytesAt? (s.absolute file)
  let value ← setting? settings.data.toList
  let text ← String.fromUTF8? ⟨value.toArray⟩
  return ⟨expandTilde s.home text⟩

/-- The directory of the user's settings. -/
def directory? (s : Surroundings) : Option Path := s.settingsDirectory.or (s.home.map (·.join ⟨".config"⟩))

/-- The files with settings. The first one that names an ignore file counts. -/
def files (s : Surroundings) : List Path :=
  (s.home.map (·.join ⟨".gitconfig"⟩)).toList ++ ((directory? s).map (·.join ⟨"git/config"⟩)).toList

/-- The ignore file of a user whose settings name none. -/
def standard? (s : Surroundings) : Option Path := (directory? s).map (·.join ⟨"git/ignore"⟩)

/-- Where the ignore file of the user may be. -/
def ignoreFile? (s : Surroundings) (tree : Tree) : Option Path :=
  ((files s).findSome? (named? s tree)).or (standard? s)

end Settings

/-- The ignore file of the user. Lines that are passed over are not reported. -/
def userFile (s : Surroundings) (tree : Tree) : Ignore.UserFile where
  rules := (((Settings.ignoreFile? s tree).bind fun path => tree.bytesAt? (s.absolute path)).map fun bytes =>
    (Ignore.File.ofBytes bytes).rules).getD []
  base := s.patternDirectory.getD s.workingDirectory

end Layering.CommandLine
