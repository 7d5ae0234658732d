import Layering.Text.Segments

/-! Texts whose parts are separated by slashes: paths of files and specifiers of imports, taken literally. -/
namespace Layering.Text

/-- The rest of a text after a text that it starts with. -/
def stripPrefix? : List Char → List Char → Option (List Char)
  | [], cs => some cs
  | _ :: _, [] => none
  | a :: as, c :: cs => if a = c then stripPrefix? as cs else none

theorem eq_append_of_stripPrefix? {as cs rest : List Char} (h : stripPrefix? as cs = some rest) :
    cs = as ++ rest := by
  fun_induction stripPrefix? as cs <;> simp_all

theorem stripPrefix?_append (as rest : List Char) : stripPrefix? as (as ++ rest) = some rest := by
  induction as <;> simp_all [stripPrefix?]

/-- What follows a base in a text: nothing if they are equal, or else what comes after a slash. -/
def below? (base text : String) : Option String :=
  match stripPrefix? base.toList text.toList with
  | some [] => some ""
  | some ('/' :: rest) => some (.ofList rest)
  | _ => none

/-- Whether a path is the given directory or lies below it. All paths lie below the empty one. -/
def isUnder (path directory : String) : Bool := directory = "" || (below? directory path).isSome

/-- The text up to its last slash, empty if there is none. -/
def parent (path : String) : String := join "/" (split '/' path).dropLast

/-- The text after the last slash. -/
def fileName (path : String) : String := ((split '/' path).getLast?).getD ""

/-- A file name cut at its last dot. A dot at the start does not count. -/
def cutExtension (name : String) : String × Option String :=
  let reversed := name.toList.reverse
  match reversed.dropWhile (· ≠ '.') with
  | _ :: before :: rest =>
    (.ofList (before :: rest).reverse, some (.ofList (reversed.takeWhile (· ≠ '.')).reverse))
  | _ => (name, none)

/-- Whether the last part of a path names a file: it is neither empty nor dots that stand for a directory. -/
def isFileName (name : String) : Bool := name ≠ "" && name ≠ "." && name ≠ ".."

/-- The file name of a path without its extension. -/
def stem? (path : String) : Option String :=
  if isFileName (fileName path) then some (cutExtension (fileName path)).1 else none

/-- What follows the last dot of the file name of a path. -/
def extension? (path : String) : Option String :=
  if isFileName (fileName path) then (cutExtension (fileName path)).2 else none

end Layering.Text
