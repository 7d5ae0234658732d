import Layering.Toml.Value

/-! Building the tables of a document. A key is set once; a table is opened by one header at most; dotted keys
extend only tables that no header opened. -/
namespace Layering.Toml

/-- The entries of a table in order. -/
abbrev Entries := List (String × Toml)

/-- Replaces the value of a key that is present. -/
def replaceEntry (entries : Entries) (key : String) (value : Toml) : Entries :=
  entries.map fun entry => if entry.1 = key then (key, value) else entry

/-- Removes a key. -/
def removeEntry (entries : Entries) (key : String) : Entries :=
  entries.filter fun entry => entry.1 ≠ key

/-- Applies a change to the last of some tables. -/
def changeLast (change : Entries → Option Entries) : List Entries → Option (List Entries)
  | [] => none
  | [last] => (change last).map fun last => [last]
  | first :: rest => (changeLast change rest).map (first :: ·)

/-- Whether a dotted key may lead through a table of this kind. -/
def TableKind.isOpen : TableKind → Bool
  | .header | .inline => false
  | .implied | .dotted | .inlineDotted => true

/-- Sets a key that is written with the given path of dotted parts before it. New tables on the way are of the
given kind, and the last one must be such a table. -/
def setDotted (kind : TableKind) (key : String) (value : Toml) : List String → Entries → Option Entries
  | [], entries =>
    if (entries.lookup key).isSome then none else some (entries ++ [(key, value)])
  | part :: path, entries =>
    match entries.lookup part with
    | none => (setDotted kind key value path []).map fun inner => entries ++ [(part, .table kind inner)]
    | some (.table found inner) =>
      if found.isOpen && (!path.isEmpty || found = kind) then
        (setDotted kind key value path inner).map fun inner =>
          replaceEntry entries part (.table found inner)
      else none
    | some (.tables items) =>
      if path.isEmpty then none
      else
        (changeLast (setDotted kind key value path) items).map fun items =>
          replaceEntry entries part (.tables items)
    | some _ => none

/-- Applies a change to the table that the path of a header leads to. -/
def changeTable (change : Entries → Option Entries) : List String → Entries → Option Entries
  | [], entries => change entries
  | part :: path, entries =>
    match entries.lookup part with
    | none =>
      (changeTable change path []).map fun inner => entries ++ [(part, .table .implied inner)]
    | some (.table kind inner) =>
      if kind = .inline || kind = .inlineDotted then none
      else
        (changeTable change path inner).map fun inner =>
          replaceEntry entries part (.table kind inner)
    | some (.tables items) =>
      (changeLast (changeTable change path) items).map fun items =>
        replaceEntry entries part (.tables items)
    | some _ => none

/-- A line that sets a key: the dotted parts before it, the key and its value. -/
structure Setting where
  path : List String
  key : String
  value : Toml

/-- Sets all keys of a table. -/
def setAll (kind : TableKind) (settings : List Setting) (entries : Entries) : Option Entries :=
  settings.foldlM (fun entries s => setDotted kind s.key s.value s.path entries) entries

/-- A header and the keys set below it. -/
structure Section where
  /-- Whether the header adds a table to an array. -/
  addsToArray : Bool
  path : List String
  key : String
  settings : List Setting

/-- Opens the table of a section in the table that holds it, and sets the keys. -/
def Section.openIn (s : Section) (parent : Entries) : Option Entries :=
  match s.addsToArray, parent.lookup s.key with
  | true, none =>
    (setAll .dotted s.settings []).map fun entries => parent ++ [(s.key, .tables [entries])]
  | true, some (.tables items) =>
    (setAll .dotted s.settings []).map fun entries =>
      replaceEntry parent s.key (.tables (items ++ [entries]))
  | false, none =>
    (setAll .dotted s.settings []).map fun entries => parent ++ [(s.key, .table .header entries)]
  | false, some (.table .implied entries) =>
    (setAll .dotted s.settings entries).map fun entries =>
      removeEntry parent s.key ++ [(s.key, .table .header entries)]
  | _, _ => none

/-- Opens the table of a section in a document. -/
def Section.apply (s : Section) (root : Entries) : Option Entries :=
  changeTable s.openIn s.path root

/-- The root table of a document: its own keys first, then its sections in order. -/
def build (settings : List Setting) (sections : List Section) : Option Entries := do
  let root ← setAll .dotted settings []
  sections.foldlM (fun root s => s.apply root) root

end Layering.Toml
