import Layering.Proofs.Graph.Issues
import Layering.Proofs.Text.Slashed

/-! Files that are held in memory. They are listed by the paths that they were written to, but looked up by the parts of
a path, so that a listed path can be read exactly as far as it is spelt as its parts are shown. -/
namespace Layering

namespace Memory

/-- The files after writing them one after the other. -/
def ofWrites (root : Path) (writes : List (String × String)) : Memory :=
  writes.foldl (fun m file => m.write file.1 file.2) { root }

/-- The text that was written to a path last. -/
def LastWritten (writes : List (String × String)) (path text : String) : Prop :=
  ∃ before after, writes = before ++ (path, text) :: after ∧ ∀ later ∈ after, later.1 ≠ path

/-- What a relative path is looked up by: its segments but for empty ones and dots. A dot at the start stays if the root
is empty. -/
def keyOf (root : Path) (path : String) : String :=
  let segments := (Text.split '/' path).filter fun s => s ≠ "" && s ≠ "."
  Text.join "/" (if root.text = "" ∧ (Text.split '/' path).head? = some "." then "." :: segments else segments)

section Lookup

variable {m : Memory} {root : Path} {writes : List (String × String)} {path text other : String}

theorem lookup_write (m : Memory) (path text other : String) :
    (m.write path text).files.lookup other = if other = path then some text else m.files.lookup other := by
  rw [write, List.lookup_cons]
  by_cases same : other = path
  · simp [same]
  · rw [if_neg same, beq_false_of_ne same, remove, lookup_filter same]

theorem lookup_ofWrites : (ofWrites root writes).files.lookup path = writes.reverse.lookup path := by
  induction writes using List.reverseRecOn with
  | nil => rfl
  | append_singleton writes file ih =>
    rw [ofWrites, List.foldl_append, ← ofWrites, List.foldl_cons, List.foldl_nil, lookup_write, ih, List.reverse_append,
      List.reverse_singleton, List.singleton_append, List.lookup_cons]
    by_cases same : path = file.1
    · simp [same]
    · rw [if_neg same, beq_false_of_ne same]

theorem lookup_eq_some_iff :
    (ofWrites root writes).files.lookup path = some text ↔ LastWritten writes path text := by
  rw [lookup_ofWrites, List.lookup_eq_some_iff]
  constructor
  · rintro ⟨after, before, whole, later⟩
    refine ⟨before.reverse, after.reverse, ?_, fun file listed => ?_⟩
    · rw [← List.reverse_reverse writes, whole]
      simp
    · exact (bne_iff_ne.mp (later file (List.mem_reverse.mp listed))).symm
  · rintro ⟨before, after, rfl, later⟩
    refine ⟨after.reverse, before.reverse, by simp, fun file listed => ?_⟩
    exact bne_iff_ne.mpr (later file (List.mem_reverse.mp listed)).symm

theorem mem_paths : path ∈ m.paths ↔ ∃ text, m.files.lookup path = some text := by
  rw [← Option.isSome_iff_exists, List.lookup_isSome_iff, paths, List.mem_mergeSort, List.mem_map]
  exact exists_congr fun file => and_congr_right fun _ => eq_comm.trans beq_iff_eq.symm

/-- A path that is seen from the root is looked up by what is shown of it. -/
theorem text?_join (relative : Path.isAbsolute ⟨path⟩ = false) :
    m.text? (m.root.join ⟨path⟩) = m.files.lookup (keyOf m.root path) := by
  have below : m.root.below? (m.root.join ⟨path⟩) =
      some (if m.root.text = "" then Path.parts ⟨path⟩ else Path.steps ⟨path⟩) := by
    refine Path.dropParts?_eq_some.mpr ?_
    split
    · rename_i none
      have bare : m.root = ⟨""⟩ := congrArg Path.mk none
      rw [bare, Path.join_empty, Path.parts_empty, List.nil_append]
    · rename_i some?
      exact Path.parts_join some? relative
  rw [text?, below, Option.bind_some, keyOf]
  congr 1
  split
  · rename_i none
    rw [Path.displayParts, Path.parts_eq_lead_append, List.map_append, Path.map_text_steps, Path.lead, relative,
      if_neg Bool.false_ne_true]
    simp only [none, true_and]
    split <;> rfl
  · rename_i some?
    rw [Path.displayParts, Path.map_text_steps, if_neg fun both => some? both.1]

theorem read_eq_ok {path : Path} : m.reader.read path = .ok text ↔ m.text? path = some text := by
  simp only [reader]
  cases m.text? path <;> simp

@[simp] theorem root_ofWrites : (ofWrites root writes).root = root := by
  induction writes using List.reverseRecOn with
  | nil => rfl
  | append_singleton writes file ih => rwa [ofWrites, List.foldl_append, ← ofWrites]

theorem mem_paths_ofWrites : path ∈ (ofWrites root writes).paths ↔ ∃ text, LastWritten writes path text := by
  simp only [mem_paths, lookup_eq_some_iff]

theorem LastWritten.mem (last : LastWritten writes path text) : (path, text) ∈ writes := by
  obtain ⟨before, after, rfl, -⟩ := last
  simp

/-- A path without empty segments and dots is its own key. -/
theorem keyOf_of_proper (proper : ∀ segment ∈ Text.split '/' path, segment ≠ "" ∧ segment ≠ ".") :
    keyOf root path = path := by
  have all : (Text.split '/' path).filter (fun s => s ≠ "" && s ≠ ".") = Text.split '/' path :=
    List.filter_eq_self.mpr fun segment listed => by simpa using proper segment listed
  have start : (Text.split '/' path).head? ≠ some "." := fun dot => (proper "." (List.mem_of_head? dot)).2 rfl
  rw [keyOf, all, if_neg fun both => start both.2, Text.join_split]

section Listed

variable (relative : ∀ file ∈ writes, Path.isAbsolute ⟨file.1⟩ = false)
include relative

theorem isAbsolute_of_listed (listed : path ∈ (ofWrites root writes).paths) : Path.isAbsolute ⟨path⟩ = false := by
  obtain ⟨text, last⟩ := mem_paths_ofWrites.mp listed
  exact relative (path, text) last.mem

theorem read_listed (listed : path ∈ (ofWrites root writes).paths) :
    (ofWrites root writes).reader.read (root.join ⟨path⟩) = .ok text ↔ LastWritten writes (keyOf root path) text := by
  have found := text?_join (m := ofWrites root writes) (isAbsolute_of_listed relative listed)
  rw [root_ofWrites] at found
  rw [read_eq_ok, found, lookup_eq_some_iff]

/-- The graph of the listed paths reports a path as unreadable exactly if its key is not listed. -/
theorem issues_readable_iff (p : Policy) : (∀ issue ∈ (Graph.build p root (ofWrites root writes).reader
      (ofWrites root writes).paths).issues, issue.code ≠ Rule.ioError.code) ↔
    ∀ path ∈ (ofWrites root writes).paths, keyOf root path ∈ (ofWrites root writes).paths := by
  constructor
  · intro quiet path listed
    cases content : (ofWrites root writes).reader.read (root.join ⟨path⟩) with
    | ok text => exact mem_paths_ofWrites.mpr ⟨text, (read_listed relative listed).mp content⟩
    | error e =>
      have reported : Rule.ioError.violation .error (.whole path) ("failed to read file: " ++ e.message) none ∈
          Graph.readIssue path ((ofWrites root writes).reader.read (root.join ⟨path⟩)) := by
        rw [content, Graph.readIssue]
        exact List.mem_cons_self
      exact absurd rfl (quiet _ (Graph.mem_issues_build.mpr ⟨path, listed, List.mem_append_right _ reported⟩))
  · intro known issue found
    obtain ⟨path, listed, here⟩ := Graph.mem_issues_build.mp found
    rcases List.mem_append.mp here with misplaced | unread
    · rw [(Graph.of_placementIssue misplaced).1]
      decide
    · obtain ⟨text, last⟩ := mem_paths_ofWrites.mp (known path listed)
      rw [(read_listed relative listed).mpr last] at unread
      cases unread

end Listed

/-- Every listed path can be read, with the text that was written to it last, exactly if every listed path has a key to
which the same text was written last. A path without empty segments and dots is its own key. What can be read is listed
as it is shown from the root, and no graph of the listed paths has an unreadable file exactly if the keys are listed. -/
theorem listed_readable_iff (root : Path) (writes : List (String × String))
    (relative : ∀ file ∈ writes, Path.isAbsolute ⟨file.1⟩ = false) :
    let m := ofWrites root writes
    ((∀ path ∈ m.paths, m.reader.isFile (root.join ⟨path⟩) = true ∧
        ∃ text, LastWritten writes path text ∧ m.reader.read (root.join ⟨path⟩) = .ok text) ↔
      ∀ path ∈ m.paths, ∃ text, LastWritten writes path text ∧ LastWritten writes (keyOf root path) text) ∧
    (∀ path, (∀ segment ∈ Text.split '/' path, segment ≠ "" ∧ segment ≠ ".") → keyOf root path = path) ∧
    (∀ path text, m.reader.read path = .ok text →
      ∃ parts, root.below? path = some parts ∧ Path.displayParts parts ∈ m.paths) ∧
    (∀ p, (∀ issue ∈ (Graph.build p root m.reader m.paths).issues, issue.code ≠ Rule.ioError.code) ↔
      ∀ path ∈ m.paths, keyOf root path ∈ m.paths) := by
  intro m
  refine ⟨forall₂_congr fun path listed => ?_, fun path => keyOf_of_proper, fun path text content => ?_,
    issues_readable_iff relative⟩
  · have same (text : String) :
        m.reader.read (root.join ⟨path⟩) = .ok text ↔ LastWritten writes (keyOf root path) text :=
      read_listed relative listed
    simp only [same]
    refine and_iff_right_of_imp fun ⟨text, _, last⟩ => ?_
    exact Option.isSome_iff_exists.mpr ⟨text, read_eq_ok.mp ((same text).mpr last)⟩
  · have found := read_eq_ok.mp content
    rw [text?, root_ofWrites, Option.bind_eq_some_iff] at found
    obtain ⟨parts, below, here⟩ := found
    exact ⟨parts, below, mem_paths.mpr ⟨text, here⟩⟩

end Lookup

section Spelling

/-- Two texts that were written to one path, and one at another path. -/
def plainWrites : List (String × String) := [("src/b.ts", "b"), ("src/a.ts", "draft"), ("src/a.ts", "a")]

theorem listed_readable_iff_plainWrites : (∀ file ∈ plainWrites, Path.isAbsolute ⟨file.1⟩ = false) ∧
    let m := ofWrites ⟨"/project"⟩ plainWrites
    ∀ path ∈ m.paths, m.reader.isFile (m.root.join ⟨path⟩) = true ∧
      ∃ text, LastWritten plainWrites path text ∧ m.reader.read (m.root.join ⟨path⟩) = .ok text := by
  have relative : ∀ file ∈ plainWrites, Path.isAbsolute ⟨file.1⟩ = false := by decide +kernel
  obtain ⟨readable, own, -, -⟩ := listed_readable_iff ⟨"/project"⟩ plainWrites relative
  refine ⟨relative, readable.mpr fun path listed => ?_⟩
  obtain ⟨text, last⟩ := mem_paths_ofWrites.mp listed
  have proper : ∀ file ∈ plainWrites, ∀ segment ∈ Text.split '/' file.1, segment ≠ "" ∧ segment ≠ "." := by
    decide +kernel
  have key := own path (proper _ last.mem)
  exact ⟨text, last, key.symm ▸ last⟩

/-- A path that starts with a dot is listed as it was written, but with a root that is not empty it is looked up without
the dot. -/
theorem dotted_path_unreadable :
    let writes := [("./src/a.ts", "a")]
    let m := ofWrites ⟨"/project"⟩ writes
    m.paths = ["./src/a.ts"] ∧ m.reader.isFile (m.root.join ⟨"./src/a.ts"⟩) = false ∧
      m.reader.read (m.root.join ⟨"./src/a.ts"⟩) = .error (.notLoaded ⟨"/project/./src/a.ts"⟩) ∧
      (ofWrites ⟨""⟩ writes).reader.read ⟨"./src/a.ts"⟩ = .ok "a" := by
  decide +kernel

end Spelling

end Memory

end Layering
