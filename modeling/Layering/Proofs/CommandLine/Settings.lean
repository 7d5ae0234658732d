import Layering.CommandLine.Settings
import Layering.Proofs.Text.LineIndex
import Layering.Proofs.Tree.Growth

/-! The ignore file of the user. Files that are added to a tree change it only if it is one of them, as no file with
settings has the name of another one. What a file says is what its lines say one by one. -/
namespace Layering

namespace Ignore

theorem dropReturn_eq {line : List UInt8} (plain : line.getLast? ≠ some 13) : dropReturn line = line := by
  rw [dropReturn]
  split
  · rename_i reversed same
    rw [← List.head?_reverse, same] at plain
    exact absurd rfl plain
  · rfl

theorem segments_ended {pieces : List (List UInt8)} (whole : ∀ piece ∈ pieces, 10 ∉ piece) :
    Text.segments 10 (pieces.flatMap fun piece => piece ++ [10]) = pieces ++ [[]] := by
  induction pieces with
  | nil => rfl
  | cons piece pieces ih =>
    obtain ⟨first, others⟩ := List.forall_mem_cons.mp whole
    rw [List.flatMap_cons, List.append_assoc, List.singleton_append, Text.segments_append_separator,
      Text.segments_of_not_mem first, ih others]
    rfl

theorem fromUTF8?_bytes (cs : List Char) : String.fromUTF8? ⟨(Text.bytes cs).toArray⟩ = some (.ofList cs) := by
  have spelt : ByteArray.mk (Text.bytes cs).toArray = (String.ofList cs).toUTF8 := by
    rw [← String.toList_ofList (l := cs), Text.bytes_toList, String.toList_ofList]
  rw [spelt]
  exact dif_pos (String.ofList cs).isValidUTF8

/-- A line without marks that a file of such lines would lose. -/
structure IsPlain (line : List Char) : Prop where
  whole : 10 ∉ Text.bytes line
  noReturn : (Text.bytes line).getLast? ≠ some 13
  noMark : line.head? ≠ some '\uFEFF'

/-- The lines of a file are read as they are written. -/
theorem lines_eq {bytes : ByteArray} {written : List (List Char)} (plain : ∀ line ∈ written, IsPlain line)
    (spelt : bytes.data.toList = Text.bytes (written.flatMap fun line => line ++ ['\n'])) :
    lines bytes = written.map fun line => some (.ofList line) := by
  have ended : Text.bytes (written.flatMap fun line => line ++ ['\n']) =
      (written.map Text.bytes).flatMap fun piece => piece ++ [10] := by
    simp only [Text.bytes, List.flatMap_assoc, List.flatMap_map, List.flatMap_append]
    rfl
  have pieces : lineBytes bytes = written.map Text.bytes := by
    have whole : ∀ piece ∈ written.map Text.bytes, 10 ∉ piece :=
      List.forall_mem_map.mpr fun line listed => (plain line listed).whole
    have kept : (written.map Text.bytes).map dropReturn = written.map Text.bytes := by
      rw [List.map_map]
      exact List.map_congr_left fun line listed => dropReturn_eq (plain line listed).noReturn
    simp only [lineBytes, spelt, ended, segments_ended whole, List.dropLast_concat, List.getLast?_concat, kept]
    exact List.append_nil _
  rw [lines, pieces, List.map_map]
  cases written with
  | nil => rfl
  | cons line written =>
    have start : line.dropWhile (· = '\uFEFF') = line := by
      have noMark := (plain line List.mem_cons_self).noMark
      cases line with
      | nil => rfl
      | cons c cs => exact List.dropWhile_cons_of_neg (by simpa using noMark)
    simp [Function.comp_def, fromUTF8?_bytes, start]

theorem rules_ofBytes (bytes : ByteArray) : (File.ofBytes bytes).rules = (readLines (lines bytes).zipIdx).rules := by
  rw [File.ofBytes]
  split <;> rfl

theorem mem_rules_readLines {texts : List String} {index : Nat} {rule : Rule} :
    rule ∈ (readLines ((texts.map some).zipIdx index)).rules ↔ ∃ text ∈ texts, readLine text = .ok (some rule) := by
  induction texts generalizing index with
  | nil => simp [readLines]
  | cons text texts ih =>
    rw [List.map_cons, List.zipIdx_cons, readLines]
    cases reads : readLine text with
    | error e => simp [ih, reads]
    | ok found => cases found <;> simp [ih, reads, eq_comm]

theorem keeps_of_readLine {text : String} {rule : Rule} (reads : readLine text = .ok (some rule)) :
    rule.keeps = (readMarks (trimLine text.toList)).1 := by
  simp only [readLine] at reads
  split at reads
  · cases reads
  · split at reads
    · cases reads
    · simp only [Policy.bind_eq_ok, Policy.pure_eq_ok] at reads
      obtain ⟨tokens, -, same⟩ := reads
      exact Option.some.inj same ▸ rfl

/-- Where no line keeps paths, one that describes a path is enough to have it ignored. -/
theorem verdict?_eq_ignored {rules : List Rule} (keeps : ∀ rule ∈ rules, rule.keeps = false) {rule : Rule}
    (listed : rule ∈ rules) {path : String} {isDirectory : Bool} (describes : rule.describes path isDirectory = true) :
    verdict? rules path isDirectory = some .ignored := by
  cases found : rules.reverse.find? fun rule => rule.describes path isDirectory with
  | none => exact absurd describes (List.find?_eq_none.mp found rule (List.mem_reverse.mpr listed))
  | some last =>
    have kept := keeps last (List.mem_reverse.mp (List.mem_of_find?_eq_some found))
    rw [verdict?, found, Option.map_some, Rule.verdict, kept]
    rfl

end Ignore

/-- The way to a path ends with its last step if that is a name. -/
theorem Discovery.getLast?_wayTo {p : Path} (absolute : p.isAbsolute = true) {before : List Path.Part} {name : String}
    (ends : p.steps = before ++ [.name name]) : (wayTo p).getLast? = some name := by
  rw [wayTo_eq, Path.cleanParts, Path.parts_of_isAbsolute absolute, ends, ← List.cons_append, List.foldl_append]
  simp [namesOf, Path.pushClean]

namespace CommandLine

open Policy (Surroundings)

namespace Settings

variable {s : Surroundings} {added : List String → Prop} {t t' : Tree}

theorem exists_steps_absolute (s : Surroundings) (p : Path) {file : Path} (relative : file.isAbsolute = false) :
    ∃ before, (s.absolute (p.join file)).steps = before ++ file.steps := by
  rw [Surroundings.absolute]
  cases absolute : (p.join file).isAbsolute with
  | true =>
    rw [Path.join, if_pos absolute]
    exact ⟨_, Path.steps_join p relative⟩
  | false =>
    refine ⟨s.workingDirectory.steps ++ p.steps, ?_⟩
    rw [Path.steps_join _ absolute, Path.steps_join p relative, List.append_assoc]

theorem getLast?_wayTo_file (absolute : s.workingDirectory.isAbsolute = true) {file : Path} (listed : file ∈ files s) :
    (Discovery.wayTo (s.absolute file)).getLast? = some ".gitconfig" ∨
      (Discovery.wayTo (s.absolute file)).getLast? = some "config" := by
  have ends (p : Path) {file : Path} (front : List Path.Part) {name : String} (relative : file.isAbsolute = false)
      (steps : file.steps = front ++ [.name name]) :
      (Discovery.wayTo (s.absolute (p.join file))).getLast? = some name := by
    obtain ⟨before, whole⟩ := exists_steps_absolute s p relative
    rw [steps, ← List.append_assoc] at whole
    exact Discovery.getLast?_wayTo (Path.isAbsolute_join absolute _) whole
  simp only [files, List.mem_append, Option.mem_toList, Option.map_eq_some_iff] at listed
  obtain ⟨home, -, rfl⟩ | ⟨directory, -, rfl⟩ := listed
  · exact .inl (ends home [] rfl (by decide +kernel))
  · exact .inr (ends directory [.name "git"] rfl (by decide +kernel))

theorem named?_grown (grows : t.Grows added t') {file : Path} (old : ¬added (Discovery.wayTo (s.absolute file))) :
    named? s t file = named? s t' file := by
  rw [named?, named?, grows.bytesAt?_eq old]

/-- A file that is added names no ignore file, unless it has the name of a file with settings. -/
theorem ignoreFile?_grown (absolute : s.workingDirectory.isAbsolute = true) (grows : t.Grows added t')
    (foreign : ∀ way, added way → way.getLast? ≠ some ".gitconfig" ∧ way.getLast? ≠ some "config") :
    ignoreFile? s t = ignoreFile? s t' := by
  have named : (files s).filterMap (named? s t) = (files s).filterMap (named? s t') :=
    List.filterMap_congr fun file listed => named?_grown grows fun isNew => by
      obtain ⟨notHome, notOther⟩ := foreign _ isNew
      exact (getLast?_wayTo_file absolute listed).elim notHome notOther
  rw [ignoreFile?, ignoreFile?, ← List.head?_filterMap, ← List.head?_filterMap, named]

end Settings

/-- The ignore file of the user stays as it is if it is not itself among the files that are added. -/
theorem userFile_grown {s : Surroundings} {added : List String → Prop} {t t' : Tree}
    (absolute : s.workingDirectory.isAbsolute = true) (grows : t.Grows added t')
    (foreign : ∀ way, added way → way.getLast? ≠ some ".gitconfig" ∧ way.getLast? ≠ some "config")
    (apart : ∀ path, Settings.ignoreFile? s t = some path → ¬added (Discovery.wayTo (s.absolute path))) :
    userFile s t = userFile s t' := by
  rw [userFile, userFile, ← Settings.ignoreFile?_grown absolute grows foreign]
  cases place : Settings.ignoreFile? s t with
  | none => rfl
  | some path => rw [Option.bind_some, Option.bind_some, grows.bytesAt?_eq (apart path place)]

end CommandLine

end Layering
