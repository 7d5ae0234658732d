import Layering.Proofs.Discovery.SourceRoot
import Layering.Proofs.Glob.Ways
import Layering.Proofs.Text.Lines

/-! File systems without line breaks in names. The files that are found by going down from a directory and the paths
that a pattern describes are made of such names, and so are shown on one line. -/
namespace Layering

namespace Path

variable {base p : Path}

theorem oneLine_join (above : Text.OneLine base.text) (plain : Text.OneLine p.text) :
    Text.OneLine (base.join p).text := by
  unfold join
  repeat' split
  all_goals simp +decide [*]

theorem oneLine_displayBelow (plain : Text.OneLine p.text) : Text.OneLine (base.displayBelow p) := by
  unfold displayBelow
  split
  · rename_i parts below
    rw [displayParts, Text.oneLine_join, List.forall_mem_map]
    have whole := dropParts?_eq_some.mp below
    exact fun part listed => oneLine_parts.mpr plain part (whole ▸ List.mem_append_right _ listed)
  · exact oneLine_display.mpr plain

end Path

namespace Tree

/-- No entry has a line break in its name. -/
inductive OneLine : Tree → Prop
  | file (bytes : ByteArray) : OneLine (.file bytes)
  | directory {entries : List (String × Tree)} (names : ∀ entry ∈ entries, Text.OneLine entry.1)
      (inside : ∀ entry ∈ entries, OneLine entry.2) : OneLine (.directory entries)

theorem oneLine_directory {entries : List (String × Tree)} : OneLine (.directory entries) ↔
    (∀ entry ∈ entries, Text.OneLine entry.1) ∧ ∀ entry ∈ entries, entry.2.OneLine :=
  ⟨fun | .directory names inside => ⟨names, inside⟩, fun ⟨names, inside⟩ => .directory names inside⟩

theorem OneLine.of_below? {t child : Tree} (plain : t.OneLine) {way : List String}
    (found : t.below? way = some child) : child.OneLine :=
  Tree.of_below? (fun _ plain => (oneLine_directory.mp plain).2) plain found

theorem OneLine.entries {t : Tree} (plain : t.OneLine) {entry : String × Tree} (listed : entry ∈ t.entries) :
    Text.OneLine entry.1 ∧ entry.2.OneLine := by
  cases plain with
  | file => cases listed
  | directory names inside => exact ⟨names entry listed, inside entry listed⟩

theorem oneLine_of_run {segments : List String} {spot : Spot} {e : ReadError}
    (failed : segments.foldlM Spot.step spot = .error e) : Text.OneLine e.message := by
  induction segments generalizing spot with
  | nil => cases failed
  | cons segment segments ih =>
    rw [List.foldlM_cons] at failed
    cases went : spot.step segment with
    | ok next =>
      rw [went] at failed
      exact ih failed
    | error e' =>
      rw [went] at failed
      obtain rfl : e' = e := Except.error.inj failed
      unfold Spot.step at went
      split at went
      · exact Except.error.inj went ▸ by decide
      · split at went
        · cases went
        · split at went
          · cases went
          · split at went
            · cases went
            · exact Except.error.inj went ▸ by decide

/-- Reading a file of a file system fails for reasons that are told on one line. -/
theorem oneLine_of_read {t : Tree} {p : Path} {e : ReadError} (failed : t.read p = .error e) :
    Text.OneLine e.message := by
  unfold Tree.read at failed
  split at failed
  · rename_i e' stuck
    obtain rfl := Except.error.inj failed
    unfold Tree.locate at stuck
    split at stuck
    · exact oneLine_of_run stuck
    · exact Except.error.inj stuck ▸ by decide
  · exact Except.error.inj failed ▸ by decide
  · split at failed
    · cases failed
    · exact Except.error.inj failed ▸ by decide

end Tree

namespace Discovery

mutual

theorem Walk.oneLine_of_files (w : Walk) (scopes : List Ignore.Scope) (way : List String) {t : Tree} (plain : t.OneLine)
    {found : List String} (listed : found ∈ w.files scopes way t) : ∀ name ∈ found, name ∈ way ∨ Text.OneLine name := by
  cases t with
  | file bytes =>
    rw [Walk.files, List.mem_singleton] at listed
    exact fun name member => .inl (listed ▸ member)
  | directory entries =>
    obtain ⟨names, inside⟩ := Tree.oneLine_directory.mp plain
    rw [Walk.files] at listed
    exact w.oneLine_of_filesAmong _ way names inside listed

theorem Walk.oneLine_of_filesAmong (w : Walk) (scopes : List Ignore.Scope) (way : List String)
    {entries : List (String × Tree)} (names : ∀ entry ∈ entries, Text.OneLine entry.1)
    (inside : ∀ entry ∈ entries, entry.2.OneLine) {found : List String}
    (listed : found ∈ w.filesAmong scopes way entries) : ∀ name ∈ found, name ∈ way ∨ Text.OneLine name := by
  cases entries with
  | nil => simp [Walk.filesAmong] at listed
  | cons entry entries =>
    obtain ⟨name, child⟩ := entry
    obtain ⟨named, names'⟩ := List.forall_mem_cons.mp names
    obtain ⟨plain, inside'⟩ := List.forall_mem_cons.mp inside
    rw [Walk.filesAmong, List.mem_append] at listed
    rcases listed with here | later
    · split at here
      · cases here
      · intro other member
        rcases w.oneLine_of_files _ (way ++ [name]) plain here other member with before | oneLine
        · exact (List.mem_append.mp before).imp_right (fun last => (List.mem_singleton.mp last : other = name) ▸ named)
        · exact .inr oneLine
    · exact w.oneLine_of_filesAmong scopes way names' inside' later

end

end Discovery

theorem Tree.inherited_oneLine : Tree.Inherited Tree.OneLine Text.OneLine where
  name plain listed := (plain.entries listed).1
  tree plain listed := (plain.entries listed).2

/-- The ways that a pattern describes in a file system without line breaks in names have none either. -/
theorem Glob.oneLine_of_expand {t : Tree} (plain : t.OneLine) (components : List Glob) :
    ∀ way ∈ expand components ⟨t, []⟩, ∀ name ∈ way, Text.OneLine name :=
  way_of_expand Tree.inherited_oneLine (by decide) (by decide) (by decide) components ⟨plain, by simp⟩

end Layering
