import Layering.Proofs.Tree.Growth

/-! Discovery in a tree to which files are added. If none of them is an ignore file, everything else is found as before,
whatever its directory lists first. -/
namespace Layering

namespace Ignore

variable {added : List String → Prop} {t t' : Tree}

/-- No ignore file is among the places. -/
def Spares (added : List String → Prop) : Prop := ∀ above, ∀ way ∈ ways, ¬added (above ++ way)

theorem Spares.below (spares : Spares added) (above : List String) : Spares fun way => added (above ++ way) := by
  intro between way listed
  simpa using spares (above ++ between) way listed

theorem File.find_eq (grows : t.Grows added t') {way : List String} (old : ¬added way) :
    File.find t way = File.find t' way := by
  have bytes : (t.below? way).bind Tree.bytes? = (t'.below? way).bind Tree.bytes? := by
    simpa [Option.bind_map] using congrArg (·.bind id) (grows.same way old)
  rw [find, find, bytes]

theorem Scope.ofDirectory_eq (grows : t.Grows added t') (spares : Spares added) :
    Scope.ofDirectory t = Scope.ofDirectory t' := by
  have files : ways.map (File.find t) = ways.map (File.find t') :=
    List.map_congr_left fun way listed => File.find_eq grows (spares [] way listed)
  rw [ofDirectory, ofDirectory, files]

end Ignore

namespace Discovery

open Ignore (Spares)

variable {added : List String → Prop} {t t' : Tree} {w : Walk}

theorem scopesAbove_eq (grows : t.Grows added t') (spares : Spares added) {way : List String}
    (exists? : (t.below? way).isSome = true) : scopesAbove t way = scopesAbove t' way := by
  induction way generalizing t t' added with
  | nil => rfl
  | cons name way ih =>
    obtain ⟨found, there⟩ := Option.isSome_iff_exists.mp exists?
    obtain ⟨entry, first, later⟩ := Option.bind_eq_some_iff.mp there
    obtain ⟨entry', first', -, grows'⟩ := grows.child first
    have below := ih grows' (spares.below [name]) (by simp [later])
    rw [scopesAbove, scopesAbove, first, first', Ignore.Scope.ofDirectory_eq grows spares]
    simp only [Option.map_some, Option.getD_some, below]

theorem problemsAbove_eq (grows : t.Grows added t') (spares : Spares added) (above : List String) {way : List String}
    (exists? : (t.below? way).isSome = true) : problemsAbove above t way = problemsAbove above t' way := by
  induction way generalizing t t' added above with
  | nil => rfl
  | cons name way ih =>
    obtain ⟨found, there⟩ := Option.isSome_iff_exists.mp exists?
    obtain ⟨entry, first, later⟩ := Option.bind_eq_some_iff.mp there
    obtain ⟨entry', first', -, grows'⟩ := grows.child first
    have below := ih grows' (spares.below [name]) (above ++ [name]) (by simp [later])
    have files : ∀ way ∈ Ignore.ways, Ignore.File.find t way = Ignore.File.find t' way :=
      fun way listed => Ignore.File.find_eq grows (spares [] way listed)
    rw [problemsAbove, problemsAbove, first, first']
    simp only [Option.map_some, below]
    congr 1
    refine List.flatMap_congr fun way listed => ?_
    rw [files way listed]

theorem Walk.mem_filesAmong_iff (scopes : List Ignore.Scope) (way : List String) (entries : List (String × Tree))
    {found : List String} : found ∈ w.filesAmong scopes way entries ↔
      ∃ entry ∈ entries, w.skips (scopes.map fun scope => scope.enter entry.1) way entry.1 entry.2 = false ∧
        found ∈ w.files (scopes.map fun scope => scope.enter entry.1) (way ++ [entry.1]) entry.2 := by
  induction entries with
  | nil => simp [Walk.filesAmong]
  | cons entry entries ih =>
    obtain ⟨name, child⟩ := entry
    rw [Walk.filesAmong, List.mem_append, ih]
    simp only [List.mem_cons, exists_eq_or_imp]
    refine or_congr_left ?_
    cases w.skips (scopes.map fun scope => scope.enter name) way name child <;> simp

/-- Nothing is found in a directory whose only entry is left out. -/
theorem Walk.files_of_skips {scopes : List Ignore.Scope} {way : List String} {name : String} {entry : Tree}
    (skips : w.skips ((Ignore.Scope.ofDirectory (.directory [(name, entry)]) :: scopes).map fun scope =>
      scope.enter name) way name entry = true) : w.files scopes way (.directory [(name, entry)]) = [] := by
  rw [Walk.files, Walk.filesAmong, if_pos skips]
  rfl

theorem Walk.mem_files_nil {scopes : List Ignore.Scope} {way : List String} (named : t.WellNamed) :
    way ∈ w.files scopes way t ↔ t.isFile = true := by
  cases t with
  | file bytes => simp [Walk.files, Tree.isFile]
  | directory entries =>
    refine iff_of_false (fun found => ?_) Bool.false_ne_true
    obtain ⟨more, whole, -, some?⟩ := Walk.names_of_files w scopes way named found
    exact some? rfl (List.self_eq_append_right.mp whole)

/-- A walk goes on by the entry of a directory that a way goes on by. -/
theorem Walk.mem_files_cons {scopes : List Ignore.Scope} {way more : List String} {name : String}
    (named : t.WellNamed) (distinct : t.Distinct) : way ++ name :: more ∈ w.files scopes way t ↔
      ∃ entry, t.entry? name = some entry ∧
        w.skips ((Ignore.Scope.ofDirectory t :: scopes).map fun scope => scope.enter name) way name entry = false ∧
        way ++ [name] ++ more ∈
          w.files ((Ignore.Scope.ofDirectory t :: scopes).map fun scope => scope.enter name) (way ++ [name]) entry := by
  cases t with
  | file bytes => simp [Walk.files, Tree.entry?, Tree.entries]
  | directory entries =>
    obtain ⟨names, -⟩ := Tree.distinct_directory.mp distinct
    obtain ⟨-, inside⟩ := Tree.wellNamed_directory.mp named
    rw [Walk.files, Walk.mem_filesAmong_iff]
    constructor
    · rintro ⟨⟨other, entry⟩, listed, kept, found⟩
      obtain ⟨more', whole, -, -⟩ := Walk.names_of_files w _ _ (inside _ listed) found
      rw [List.append_assoc, List.append_cancel_left_eq, List.singleton_append, List.cons.injEq] at whole
      obtain ⟨rfl, rfl⟩ := whole
      refine ⟨entry, (Policy.lookup_eq_some_iff names).mpr listed, kept, ?_⟩
      simpa using found
    · rintro ⟨entry, first, kept, found⟩
      refine ⟨(name, entry), (Policy.lookup_eq_some_iff names).mp first, kept, ?_⟩
      simpa using found

theorem Walk.file_of_files {scopes : List Ignore.Scope} {way more : List String} (named : t.WellNamed)
    (distinct : t.Distinct) (found : way ++ more ∈ w.files scopes way t) :
    ∃ bytes, t.below? more = some (.file bytes) := by
  induction more generalizing t scopes way with
  | nil =>
    rw [List.append_nil, Walk.mem_files_nil named] at found
    cases t with
    | file bytes => exact ⟨bytes, rfl⟩
    | directory entries => cases found
  | cons name more ih =>
    obtain ⟨entry, first, -, later⟩ := (Walk.mem_files_cons named distinct).mp found
    have there : t.below? [name] = some entry := by simp [Tree.below?, first]
    obtain ⟨bytes, file⟩ := ih (named.of_below? there) (distinct.of_below? there) later
    exact ⟨bytes, by rw [Tree.below?, first, Option.bind_some, file]⟩

/-- A walk comes by the same files as before. By induction on the way, as entries may have changed their order. -/
theorem Walk.mem_files_grown (scopes : List Ignore.Scope) (way : List String) {more : List String}
    (grows : t.Grows added t') (spares : Spares added) (named : t.WellNamed) (named' : t'.WellNamed)
    (distinct : t.Distinct) (distinct' : t'.Distinct) (old : ¬added more) :
    way ++ more ∈ w.files scopes way t ↔ way ++ more ∈ w.files scopes way t' := by
  induction more generalizing t t' added scopes way with
  | nil =>
    have same : t.bytes? = t'.bytes? := by simpa [Tree.below?] using grows.same [] old
    rw [List.append_nil, Walk.mem_files_nil named, Walk.mem_files_nil named', Tree.isFile_eq, Tree.isFile_eq, same]
  | cons name more ih =>
    rw [Walk.mem_files_cons named distinct, Walk.mem_files_cons named' distinct',
      Ignore.Scope.ofDirectory_eq grows spares]
    have inside {t entry : Tree} (first : t.entry? name = some entry) : t.below? [name] = some entry := by
      simp [Tree.below?, first]
    have onwards {entry entry' : Tree} (first : t.entry? name = some entry) (first' : t'.entry? name = some entry')
        (scopes : List Ignore.Scope) :
        w.skips scopes way name entry = w.skips scopes way name entry' ∧
          (way ++ [name] ++ more ∈ w.files scopes (way ++ [name]) entry ↔
            way ++ [name] ++ more ∈ w.files scopes (way ++ [name]) entry') := by
      obtain ⟨_, found, same, grows'⟩ := grows.child first
      obtain rfl := Option.some.inj (first'.symm.trans found)
      refine ⟨by simp [Walk.skips, Tree.isDirectory, Tree.isFile_eq, same], ?_⟩
      exact ih _ _ grows' (spares.below [name]) (named.of_below? (inside first)) (named'.of_below? (inside first'))
        (distinct.of_below? (inside first)) (distinct'.of_below? (inside first')) old
    constructor
    · rintro ⟨entry, first, kept, found⟩
      obtain ⟨entry', first', -⟩ := grows.child first
      obtain ⟨skips, files⟩ := onwards first first' _
      exact ⟨entry', first', skips ▸ kept, files.mp found⟩
    · -- The new tree may have an entry where the old one has none, but only if all that is below it is new.
      rintro ⟨entry', first', kept, found⟩
      obtain ⟨bytes, file⟩ := Walk.file_of_files (named'.of_below? (inside first'))
        (distinct'.of_below? (inside first')) found
      have same := grows.same _ old
      cases first : t.entry? name with
      | none => simp [Tree.below?, first, first', file] at same
      | some entry =>
        obtain ⟨skips, files⟩ := onwards first first' _
        exact ⟨entry, rfl, skips ▸ kept, files.mpr found⟩

end Discovery

namespace Discovery

variable {added : List String → Prop} {t t' : Tree}

/-- A path that is found is how a file below the directory with the sources is shown. -/
theorem exists_of_mem_paths {d : Discovery} {exclude : List Glob} {user : Ignore.UserFile} {project sources : Path}
    {spot : Spot} {path : String}
    (named : t.WellNamed) (distinct : t.Distinct) (located : t.locate sources = .ok spot)
    (found : path ∈ (find d exclude user t project sources).paths) :
    ∃ way bytes, (∀ name ∈ way, Path.IsName name) ∧ spot.here.below? way = some (.file bytes) ∧
      path = project.displayBelow (sources.join ⟨Text.join "/" way⟩) := by
  have there := below?_wayTo located
  simp only [find, there, Option.map_some, Option.getD_some, List.mem_filter, List.mem_map] at found
  obtain ⟨⟨way, ⟨walked, -⟩, rfl⟩, -⟩ := found
  obtain ⟨_, rfl, proper, -⟩ := Walk.names_of_files _ _ [] (named.of_below? there) walked
  obtain ⟨bytes, file⟩ := Walk.file_of_files (named.of_below? there) (distinct.of_below? there) walked
  exact ⟨_, bytes, proper, file, rfl⟩

/-- Discovery finds the same sources as before if no source was added. -/
theorem find_grown {d : Discovery} (exclude : List Glob) (user : Ignore.UserFile) (project : Path) {sources : Path}
    {spot : Spot} (grows : t.Grows added t') (spares : Ignore.Spares added)
    (foreign : ∀ way, added way → way.getLast?.any (isSource d) = false) (named : t.WellNamed) (named' : t'.WellNamed)
    (distinct : t.Distinct) (distinct' : t'.Distinct) (located : t.locate sources = .ok spot) :
    (∀ path, path ∈ (find d exclude user t project sources).paths ↔
        path ∈ (find d exclude user t' project sources).paths) ∧
      (find d exclude user t project sources).issues = (find d exclude user t' project sources).issues := by
  have there := below?_wayTo located
  obtain ⟨sources', there', -, below⟩ := grows.below there
  have scopes := scopesAbove_eq grows spares (Option.isSome_of_eq_some there)
  have problems := problemsAbove_eq grows spares [] (Option.isSome_of_eq_some there)
  have walked (scopes : List Ignore.Scope) (way : List String) :
      way ∈ (((d.walk user sources).files scopes [] spot.here).filter fun way => way.getLast?.any (isSource d)) ↔
        way ∈ (((d.walk user sources).files scopes [] sources').filter fun way => way.getLast?.any (isSource d)) := by
    rw [List.mem_filter, List.mem_filter]
    refine and_congr_left fun source => ?_
    have old : ¬added (wayTo sources ++ way) := fun isNew => by
      obtain ⟨name, last, isSource⟩ := (Option.any_eq_true _ _).mp source
      simpa [last, isSource] using foreign _ isNew
    exact Walk.mem_files_grown scopes [] below (spares.below _) (named.of_below? there) (named'.of_below? there')
      (distinct.of_below? there) (distinct'.of_below? there') old
  simp only [find, there, there', scopes, problems, Option.map_some, Option.getD_some, and_true]
  intro path
  rw [List.mem_filter, List.mem_filter, List.mem_map, List.mem_map]
  simp only [walked]

end Discovery

end Layering
