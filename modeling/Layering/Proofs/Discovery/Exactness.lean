import Layering.Proofs.Discovery.SourceRoot

/-! Which files are found. With ignore files out of the way, discovery finds the files below the directory with the
sources that have the extension of a source, that no directory on the way hides and that no pattern excludes, and each
of them once. -/
namespace Layering

namespace Text

theorem fileName_of_isName {name : String} (proper : Path.IsName name) : fileName name = name := by
  simp [fileName, split, segments_of_not_mem proper.whole]

theorem isFileName_of_isName {name : String} (proper : Path.IsName name) : isFileName name = true := by
  simp [isFileName, proper.some?, proper.notHere, proper.notUp]

/-- The extension is what follows the last dot, if something stands before that dot. -/
theorem cutExtension_eq_some {name extension : String} : (cutExtension name).2 = some extension ↔
    ∃ stem, name = stem ++ "." ++ extension ∧ stem ≠ "" ∧ '.' ∉ extension.toList := by
  have cut := takeWhile_and_dropWhile_eq (p := (· ≠ '.')) (a := '.') (by simp) name.toList.reverse
  constructor
  · intro found
    simp only [cutExtension] at found
    split at found
    · rename_i dot before rest dropped
      cases found
      obtain rfl : dot = '.' := by simpa using not_of_head?_dropWhile (congrArg List.head? dropped)
      obtain ⟨whole, pass⟩ := (cut _ _).mp ⟨rfl, dropped⟩
      have forwards := congrArg List.reverse whole
      refine ⟨.ofList (before :: rest).reverse, String.toList_inj.mp ?_, by simp, fun listed => ?_⟩
      · simpa using forwards
      · rw [String.toList_ofList, List.mem_reverse] at listed
        simpa using pass '.' listed
    · cases found
  · rintro ⟨stem, rfl, some?, plain⟩
    rw [cutExtension_append some? plain]

theorem extension?_eq_some {name extension : String} (proper : Path.IsName name) : extension? name = some extension ↔
    ∃ stem, name = stem ++ "." ++ extension ∧ stem ≠ "" ∧ '.' ∉ extension.toList := by
  rw [extension?, fileName_of_isName proper, if_pos (isFileName_of_isName proper), cutExtension_eq_some]

end Text

namespace Tree

/-- No directory has two entries of one name. -/
inductive Distinct : Tree → Prop
  | file (bytes : ByteArray) : Distinct (.file bytes)
  | directory {entries : List (String × Tree)} (names : (entries.map (·.1)).Nodup)
      (inside : ∀ entry ∈ entries, Distinct entry.2) : Distinct (.directory entries)

theorem distinct_directory {entries : List (String × Tree)} :
    Distinct (.directory entries) ↔ (entries.map (·.1)).Nodup ∧ ∀ entry ∈ entries, Distinct entry.2 :=
  ⟨fun | .directory names inside => ⟨names, inside⟩, fun ⟨names, inside⟩ => .directory names inside⟩

theorem isAbsolute_of_locate {t : Tree} {p : Path} {spot : Spot} (located : t.locate p = .ok spot) :
    p.isAbsolute = true := by
  by_contra relative
  rw [locate, if_neg relative] at located
  cases located

theorem Distinct.of_below? {t child : Tree} (distinct : t.Distinct) {way : List String}
    (found : t.below? way = some child) : child.Distinct :=
  Tree.of_below? (fun _ distinct => (distinct_directory.mp distinct).2) distinct found

end Tree

namespace Discovery

/-- A way on which a walk goes down from a directory to a file. -/
structure Walk.Reaches (w : Walk) (t : Tree) (way : List String) : Prop where
  file : ∃ bytes, t.below? way = some (.file bytes)
  entered : ∀ name ∈ way.dropLast, name ∉ w.ignoreDirs

variable {w : Walk}

theorem Walk.reaches_file {bytes : ByteArray} {way : List String} : w.Reaches (.file bytes) way ↔ way = [] := by
  constructor
  · intro reaches
    obtain ⟨_, found⟩ := reaches.file
    cases way with
    | nil => rfl
    | cons name names => simp [Tree.below?, Tree.entry?, Tree.entries] at found
  · rintro rfl
    exact ⟨⟨bytes, rfl⟩, by simp⟩

/-- From a directory a walk goes on by an entry, which must be one that it enters if it goes on from there. -/
theorem Walk.reaches_directory {entries : List (String × Tree)} (names : (entries.map (·.1)).Nodup)
    {way : List String} : w.Reaches (.directory entries) way ↔
      ∃ name entry more, (name, entry) ∈ entries ∧ (entry.isDirectory = true → name ∉ w.ignoreDirs) ∧
        w.Reaches entry more ∧ way = name :: more := by
  constructor
  · rintro ⟨⟨bytes, found⟩, entered⟩
    cases way with
    | nil => cases found
    | cons name more =>
      obtain ⟨entry, first, later⟩ := Option.bind_eq_some_iff.mp found
      refine ⟨name, entry, more, (Policy.lookup_eq_some_iff names).mp first, fun directory => ?_,
        ⟨⟨bytes, later⟩, ?_⟩, rfl⟩
      · cases more with
        | nil =>
          rw [Option.some.inj later] at directory
          cases directory
        | cons next more => exact entered name List.mem_cons_self
      · cases more with
        | nil => exact List.forall_mem_nil _
        | cons next more => exact fun other listed => entered other (List.mem_cons_of_mem _ listed)
  · rintro ⟨name, entry, more, listed, entered, ⟨⟨bytes, found⟩, entered'⟩, rfl⟩
    have first : entries.lookup name = some entry := (Policy.lookup_eq_some_iff names).mpr listed
    refine ⟨⟨bytes, Option.bind_eq_some_iff.mpr ⟨entry, first, found⟩⟩, ?_⟩
    cases more with
    | nil => exact List.forall_mem_nil _
    | cons next more =>
      have directory : entry.isDirectory = true := by
        cases entry with
        | file bytes => simp [Tree.below?, Tree.entry?, Tree.entries] at found
        | directory entries => rfl
      exact List.forall_mem_cons.mpr ⟨entered directory, entered'⟩

theorem Walk.skips_eq (free : w.respectIgnore = false) (scopes : List Ignore.Scope) (way : List String) (name : String)
    (entry : Tree) : w.skips scopes way name entry = (entry.isDirectory && w.ignoreDirs.contains name) := by
  simp [Walk.skips, free]

mutual

/-- Without ignore files a walk finds what it reaches. By induction on the tree. -/
theorem Walk.mem_files (free : w.respectIgnore = false) (scopes : List Ignore.Scope) (way : List String) {t : Tree}
    (distinct : t.Distinct) (found : List String) :
    found ∈ w.files scopes way t ↔ ∃ more, w.Reaches t more ∧ found = way ++ more := by
  cases t with
  | file bytes => simp [Walk.files, Walk.reaches_file]
  | directory entries =>
    obtain ⟨names, inside⟩ := Tree.distinct_directory.mp distinct
    rw [Walk.files, Walk.mem_filesAmong free _ way inside]
    simp only [Walk.reaches_directory names]
    constructor
    · rintro ⟨name, entry, more, listed, entered, reaches, rfl⟩
      exact ⟨name :: more, ⟨name, entry, more, listed, entered, reaches, rfl⟩, rfl⟩
    · rintro ⟨_, ⟨name, entry, more, listed, entered, reaches, rfl⟩, rfl⟩
      exact ⟨name, entry, more, listed, entered, reaches, rfl⟩

theorem Walk.mem_filesAmong (free : w.respectIgnore = false) (scopes : List Ignore.Scope) (way : List String)
    {entries : List (String × Tree)} (inside : ∀ entry ∈ entries, entry.2.Distinct) {found : List String} :
    found ∈ w.filesAmong scopes way entries ↔
      ∃ name entry more, (name, entry) ∈ entries ∧ (entry.isDirectory = true → name ∉ w.ignoreDirs) ∧
        w.Reaches entry more ∧ found = way ++ name :: more := by
  cases entries with
  | nil => simp [Walk.filesAmong]
  | cons first entries =>
    obtain ⟨name, entry⟩ := first
    obtain ⟨distinct, inside'⟩ := List.forall_mem_cons.mp inside
    -- Said of the entry itself and before the cases, so that the recursion goes down the tree.
    have own := Walk.mem_files free (scopes.map fun scope => scope.enter name) (way ++ [name]) distinct
    rw [Walk.filesAmong, List.mem_append, Walk.mem_filesAmong free scopes way inside']
    constructor
    · rintro (here | ⟨other, child, more, listed, entered, reaches, rfl⟩)
      · split at here
        · cases here
        · rename_i kept
          obtain ⟨more, reaches, rfl⟩ := (own found).mp here
          refine ⟨name, entry, more, List.mem_cons_self, fun directory hidden => kept ?_, reaches, by simp⟩
          simp [Walk.skips_eq free, directory, hidden]
      · exact ⟨other, child, more, List.mem_cons_of_mem _ listed, entered, reaches, rfl⟩
    · rintro ⟨other, child, more, listed, entered, reaches, rfl⟩
      rcases List.mem_cons.mp listed with same | later
      · obtain ⟨rfl, rfl⟩ := Prod.mk.inj same
        refine .inl ?_
        rw [if_neg (by simpa [Walk.skips_eq free] using entered)]
        exact (own _).mpr ⟨more, reaches, by simp⟩
      · exact .inr ⟨other, child, more, later, entered, reaches, rfl⟩

end

mutual

/-- A walk comes by a file once, as entries of one directory have different names. -/
theorem Walk.nodup_files (free : w.respectIgnore = false) (scopes : List Ignore.Scope) (way : List String) {t : Tree}
    (distinct : t.Distinct) : (w.files scopes way t).Nodup := by
  cases t with
  | file bytes => exact List.nodup_singleton way
  | directory entries =>
    obtain ⟨names, inside⟩ := Tree.distinct_directory.mp distinct
    rw [Walk.files]
    exact Walk.nodup_filesAmong free _ way names inside

theorem Walk.nodup_filesAmong (free : w.respectIgnore = false) (scopes : List Ignore.Scope) (way : List String)
    {entries : List (String × Tree)} (names : (entries.map (·.1)).Nodup)
    (inside : ∀ entry ∈ entries, entry.2.Distinct) : (w.filesAmong scopes way entries).Nodup := by
  cases entries with
  | nil => exact List.nodup_nil
  | cons first entries =>
    obtain ⟨name, entry⟩ := first
    obtain ⟨distinct, inside'⟩ := List.forall_mem_cons.mp inside
    obtain ⟨fresh, names'⟩ := List.nodup_cons.mp names
    rw [Walk.filesAmong]
    refine List.nodup_append.mpr ⟨?_, Walk.nodup_filesAmong free scopes way names' inside', ?_⟩
    · split
      · exact List.nodup_nil
      · exact Walk.nodup_files free _ _ distinct
    · intro found here later later' same
      subst same
      split at here
      · cases here
      · obtain ⟨more, -, whole⟩ := (Walk.mem_files free _ _ distinct found).mp here
        obtain ⟨other, child, more', listed, -, -, whole'⟩ := (Walk.mem_filesAmong free _ _ inside').mp later'
        rw [whole, List.append_assoc, List.append_cancel_left_eq, List.singleton_append, List.cons.injEq] at whole'
        exact fresh (List.mem_map.mpr ⟨_, listed, whole'.1.symm⟩)

end

theorem isSource_iff {d : Discovery} {name : String} (proper : Path.IsName name) : isSource d name = true ↔
    ∃ stem extension, name = stem ++ "." ++ extension ∧ stem ≠ "" ∧ '.' ∉ extension.toList ∧
      extension ∈ d.extensions := by
  simp only [isSource, Option.any_eq_true, List.contains_iff_mem, Text.extension?_eq_some proper]
  constructor
  · rintro ⟨extension, ⟨stem, spelt, some?, plain⟩, listed⟩
    exact ⟨stem, extension, spelt, some?, plain, listed⟩
  · rintro ⟨stem, extension, spelt, some?, plain, listed⟩
    exact ⟨extension, ⟨stem, spelt, some?, plain⟩, listed⟩

theorem isSource_getLast?_iff {d : Discovery} {way : List String} (proper : ∀ name ∈ way, Path.IsName name) :
    way.getLast?.any (isSource d) = true ↔
      ∃ stem extension, way.getLast? = some (stem ++ "." ++ extension) ∧ stem ≠ "" ∧ '.' ∉ extension.toList ∧
        extension ∈ d.extensions := by
  rw [Option.any_eq_true]
  constructor
  · rintro ⟨name, last, isSource⟩
    obtain ⟨stem, extension, rfl, rest⟩ := (isSource_iff (proper name (List.mem_of_getLast? last))).mp isSource
    exact ⟨stem, extension, last, rest⟩
  · rintro ⟨stem, extension, last, rest⟩
    exact ⟨_, last, (isSource_iff (proper _ (List.mem_of_getLast? last))).mpr ⟨stem, extension, rfl, rest⟩⟩

section Walked

variable {sources : Tree} {way : List String}

/-- What a walk from a directory with sources finds where no ignore files are above it. -/
def walked (w : Walk) (sources : Tree) : List (List String) := w.files [] [] sources

theorem isName_of_walked (named : sources.WellNamed) (found : way ∈ walked w sources) :
    ∀ name ∈ way, Path.IsName name := by
  obtain ⟨more, rfl, proper, -⟩ := Walk.names_of_files _ _ _ named found
  exact proper

theorem mem_walked (free : w.respectIgnore = false) (distinct : sources.Distinct) :
    way ∈ walked w sources ↔ w.Reaches sources way :=
  (Walk.mem_files free [] [] distinct way).trans (by simp)

theorem nodup_walked (free : w.respectIgnore = false) (distinct : sources.Distinct) : (walked w sources).Nodup :=
  Walk.nodup_files free [] [] distinct

theorem find_paths {d : Discovery} (free : d.respectGitignore = false) (exclude : List Glob) (user : Ignore.UserFile)
    {tree : Tree} (project : Path) {sourceDirectory : Path}
    (there : tree.below? (wayTo sourceDirectory) = some sources) :
    (find d exclude user tree project sourceDirectory).paths =
      (((walked (d.walk user sourceDirectory) sources).filter fun way => way.getLast?.any (isSource d)).map
        fun way => project.displayBelow (sourceDirectory.join ⟨Text.join "/" way⟩)).filter
          fun path => !exclude.any fun glob => glob.isMatch path := by
  simp only [find, there, free, Bool.false_eq_true, if_false, Option.map_some, Option.getD_some]
  rfl

end Walked

end Discovery

open Discovery (isSource_getLast?_iff walked isName_of_walked mem_walked nodup_walked)

namespace Project

/-- The path under which a file is found to which a way leads from a directory with sources. -/
def shown (directory sourceDirectory : Path) (way : List String) : String :=
  directory.displayBelow (sourceDirectory.join ⟨Text.join "/" way⟩)

/-- A way from a directory with sources to a file that is to be checked. -/
structure IsSource (d : Discovery) (patterns : List String) (directory sourceDirectory : Path) (sources : Tree)
    (way : List String) : Prop where
  file : ∃ bytes, sources.below? way = some (.file bytes)
  /-- The directories on the way. -/
  entered : ∀ name ∈ way.dropLast, name ∉ d.ignoreDirs
  extension : ∃ stem extension, way.getLast? = some (stem ++ "." ++ extension) ∧ stem ≠ "" ∧
    '.' ∉ extension.toList ∧ extension ∈ d.extensions
  keptByPolicy : ∀ glob ∈ d.exclude, glob.isMatch (shown directory sourceDirectory way) = false
  keptByRun : ∀ pattern ∈ patterns, ∀ glob, Glob.parse pattern = .ok glob →
    glob.isMatch (shown directory sourceDirectory way) = false

variable {tree : Tree} {directory sourceDirectory : Path}

theorem shown_inj (directory : Path) (absolute : sourceDirectory.isAbsolute = true) {way way' : List String}
    (proper : ∀ name ∈ way, Path.IsName name) (proper' : ∀ name ∈ way', Path.IsName name)
    (same : shown directory sourceDirectory way = shown directory sourceDirectory way') : way = way' := by
  have parts {way : List String} (proper : ∀ name ∈ way, Path.IsName name) :
      (sourceDirectory.join ⟨Text.join "/" way⟩).parts = sourceDirectory.parts ++ way.map .name := by
    rw [Path.parts_of_isAbsolute (Path.isAbsolute_join absolute _), Path.steps_join _ (Path.isAbsolute_names proper),
      Path.steps_names proper, Path.parts_of_isAbsolute absolute, List.cons_append]
  have equal := Path.displayBelow_inj (Path.isAbsolute_join absolute _) (Path.isAbsolute_join absolute _) same
  rw [parts proper, parts proper', List.append_cancel_left_eq] at equal
  exact List.map_injective_iff.mpr (fun _ _ => Path.Part.name.inj) equal

theorem mem_readExclude {patterns : List String} {globs : List Glob} (read : readExclude patterns = .ok globs)
    {glob : Glob} : glob ∈ globs ↔ ∃ pattern ∈ patterns, Glob.parse pattern = .ok glob := by
  simp only [readExclude] at read
  simp only [Policy.mem_of_mapM_eq_ok read, Policy.mapError_eq_ok]

theorem kept_iff {exclude : List Glob} {patterns : List String} {globs : List Glob}
    (read : readExclude patterns = .ok globs) {path : String} :
    (!(exclude ++ globs).any fun glob => glob.isMatch path) = true ↔
      (∀ glob ∈ exclude, glob.isMatch path = false) ∧
        ∀ pattern ∈ patterns, ∀ glob, Glob.parse pattern = .ok glob → glob.isMatch path = false := by
  simp only [Bool.not_eq_true', List.any_eq_false, Bool.not_eq_true, List.forall_mem_append, mem_readExclude read]
  refine and_congr_right fun _ => ⟨fun kept pattern listed glob parsed => kept glob ⟨pattern, listed, parsed⟩, ?_⟩
  rintro kept glob ⟨pattern, listed, parsed⟩
  exact kept pattern listed glob parsed

theorem isSource_iff_walked {d : Discovery} (free : d.respectGitignore = false) (user : Ignore.UserFile) {sources : Tree}
    (named : sources.WellNamed) (distinct : sources.Distinct) {patterns : List String} {globs : List Glob}
    (read : readExclude patterns = .ok globs) {way : List String} :
    IsSource d patterns directory sourceDirectory sources way ↔
      way ∈ walked (d.walk user sourceDirectory) sources ∧ way.getLast?.any (Discovery.isSource d) = true ∧
        (!(d.exclude ++ globs).any fun glob => glob.isMatch (shown directory sourceDirectory way)) = true := by
  constructor
  · intro source
    have found : way ∈ walked (d.walk user sourceDirectory) sources :=
      (mem_walked free distinct).mpr ⟨source.file, source.entered⟩
    exact ⟨found, (isSource_getLast?_iff (isName_of_walked named found)).mpr source.extension,
      (kept_iff read).mpr ⟨source.keptByPolicy, source.keptByRun⟩⟩
  · rintro ⟨found, last, kept⟩
    obtain ⟨file, entered⟩ := (mem_walked free distinct).mp found
    obtain ⟨own, given⟩ := (kept_iff read).mp kept
    exact ⟨file, entered, (isSource_getLast?_iff (isName_of_walked named found)).mp last, own, given⟩

/-- Discovery is exact. A project that heeds no ignore files, not even that of the user, finds each source below the
directory with the sources under a path of its own, finds it once, and finds nothing else. -/
theorem discover_exact {p : Policy} {rules : List Rule} {sourceRoot : Option Path} {patterns : List String}
    {user : Ignore.UserFile} {project : Project} (named : tree.WellNamed) (distinct : tree.Distinct)
    (free : p.discovery.respectGitignore = false)
    (made : make tree directory p rules sourceRoot patterns user = .ok project) :
    ∃ sourceDirectory spot, sourceDirectory = directory.join (sourceRoot.getD ⟨p.discovery.root⟩) ∧
      tree.locate sourceDirectory = .ok spot ∧ spot.here.isDirectory = true ∧
      (∀ path, path ∈ (project.discover tree).paths ↔
        ∃ way, IsSource p.discovery patterns directory sourceDirectory spot.here way ∧
          path = shown directory sourceDirectory way) ∧
      (project.discover tree).paths.Nodup ∧
      ∀ way way', IsSource p.discovery patterns directory sourceDirectory spot.here way →
        IsSource p.discovery patterns directory sourceDirectory spot.here way' →
          shown directory sourceDirectory way = shown directory sourceDirectory way' → way = way' := by
  obtain ⟨exists?, globs, read, rfl⟩ := make_eq_ok.mp made
  rw [Tree.holdsAt] at exists?
  split at exists?
  · rename_i spot located
    have there := Discovery.below?_wayTo located
    have absolute := Tree.isAbsolute_of_locate located
    have named' := named.of_below? there
    have distinct' := distinct.of_below? there
    let walk := p.discovery.walk user (directory.join (sourceRoot.getD ⟨p.discovery.root⟩))
    have apart {way way' : List String} (found : way ∈ walked walk spot.here) (found' : way' ∈ walked walk spot.here) :=
      shown_inj directory absolute (isName_of_walked named' found) (isName_of_walked named' found')
    have paths := Discovery.find_paths free (p.discovery.exclude ++ globs) user directory there
    refine ⟨_, spot, rfl, located, exists?, fun path => ?_, ?_, fun way way' source source' => ?_⟩
    · simp only [discover, paths, List.mem_filter, List.mem_map, isSource_iff_walked free user named' distinct' read]
      constructor
      · rintro ⟨⟨way, ⟨found, last⟩, rfl⟩, kept⟩
        exact ⟨way, ⟨found, last, kept⟩, rfl⟩
      · rintro ⟨way, ⟨found, last, kept⟩, rfl⟩
        exact ⟨⟨way, ⟨found, last⟩, rfl⟩, kept⟩
    · simp only [discover, paths]
      refine (((nodup_walked free distinct').filter _).map_on fun way found way' found' => ?_).filter _
      exact apart (List.mem_of_mem_filter found) (List.mem_of_mem_filter found')
    · exact apart ((isSource_iff_walked free user named' distinct' read).mp source).1
        ((isSource_iff_walked free user named' distinct' read).mp source').1
  · cases exists?

section TwoLayers

open Policy (twoLayersPolicy)

/-- The policy of two layers, without regard to ignore files. -/
def heedlessPolicy : Policy :=
  { twoLayersPolicy with discovery := { twoLayersPolicy.discovery with respectGitignore := false } }

theorem distinct_twoFiles : twoFiles.Distinct := by
  have app : Tree.Distinct (.directory [("a.ts", .file .empty)]) := .directory (by decide) (by simpa using .file _)
  have shared : Tree.Distinct (.directory [("b.ts", .file .empty)]) := .directory (by decide) (by simpa using .file _)
  have src : Tree.Distinct (.directory [("app", .directory [("a.ts", .file .empty)]),
      ("shared", .directory [("b.ts", .file .empty)])]) := .directory (by decide) (by simpa using ⟨app, shared⟩)
  exact .directory (by decide) (by simpa using src)

/-- Of two files, one is excluded by a pattern, and the other one is found. -/
theorem discover_exact_twoFiles : twoFiles.WellNamed ∧ twoFiles.Distinct ∧
    heedlessPolicy.discovery.respectGitignore = false ∧
    ∃ project, make twoFiles ⟨"/"⟩ heedlessPolicy Rule.selectable none ["src/shared/**"] = .ok project ∧
      (project.discover twoFiles).paths.Nodup ∧ "src/app/a.ts" ∈ (project.discover twoFiles).paths ∧
      "src/shared/b.ts" ∉ (project.discover twoFiles).paths := by
  let glob : Glob := ⟨"src/shared/**", "src/shared/".toList.map .char ++ [.anyComponents]⟩
  have parsed : Glob.parse "src/shared/**" = .ok glob := by decide +kernel
  have made : make twoFiles ⟨"/"⟩ heedlessPolicy Rule.selectable none ["src/shared/**"] =
      .ok ⟨⟨"/"⟩, heedlessPolicy, Rule.selectable, ⟨"src"⟩, [glob], {}⟩ :=
    make_eq_ok.mpr ⟨by decide +kernel, [glob], by decide +kernel, rfl⟩
  obtain ⟨_, spot, rfl, located, -, found, once, -⟩ := discover_exact wellNamed_twoFiles distinct_twoFiles rfl made
  have way : Discovery.wayTo (Path.join ⟨"/"⟩ ⟨"src"⟩) = ["src"] := by decide +kernel
  have file : spot.here.below? ["app", "a.ts"] = some (.file .empty) := by
    have whole : twoFiles.below? (["src"] ++ ["app", "a.ts"]) = some (.file .empty) := rfl
    have there : twoFiles.below? (Discovery.wayTo (Path.join ⟨"/"⟩ ⟨"src"⟩)) = some spot.here :=
      Discovery.below?_wayTo located
    rw [Tree.below?_append, ← way, there] at whole
    exact whole
  have path : shown ⟨"/"⟩ (Path.join ⟨"/"⟩ ⟨"src"⟩) ["app", "a.ts"] = "src/app/a.ts" := by decide +kernel
  refine ⟨wellNamed_twoFiles, distinct_twoFiles, rfl, _, made, once, (found _).mpr ⟨["app", "a.ts"], ?_, path.symm⟩, ?_⟩
  · refine ⟨⟨_, file⟩, by decide, ⟨"a", "ts", rfl, by decide, by decide, by decide⟩, nofun, fun pattern listed => ?_⟩
    obtain rfl := List.mem_singleton.mp listed
    intro other read
    obtain rfl := Except.ok.inj (parsed.symm.trans read)
    decide +kernel
  · decide +kernel

end TwoLayers

end Project

end Layering
