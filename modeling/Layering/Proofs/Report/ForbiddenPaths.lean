import Layering.Check.ForbiddenPath
import Layering.Proofs.Glob.Depth
import Layering.Proofs.Glob.Standing
import Layering.Proofs.Policy.Invariants
import Layering.Proofs.Resolution.Normal
import Layering.Proofs.Tree.Reading

/-! Forbidden paths, wherever a project lies. The path of the project is put before a pattern as text, and is taken off
what is found as a path. That leads to the project and shows what is found from there, unless the path ends in a
backslash, which is dropped with the slashes at the end. -/
namespace Layering

theorem Tree.inherited_wellNamed : Inherited WellNamed Path.IsName where
  name {t _} named listed := by
    cases t with
    | file bytes => cases listed
    | directory entries => exact (wellNamed_directory.mp named).1 _ listed
  tree {t _} named listed := by
    cases t with
    | file bytes => cases listed
    | directory entries => exact (wellNamed_directory.mp named).2 _ listed

/-- The names on the ways that a pattern describes hold no slash. -/
theorem Glob.whole_of_expand {spot : Spot} (all : spot.Throughout Tree.WellNamed) (components : List Glob) :
    ∀ way ∈ expand components spot, ∀ name ∈ way, '/' ∉ name.toList :=
  way_of_expand (Tree.inherited_wellNamed.imp fun _ proper => proper.whole) (by decide) (by decide) (by decide)
    components all

/-- Empty segments lead nowhere else. -/
theorem Spot.eq_of_run_empty {n : Nat} {s spot : Spot} (went : (List.replicate n "").foldlM Spot.step s = .ok spot) :
    s = spot := by
  induction n with
  | zero => exact Except.ok.inj went
  | succ n ih =>
    rw [List.replicate_succ, List.foldlM_cons, step_of_still rfl] at went
    split at went
    · cases went
    · exact ih went

namespace Check

/-- The slashes and backslashes at the end of a path. -/
def trimmed (directory : Path) : List Char := directory.text.toList.reverse.takeWhile fun c => c = '/' || c = '\\'

/-- Whether a path ends in a backslash, or in slashes and backslashes. -/
def EndsInBackslash (directory : Path) : Prop := '\\' ∈ trimmed directory

instance (directory : Path) : Decidable (EndsInBackslash directory) := inferInstanceAs (Decidable (_ ∈ _))

section Trimming

variable {directory : Path} {tree : Tree} {spot : Spot}

theorem trimmedText_append (directory : Path) :
    trimmedText directory ++ .ofList (trimmed directory).reverse = directory.text := by
  apply String.toList_inj.mp
  rw [trimmedText, trimmed, String.toList_append, String.toList_ofList, String.toList_ofList, ← List.reverse_append,
    List.takeWhile_append_dropWhile, List.reverse_reverse]

/-- Where no backslash is dropped, only slashes are. -/
theorem exists_split_eq (kept : ¬EndsInBackslash directory) :
    ∃ n, Text.split '/' directory.text = Text.split '/' (trimmedText directory) ++ List.replicate n "" := by
  have slashes : ∀ c ∈ (trimmed directory).reverse, c = '/' := by
    intro c dropped
    rw [List.mem_reverse] at dropped
    have either : c = '/' ∨ c = '\\' := by simpa using List.mem_takeWhile_imp dropped
    rcases either with slash | backslash
    · exact slash
    · exact absurd (backslash ▸ dropped : '\\' ∈ trimmed directory) kept
  refine ⟨(trimmed directory).reverse.length, ?_⟩
  rw [← Text.split_append_slashes, ← List.eq_replicate_of_mem slashes, trimmedText_append]

theorem steps_trimmedText (kept : ¬EndsInBackslash directory) :
    Path.steps ⟨trimmedText directory⟩ = directory.steps := by
  obtain ⟨n, cut⟩ := exists_split_eq kept
  rw [Path.steps, Path.steps, cut, List.filterMap_append]
  simp [Path.Part.ofSegment?]

/-- The path without what is dropped leads where the path does. -/
theorem run_trimmedText (kept : ¬EndsInBackslash directory) (located : tree.locate directory = .ok spot) :
    (Text.split '/' (trimmedText directory)).foldlM Spot.step ⟨tree, []⟩ = .ok spot := by
  obtain ⟨n, cut⟩ := exists_split_eq kept
  rw [Tree.locate, if_pos (Tree.isAbsolute_of_locate located), cut, List.foldlM_append] at located
  obtain ⟨last, went, still⟩ := Policy.bind_eq_ok.mp located
  rw [went, Spot.eq_of_run_empty still]

theorem trimmedText_of_isAbsolute (absolute : directory.isAbsolute = true) :
    trimmedText directory = "" ∨ Path.isAbsolute ⟨trimmedText directory⟩ = true := by
  by_cases none : trimmedText directory = ""
  · exact .inl none
  · refine .inr ?_
    rw [← Path.isAbsolute_append none (.ofList (trimmed directory).reverse), trimmedText_append]
    exact absolute

end Trimming

section Gluing

variable {directory : Path} {tree : Tree} {spot : Spot} {glob : Glob} {severity : Severity}

theorem isAbsolute_escape {text : String} (absolute : Path.isAbsolute ⟨text⟩ = true) :
    Path.isAbsolute ⟨Glob.escape text⟩ = true := by
  have start : text.toList.head? = some '/' := by simpa [Path.isAbsolute] using absolute
  obtain ⟨rest, spelt⟩ := List.head?_eq_some_iff.mp start
  simp [Path.isAbsolute, Glob.toList_escape, spelt, Glob.escapeChar]

/-- What is found by a pattern behind the path of a directory: what it describes from where the trimmed path leads. -/
theorem paths_absolutePattern (absolute : directory.isAbsolute = true) (distinct : tree.Distinct)
    (read : Glob.parse glob.text = .ok glob) :
    Glob.paths tree (absolutePattern directory glob.text) = glob.components.map fun components =>
      match (Text.split '/' (trimmedText directory)).foldlM Spot.step ⟨tree, []⟩ with
      | .ok spot => (Glob.expand components spot).map fun way =>
          ⟨Text.join "/" (Text.split '/' (trimmedText directory) ++ way)⟩
      | .error _ => [] := by
  have some? : directory.text ≠ "" := fun empty => by simp [Path.isAbsolute, empty] at absolute
  have start : Path.isAbsolute ⟨Glob.escape (trimmedText directory) ++ "/" ++ glob.text⟩ = true := by
    rcases trimmedText_of_isAbsolute absolute with none | absolute
    · rw [none]
      simp [Path.isAbsolute, Glob.escape]
    · have escaped := isAbsolute_escape absolute
      have some? : Glob.escape (trimmedText directory) ≠ "" := fun empty => by simp [Path.isAbsolute, empty] at escaped
      rw [String.append_assoc, Path.isAbsolute_append some?, escaped]
  rw [absolutePattern, if_neg some?, Glob.paths_append read]
  refine congrArg (Except.map · glob.components) (funext fun components => ?_)
  have stand : List.Forall₂ Glob.StandsFor ((Text.split '/' (trimmedText directory)).map Glob.exactly)
      (Text.split '/' (trimmedText directory)) :=
    List.forall₂_map_left_iff.mpr (List.forall₂_same.mpr fun name _ => Glob.standsFor_exactly name)
  rw [if_pos start, Glob.expand_standing ⟨distinct, by simp⟩ stand]
  cases (Text.split '/' (trimmedText directory)).foldlM Spot.step ⟨tree, []⟩ with
  | error e => rfl
  | ok spot => simp [Function.comp_def]

/-- A way from a directory is shown as it is from there. -/
theorem displayBelow_way (absolute : directory.isAbsolute = true) (kept : ¬EndsInBackslash directory)
    {way : List String} (whole : ∀ name ∈ way, '/' ∉ name.toList) :
    directory.displayBelow ⟨Text.join "/" (Text.split '/' (trimmedText directory) ++ way)⟩ = wayText way := by
  have cut : Text.split '/' (Text.join "/" (Text.split '/' (trimmedText directory) ++ way)) =
      Text.split '/' (trimmedText directory) ++ way := by
    refine Text.split_join (by simp [Text.split_ne_nil]) (List.forall_mem_append.mpr ⟨fun name listed => ?_, whole⟩)
    obtain ⟨piece, inside, rfl⟩ := List.mem_map.mp listed
    rw [String.toList_ofList]
    exact Text.not_mem_of_mem_segments inside
  have on : Path.steps ⟨Text.join "/" (Text.split '/' (trimmedText directory) ++ way)⟩ =
      directory.steps ++ way.filterMap Path.Part.ofSegment? := by
    rw [← steps_trimmedText kept, Path.steps, cut, List.filterMap_append, Path.steps]
  rcases eq_or_ne way [] with rfl | some?
  · rw [List.append_nil, Text.join_split] at on ⊢
    rcases trimmedText_of_isAbsolute absolute with none | absolute'
    · rw [none, Path.displayBelow, Path.below?, Path.parts_of_isAbsolute absolute]
      rfl
    · exact Path.displayBelow_of_steps absolute absolute' on
  · refine Path.displayBelow_of_steps absolute ?_ on
    rw [Text.join_append (Text.split_ne_nil _ _) some?, Text.join_split, String.append_assoc]
    rcases trimmedText_of_isAbsolute absolute with none | absolute'
    · rw [none]
      simp [Path.isAbsolute]
    · have some? : trimmedText directory ≠ "" := fun empty => by simp [Path.isAbsolute, empty] at absolute'
      rw [Path.isAbsolute_append some?, absolute']

/-- What a pattern finds in the directory at a path is what it finds from where the trimmed path leads. -/
theorem forbiddenAt_eq_forbiddenBy (absolute : directory.isAbsolute = true) (kept : ¬EndsInBackslash directory)
    (distinct : tree.Distinct) (all : spot.Throughout Tree.WellNamed)
    (went : (Text.split '/' (trimmedText directory)).foldlM Spot.step ⟨tree, []⟩ = .ok spot)
    (read : Glob.parse glob.text = .ok glob) :
    forbiddenAt severity tree directory glob = forbiddenBy severity spot glob := by
  rw [forbiddenAt, forbiddenBy, paths_absolutePattern absolute distinct read, went]
  cases glob.components with
  | error e => rfl
  | ok components =>
    simp only [Except.map, List.map_map]
    refine congrArg (findingsFor severity glob ∘ Except.ok) (List.map_congr_left fun way listed => ?_)
    exact displayBelow_way absolute kept (Glob.whole_of_expand all components way listed)

end Gluing

section Staying

variable {p : Policy} {spot spot' : Spot} {glob : Glob} {severity : Severity}

/-- Two dots are left of a way exactly if it leads above where it starts. -/
theorem up_mem_foldl_iff {stack : List Path.Part} (names : ∀ part ∈ stack, ∃ name, part = .name name)
    (way : List String) :
    .up ∈ (way.filterMap Path.Part.ofSegment?).foldl Path.pushClean stack ↔
      Glob.staysBelow stack.length way = false := by
  induction way generalizing stack with
  | nil =>
    refine iff_of_false (fun listed => ?_) (by simp [Glob.staysBelow, Glob.depthAfter?])
    obtain ⟨name, same⟩ := names _ listed
    cases same
  | cons name way ih =>
    rw [Glob.staysBelow, Glob.depthAfter?]
    cases read : Path.Part.ofSegment? name with
    | none =>
      rw [List.filterMap_cons_none read]
      exact ih names
    | some part =>
      rw [List.filterMap_cons_some read, List.foldl_cons]
      cases part with
      | root => exact absurd read (by rw [← Path.Part.text_of_ofSegment? read]; decide)
      | here => exact absurd read (by rw [← Path.Part.text_of_ofSegment? read]; decide)
      | name text => exact ih (List.forall_mem_cons.mpr ⟨⟨text, rfl⟩, names⟩)
      | up =>
        cases stack with
        | nil => exact iff_of_true (Path.up_mem_foldl (List.mem_singleton.mpr rfl)) rfl
        | cons top stack =>
          obtain ⟨⟨text, rfl⟩, names'⟩ := List.forall_mem_cons.mp names
          exact ih names'

/-- What is found on a way lies in the directory that it starts from exactly if the way never leads above. -/
theorem inside_wayText {way : List String} (whole : ∀ name ∈ way, '/' ∉ name.toList) :
    Path.Inside ⟨wayText way⟩ ↔ Glob.staysBelow 0 way = true := by
  have steps : Path.AreSteps (way.filterMap Path.Part.ofSegment?) := by
    rcases eq_or_ne way [] with rfl | some?
    · exact List.forall_mem_nil _
    · have are := Path.areSteps ⟨Text.join "/" way⟩
      rwa [Path.steps, Text.split_join some? whole] at are
  have shown : Path.parts ⟨wayText way⟩ = way.filterMap Path.Part.ofSegment? :=
    (Path.AreParts.relative steps).parts_displayParts
  have relative : Path.isAbsolute ⟨wayText way⟩ = false := by
    by_contra absolute
    rw [Bool.not_eq_false] at absolute
    have root : Path.Part.root ∈ way.filterMap Path.Part.ofSegment? :=
      shown ▸ Path.parts_of_isAbsolute absolute ▸ List.mem_cons_self
    rcases steps _ root with up | ⟨name, -, other⟩
    · cases up
    · cases other
  have left := up_mem_foldl_iff (List.forall_mem_nil _) way
  have kept : .up ∉ Path.cleanParts (Path.parts ⟨wayText way⟩) ↔ Glob.staysBelow 0 way = true := by
    rw [shown, Path.cleanParts, List.mem_reverse, left, Bool.not_eq_false, List.length_nil]
  exact ⟨fun inside => kept.mp inside.kept, fun stays => ⟨relative, kept.mpr stays⟩⟩

/-- The findings in the project directory: their paths do not lead out of it. -/
def inside (vs : List Violation) : List Violation := vs.filter fun v => v.location.file.Inside

theorem inside_forbiddenBy (all : spot.Throughout Tree.WellNamed) :
    inside (forbiddenBy severity spot glob) = findingsFor severity glob (glob.components.map fun components =>
      ((Glob.expand components spot).filter (Glob.staysBelow 0)).map wayText) := by
  rw [forbiddenBy]
  cases glob.components with
  | error e =>
    have whole : Path.Inside ⟨""⟩ := by decide
    exact List.filter_cons_of_pos (decide_eq_true whole)
  | ok components =>
    simp only [Except.map, findingsFor, inside, List.filter_map]
    congr 2
    refine List.filter_congr fun way listed => ?_
    rw [Bool.eq_iff_iff]
    exact decide_eq_true_iff.trans (inside_wayText (Glob.whole_of_expand all components way listed))

theorem inside_flatMap {α : Type} (f : α → List Violation) (as : List α) :
    inside (as.flatMap f) = as.flatMap fun a => inside (f a) :=
  List.filter_flatMap

/-- What is found in a project directory depends on what it holds. -/
theorem inside_forbiddenPaths_congr (all : spot.Throughout Tree.WellNamed) (all' : spot'.Throughout Tree.WellNamed)
    (same : spot.here = spot'.here) (p : Policy) (severity : Severity) :
    inside (forbiddenPaths p severity spot) = inside (forbiddenPaths p severity spot') := by
  have alike : spot.Alike 0 spot' := ⟨same, rfl⟩
  simp only [forbiddenPaths, inside_flatMap, inside_forbiddenBy all, inside_forbiddenBy all',
    Glob.filter_expand_congr _ alike]

/-- No component of a pattern but the last one describes the directory above. -/
def NeverClimbs (glob : Glob) : Prop :=
  ∀ components, glob.components = .ok components → ∀ component ∈ components.dropLast, component.climbs = false

/-- What patterns find that never climb depends on what the project directory holds. -/
theorem forbiddenPaths_congr (all : spot.Throughout Tree.WellNamed) (same : spot.here = spot'.here)
    (level : ∀ glob ∈ p.forbidden, NeverClimbs glob) (severity : Severity) :
    forbiddenPaths p severity spot = forbiddenPaths p severity spot' := by
  refine List.flatMap_congr fun glob listed => ?_
  rw [forbiddenBy, forbiddenBy]
  cases cut : glob.components with
  | error e => rfl
  | ok components =>
    have inherited := Tree.inherited_wellNamed.imp fun _ proper => proper.notUp
    simp only [Except.map, Glob.expand_congr inherited components (level glob listed components cut) all same]

/-- A literal pattern finds its own path, if there is something. -/
theorem forbiddenBy_of_isLiteral (distinct : spot.Throughout Tree.Distinct) (down : Policy.LeadsDown glob.text)
    (literal : Glob.IsLiteral glob.text) : forbiddenBy severity spot glob =
      if (spot.here.below? (Text.split '/' glob.text)).isSome then [existingPath severity glob glob.text] else [] := by
  obtain ⟨components, cut, stand⟩ := Glob.components_of_isLiteral literal
  have ways := Glob.expand_standing distinct stand []
  have shown : wayText (Text.split '/' glob.text) = glob.text := down.normal.displayParts_steps
  rw [List.append_nil] at ways
  rw [forbiddenBy, cut, ← Spot.isSome_run down.normal]
  simp only [Except.map, ways]
  cases (Text.split '/' glob.text).foldlM Spot.step spot with
  | error e => rfl
  | ok last => simp [Glob.expand, findingsFor, shown, Except.toOption]

end Staying

section Placing

/-- A project that lies in a directory of a file system. -/
structure Placed (tree : Tree) (directory : Path) (project : Tree) : Prop where
  named : tree.WellNamed
  distinct : tree.Distinct
  located : ∃ above, tree.locate directory = .ok ⟨project, above⟩

variable {tree tree' project : Tree} {directory directory' : Path}

/-- What patterns find in a project directory is what they find from a place where the project is. -/
theorem Placed.exists_spot (placed : Placed tree directory project) (kept : ¬EndsInBackslash directory) :
    ∃ spot : Spot, spot.here = project ∧ spot.Throughout Tree.WellNamed ∧ spot.Throughout Tree.Distinct ∧
      ∀ (severity : Severity) (glob : Glob), Glob.parse glob.text = .ok glob →
        forbiddenAt severity tree directory glob = forbiddenBy severity spot glob := by
  obtain ⟨named, distinct, above, located⟩ := placed
  have went := run_trimmedText kept located
  have start {P : Tree → Prop} (here : P tree) : Spot.Throughout P ⟨tree, []⟩ := ⟨here, by simp⟩
  have all := (start named).run Tree.inherited_wellNamed went
  refine ⟨⟨project, above⟩, rfl, all, (start distinct).run Tree.inherited_distinct went, fun severity glob read => ?_⟩
  exact forbiddenAt_eq_forbiddenBy (Tree.isAbsolute_of_locate located) kept distinct all went read

/-- Wherever a project lies, the same is found in its directory, and a literal pattern finds one thing if its path
exists and nothing otherwise. Patterns that never climb find the same altogether. -/
theorem forbiddenIn_placed {document : Policy.Document} {p : Policy} (accepted : Policy.load document = .ok p)
    (placed : Placed tree directory project) (placed' : Placed tree' directory' project)
    (kept : ¬EndsInBackslash directory) (kept' : ¬EndsInBackslash directory') (severity : Severity) :
    inside (forbiddenIn p severity tree directory) = inside (forbiddenIn p severity tree' directory') ∧
      ((∀ glob ∈ p.forbidden, NeverClimbs glob) →
        forbiddenIn p severity tree directory = forbiddenIn p severity tree' directory') ∧
      ∀ glob ∈ p.forbidden, Glob.IsLiteral glob.text → forbiddenAt severity tree directory glob =
        if (project.below? (Text.split '/' glob.text)).isSome then [existingPath severity glob glob.text] else [] := by
  obtain ⟨spot, rfl, all, distinct, found⟩ := placed.exists_spot kept
  obtain ⟨spot', same, all', -, found'⟩ := placed'.exists_spot kept'
  have read {glob : Glob} (listed : glob ∈ p.forbidden) := Policy.parse_text_of_mem_forbidden accepted listed
  have here : forbiddenIn p severity tree directory = forbiddenPaths p severity spot :=
    List.flatMap_congr fun glob listed => found severity glob (read listed)
  have there : forbiddenIn p severity tree' directory' = forbiddenPaths p severity spot' :=
    List.flatMap_congr fun glob listed => found' severity glob (read listed)
  rw [here, there]
  refine ⟨inside_forbiddenPaths_congr all all' same.symm p severity,
    fun level => forbiddenPaths_congr all same.symm level severity, fun glob listed literal => ?_⟩
  rw [found severity glob (read listed)]
  exact forbiddenBy_of_isLiteral distinct ((Policy.load_formed accepted).forbidden glob listed) literal

/-- A file system with a project in its topmost directory and nothing else. -/
def onlyProject (name : String) (project : Tree) : Tree := .directory [(name, project)]

theorem placed_onlyProject {name : String} (spelt : directory.text = "/" ++ name) (proper : Path.IsName name)
    (named : project.WellNamed) (distinct : project.Distinct) :
    Placed (onlyProject name project) directory project where
  named := Tree.wellNamed_directory.mpr ⟨by simpa using proper, by simpa using named⟩
  distinct := Tree.distinct_directory.mpr ⟨by simp, by simpa using distinct⟩
  located := by
    have absolute : directory.isAbsolute = true := by simp [Path.isAbsolute, spelt]
    have cut : Text.split '/' directory.text = ["", name] := by
      rw [spelt, ← String.empty_append (s := "/"), Text.split_append_slash, Text.split_of_not_mem proper.whole]
      rfl
    refine ⟨[onlyProject name project], ?_⟩
    rw [Tree.locate, if_pos absolute, cut]
    simp [Spot.step, onlyProject, Tree.isFile, proper.some?, proper.notHere, proper.notUp, Spot.down?, Tree.entry?,
      Tree.entries]

/-- A project with mocks among its sources. -/
def mocked : Tree := .directory [("src", .directory [("mocks", .directory [])])]

theorem placed_mocked {name : String} (spelt : directory.text = "/" ++ name) (proper : Path.IsName name) :
    Placed (onlyProject name mocked) directory mocked := by
  have source : Path.IsName "src" ∧ Path.IsName "mocks" := by decide
  refine placed_onlyProject spelt proper ?_ ?_
  · simpa [mocked, Tree.wellNamed_directory] using source
  · simp [mocked, Tree.distinct_directory]

open Policy (looselySpelt strictlySpelt load_looselySpelt twoLayers twoLayersPolicy)

theorem forbiddenIn_placed_bracket :
    Policy.load looselySpelt = .ok strictlySpelt ∧
      Placed (onlyProject "a[b" mocked) ⟨"/a[b"⟩ mocked ∧ Placed (onlyProject "p" mocked) ⟨"/p"⟩ mocked ∧
      ¬EndsInBackslash ⟨"/a[b"⟩ ∧ ¬EndsInBackslash ⟨"/p"⟩ ∧ (∀ glob ∈ strictlySpelt.forbidden, NeverClimbs glob) ∧
      forbiddenIn strictlySpelt .error (onlyProject "a[b" mocked) ⟨"/a[b"⟩ =
        forbiddenIn strictlySpelt .error (onlyProject "p" mocked) ⟨"/p"⟩ ∧
      ∃ glob ∈ strictlySpelt.forbidden, Glob.IsLiteral glob.text ∧
        forbiddenAt .error (onlyProject "a[b" mocked) ⟨"/a[b"⟩ glob = [existingPath .error glob "src/mocks"] := by
  have bracket : Placed (onlyProject "a[b" mocked) ⟨"/a[b"⟩ mocked := placed_mocked (by decide) (by decide)
  have plain : Placed (onlyProject "p" mocked) ⟨"/p"⟩ mocked := placed_mocked (by decide) (by decide)
  have kept : ¬EndsInBackslash ⟨"/a[b"⟩ ∧ ¬EndsInBackslash ⟨"/p"⟩ := by decide
  have level : ∀ glob ∈ strictlySpelt.forbidden, NeverClimbs glob := by
    intro glob listed components cut
    obtain rfl := List.mem_singleton.mp listed
    have names : components = ["src", "mocks"].map fun name => ⟨name, name.toList.map .char⟩ := by
      refine Except.ok.inj (cut.symm.trans ?_)
      decide +kernel
    rw [names]
    decide
  have literal : Glob.IsLiteral "src/mocks" := by decide +kernel
  have listed : ⟨"src/mocks", "src/mocks".toList.map .char⟩ ∈ strictlySpelt.forbidden := List.mem_singleton.mpr rfl
  obtain ⟨-, same, one⟩ := forbiddenIn_placed load_looselySpelt bracket plain kept.1 kept.2 .error
  refine ⟨load_looselySpelt, bracket, plain, kept.1, kept.2, level, same level, _, listed, literal, ?_⟩
  rw [one _ listed literal, if_pos (by decide +kernel)]

/-- A pattern of the directory above that names the project. -/
def climbing : Policy :=
  { twoLayersPolicy with forbidden := [⟨".*/p/src", [.char '.', .anyRun] ++ "/p/src".toList.map .char⟩] }

theorem load_climbing : Policy.load { twoLayers with forbidden := [".*/p/src"] } = .ok climbing := by
  have checked : Policy.checkEach Policy.checkForbidden [".*/p/src"] = .ok climbing.forbidden := by decide +kernel
  exact Policy.load_eq_ok.mpr { Policy.load_eq_ok.mp Policy.load_twoLayers with forbidden := checked }

/-- What is forbidden in a project whose path ends in a backslash is not found, and a pattern that describes the
directory above finds the project only under the name that it says. -/
theorem forbiddenIn_misplaced :
    (Policy.load looselySpelt = .ok strictlySpelt ∧
      Placed (onlyProject "p\\" mocked) ⟨"/p\\"⟩ mocked ∧ Placed (onlyProject "p" mocked) ⟨"/p"⟩ mocked ∧
      forbiddenIn strictlySpelt .error (onlyProject "p\\" mocked) ⟨"/p\\"⟩ = [] ∧
      forbiddenIn strictlySpelt .error (onlyProject "p" mocked) ⟨"/p"⟩ =
        strictlySpelt.forbidden.map fun glob => existingPath .error glob "src/mocks") ∧
    Policy.load { twoLayers with forbidden := [".*/p/src"] } = .ok climbing ∧
      Placed (onlyProject "p" mocked) ⟨"/p"⟩ mocked ∧ Placed (onlyProject "q" mocked) ⟨"/q"⟩ mocked ∧
      forbiddenIn climbing .error (onlyProject "p" mocked) ⟨"/p"⟩ ≠
        forbiddenIn climbing .error (onlyProject "q" mocked) ⟨"/q"⟩ := by
  have backslash : Placed (onlyProject "p\\" mocked) ⟨"/p\\"⟩ mocked := placed_mocked (by decide) (by decide)
  have p : Placed (onlyProject "p" mocked) ⟨"/p"⟩ mocked := placed_mocked (by decide) (by decide)
  have q : Placed (onlyProject "q" mocked) ⟨"/q"⟩ mocked := placed_mocked (by decide) (by decide)
  refine ⟨⟨load_looselySpelt, backslash, p, ?_, ?_⟩, load_climbing, p, q, ?_⟩ <;> decide +kernel

end Placing

end Check

end Layering
