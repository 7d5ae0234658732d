import Layering.Proofs.CommandLine.Outcome
import Layering.Proofs.CommandLine.Settings
import Layering.Proofs.Policy.Standard
import Layering.Proofs.Report.Growth

/-! A check before and after the default policy is written. What is written is the policy that the check takes where
there is no file, and the file with it is none of the sources and lies outside of the layers. It only matters to a user
whose settings name that very file as the ignore file. -/
namespace Layering

namespace Policy

variable {p : Policy}

namespace Standard

/-- Only its own name can stand for the file of the policy, since no source has its extension. -/
theorem aloof (standard : Standard p) : p.Aloof "layer-lint.toml" := by
  intro form tried other tried'
  have other? {front extension : String} (listed : extension ∈ p.discovery.extensions) :
      front ++ "." ++ extension ≠ "layer-lint.toml" := fun same => by
    have last := congrArg (·.toList.getLast?) same
    rw [standard.extensions] at listed
    fin_cases listed <;> simp at last
  obtain rfl : "layer-lint.toml" = form := by
    simp only [candidates, List.mem_append, List.mem_cons, List.mem_map] at tried
    rcases tried with (same | ⟨extension, listed, same⟩) | ⟨extension, listed, same⟩
    · exact same
    · exact absurd same (other? listed)
    · exact absurd same (other? listed)
  refine isOutside_of_outside ?_
  rw [candidates, standard.extensions] at tried'
  rw [Outside, standard.layers]
  revert other
  decide +kernel

/-- The file of the policy in the project directory is unrelated to the project. -/
theorem unrelated {project : Project} (standard : Standard project.policy)
    (absolute : project.directory.isAbsolute = true) :
    project.Unrelated (· = Discovery.wayTo project.directory ++ ["layer-lint.toml"]) "layer-lint.toml" where
  spares above way listed isNew := by
    have last := congrArg List.getLast? isNew
    fin_cases listed <;> simp at last
  foreign way isNew := by
    rw [isNew, List.getLast?_concat, Option.any_some, Discovery.isSource, standard.extensions]
    decide +kernel
  only path normal isNew := by
    rw [Discovery.wayTo_join_isNormal absolute normal, List.append_cancel_left_eq] at isNew
    rw [← Text.join_split path, isNew]
    rfl
  aloof := standard.aloof

end Standard

/-- The characters of the default policy. None of its lines would keep paths in an ignore file. -/
theorem exists_spelt_defaultLines : ∃ lines, Spelt defaultLines lines ∧ ∀ line ∈ lines,
    (10 ∉ Text.bytes line ∧ (Text.bytes line).getLast? ≠ some 13 ∧ line.head? ≠ some '\uFEFF') ∧
      (Ignore.readMarks (Ignore.trimLine line)).1 = false := by
  apply Exists.intro
  apply And.intro
  case left =>
    dsimp only [defaultLines]
    repeat constructor
  case right => decide +kernel

theorem mem_rules_defaultText {rule : Ignore.Rule} : rule ∈ (Ignore.File.ofBytes defaultText.toUTF8).rules ↔
    ∃ line ∈ defaultLines, Ignore.readLine line = .ok (some rule) := by
  obtain ⟨lines, spelt, each⟩ := exists_spelt_defaultLines
  have plain : ∀ line ∈ lines, Ignore.IsPlain line := fun line listed => by
    obtain ⟨⟨whole, noReturn, noMark⟩, -⟩ := each line listed
    exact ⟨whole, noReturn, noMark⟩
  have whole : defaultText.toUTF8.data.toList = Text.bytes (lines.flatMap fun line => line ++ ['\n']) := by
    rw [← Text.bytes_toList, defaultText, spelt.toList_lines]
    rfl
  have texts : lines.map (fun line => some (String.ofList line)) = defaultLines.map some := by
    rw [← spelt.map_ofList, List.map_map]
    rfl
  rw [Ignore.rules_ofBytes, Ignore.lines_eq plain whole, texts]
  exact Ignore.mem_rules_readLines

theorem keeps_of_mem_rules_defaultText :
    ∀ rule ∈ (Ignore.File.ofBytes defaultText.toUTF8).rules, rule.keeps = false := by
  intro rule listed
  obtain ⟨line, member, reads⟩ := mem_rules_defaultText.mp listed
  obtain ⟨lines, spelt, each⟩ := exists_spelt_defaultLines
  rw [← spelt.map_ofList] at member
  obtain ⟨cs, written, rfl⟩ := List.mem_map.mp member
  rw [Ignore.keeps_of_readLine reads, String.toList_ofList, (each cs written).2]

/-- As an ignore file, the default policy has directories ignored whose names are among the letters in brackets. -/
theorem verdict?_defaultText :
    Ignore.verdict? (Ignore.File.ofBytes defaultText.toUTF8).rules "src/a" true = some .ignored := by
  obtain ⟨rule, reads, describes⟩ : ∃ rule, Ignore.readLine "[analyzer]" = .ok (some rule) ∧
      rule.describes "src/a" true = true := ⟨_, rfl, by decide +kernel⟩
  have listed := mem_rules_defaultText.mpr ⟨"[analyzer]", by simp [defaultLines], reads⟩
  exact Ignore.verdict?_eq_ignored keeps_of_mem_rules_defaultText listed describes

theorem plain_of_builtin (loads : builtin = .ok p) : Project.Plain p := by
  have standard := standard_builtin loads
  rw [builtin, ofToml, read?_empty] at loads
  refine ⟨(load_eq_ok.mp loads).formed.discovery, ?_, standard.forbidden⟩
  rw [standard.extensions]
  decide

end Policy

/-- The report of a project under the built-in policy stays the same when the file of the policy is added to it. -/
theorem Project.report_written {project : Project} {t t' : Tree} (loads : Policy.builtin = .ok project.policy)
    (absolute : project.directory.isAbsolute = true)
    (grows : t.Grows (· = Discovery.wayTo project.directory ++ ["layer-lint.toml"]) t') (named : t.WellNamed)
    (named' : t'.WellNamed) (distinct : t.Distinct) (distinct' : t'.Distinct) {spot : Spot}
    (located : t.locate (project.directory.join project.sourceRoot) = .ok spot) :
    project.report t' = project.report t :=
  (report_grown grows named named' distinct distinct' ((Policy.standard_builtin loads).unrelated absolute)
    (Policy.plain_of_builtin loads) absolute located).symm

namespace CommandLine

open Policy (Surroundings Source)
open Policy.Source (Chosen hasFile plainFile)
open Project (twoFiles wellNamed_twoFiles distinct_twoFiles)

/-- Arguments that ask for a check of the working directory and name no policy, or that cannot be read. -/
def FlagsOnly (arguments : List String) : Prop :=
  ∀ invocation, readInvocation arguments = .ok invocation →
    ∃ options : CheckOptions, options.project = ⟨"."⟩ ∧ invocation = ⟨none, .check options⟩

theorem Outcome.apply_of_written {o : Outcome} {tree : Tree} {path : Path} {text : String}
    (written : o.written = some (path, text)) :
    o.apply tree = tree.put (.file text.toUTF8) (Discovery.wayTo path) := by
  rw [apply, written]

section Directory

variable {s : Surroundings} {tree : Tree} {spot : Spot}

theorem isAbsolute_projectDirectory (absolute : s.workingDirectory.isAbsolute = true) :
    (projectDirectory s ⟨"."⟩).isAbsolute = true :=
  (Path.cleanParts_clean (Path.isAbsolute_join absolute ⟨"."⟩)).1

theorem wayTo_projectDirectory (absolute : s.workingDirectory.isAbsolute = true) :
    Discovery.wayTo (projectDirectory s ⟨"."⟩) = Discovery.wayTo s.workingDirectory := by
  have inside : Path.Inside ⟨"."⟩ := ⟨by decide, by decide +kernel⟩
  have clean : projectDirectory s ⟨"."⟩ = (s.workingDirectory.join ⟨"."⟩).clean := rfl
  have still : Discovery.wayTo ⟨"."⟩ = [] := rfl
  rw [clean, Discovery.wayTo_clean (Path.isAbsolute_join absolute _), Discovery.wayTo_join absolute inside, still,
    List.append_nil]

theorem wayTo_policyFile (absolute : s.workingDirectory.isAbsolute = true) :
    Discovery.wayTo (s.absolute policyFile) = Discovery.wayTo s.workingDirectory ++ ["layer-lint.toml"] := by
  have cut : Text.split '/' "layer-lint.toml" = ["layer-lint.toml"] := rfl
  rw [← cut]
  exact Discovery.wayTo_join_isNormal absolute (Path.isNormal_name (by decide))

variable (located : tree.locate s.workingDirectory = .ok spot) (directory : spot.here.isDirectory = true)
include located directory

theorem locate_policyFile : tree.locate (s.absolute policyFile) =
    match spot.here.entry? "layer-lint.toml" with
    | some child => .ok ⟨child, spot.here :: spot.above⟩
    | none => .error .notFound :=
  Tree.locate_entry located directory (by decide) (.inl (by decide +kernel))

theorem locate_plainFile : tree.locate (s.absolute (plainFile ⟨"."⟩)) =
    match spot.here.entry? "layer-lint.toml" with
    | some child => .ok ⟨child, spot.here :: spot.above⟩
    | none => .error .notFound :=
  Tree.locate_entry located directory (by decide) (.inr (by decide +kernel))

/-- Where there is no file for the policy, one is written. -/
theorem apply_init_of_missing (missing : spot.here.entry? "layer-lint.toml" = none) (force : Bool) :
    (init s tree force).apply tree =
      tree.put (.file Policy.defaultText.toUTF8) (Discovery.wayTo s.workingDirectory ++ ["layer-lint.toml"]) := by
  have file := locate_policyFile located directory
  rw [missing] at file
  have written : (init s tree force).written = some (s.absolute policyFile, Policy.defaultText) := by
    simp [init, Tree.holdsAt, file]
  rw [Outcome.apply_of_written written, wayTo_policyFile (Tree.isAbsolute_of_locate located)]

/-- Either the policy is written to a file that is new, or nothing is. -/
theorem apply_init (notPlain : hasFile s tree (plainFile ⟨"."⟩) = false) (force : Bool) :
    (init s tree force).apply tree = tree ∨
      spot.here.entry? "layer-lint.toml" = none ∧ (init s tree force).apply tree =
        tree.put (.file Policy.defaultText.toUTF8) (Discovery.wayTo s.workingDirectory ++ ["layer-lint.toml"]) := by
  have plain := locate_plainFile located directory
  have file := locate_policyFile located directory
  rw [hasFile, Tree.holdsAt, plain] at notPlain
  cases entry : spot.here.entry? "layer-lint.toml" with
  | none => exact .inr ⟨rfl, apply_init_of_missing located directory entry force⟩
  | some child =>
    rw [entry] at file notPlain
    refine .inl ?_
    cases force <;> simp [init, Tree.holdsAt, file, Outcome.apply, Tree.isDirectory, notPlain]

/-- A file with that name is taken for the policy of the project. -/
theorem load_of_entry {text : String} (entry : spot.here.entry? "layer-lint.toml" = some (.file text.toUTF8)) :
    (Source.find s tree ⟨"."⟩ none).load s tree = Policy.ofToml text := by
  have plain := locate_plainFile located directory
  rw [entry] at plain
  have here : hasFile s tree (plainFile ⟨"."⟩) = true := by
    rw [hasFile, Tree.holdsAt, plain]
    rfl
  have whole : String.fromUTF8? text.toUTF8 = some text := dif_pos text.isValidUTF8
  have read : tree.read (s.absolute (plainFile ⟨"."⟩)) = .ok text := by
    simp only [Tree.read, plain, whole]
  rw [(Chosen.plain here).eq_find]
  simp only [Source.load, Source.path?, read]

end Directory

/-- The ignore file of the user is not the policy of the working directory. Only settings could name that one. -/
def IgnoresElsewhere (s : Surroundings) (tree : Tree) : Prop :=
  ∀ path, Settings.ignoreFile? s tree = some path →
    Discovery.wayTo (s.absolute path) ≠ Discovery.wayTo (s.absolute policyFile)

variable {s : Surroundings} {tree tree' : Tree} {options : CheckOptions}

theorem userFile_written (absolute : s.workingDirectory.isAbsolute = true)
    (grows : tree.Grows (· = Discovery.wayTo s.workingDirectory ++ ["layer-lint.toml"]) tree')
    (elsewhere : IgnoresElsewhere s tree) : userFile s tree' = userFile s tree := by
  refine (userFile_grown absolute grows ?foreign fun path place isNew => ?apart).symm
  case foreign =>
    rintro _ rfl
    simp
  case apart => exact elsewhere path place (isNew.trans (wayTo_policyFile absolute).symm)

/-- A check without a policy goes on as before in a tree to which the file with the built-in policy is added. -/
theorem checkReport_grown (named : tree.WellNamed) (named' : tree'.WellNamed) (distinct : tree.Distinct)
    (distinct' : tree'.Distinct) (absolute : s.workingDirectory.isAbsolute = true)
    (grows : tree.Grows (· = Discovery.wayTo s.workingDirectory ++ ["layer-lint.toml"]) tree')
    (elsewhere : IgnoresElsewhere s tree)
    (before : (Source.find s tree options.project none).load s tree = Policy.builtin)
    (after : (Source.find s tree' options.project none).load s tree' = Policy.builtin)
    (here : options.project = ⟨"."⟩) :
    checkReport s tree' none options = checkReport s tree none options := by
  have own := isAbsolute_projectDirectory absolute
  have way := wayTo_projectDirectory absolute
  rw [checkReport, checkReport, before, after, here]
  refine Policy.bind_congr_of_ok fun p loads => Policy.bind_congr_of_ok fun rules _ => ?_
  have same : Project.make tree' (projectDirectory s ⟨"."⟩) p rules options.root options.exclude (userFile s tree') =
      Project.make tree (projectDirectory s ⟨"."⟩) p rules options.root options.exclude (userFile s tree) := by
    simp only [Project.make, grows.holdsAt_isDirectory, userFile_written absolute grows elsewhere]
  -- The two runs now differ in nothing but the tree that the project reports on.
  dsimp only
  rw [same]
  refine Policy.bind_congr_of_ok fun project made => congrArg Except.ok ?_
  rw [Policy.mapError_eq_ok] at loads made
  obtain ⟨exists?, globs, -, rfl⟩ := Project.make_eq_ok.mp made
  obtain ⟨sources, found, -⟩ := Tree.exists_locate_of_holdsAt exists?
  rw [← way] at grows
  exact Project.report_written loads own grows named named' distinct distinct' found

variable {arguments : List String} {spot : Spot}

/-- The file that is added to the working directory is its only news. -/
theorem exists_written (located : tree.locate s.workingDirectory = .ok spot) (directory : spot.here.isDirectory = true)
    (missing : spot.here.entry? "layer-lint.toml" = none) (bytes : ByteArray) :
    let way := Discovery.wayTo s.workingDirectory ++ ["layer-lint.toml"]
    tree.Grows (· = way) (tree.put (.file bytes) way) ∧
      ∃ spot', (tree.put (.file bytes) way).locate s.workingDirectory = .ok spot' ∧ spot'.here.isDirectory = true ∧
        spot'.here.entry? "layer-lint.toml" = some (.file bytes) := by
  have there := Discovery.below?_wayTo located
  obtain ⟨entries, shape⟩ : ∃ entries, spot.here = .directory entries := by
    cases shape : spot.here with
    | file bytes => simp [shape, Tree.isDirectory, Tree.isFile] at directory
    | directory entries => exact ⟨entries, rfl⟩
  rw [shape] at there missing
  have grows := Tree.grows_put there missing bytes
  obtain ⟨spot', located', same⟩ := grows.locate located
  refine ⟨grows, spot', located', ?_, ?_⟩
  · rw [Tree.isDirectory, Tree.isFile_eq, ← same, shape]
    rfl
  · have put := Tree.below?_put tree (.file bytes) (Discovery.wayTo s.workingDirectory ++ ["layer-lint.toml"])
    rw [Tree.below?_append, Discovery.below?_wayTo located'] at put
    simpa [Tree.below?] using put

/-- A check without a policy goes on as before once the built-in policy is written to the project, in whatever text. -/
theorem checkReport_written {text : String} (spells : Policy.ofToml text = Policy.builtin) (named : tree.WellNamed)
    (distinct : tree.Distinct) (located : tree.locate s.workingDirectory = .ok spot)
    (directory : spot.here.isDirectory = true) (missing : spot.here.entry? "layer-lint.toml" = none)
    (chosen : Chosen s tree ⟨"."⟩ none .builtin) (elsewhere : IgnoresElsewhere s tree)
    (here : options.project = ⟨"."⟩) :
    checkReport s (tree.put (.file text.toUTF8) (Discovery.wayTo s.workingDirectory ++ ["layer-lint.toml"])) none
      options = checkReport s tree none options := by
  have absolute := Tree.isAbsolute_of_locate located
  obtain ⟨grows, spot', located', directory', entry⟩ := exists_written located directory missing text.toUTF8
  have proper : ∀ name ∈ Discovery.wayTo s.workingDirectory ++ ["layer-lint.toml"], Path.IsName name := by
    refine List.forall_mem_append.mpr ⟨Discovery.isName_of_mem_wayTo absolute, ?_⟩
    decide
  refine checkReport_grown named (named.put (.file _) proper) distinct (distinct.put (.file _) _) absolute grows
    elsewhere ?_ ?_ here
  · rw [here, chosen.eq_find]
    rfl
  · rw [here, load_of_entry located' directory' entry, spells]

/-- Writing the default policy changes nothing, unless it makes an ignore file of the user. A check of the working
directory that takes the built-in policy, since there is no other one, prints the same and ends in the same way when the
policy has been written. -/
theorem check_after_init (named : tree.WellNamed) (distinct : tree.Distinct)
    (located : tree.locate s.workingDirectory = .ok spot) (directory : spot.here.isDirectory = true)
    (chosen : Chosen s tree ⟨"."⟩ none .builtin) (elsewhere : IgnoresElsewhere s tree) (flags : FlagsOnly arguments)
    (force colored : Bool) :
    (run s ((init s tree force).apply tree) colored arguments).code = (run s tree colored arguments).code ∧
      (run s ((init s tree force).apply tree) colored arguments).output = (run s tree colored arguments).output := by
  have notPlain : hasFile s tree (plainFile ⟨"."⟩) = false := by
    cases chosen with
    | builtin notPlain _ _ => exact notPlain
  rcases apply_init located directory notPlain force with same | ⟨missing, written⟩
  · rw [same]
    exact ⟨rfl, rfl⟩
  · rw [written, run, run]
    cases reads : readInvocation arguments with
    | error stop => cases stop <;> exact ⟨rfl, rfl⟩
    | ok invocation =>
      obtain ⟨options, here, rfl⟩ := flags invocation reads
      dsimp only
      have same := checkReport_written Policy.ofToml_defaultText named distinct located directory missing chosen
        elsewhere here
      rw [check, check, same]
      exact ⟨rfl, rfl⟩

/-- A project of two files without a policy, for which one is written. -/
theorem check_after_init_twoFiles :
    twoFiles.WellNamed ∧ twoFiles.Distinct ∧
      (∃ spot, twoFiles.locate ⟨"/"⟩ = .ok spot ∧ spot.here.isDirectory = true) ∧
      Chosen atTop twoFiles ⟨"."⟩ none .builtin ∧ IgnoresElsewhere atTop twoFiles ∧
      FlagsOnly ["check", "--format", "json", "-eapp/**"] ∧
      (init atTop twoFiles false).written.isSome = true ∧
      (run atTop ((init atTop twoFiles false).apply twoFiles) false
          ["check", "--format", "json", "-eapp/**"]).output =
        (run atTop twoFiles false ["check", "--format", "json", "-eapp/**"]).output := by
  obtain ⟨spot, located, directory⟩ : ∃ spot, twoFiles.locate ⟨"/"⟩ = .ok spot ∧ spot.here.isDirectory = true :=
    Tree.exists_locate_of_holdsAt rfl
  have chosen : Chosen atTop twoFiles ⟨"."⟩ none .builtin :=
    .builtin rfl rfl nofun
  have reads : readInvocation ["check", "--format", "json", "-eapp/**"] =
      .ok ⟨none, .check ⟨⟨"."⟩, none, .json, none, ["app/**"]⟩⟩ := rfl
  have flags : FlagsOnly ["check", "--format", "json", "-eapp/**"] := fun invocation reads' =>
    ⟨_, rfl, (Except.ok.inj (reads.symm.trans reads')).symm⟩
  have elsewhere : IgnoresElsewhere atTop twoFiles := by
    intro path place
    cases place
  refine ⟨wellNamed_twoFiles, distinct_twoFiles, ⟨spot, located, directory⟩, chosen, elsewhere, flags,
    by decide +kernel, ?_⟩
  exact (check_after_init wellNamed_twoFiles distinct_twoFiles located directory chosen elsewhere flags false false).2

section Ignored

/-- The settings of a user that name the policy of the working directory as the ignore file. -/
def ignoringPolicy : Surroundings := { workingDirectory := ⟨"/"⟩, home := some ⟨"/home"⟩ }

/-- A project of a file that is no text, and the settings. -/
def unreadableFile : Tree := .directory [
  ("home", .directory [(".gitconfig", .file "[core]\n\texcludesfile = layer-lint.toml\n".toUTF8)]),
  ("src", .directory [("a", .directory [("x.ts", .file ⟨#[255]⟩)])])]

theorem wellNamed_unreadableFile : unreadableFile.WellNamed := by
  have names : ∀ name ∈ ["home", "src", ".gitconfig", "a", "x.ts"], Path.IsName name := by decide
  simpa [unreadableFile, Tree.wellNamed_directory, Tree.WellNamed.file, and_assoc] using names

theorem distinct_unreadableFile : unreadableFile.Distinct := by
  simp [unreadableFile, Tree.distinct_directory, Tree.Distinct.file]

/-- What a check without flags looks at. -/
def unreadableProject (p : Policy) (tree : Tree) : Project :=
  ⟨⟨"/"⟩, p, Rule.selectable, ⟨"src"⟩, [], userFile ignoringPolicy tree⟩

variable {p : Policy} {tree : Tree}

theorem discover_unreadableProject (standard : Policy.Standard p) : (unreadableProject p tree).discover tree =
    Policy.standardDiscovery.find [] (userFile ignoringPolicy tree) tree ⟨"/"⟩ (Path.join ⟨"/"⟩ ⟨"src"⟩) := by
  rw [Project.discover, unreadableProject, standard.discovery]

theorem readInvocation_check :
    readInvocation ["check"] = .ok ⟨none, .check ⟨⟨"."⟩, none, .text, none, []⟩⟩ := rfl

theorem code_check_unreadableProject (standard : Policy.Standard p)
    (loads : (Source.find ignoringPolicy tree ⟨"."⟩ none).load ignoringPolicy tree = .ok p)
    (root : tree.holdsAt (Path.join ⟨"/"⟩ ⟨"src"⟩) Tree.isDirectory = true) :
    (run ignoringPolicy tree false ["check"]).code =
      if ((unreadableProject p tree).report tree).violations = [] then 0 else 1 := by
  have directory : projectDirectory ignoringPolicy ⟨"."⟩ = ⟨"/"⟩ := rfl
  have made : Project.make tree (projectDirectory ignoringPolicy ⟨"."⟩) p Rule.selectable none []
      (userFile ignoringPolicy tree) = .ok (unreadableProject p tree) := by
    rw [directory]
    refine Project.make_eq_ok.mpr ⟨?_, [], rfl, ?_⟩ <;> rw [standard.discovery]
    · exact root
    · rfl
  have done : checkReport ignoringPolicy tree none ⟨⟨"."⟩, none, .text, none, []⟩ =
      .ok ((unreadableProject p tree).report tree) := checkReport_eq_ok.mpr ⟨p, _, _, loads, rfl, made, rfl⟩
  rw [run_eq_check tree false readInvocation_check, check, done]
  cases found : ((unreadableProject p tree).report tree).violations <;> simp [Report.hasViolations, found]

/-- A policy that is written makes the ignore file, whatever is in it. -/
theorem userFile_ignoringPolicy {spot : Spot} {bytes : ByteArray}
    (grows : unreadableFile.Grows (· = ["layer-lint.toml"]) tree)
    (located : tree.locate ignoringPolicy.workingDirectory = .ok spot) (directory : spot.here.isDirectory = true)
    (entry : spot.here.entry? "layer-lint.toml" = some (.file bytes)) :
    userFile ignoringPolicy tree = ⟨(Ignore.File.ofBytes bytes).rules, ⟨"/"⟩⟩ := by
  have place : Settings.ignoreFile? ignoringPolicy tree = some policyFile := by
    rw [← Settings.ignoreFile?_grown (by decide) grows (by rintro _ rfl; decide)]
    rfl
  have bytes : tree.bytesAt? (ignoringPolicy.absolute policyFile) = some bytes := by
    simp only [Tree.bytesAt?, locate_policyFile located directory, entry]
    rfl
  simp only [userFile, place, Option.bind_some, bytes, Option.map_some, Option.getD_some]
  rfl

theorem verdict?_fromTop (rules : List Ignore.Rule) :
    Ignore.UserFile.verdict? ⟨rules, ⟨"/"⟩⟩ ⟨"/src/a"⟩ true = Ignore.verdict? rules "src/a" true := by
  have seen : Ignore.UserFile.seen ⟨rules, ⟨"/"⟩⟩ ⟨"/src/a"⟩ = "src/a" := by
    simp [Ignore.UserFile.seen, Text.stripPrefix?]
  rw [Ignore.UserFile.verdict?, seen]

/-- The file is not found if its directory is ignored. -/
theorem find_ignored (bytes : ByteArray) {user : Ignore.UserFile}
    (ignored : user.verdict? ⟨"/src/a"⟩ true = some .ignored) :
    Policy.standardDiscovery.find [] user (unreadableFile.put (.file bytes) ["layer-lint.toml"]) ⟨"/"⟩
      (Path.join ⟨"/"⟩ ⟨"src"⟩) = ⟨[], []⟩ := by
  let tree := unreadableFile.put (.file bytes) ["layer-lint.toml"]
  let a : Tree := .directory [("x.ts", .file ⟨#[255]⟩)]
  let inside := (Ignore.Scope.ofDirectory (.directory [("a", a)]) :: Discovery.scopesAbove tree ["src"]).map
    fun scope => scope.enter "a"
  let w := Policy.standardDiscovery.walk user (Path.join ⟨"/"⟩ ⟨"src"⟩)
  have way : Discovery.wayTo (Path.join ⟨"/"⟩ ⟨"src"⟩) = ["src"] := rfl
  have place : w.path ([] ++ ["a"]) = ⟨"/src/a"⟩ := by
    change Path.join (Path.join ⟨"/"⟩ ⟨"src"⟩) ⟨Text.join "/" ["a"]⟩ = ⟨"/src/a"⟩
    rfl
  have sources : tree.below? ["src"] = some (.directory [("a", a)]) := rfl
  have problems : Discovery.problemsAbove [] tree ["src"] = [] := rfl
  have silent : Ignore.verdictAbove? inside a.isDirectory = none := rfl
  have skips : w.skips inside [] "a" a = true := by
    have dropped : w.user.verdict? (w.path ([] ++ ["a"])) a.isDirectory = some .ignored := place ▸ ignored
    rw [Discovery.Walk.skips, Ignore.isIgnored, silent, dropped]
    rfl
  have ways : ((tree.below? ["src"]).map (w.files (Discovery.scopesAbove tree ["src"]) [])).getD [] = [] := by
    rw [sources, Option.map_some, Discovery.Walk.files_of_skips skips]
    rfl
  have respects : Policy.standardDiscovery.respectGitignore = true := rfl
  simp only [Discovery.find, way, respects, if_true]
  rw [ways, problems]
  rfl

/-- A policy that is written may hide findings, as it makes an ignore file where the settings of the user name it as
one. The line with the name of its first section describes the directory with the file. -/
theorem check_after_init_ignored :
    unreadableFile.WellNamed ∧ unreadableFile.Distinct ∧
      (∃ spot, unreadableFile.locate ignoringPolicy.workingDirectory = .ok spot ∧ spot.here.isDirectory = true) ∧
      Chosen ignoringPolicy unreadableFile ⟨"."⟩ none .builtin ∧ FlagsOnly ["check"] ∧
      (run ignoringPolicy unreadableFile false ["check"]).code = 1 ∧
      (run ignoringPolicy ((init ignoringPolicy unreadableFile false).apply unreadableFile) false ["check"]).code =
        0 := by
  have located : unreadableFile.locate ignoringPolicy.workingDirectory = .ok ⟨unreadableFile, []⟩ := rfl
  have directory : unreadableFile.isDirectory = true := rfl
  have chosen : Chosen ignoringPolicy unreadableFile ⟨"."⟩ none .builtin :=
    .builtin rfl rfl (by rintro _ ⟨⟩; rfl)
  have flags : FlagsOnly ["check"] := fun invocation reads =>
    ⟨_, rfl, (Except.ok.inj (readInvocation_check.symm.trans reads)).symm⟩
  obtain ⟨p, builtin⟩ := Policy.exists_builtin
  have standard := Policy.standard_builtin builtin
  have root : unreadableFile.holdsAt (Path.join ⟨"/"⟩ ⟨"src"⟩) Tree.isDirectory = true := rfl
  refine ⟨wellNamed_unreadableFile, distinct_unreadableFile, ⟨_, located, directory⟩, chosen, flags, ?before, ?after⟩
  case before =>
    have found : "src/a/x.ts" ∈ ((unreadableProject p unreadableFile).discover unreadableFile).paths := by
      rw [discover_unreadableProject standard]
      decide +kernel
    have unread : unreadableFile.read (Path.join ⟨"/"⟩ ⟨"src/a/x.ts"⟩) = .error .invalidText := rfl
    have loads : (Source.find ignoringPolicy unreadableFile ⟨"."⟩ none).load ignoringPolicy unreadableFile = .ok p := by
      rw [chosen.eq_find]
      exact builtin
    rw [code_check_unreadableProject standard loads root, if_neg (Project.violations_ne_nil_of_unread found unread)]
  case after =>
    have missing : unreadableFile.entry? "layer-lint.toml" = none := rfl
    have way : Discovery.wayTo ignoringPolicy.workingDirectory ++ ["layer-lint.toml"] = ["layer-lint.toml"] := rfl
    rw [apply_init_of_missing located directory missing false]
    obtain ⟨grows, spot', located', directory', entry⟩ :=
      exists_written located directory missing Policy.defaultText.toUTF8
    rw [way] at grows located' ⊢
    have user := userFile_ignoringPolicy grows located' directory' entry
    have ignored := (verdict?_fromTop (Ignore.File.ofBytes Policy.defaultText.toUTF8).rules).trans
      Policy.verdict?_defaultText
    rw [← user] at ignored
    have none := (discover_unreadableProject standard).trans (find_ignored Policy.defaultText.toUTF8 ignored)
    have loads := (load_of_entry located' directory' entry).trans (Policy.ofToml_defaultText.trans builtin)
    have root' := (grows.holdsAt_isDirectory (Path.join ⟨"/"⟩ ⟨"src"⟩)).symm.trans root
    rw [code_check_unreadableProject standard loads root',
      if_pos (Project.violations_eq_nil_of_noSources none standard.forbidden)]

end Ignored

end CommandLine

end Layering
