import Layering.Proofs.Findings
import Layering.Proofs.Graph.Issues
import Layering.Proofs.Graph.Modules
import Layering.Proofs.Resolution.Meaning
import Layering.Proofs.Source.Positions
import Layering.Proofs.Text.Lines

/-! Findings without line breaks. What a finding says is put together from texts of the policy, from paths, from
specifiers and from what is said of files that cannot be read. Specifiers have no line breaks whatever the source is, so
that a line break in a finding comes from one of the others. -/
namespace Layering

open Text (oneLine_append)

section Pieces

variable {text : String}

theorem Text.oneLine_ofList {cs : List Char} : OneLine (.ofList cs) ↔ '\n' ∉ cs := by simp [OneLine]

theorem Text.oneLine_of_below? {base rest : String} (plain : OneLine text) (below : below? base text = some rest) :
    OneLine base ∧ OneLine rest := by
  rcases below?_eq_some.mp below with ⟨rfl, rfl⟩ | rfl
  · exact ⟨plain, by decide⟩
  · obtain ⟨⟨base, -⟩, rest⟩ := by simpa using plain
    exact ⟨base, rest⟩

theorem Text.oneLine_parent (plain : OneLine text) : OneLine (parent text) := by
  rw [parent, oneLine_join]
  exact fun piece listed => oneLine_iff_split.mp plain piece (List.dropLast_subset _ listed)

theorem Rule.oneLine_code (rule : Rule) : Text.OneLine rule.code := by cases rule <;> decide

theorem Role.oneLine_text (role : Role) : Text.OneLine role.text := by cases role <;> decide

end Pieces

namespace Source

/-- A string ends where its line ends, unless the line break is escaped, and then it is left out. -/
theorem not_mem_of_readString {quote : Char} {p : Position} {cs text : List Char}
    (read : (Token.readString quote p cs).1 = some text) : '\n' ∉ text := by
  have extended {c : Char} {rest : Option (List Char)} {text : List Char} (inLine : c ≠ '\n')
      (ih : ∀ {text}, rest = some text → '\n' ∉ text) (read : rest.map (c :: ·) = some text) : '\n' ∉ text := by
    obtain ⟨more, found, rfl⟩ := Option.map_eq_some_iff.mp read
    exact List.not_mem_cons_of_ne_of_not_mem inLine.symm (ih found)
  fun_induction Token.readString quote p cs generalizing text with
  | case1 => cases read
  | case2 => cases read
  | case3 =>
    obtain rfl := Option.some.inj read
    exact List.not_mem_nil
  | case4 => cases read
  | case5 _ _ _ _ ih => exact ih read
  | case6 _ _ _ _ ih => exact ih read
  | case7 _ _ _ _ _ ih => exact ih read
  | case8 =>
    rename_i inLine _ _ _ _ ih
    exact extended inLine ih read
  | case9 =>
    rename_i inLine _ _ ih
    exact extended inLine ih read

theorem oneLine_of_mem_scan (p : Position) (startsLine : Bool) (cs : List Char) :
    ∀ t ∈ Token.scan p startsLine cs, ∀ text, t.kind = .string text → Text.OneLine text := by
  fun_induction Token.scan p startsLine cs with
  | case1 => simp
  | case2 _ _ _ ih => exact ih
  | case3 _ _ _ _ _ _ ih => exact ih
  | case4 _ _ _ _ _ _ _ _ ih => exact List.forall_mem_cons.mpr ⟨by simp, ih⟩
  | case5 =>
    rename_i p _ c cs _ _ _ _ string kind ih
    refine List.forall_mem_cons.mpr ⟨fun text spelt => ?_, ih⟩
    cases read : (Token.readString c (p.next c) cs).1 with
    | none => simp [kind, string, read] at spelt
    | some cs' =>
      obtain rfl : .ofList cs' = text := by simpa [kind, string, read] using spelt
      exact Text.oneLine_ofList.mpr (not_mem_of_readString read)
  | case6 _ _ _ _ _ _ _ _ _ _ ih => exact List.forall_mem_cons.mpr ⟨by simp, ih⟩
  | case7 _ _ _ _ _ _ _ _ _ ih => exact List.forall_mem_cons.mpr ⟨by simp, ih⟩

theorem oneLine_specifiers {ts : List Token} (plain : ∀ t ∈ ts, ∀ text, t.kind = .string text → Text.OneLine text) :
    ∀ i ∈ Token.imports ts, Text.OneLine i.specifier := by
  fun_induction Token.imports ts with
  | case1 => simp
  | case2 t ts found rest read _ ih =>
    obtain ⟨before, u, rfl, kind, -⟩ := Token.readAt_readStatement read
    refine List.forall_mem_cons.mpr ⟨plain u (by simp) _ kind, ih fun t later => plain t (by simp [later])⟩
  | case3 t ts _ ih => exact ih fun t later => plain t (List.mem_cons_of_mem _ later)

/-- Specifiers have no line breaks, whatever the text is. -/
theorem oneLine_of_mem_imports {text : String} {i : Import} (listed : i ∈ imports text) : Text.OneLine i.specifier :=
  oneLine_specifiers (oneLine_of_mem_scan .start true _) i listed

end Source

theorem oneLine_of_inProject? {text path : String} (plain : Text.OneLine text) (inside : inProject? text = some path) :
    Text.OneLine path := by
  simp only [inProject?, Option.ite_none_right_eq_some, Option.some.injEq] at inside
  obtain ⟨-, rfl⟩ := inside
  rw [Path.displayParts, Text.oneLine_join, List.forall_mem_map]
  intro part listed
  rcases Path.mem_foldl_pushClean (List.mem_reverse.mp listed) with nothing | listed
  · cases nothing
  · exact Path.oneLine_parts.mpr plain part listed

/-- The texts of a policy that findings repeat have no line breaks. -/
structure Policy.OneLine (p : Policy) : Prop where
  layers : ∀ layer ∈ p.layers, Text.OneLine layer.name
  aliases : ∀ a ∈ p.aliases, Text.OneLine a.target
  extensions : ∀ extension ∈ p.discovery.extensions, Text.OneLine extension
  ruleNames : ∀ rule ∈ p.roleRules, Text.OneLine rule.name
  ruleMessages : ∀ rule ∈ p.roleRules, ∀ message ∈ rule.message, Text.OneLine message
  patterns : ∀ rule ∈ p.roleRules, ∀ pattern ∈ rule.text, Text.OneLine pattern.source
  forbidden : ∀ glob ∈ p.forbidden, Text.OneLine glob.text

/-- What findings say of an identity has no line breaks. -/
structure Classification.OneLine (c : Classification) : Prop where
  zone : Text.OneLine c.zone.name
  owner : ∀ m ∈ c.owner, Text.OneLine m.name ∧ Text.OneLine m.directory

/-- What findings say of an import has no line breaks. -/
structure Edge.OneLine (edge : Edge) : Prop where
  specifier : Text.OneLine edge.specifier
  path : ∀ path ∈ edge.target.path, Text.OneLine path
  identity : edge.target.identity.OneLine

/-- What is shown of a finding on one line has no line breaks. -/
structure Violation.OneLine (v : Violation) : Prop where
  file : Text.OneLine v.location.file.text
  code : Text.OneLine v.code
  message : Text.OneLine v.message

namespace Policy.OneLine

variable {p : Policy} (plain : p.OneLine) {path : String}

theorem of_moduleBelow? {root : String} {m : Module} (oneLine : Text.OneLine path)
    (found : moduleBelow? root path = some m) : Text.OneLine m.name ∧ Text.OneLine m.directory := by
  unfold moduleBelow? at found
  split at found
  · rename_i name next inside below
    obtain ⟨rest, below, cut⟩ := Option.map_eq_some_iff.mp below
    obtain rfl := Option.some.inj found
    obtain ⟨above, further⟩ := Text.oneLine_of_below? oneLine below
    have start : Text.OneLine (.ofList (rest.toList.dropWhile (· = '/'))) :=
      Text.oneLine_ofList.mpr fun listed => further (List.dropWhile_subset _ listed)
    have named := Text.oneLine_iff_split.mp start (.ofList name) (by simp [Text.split, cut])
    exact ⟨named, by simpa [above, named] using (by decide : Text.OneLine "/")⟩
  · cases found

include plain

theorem identity (oneLine : Text.OneLine path) : (p.identity path).OneLine := by
  rw [identity_of_layerRoot?]
  cases found : p.layerRoot? path with
  | none => exact ⟨(by decide : Text.OneLine "unclassified"), by simp⟩
  | some entry =>
    obtain ⟨root, layer⟩ := entry
    refine ⟨plain.layers layer (mem_layers_of_layerRoot? found).1, fun m owned => ?_⟩
    dsimp only at owned
    split at owned
    · exact of_moduleBelow? oneLine owned
    · cases owned

theorem reference {importer specifier : String} (oneLine : Text.OneLine importer)
    (oneLine' : Text.OneLine specifier) (read : p.reference importer specifier = .path path) : Text.OneLine path := by
  have slash : Text.OneLine "/" := by decide
  have above := Text.oneLine_parent oneLine
  unfold Policy.reference at read
  split at read
  · obtain rfl := Reference.path.inj read
    split <;> simp [*]
  · split at read
    · rename_i expanded
      obtain rfl := Reference.path.inj read
      obtain ⟨a, listed, expanded⟩ := List.exists_of_findSome?_eq_some expanded
      obtain ⟨rest, below, rfl⟩ := Option.map_eq_some_iff.mp expanded
      have further := (Text.oneLine_of_below? oneLine' below).2
      have target := plain.aliases a listed
      unfold Alias.expand
      repeat' split
      all_goals simp [*]
    · split at read <;> cases read

theorem candidates (oneLine : Text.OneLine path) : ∀ file ∈ p.candidates path, Text.OneLine file := by
  have dot : Text.OneLine "." := by decide
  have index : Text.OneLine (if path = "" then "index" else path ++ "/index") := by
    split
    · decide
    · exact Text.oneLine_append.mpr ⟨oneLine, by decide⟩
  simp only [Policy.candidates, List.cons_append, List.forall_mem_cons, List.forall_mem_append, List.forall_mem_map,
    oneLine_append]
  exact ⟨oneLine, fun extension listed => ⟨⟨oneLine, dot⟩, plain.extensions extension listed⟩,
    fun extension listed => ⟨⟨index, dot⟩, plain.extensions extension listed⟩⟩

theorem resolve {isFile : String → Bool} {importer specifier : String} (oneLine : Text.OneLine importer)
    (oneLine' : Text.OneLine specifier) (found : p.resolve isFile importer specifier = .internal path) :
    Text.OneLine path := by
  unfold Policy.resolve at found
  split at found
  · cases found
  · cases found
  · rename_i text read
    split at found
    · rename_i file tried
      obtain rfl := Resolution.internal.inj found
      obtain ⟨form, inside, tried⟩ := Option.bind_eq_some_iff.mp tried
      refine plain.candidates ?_ file (List.mem_of_find?_eq_some tried)
      exact oneLine_of_inProject? (plain.reference oneLine oneLine' read) inside
    · cases found

end Policy.OneLine

namespace Graph

variable {p : Policy} (plain : p.OneLine) {root : Path} {reader : Reader} {paths : List String}
  (given : ∀ path ∈ paths, Text.OneLine path) {file : SourceFile} {edge : Edge} {m : Module}

include plain given

theorem oneLine_of_mem_files (member : file ∈ (build p root reader paths).files) :
    Text.OneLine file.path ∧ file.identity.OneLine := by
  have path := given _ (path_of_mem_files member)
  rw [identity_of_mem_files member]
  exact ⟨path, plain.identity path⟩

theorem oneLine_of_mem_edges (listed : (file, edge) ∈ (build p root reader paths).edges) : edge.OneLine := by
  obtain ⟨member, imported⟩ := mem_edges.mp listed
  rw [imports_of_mem_files member, edgesOf, List.mem_map] at imported
  obtain ⟨i, read, rfl⟩ := imported
  have specifier := Source.oneLine_of_mem_imports read
  have path := given _ (path_of_mem_files member)
  have outside {zone : Zone} (named : Text.OneLine zone.name) : Edge.OneLine ⟨i, .outside zone⟩ :=
    ⟨specifier, by simp [Target.outside], ⟨named, by simp [Target.outside]⟩⟩
  cases resolved : p.resolve (isKnown root reader paths) file.path i.specifier with
  | internal target =>
    have reached := plain.resolve path specifier resolved
    exact ⟨specifier, by simpa [Target.ofResolution] using reached, plain.identity reached⟩
  | external => exact outside (by decide)
  | unresolved => exact outside (by decide)

theorem oneLine_of_mem_modules (listed : m ∈ (build p root reader paths).modules) :
    Text.OneLine m.name ∧ Text.OneLine m.directory := by
  obtain ⟨path, member, owned⟩ := mem_modules_build.mp listed
  exact (plain.identity (given path member)).owner m owned

end Graph

namespace Check

variable {severity : Severity} {file : SourceFile} {edge : Edge} {v : Violation}

theorem oneLine_violation {rule : Rule} {location : Location} {message : String} {suggestion : Option String}
    (file : Text.OneLine location.file.text) (message' : Text.OneLine message) :
    (rule.violation severity location message suggestion).OneLine :=
  ⟨file, rule.oneLine_code, message'⟩

section Imports

variable (path : Text.OneLine file.path) (identity : file.identity.OneLine) (plain : edge.OneLine)

include path identity plain

theorem oneLine_of_direction? {p : Policy} (found : direction? p severity file edge = some v) : v.OneLine := by
  unfold direction? at found
  split at found
  · rename_i lower rank higher rank' low high
    have lower' : Text.OneLine lower := by simpa [low, Zone.name] using identity.zone
    have higher' : Text.OneLine higher := by simpa [high, Zone.name] using plain.identity.zone
    have specifier := plain.specifier
    split at found
    · obtain rfl := Option.some.inj found
      exact oneLine_violation path (by simp +decide [*])
    · split at found
      · obtain rfl := Option.some.inj found
        exact oneLine_violation path (by simp +decide [*])
      · cases found
  · cases found

theorem oneLine_of_crossing? {allowPublicApi : Bool} (found : crossing? allowPublicApi severity file edge = some v) :
    v.OneLine := by
  unfold crossing? at found
  split at found
  · rename_i source target sourceOwner targetOwner
    obtain ⟨sourceName, -⟩ := identity.owner source sourceOwner
    obtain ⟨targetName, -⟩ := plain.identity.owner target targetOwner
    have path' : Text.OneLine (edge.target.path.getD edge.specifier) := by
      cases leads : edge.target.path with
      | none => exact plain.specifier
      | some path => exact plain.path path leads
    split at found
    · cases found
    · split at found
      · cases found
      · obtain rfl := Option.some.inj found
        refine oneLine_violation path ?_
        unfold crossModuleMessage
        dsimp only
        split <;> simp +decide [*]
  · cases found

end Imports

theorem oneLine_missingRole {m : Module} (named : Text.OneLine m.name) (directory : Text.OneLine m.directory)
    (p : Policy) (role : Role) : (missingRole p severity m role).OneLine := by
  have role := role.oneLine_text
  exact oneLine_violation directory (by simp +decide [*])

section RoleRules

variable {rule : RoleRule} {path : String} (named : Text.OneLine rule.name)
  (spelt : ∀ message ∈ rule.message, Text.OneLine message)

include named spelt

theorem oneLine_roleMessage (standard : String) (standard' : Text.OneLine standard) :
    Text.OneLine (roleMessage rule standard) := by
  have message : Text.OneLine (rule.message.getD standard) := by
    cases same : rule.message with
    | none => exact standard'
    | some message => exact spelt message same
  unfold roleMessage
  simp +decide [*]

theorem oneLine_of_deniedText? {text : String} {pattern : TextPattern} (path' : Text.OneLine path)
    (source : Text.OneLine pattern.source) (found : deniedText? rule path text pattern = some v) : v.OneLine := by
  obtain ⟨⟨offset, count⟩, -, rfl⟩ := Option.map_eq_some_iff.mp found
  have role := rule.role.oneLine_text
  have message := oneLine_roleMessage named spelt
    ("`" ++ rule.role.text ++ "` files must not contain `" ++ pattern.source ++ "`") (by simp +decide [*])
  refine oneLine_violation path' ?_
  split <;> simp +decide [*]

theorem oneLine_of_deniedImport? (path : Text.OneLine file.path) (plain : edge.OneLine)
    (refused : deniedImport? rule file edge = some v) : v.OneLine := by
  obtain ⟨reason, denied, rfl⟩ := Option.map_eq_some_iff.mp refused
  have specifier := plain.specifier
  have reason' : Text.OneLine reason := by
    unfold denialReason? at denied
    split at denied
    · rename_i package found
      obtain rfl := Option.some.inj denied
      obtain ⟨rest, below⟩ := Option.isSome_iff_exists.mp (List.find?_some found :)
      have package' := (Text.oneLine_of_below? specifier below).1
      simp +decide [*]
    · rename_i name rank free zone
      obtain ⟨-, same⟩ := Option.ite_none_right_eq_some.mp denied
      obtain rfl := Option.some.inj same
      have name' : Text.OneLine name := by simpa [zone, Zone.name] using plain.identity.zone
      simp +decide [*]
    · cases denied
  have role := rule.role.oneLine_text
  have message := oneLine_roleMessage named spelt
    ("`" ++ rule.role.text ++ "` files must not import `" ++ edge.specifier ++ "`") (by simp +decide [*])
  exact oneLine_violation path (by simp +decide [*])

end RoleRules

end Check

namespace Analysis

open Layering.Graph (build placementIssue readIssue)

variable {p : Policy} (plain : p.OneLine) {root : Path} {reader : Reader} {paths : List String} {v : Violation}
  (given : ∀ path ∈ paths, Text.OneLine path)

theorem oneLine_of_layerRoot? {path root : String} {layer : Layer} (oneLine : Text.OneLine path)
    (below : p.layerRoot? path = some (root, layer)) : Text.OneLine root := by
  have under := List.find?_some (show p.layerRoots.find? _ = some (root, layer) from below)
  simp only [Text.isUnder, Bool.or_eq_true, decide_eq_true_eq, Option.isSome_iff_exists] at under
  rcases under with rfl | ⟨rest, under⟩
  · decide
  · exact (Text.oneLine_of_below? oneLine under).1

include plain

theorem oneLine_of_placementIssue {path : String} (oneLine : Text.OneLine path) (found : v ∈ placementIssue p path) :
    v.OneLine := by
  unfold placementIssue at found
  split at found
  · cases found
  · rename_i misplaced failed
    obtain rfl := List.mem_singleton.mp found
    refine Check.oneLine_violation oneLine ?_
    unfold Policy.classify at failed
    split at failed
    · cases failed
    · rename_i root layer below
      split at failed
      · split at failed
        · cases failed
        · obtain rfl := Except.error.inj failed
          have above := oneLine_of_layerRoot? oneLine below
          have named := plain.layers layer (Policy.mem_layers_of_layerRoot? below).1
          simp +decide [Misplaced.message, *]
      · cases failed

include given

variable (errors : ∀ path ∈ paths, ∀ e, reader.read (root.join ⟨path⟩) = .error e → Text.OneLine e.message)

include errors in
theorem oneLine_of_mem_issues (found : v ∈ (build p root reader paths).issues) : v.OneLine := by
  obtain ⟨path, member, found⟩ := Graph.mem_issues_build.mp found
  have oneLine := given path member
  rcases List.mem_append.mp found with found | found
  · exact oneLine_of_placementIssue plain oneLine found
  · unfold readIssue at found
    split at found
    · cases found
    · rename_i e failed
      obtain rfl := List.mem_singleton.mp found
      have error := errors path member e failed
      exact Check.oneLine_violation oneLine (by simp +decide [error])

theorem oneLine_of_mem_roleContent (found : v ∈ Check.roleContent p (build p root reader paths)) : v.OneLine := by
  obtain ⟨file, member, found⟩ := List.mem_flatMap.mp found
  obtain ⟨rule, kept, found⟩ := List.mem_flatMap.mp found
  have listed := List.mem_of_mem_filter kept
  have named := plain.ruleNames rule listed
  have spelt := plain.ruleMessages rule listed
  have path := (Graph.oneLine_of_mem_files plain given member).1
  rcases List.mem_append.mp found with found | found
  · obtain ⟨pattern, looked, found⟩ := List.mem_filterMap.mp found
    exact Check.oneLine_of_deniedText? named spelt path (plain.patterns rule listed pattern looked) found
  · obtain ⟨edge, imported, found⟩ := List.mem_filterMap.mp found
    have edge := Graph.oneLine_of_mem_edges plain given (Graph.mem_edges.mpr ⟨member, imported⟩)
    exact Check.oneLine_of_deniedImport? named spelt path edge found

theorem oneLine_of_mem_edgewise {check : SourceFile → Edge → Option Violation}
    (each : ∀ {file edge v}, Text.OneLine file.path → file.identity.OneLine → edge.OneLine →
      check file edge = some v → v.OneLine)
    (found : v ∈ (build p root reader paths).edges.filterMap fun (file, edge) => check file edge) : v.OneLine := by
  obtain ⟨⟨file, edge⟩, listed, found⟩ := List.mem_filterMap.mp found
  obtain ⟨path, identity⟩ := Graph.oneLine_of_mem_files plain given (Graph.mem_edges.mp listed).1
  exact each path identity (Graph.oneLine_of_mem_edges plain given listed) found

theorem oneLine_of_mem_findings {forbidden : List Violation} (forbidden' : ∀ v ∈ forbidden, v.OneLine) {rule : Rule}
    (found : v ∈ Analysis.findings p forbidden (build p root reader paths) rule) : v.OneLine := by
  cases rule with
  | layerDirection =>
    refine oneLine_of_mem_edgewise plain given (fun path identity edge judged => ?_) found
    exact Check.oneLine_of_direction? path identity edge judged
  | crossModuleImport =>
    refine oneLine_of_mem_edgewise plain given (fun path identity edge judged => ?_) found
    exact Check.oneLine_of_crossing? path identity edge judged
  | requiredFiles =>
    simp only [Analysis.findings, Check.requiredFiles, List.mem_flatMap, List.mem_map] at found
    obtain ⟨m, listed, role, -, rfl⟩ := found
    obtain ⟨named, directory⟩ := Graph.oneLine_of_mem_modules plain given listed
    exact Check.oneLine_missingRole named directory p role
  | roleContent => exact oneLine_of_mem_roleContent plain given found
  | forbiddenPath => exact forbidden' v found
  | ioError => cases found
  | classificationError => cases found

include errors in
/-- No finding of an analysis has line breaks if none are in the policy, in the paths and in what is said of files that
cannot be read. -/
theorem oneLine_of_mem_report {rules : List Rule} {forbidden : List Violation} (forbidden' : ∀ v ∈ forbidden, v.OneLine)
    (listed : v ∈ (Analysis.report p rules forbidden (build p root reader paths)).violations) : v.OneLine := by
  rcases List.mem_append.mp (Report.mem_of_mem_sorted listed) with issue | found
  · exact oneLine_of_mem_issues plain given errors issue
  · obtain ⟨rule, -, -, u, own, rfl⟩ := Analysis.mem_evaluate.mp found
    obtain ⟨file, code, message⟩ := oneLine_of_mem_findings plain given forbidden' own
    exact ⟨by simpa using file, by simpa using code, by simpa using message⟩

end Analysis

end Layering
