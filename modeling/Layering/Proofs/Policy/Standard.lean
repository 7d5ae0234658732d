import Layering.Policy.Default
import Layering.Proofs.Policy.BuiltinRules
import Layering.Proofs.Policy.Switches

/-! The default policy, once written out and once left out. The text is read as the characters of its lines are, and
the document that it spells differs from an empty one in nothing but the role rules, which it lists instead of leaving
them to what is built in. -/
namespace Layering.Policy

/-- Texts and the characters that they are spelt with. -/
inductive Spelt : List String → List (List Char) → Prop
  | nil : Spelt [] []
  | cons (cs : List Char) {texts : List String} {lines : List (List Char)} (later : Spelt texts lines) :
      Spelt (.ofList cs :: texts) (cs :: lines)

theorem Spelt.toList_lines {texts : List String} {lines : List (List Char)} (spelt : Spelt texts lines)
    (start : String) : (texts.foldl (fun text line => text ++ line ++ "\n") start).toList =
      start.toList ++ lines.flatMap fun line => line ++ ['\n'] := by
  induction spelt generalizing start with
  | nil => rw [List.foldl_nil, List.flatMap_nil, List.append_nil]
  | cons cs _ ih =>
    rw [List.foldl_cons, ih, List.flatMap_cons]
    simp

theorem Spelt.map_ofList {texts : List String} {lines : List (List Char)} (spelt : Spelt texts lines) :
    lines.map .ofList = texts := by
  induction spelt with
  | nil => rfl
  | cons cs _ ih => rw [List.map_cons, ih]

theorem read?_lines {lines : List (List Char)} {document : Document}
    (read : ∀ text : String, text.toList = lines.flatMap (fun line => line ++ ['\n']) →
      Document.read? text = some document) {texts : List String} (spelt : Spelt texts lines) :
    Document.read? (texts.foldl (fun text line => text ++ line ++ "\n") "") = some document := by
  apply read
  rw [spelt.toList_lines]
  rfl

/-- The characters are taken from the lines first: cutting the whole text into characters would take long. -/
theorem read?_defaultText : Document.read? defaultText = some { roleRules := some defaultRoleRules } := by
  apply read?_lines
  case spelt =>
    dsimp only [defaultLines]
    repeat constructor
  case read =>
    intro text same
    rw [Document.read?, Toml.read?, same]
    decide +kernel

theorem read?_empty : Document.read? "" = some {} := by decide +kernel

/-- Role rules that are listed are as good as those that are built in, if they are the same for the layers. -/
theorem load_listed (document : Document) {layers : List Layer} (checked : checkLayers document.layers = .ok layers)
    (left : document.roleRules = none) :
    load { document with roleRules := some (builtinRoleRules layers) } = load document := by
  simp only [load, checked, left, Option.getD_some, Option.getD_none, bind, Except.bind]

/-- The layers of a policy that declares none. -/
def standardLayers : List Layer := [
  ⟨"shared", 0, ["src/shared"], false, true⟩,
  ⟨"core", 1, ["src/core"], false, true⟩,
  ⟨"modules", 2, ["src/modules"], true, true⟩,
  ⟨"app", 3, ["src/app"], false, true⟩]

theorem checkLayers_default : checkLayers defaultLayers = .ok standardLayers := by decide +kernel

/-- All built-in role rules apply to the layers of a policy that declares none. -/
theorem builtinRoleRules_standard : builtinRoleRules standardLayers = defaultRoleRules := by decide +kernel

/-- The default policy is the same written out and left out. -/
theorem ofToml_defaultText : ofToml defaultText = builtin := by
  have listed : load { roleRules := some (builtinRoleRules standardLayers) } = load {} :=
    load_listed {} checkLayers_default rfl
  rw [builtin, ofToml, ofToml, read?_defaultText, read?_empty]
  simpa only [builtinRoleRules_standard] using listed

/-- How the sources are found where a policy does not say how. -/
def standardDiscovery : Discovery where
  root := "src"
  extensions := ["ts", "tsx", "js", "jsx", "mjs", "cjs"]
  ignoreDirs := ["node_modules", "dist", "build", "coverage", ".git"]
  exclude := []
  respectGitignore := true

theorem checkAnalyzer_default : checkAnalyzer {} = .ok standardDiscovery := by decide +kernel

/-- What the built-in policy says of the sources and of the layers. -/
structure Standard (p : Policy) : Prop where
  discovery : p.discovery = standardDiscovery
  layers : p.layers = standardLayers
  forbidden : p.forbidden = []

theorem Standard.extensions {p : Policy} (standard : Standard p) :
    p.discovery.extensions = ["ts", "tsx", "js", "jsx", "mjs", "cjs"] := by rw [standard.discovery, standardDiscovery]

theorem standard_builtin {p : Policy} (loads : builtin = .ok p) : Standard p := by
  rw [builtin, ofToml, read?_empty] at loads
  obtain ⟨discovery, layers, -, -, -, -, forbidden, -⟩ := load_eq_ok.mp loads
  refine ⟨?_, ?_, ?_⟩
  · exact (Except.ok.inj (checkAnalyzer_default.symm.trans discovery)).symm
  · exact (Except.ok.inj (checkLayers_default.symm.trans layers)).symm
  · exact (Except.ok.inj forbidden).symm

/-- There is a built-in policy. -/
theorem exists_builtin : ∃ p, builtin = .ok p := by
  have clean : ∀ entry ∈ defaultAliases, normalizeKey entry.1 ≠ "" ∧ normalizeRelative true entry.2 = .ok entry.2 := by
    decide +kernel
  obtain ⟨aliases, accepted⟩ : ∃ aliases, checkAliases defaultAliases = .ok aliases :=
    exists_checkAliases (fun entry listed => ⟨(clean entry listed).1, _, (clean entry listed).2⟩) (by decide +kernel)
  have stems : checkRoles {} = .ok oneLayer.stems := by decide +kernel
  have modules : checkModules {} = .ok oneLayer.modules := by decide +kernel
  obtain ⟨roleRules, loads, -⟩ := ofToml_builtinRoleRules
    (p := { oneLayer with discovery := standardDiscovery, layers := standardLayers, aliases }) read?_empty rfl
    ⟨checkAnalyzer_default, checkLayers_default, accepted, stems, modules, rfl, checkRules_of_sorted .nil⟩
  exact ⟨_, loads⟩

end Layering.Policy
