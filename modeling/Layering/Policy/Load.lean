import Layering.Policy.Basic
import Layering.Policy.Decode
import Layering.Policy.Error

/-! Checking a policy. The sections are checked in a fixed order, and the first error counts. -/
namespace Layering.Policy

/-- Applies a check to every item of a list with its index; the first error counts. -/
def checkEach (check : Nat → α → Except Error β) (items : List α) : Except Error (List β) :=
  items.zipIdx.mapM fun (item, index) => check index item

/-- Adds the items to a list one after the other, unless it already has an equal one. -/
def distinct [BEq α] (items : List α) : List α :=
  items.foldl (fun kept item => if kept.contains item then kept else kept ++ [item]) []

/-- Whether a text starts with a letter and a colon. -/
def hasDrive : List Char → Bool
  | c :: ':' :: _ => c.isAlpha
  | _ => false

/-- The path without blanks at its ends, backslashes, dots and empty segments. A path that leads out of the
project is refused, and the project directory itself unless allowed. -/
def normalizeRelative (allowRoot : Bool) (value : String) : Except PathProblem String :=
  let cs := (Text.trim value).toList.map fun c => if c = '\\' then '/' else c
  if cs.head? = some '/' ∨ hasDrive cs then .error .absolute
  else
    let segments := ((Text.segments '/' cs).map String.ofList).filter fun s => s ≠ "" && s ≠ "."
    if segments.contains ".." then .error .parent
    else if segments.isEmpty ∧ allowRoot = false then .error .empty
    else .ok (Text.join "/" segments)

/-- A normalised path at a place of a policy. -/
def relativeAt (place : Place) (allowRoot : Bool) (value : String) : Except Error String :=
  (normalizeRelative allowRoot value).mapError (.invalidPath place value)

/-- A glob pattern at a place of a policy, where the pattern is derived from the given value. -/
def globAt (place : Place) (value pattern : String) : Except Error Glob :=
  (Glob.parse pattern).mapError (.invalidGlob place value)

/-- Removes all dots and slashes at the start, as long as they are pairs of a dot and a slash. -/
def dropHere : List Char → List Char
  | '.' :: '/' :: rest => dropHere rest
  | cs => cs

def checkExtension (index : Nat) (value : String) : Except Error String :=
  let extension := (Text.trim value).toList.dropWhile (· = '.')
  if extension.isEmpty then .error (.emptyName (.extension index)) else .ok (.ofList extension)

def checkExclude (index : Nat) (value : String) : Except Error Glob :=
  globAt (.exclude index) value (.ofList (dropHere (Text.trim value).toList))

def checkAnalyzer (entry : AnalyzerEntry) : Except Error Discovery := do
  let root ← relativeAt .analyzerRoot true entry.root
  let extensions ← checkEach checkExtension entry.extensions
  if extensions.isEmpty then .error (.emptyName .extensions)
  let exclude ← checkEach checkExclude entry.exclude
  return {
    root
    extensions := distinct extensions
    ignoreDirs := (entry.ignoreDirs.map Text.trim).filter (· ≠ "")
    exclude
    respectGitignore := entry.respectGitignore }

/-- Checks a layer after the given ones; its rank is their number. -/
def checkLayer (layers : List Layer) (entry : LayerEntry) : Except Error Layer := do
  let rank := layers.length
  let name := Text.trim entry.name
  if name = "" then .error (.emptyName (.layerName rank))
  if layers.any (·.name = name) then .error (.repeatedLayer name)
  if entry.roots.isEmpty then .error (.invalidPath (.layerRoots rank) "" .noRoot)
  let roots ← checkEach (fun index => relativeAt (.layerRoot rank index) false) entry.roots
  return { name, rank, roots, modules := entry.modules, allowSideways := entry.allowSideways }

def checkLayers (entries : List LayerEntry) : Except Error (List Layer) := do
  if entries.isEmpty then .error .noLayers
  entries.foldlM (fun layers entry => return layers ++ [← checkLayer layers entry]) []

/-- A key without blanks at its ends and without slashes after it. -/
def normalizeKey (key : String) : String :=
  .ofList ((Text.trim key).toList.reverse.dropWhile (· = '/')).reverse

/-- Checks an alias after the given ones. -/
def checkAlias (aliases : List Alias) (entry : String × String) : Except Error Alias := do
  let (key, target) := entry
  let normalized := normalizeKey key
  if normalized = "" then .error (.emptyName (.aliasNamed key))
  if aliases.any (·.key = normalized) then .error (.invalidPath .aliases key .repeatedKey)
  let target ← relativeAt (.aliasNamed key) true target
  return { key := normalized, target }

/-- Longer keys first, keys of one length in their order. -/
def aliasOrder (a b : Alias) : Ordering :=
  (compare b.key.utf8ByteSize a.key.utf8ByteSize).then (compare a.key b.key)

/-- The entries in the order of their keys. -/
def sortByKey (entries : List (String × α)) : List (String × α) :=
  entries.mergeSort fun a b => (compare a.1 b.1).isLE

def checkAliases (entries : List (String × String)) : Except Error (List Alias) := do
  let aliases ← (sortByKey entries).foldlM (fun aliases entry => return aliases ++ [← checkAlias aliases entry]) []
  return aliases.mergeSort fun a b => (aliasOrder a b).isLE

/-- Adds a stem of a role to the given ones. -/
def checkStem (stems : List (String × Role)) (entry : Role × Nat × String) :
    Except Error (List (String × Role)) := do
  let (role, index, value) := entry
  let stem := Text.trim value
  if stem = "" then .error (.emptyName (.roleStem role index))
  if (stems.lookup stem).isSome then .error (.repeatedStem stem)
  return stems ++ [(stem, role)]

def checkRoles (entry : RolesEntry) : Except Error (List (String × Role)) :=
  let groups := [(Role.ui, entry.ui), (.store, entry.store), (.service, entry.service),
    (.types, entry.types), (.publicApi, entry.publicApi)]
  let listed := groups.flatMap fun (role, stems) => stems.zipIdx.map fun (stem, index) => (role, index, stem)
  listed.foldlM checkStem []

/-- The role that a policy names at a place. -/
def roleAt (place : Place) (value : String) : Except Error Role :=
  match Role.ofName? (Text.trim value) with
  | some role => .ok role
  | none => .error (.unknownRole place value)

def checkModules (entry : ModulesEntry) : Except Error ModuleSettings := do
  let required ← checkEach (fun index => roleAt (.requiredRole index)) entry.required
  return { required := distinct required, allowPublicApi := entry.allowPublicApi }

def checkPattern (rule : String) (index : Nat) (literal : String) : Except Error TextPattern :=
  if literal = "" then .error (.emptyName (.roleRulePattern rule index)) else .ok (.literal literal)

def checkRegex (rule : String) (index : Nat) (source : String) : Except Error TextPattern :=
  match Regex.parse? source with
  | some expression => .ok (.regex source expression)
  | none => .error (.invalidRegex (.roleRuleRegex rule index))

def checkDenyLayer (layers : List Layer) (rule : String) (index : Nat) (name : String) : Except Error String :=
  if layers.any (·.name = name) then .ok name else .error (.unknownLayer (.roleRuleDenyLayer rule index) name)

def checkRoleRule (layers : List Layer) (index : Nat) (entry : RoleRuleEntry) : Except Error RoleRule := do
  let name := Text.trim entry.name
  if name = "" then .error (.emptyName (.roleRuleName index))
  let role ← roleAt (.roleRuleRole name) entry.role
  let literals ← checkEach (checkPattern name) entry.patterns
  let expressions ← checkEach (checkRegex name) entry.regex
  let denyImports := (entry.denyImports.map Text.trim).filter (· ≠ "")
  let denyLayers ← checkEach (checkDenyLayer layers name) entry.denyLayers
  let text := literals ++ expressions
  if text.isEmpty && denyImports.isEmpty && denyLayers.isEmpty then .error (.emptyRoleRule name)
  return { name, role, text, denyImports, denyLayers, message := entry.message, severity := entry.severity }

/-- Adds a role rule to the given ones. -/
def addRoleRule (layers : List Layer) (rules : List RoleRule) (entry : RoleRuleEntry) :
    Except Error (List RoleRule) := do
  let rule ← checkRoleRule layers rules.length entry
  if rules.any (·.name = rule.name) then .error (.repeatedRoleRule rule.name)
  return rules ++ [rule]

/-- A built-in role rule without layers that are not declared, if there is still something to check. -/
def restrictTo (layers : List Layer) (entry : RoleRuleEntry) : Option RoleRuleEntry :=
  let denyLayers := entry.denyLayers.filter fun name => layers.any (·.name = name)
  let emptied := !entry.denyLayers.isEmpty && denyLayers.isEmpty
  let checksNothing := entry.patterns.isEmpty && entry.regex.isEmpty && entry.denyImports.isEmpty
  if emptied && checksNothing then none else some { entry with denyLayers }

/-- The built-in role rules for the given layers. -/
def builtinRoleRules (layers : List Layer) : List RoleRuleEntry :=
  defaultRoleRules.filterMap (restrictTo layers)

def checkForbidden (index : Nat) (value : String) : Except Error Glob := do
  let pattern ← relativeAt (.forbidden index) false value
  globAt (.forbidden index) value pattern

/-- The rule that a key of the rules section names. -/
def ruleAt (key : String) : Except Error Rule :=
  match (Rule.ofKey? key).filter (·.isConfigurable) with
  | some rule => .ok rule
  | none => .error (.unknownRule key)

/-- The switches in the order of their keys. Of two keys of one rule the later one counts. -/
def checkRules (entries : List (String × RuleSettings)) : Except Error (List (Rule × RuleSettings)) := do
  let settings ← (sortByKey entries).mapM fun (key, settings) => return (← ruleAt key, settings)
  return settings.reverse

/-- The policy that a document describes. -/
def load (document : Document) : Except Error Policy := do
  let discovery ← checkAnalyzer document.analyzer
  let layers ← checkLayers document.layers
  let aliases ← checkAliases document.aliases
  let stems ← checkRoles document.roles
  let modules ← checkModules document.modules
  let entries := document.roleRules.getD (builtinRoleRules layers)
  let roleRules ← entries.foldlM (addRoleRule layers) []
  let forbidden ← checkEach checkForbidden document.forbidden
  let rules ← checkRules document.rules
  return { discovery, layers, aliases, stems, modules, roleRules, forbidden, rules }

/-- The policy that a TOML text describes. -/
def ofToml (text : String) : Except Error Policy :=
  match Document.read? text with
  | some document => load document
  | none => .error .malformed

/-- The policy of a project that has none. -/
def builtin : Except Error Policy := ofToml ""

end Layering.Policy
