import Layering.Policy.Document
import Layering.Toml.Reader

/-! Reading a policy from TOML. A key that no section has is refused. A section may also be written as an array
of the values of its keys in order, in which further items do not matter. -/
namespace Layering.Policy

/-- A value as a member of a type, if it is written as one. -/
abbrev Decoder (α : Type) := Toml → Option α

namespace Decoder

def text : Decoder String
  | .string text => some text
  | _ => none

def flag : Decoder Bool
  | .boolean value => some value
  | _ => none

/-- A list, written as an array or as tables with a common header. -/
def list (item : Decoder α) : Decoder (List α)
  | .array items => items.mapM item
  | .tables items => items.mapM fun entries => item (.table .header entries)
  | _ => none

def texts : Decoder (List String) := list text

/-- Whether a value is empty, as the content of a key that only names something must be. -/
def isEmpty : Toml → Bool
  | .array [] | .table _ [] | .tables [] => true
  | _ => false

/-- A severity, written as its name or as the key of a table. A table between braces has no other key. -/
def severity : Decoder Severity
  | .string text => Severity.ofText? text
  | .table kind ((key, value) :: others) =>
    if (kind = .inline || kind = .inlineDotted) && !others.isEmpty then none
    else if isEmpty value then Severity.ofText? key else none
  | _ => none

/-- The members of a section under the given keys. -/
def members (keys : List String) : Decoder (List (String × Toml))
  | .table _ entries => if entries.all (keys.contains ·.1) then some entries else none
  | .array items => some (keys.zip items)
  | .tables items => some (keys.zip (items.map (.table .header)))
  | _ => none

/-- The member under a key, or a default if there is none. -/
def field (members : List (String × Toml)) (key : String) (decode : Decoder α) (default : α) : Option α :=
  match members.lookup key with
  | some value => decode value
  | none => some default

/-- The member under a key that must be there. -/
def required (members : List (String × Toml)) (key : String) (decode : Decoder α) : Option α :=
  (members.lookup key).bind decode

/-- A member that may be left out. -/
def optional (members : List (String × Toml)) (key : String) (decode : Decoder α) : Option (Option α) :=
  field members key (fun value => (decode value).map some) none

/-- A table with keys of one's own. A time counts as a table with one key that no other table should have. -/
def map (value : Decoder α) : Decoder (List (String × α))
  | .table _ entries => entries.mapM fun entry => (value entry.2).map fun a => (entry.1, a)
  | .datetime time =>
    (value (.string time.text)).map fun a => [("$__toml_private_datetime", a)]
  | _ => none

def analyzer : Decoder AnalyzerEntry := fun value => do
  let m ← members ["root", "extensions", "ignore_dirs", "exclude", "respect_gitignore"] value
  let default : AnalyzerEntry := {}
  some {
    root := ← field m "root" text default.root
    extensions := ← field m "extensions" texts default.extensions
    ignoreDirs := ← field m "ignore_dirs" texts default.ignoreDirs
    exclude := ← field m "exclude" texts default.exclude
    respectGitignore := ← field m "respect_gitignore" flag default.respectGitignore }

def layer : Decoder LayerEntry := fun value => do
  let m ← members ["name", "roots", "modules", "allow_sideways"] value
  some {
    name := ← required m "name" text
    roots := ← required m "roots" texts
    modules := ← field m "modules" flag false
    allowSideways := ← field m "allow_sideways" flag true }

/-- The public entry has two keys, of which at most one may be given. -/
def roles : Decoder RolesEntry := fun value => do
  let m ← members ["ui", "store", "service", "types", "public-api", "index"] value
  let m := match value with
    | .table _ _ => m
    | _ => m.filter (·.1 ≠ "index")
  let default : RolesEntry := {}
  let publicApi ← optional m "public-api" texts
  let index ← optional m "index" texts
  if publicApi.isSome && index.isSome then none
  some {
    ui := ← field m "ui" texts default.ui
    store := ← field m "store" texts default.store
    service := ← field m "service" texts default.service
    types := ← field m "types" texts default.types
    publicApi := (publicApi.or index).getD default.publicApi }

def modules : Decoder ModulesEntry := fun value => do
  let m ← members ["required", "allow_public_api"] value
  let default : ModulesEntry := {}
  some {
    required := ← field m "required" texts default.required
    allowPublicApi := ← field m "allow_public_api" flag default.allowPublicApi }

def roleRule : Decoder RoleRuleEntry := fun value => do
  let m ← members
    ["name", "role", "patterns", "regex", "deny_imports", "deny_layers", "message", "severity"] value
  some {
    name := ← required m "name" text
    role := ← required m "role" text
    patterns := ← field m "patterns" texts []
    regex := ← field m "regex" texts []
    denyImports := ← field m "deny_imports" texts []
    denyLayers := ← field m "deny_layers" texts []
    message := ← optional m "message" text
    severity := ← field m "severity" severity .error }

def structureSection : Decoder (List String) := fun value => do
  let m ← members ["forbidden"] value
  field m "forbidden" texts []

def ruleSettings : Decoder RuleSettings := fun value => do
  let m ← members ["enabled", "severity"] value
  some { enabled := ← optional m "enabled" flag, severity := ← optional m "severity" severity }

def document : Decoder Document := fun value => do
  let m ← members
    ["analyzer", "layers", "aliases", "roles", "modules", "role-rules", "structure", "rules"] value
  let default : Document := {}
  some {
    analyzer := ← field m "analyzer" analyzer default.analyzer
    layers := ← field m "layers" (list layer) default.layers
    aliases := ← field m "aliases" (map text) default.aliases
    roles := ← field m "roles" roles default.roles
    modules := ← field m "modules" modules default.modules
    roleRules := ← optional m "role-rules" (list roleRule)
    forbidden := ← field m "structure" structureSection default.forbidden
    rules := ← field m "rules" (map ruleSettings) default.rules }

end Decoder

/-- The policy that a TOML text spells. -/
def Document.read? (text : String) : Option Document :=
  (Toml.read? text).bind fun entries => Decoder.document (.table .header entries)

end Layering.Policy
