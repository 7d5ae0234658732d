import Layering.Severity

/-! A policy as it is written, before anything is checked. What a policy leaves out has a default. -/
namespace Layering.Policy

/-- How source files are found. -/
structure AnalyzerEntry where
  root : String := "src"
  extensions : List String := ["ts", "tsx", "js", "jsx", "mjs", "cjs"]
  ignoreDirs : List String := ["node_modules", "dist", "build", "coverage", ".git"]
  exclude : List String := []
  respectGitignore : Bool := true
  deriving Repr, DecidableEq

structure LayerEntry where
  name : String
  roots : List String
  modules : Bool := false
  allowSideways : Bool := true
  deriving Repr, DecidableEq

/-- The stems of the file names of each role. -/
structure RolesEntry where
  ui : List String := ["ui"]
  store : List String := ["store"]
  service : List String := ["service"]
  types : List String := ["types"]
  publicApi : List String := ["index"]
  deriving Repr, DecidableEq

structure ModulesEntry where
  required : List String := ["ui", "store", "service", "public-api"]
  allowPublicApi : Bool := true
  deriving Repr, DecidableEq

structure RoleRuleEntry where
  name : String
  role : String
  patterns : List String := []
  regex : List String := []
  denyImports : List String := []
  denyLayers : List String := []
  message : Option String := none
  severity : Severity := .error
  deriving Repr, DecidableEq

/-- The switch of a rule. -/
structure RuleSettings where
  enabled : Option Bool := none
  severity : Option Severity := none
  deriving Repr, DecidableEq

/-- The layers of a policy that declares none. -/
def defaultLayers : List LayerEntry := [
  { name := "shared", roots := ["src/shared"] },
  { name := "core", roots := ["src/core"] },
  { name := "modules", roots := ["src/modules"], modules := true },
  { name := "app", roots := ["src/app"] }]

/-- The aliases of a policy that declares none. -/
def defaultAliases : List (String × String) := [
  ("@", "src"),
  ("@shared", "src/shared"),
  ("@core", "src/core"),
  ("@modules", "src/modules"),
  ("@app", "src/app")]

/-- The role rules of a policy that declares none. -/
def defaultRoleRules : List RoleRuleEntry := [
  { name := "store-no-network"
    role := "store"
    patterns := ["fetch(", "XMLHttpRequest", "new WebSocket("]
    denyImports := ["axios", "node:http", "node:https"]
    message := some "store files must not perform network calls; move I/O into the module service" },
  { name := "ui-no-core"
    role := "ui"
    denyLayers := ["core"]
    message := some "UI files must not import the core layer; go through the module store or service" },
  { name := "ui-no-network"
    role := "ui"
    patterns := ["fetch("]
    denyImports := ["axios"]
    message := some "UI files must not perform network calls" },
  { name := "service-no-business-logic"
    role := "service"
    regex := ["\\bswitch\\s*\\(", "\\bfor\\s*\\(", "\\bwhile\\s*\\("]
    message := some "service files should stay thin adapters; move control-flow-heavy logic into core"
    severity := .warning },
  { name := "types-declarations-only"
    role := "types"
    regex := ["(?m)^[ \\t]*(export[ \\t]+)?(default[ \\t]+)?(async[ \\t]+)?(function|class)[ \\t]"]
    message := some "types files should only declare types and interfaces"
    severity := .warning }]

/-- A policy as it is written. -/
structure Document where
  analyzer : AnalyzerEntry := {}
  layers : List LayerEntry := defaultLayers
  /-- Prefixes of specifiers and the directories they stand for. -/
  aliases : List (String × String) := defaultAliases
  roles : RolesEntry := {}
  modules : ModulesEntry := {}
  /-- Absent if the built-in rules apply. -/
  roleRules : Option (List RoleRuleEntry) := none
  forbidden : List String := []
  rules : List (String × RuleSettings) := []
  deriving Repr, DecidableEq

end Layering.Policy
