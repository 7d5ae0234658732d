import Layering.Glob.Pattern
import Layering.Path
import Layering.Policy.Document
import Layering.Role
import Layering.Rule
import Layering.Text.Pattern

/-! A policy after all checks: names are distinct, paths are normalised, patterns are read and roles are
known. -/
namespace Layering

/-- A layer. A file may import files of its own layer and of layers with a lower rank. -/
structure Layer where
  name : String
  /-- The place of the layer in the order, from zero. -/
  rank : Nat
  /-- The directories that belong to the layer. -/
  roots : List String
  /-- Whether the directories right below the roots are modules. -/
  modules : Bool
  /-- Whether files may import other files of the same layer. -/
  allowSideways : Bool
  deriving Repr, DecidableEq

/-- A prefix of specifiers that stands for a directory. -/
structure Alias where
  key : String
  /-- The directory, empty for the project directory itself. -/
  target : String
  deriving Repr, DecidableEq

namespace Alias

/-- What follows the key in a specifier: nothing, or what comes after a slash. -/
def strip? (a : Alias) (specifier : String) : Option String := Text.below? a.key specifier

/-- The path of what follows the key, seen from the project directory. -/
def expand (a : Alias) (rest : String) : String :=
  if rest = "" then a.target
  else if a.target = "" then rest
  else a.target ++ "/" ++ rest

end Alias

/-- What files of a role must not contain and import. -/
structure RoleRule where
  name : String
  role : Role
  /-- Text that must not stand outside of comments. -/
  text : List TextPattern
  /-- Specifiers that must not be imported, nor anything below them. -/
  denyImports : List String
  /-- Layers that must not be imported. -/
  denyLayers : List String
  message : Option String
  severity : Severity

/-- The first denied specifier that is the given one or that the given one lies below. -/
def RoleRule.deniedBy? (rule : RoleRule) (specifier : String) : Option String :=
  rule.denyImports.find? fun denied => (Text.below? denied specifier).isSome

/-- How source files are found. -/
structure Discovery where
  /-- The directory that holds the sources, seen from the project directory. -/
  root : String
  /-- The extensions of source files without their dot, in the order in which they are tried. -/
  extensions : List String
  /-- Names of directories that are not entered. -/
  ignoreDirs : List String
  exclude : List Glob
  respectGitignore : Bool
  deriving Repr, DecidableEq

structure ModuleSettings where
  /-- The roles that every module must have a file for. -/
  required : List Role
  /-- Whether other modules may import the public entry of a module. -/
  allowPublicApi : Bool
  deriving Repr, DecidableEq

/-- A policy. -/
structure Policy where
  discovery : Discovery
  /-- The layers, lowest first. -/
  layers : List Layer
  /-- The aliases, longest key first. -/
  aliases : List Alias
  /-- The stem of each file name that has a role. -/
  stems : List (String × Role)
  modules : ModuleSettings
  roleRules : List RoleRule
  /-- Patterns of paths that must not exist. -/
  forbidden : List Glob
  /-- The switches of rules. -/
  rules : List (Rule × Policy.RuleSettings)

namespace Policy

/-- The role of a file with the given stem. -/
def roleOfStem (p : Policy) (stem : String) : Role :=
  (p.stems.lookup stem).getD .unclassified

/-- The stems of a role in order. -/
def stemsOf (p : Policy) (role : Role) : List String :=
  ((p.stems.filter fun entry => entry.2 = role).map (·.1)).mergeSort fun a b => (compare a b).isLE

/-- A rule runs unless the policy switches it off. -/
def isEnabled (p : Policy) (rule : Rule) : Bool :=
  ((p.rules.lookup rule).bind (·.enabled)).getD true

/-- The severity that the policy gives to the findings of a rule. -/
def severity? (p : Policy) (rule : Rule) : Option Severity :=
  (p.rules.lookup rule).bind (·.severity)

end Policy

end Layering
