import Layering.Glob.Pattern
import Layering.Path
import Layering.Role

/-! Why a policy is refused. -/
namespace Layering.Policy

/-- The place of a value in a policy. Lists count from zero. -/
inductive Place where
  | analyzerRoot
  | extensions
  | extension (index : Nat)
  | exclude (index : Nat)
  | layerName (layer : Nat)
  | layerRoots (layer : Nat)
  | layerRoot (layer index : Nat)
  | aliases
  | aliasNamed (key : String)
  | roleStem (role : Role) (index : Nat)
  | requiredRole (index : Nat)
  | roleRuleName (index : Nat)
  | roleRuleRole (rule : String)
  | roleRulePattern (rule : String) (index : Nat)
  | roleRuleRegex (rule : String) (index : Nat)
  | roleRuleDenyLayer (rule : String) (index : Nat)
  | forbidden (index : Nat)
  deriving Repr, DecidableEq

/-- An item of a list. -/
private def item (list : String) (index : Nat) : String := list ++ "[" ++ toString index ++ "]"

private def roleRule (rule field : String) : String := "role-rule '" ++ rule ++ "' " ++ field

def Place.text : Place → String
  | analyzerRoot => "analyzer.root"
  | extensions => "analyzer.extensions"
  | extension index => item "analyzer.extensions" index
  | exclude index => item "analyzer.exclude" index
  | layerName layer => item "layers" layer ++ ".name"
  | layerRoots layer => item "layers" layer ++ ".roots"
  | layerRoot layer index => item (item "layers" layer ++ ".roots") index
  | aliases => "aliases"
  | aliasNamed key => "aliases.\"" ++ key ++ "\""
  | roleStem role index => item ("roles." ++ role.text) index
  | requiredRole index => item "modules.required" index
  | roleRuleName index => item "role-rules" index ++ ".name"
  | roleRuleRole rule => roleRule rule "role"
  | roleRulePattern rule index => item (roleRule rule "patterns") index
  | roleRuleRegex rule index => item (roleRule rule "regex") index
  | roleRuleDenyLayer rule index => item (roleRule rule "deny_layers") index
  | forbidden index => item "structure.forbidden" index

/-- What is wrong with a path. -/
inductive PathProblem where
  | absolute
  | parent
  | empty
  | noRoot
  | repeatedKey
  deriving Repr, DecidableEq

def PathProblem.text : PathProblem → String
  | absolute => "must be relative to the project directory"
  | parent => "must not contain `..`"
  | empty => "must not be empty"
  | noRoot => "a layer needs at least one root"
  | repeatedKey => "alias key is declared more than once"

/-- Why a policy is refused. -/
inductive Error where
  | unreadable (path : Path)
  /-- It is no TOML, or its keys and values are not those of a policy. -/
  | malformed
  | noLayers
  | repeatedLayer (name : String)
  | emptyName (place : Place)
  | invalidPath (place : Place) (value : String) (problem : PathProblem)
  | unknownRole (place : Place) (value : String)
  | unknownLayer (place : Place) (value : String)
  | invalidRegex (place : Place)
  | invalidGlob (place : Place) (value : String) (error : Glob.Error)
  | emptyRoleRule (name : String)
  | repeatedRoleRule (name : String)
  | repeatedStem (stem : String)
  | unknownRule (key : String)
  deriving Repr, DecidableEq

namespace Error

def message : Error → String
  | unreadable path => "failed to read policy file " ++ path.text
  | malformed => "failed to parse policy"
  | noLayers => "policy declares no layers"
  | repeatedLayer name => "cyclic layer order: layer `" ++ name ++ "` is declared more than once"
  | emptyName place => place.text ++ ": name must not be empty"
  | invalidPath place value problem =>
    place.text ++ ": invalid path `" ++ value ++ "`: " ++ problem.text
  | unknownRole place value =>
    place.text ++ ": unknown role `" ++ value ++ "`, expected: ui, store, service, types, public-api"
  | unknownLayer place value => place.text ++ ": unknown layer `" ++ value ++ "`"
  | invalidRegex place => place.text ++ ": invalid regex"
  | invalidGlob place value error =>
    place.text ++ ": invalid glob `" ++ value ++ "`: " ++ error.message
  | emptyRoleRule name =>
    "role-rule `" ++ name ++ "` declares no patterns, regex, deny_imports or deny_layers"
  | repeatedRoleRule name => "role-rule `" ++ name ++ "` is declared more than once"
  | repeatedStem stem => "file stem `" ++ stem ++ "` is assigned to more than one role"
  | unknownRule key => "[rules." ++ key ++ "]: unknown rule"

/-- The code of the kind of error. -/
def code : Error → String
  | unreadable _ => "layer_lint::policy::io"
  | malformed => "layer_lint::policy::parse"
  | noLayers => "layer_lint::policy::no_layers"
  | repeatedLayer _ => "layer_lint::policy::cyclic_order"
  | emptyName _ => "layer_lint::policy::empty_name"
  | invalidPath .. => "layer_lint::policy::invalid_path"
  | unknownRole .. => "layer_lint::policy::unknown_role"
  | unknownLayer .. => "layer_lint::policy::unknown_layer"
  | invalidRegex _ => "layer_lint::policy::invalid_regex"
  | invalidGlob .. => "layer_lint::policy::invalid_glob"
  | emptyRoleRule _ => "layer_lint::policy::empty_role_rule"
  | repeatedRoleRule _ => "layer_lint::policy::duplicate_role_rule"
  | repeatedStem _ => "layer_lint::policy::duplicate_role_stem"
  | unknownRule _ => "layer_lint::policy::unknown_rule"

/-- What the user can do about the error. -/
def help : Error → Option String
  | malformed => some "run `layer-lint init` to write a commented default policy"
  | noLayers => some "add at least one [[layers]] entry"
  | repeatedLayer _ => some "each layer must appear exactly once in [[layers]]"
  | invalidPath .. => some "paths are relative to the project directory and use `/` separators"
  | unknownRule _ => some "run `layer-lint list-rules` to see configurable rules"
  | _ => none

end Error

end Layering.Policy
