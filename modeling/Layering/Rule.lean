/-! The rules of the linter: what each kind of finding is called. -/
namespace Layering

/-- The kinds of findings. -/
inductive Rule where
  | layerDirection
  | crossModuleImport
  | requiredFiles
  | roleContent
  | forbiddenPath
  | ioError
  | classificationError
  deriving Repr, DecidableEq, Inhabited

namespace Rule

/-- All rules in the order of their codes. -/
def all : List Rule :=
  [layerDirection, crossModuleImport, requiredFiles, roleContent, forbiddenPath, ioError, classificationError]

def name : Rule → String
  | layerDirection => "layer-direction"
  | crossModuleImport => "cross-module-import"
  | requiredFiles => "required-files"
  | roleContent => "role-content"
  | forbiddenPath => "forbidden-path"
  | ioError => "io-error"
  | classificationError => "classification-error"

def code : Rule → String
  | layerDirection => "LL001"
  | crossModuleImport => "LL002"
  | requiredFiles => "LL003"
  | roleContent => "LL004"
  | forbiddenPath => "LL005"
  | ioError => "LL900"
  | classificationError => "LL901"

def description : Rule → String
  | layerDirection => "Imports must not point from a lower layer to a higher one"
  | crossModuleImport => "Modules must not import another module's internals, only its public entry"
  | requiredFiles => "Every module directory must contain the required role files"
  | roleContent => "Role files must not contain role-forbidden code or imports"
  | forbiddenPath => "Paths declared forbidden must not exist"
  | ioError => "A source file could not be read"
  | classificationError => "A file does not fit the expected module layout"

/-- Whether a policy may switch the rule off or grade it anew. Failures to read or to classify a file are always
reported. -/
def isConfigurable : Rule → Bool
  | ioError | classificationError => false
  | _ => true

/-- A text with its ASCII letters in upper case. -/
def upper (text : String) : String := .ofList (text.toList.map Char.toUpper)

/-- The rule with the given name, or with the given code in any case. -/
def ofKey? (key : String) : Option Rule :=
  all.find? fun rule => rule.name = key || rule.code = upper key

theorem code_injective {a b : Rule} (h : a.code = b.code) : a = b := by
  revert h; cases a <;> cases b <;> decide

theorem name_injective {a b : Rule} (h : a.name = b.name) : a = b := by
  revert h; cases a <;> cases b <;> decide

end Rule

end Layering
