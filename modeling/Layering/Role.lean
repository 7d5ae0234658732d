/-! The role of a file in its module, told by the stem of its name. -/
namespace Layering

/-- What a file is for. -/
inductive Role where
  | ui
  | store
  | service
  | types
  /-- The public entry of a module. -/
  | publicApi
  | unclassified
  deriving Repr, DecidableEq, Inhabited

namespace Role

def text : Role → String
  | ui => "ui"
  | store => "store"
  | service => "service"
  | types => "types"
  | publicApi => "public-api"
  | unclassified => "unclassified"

/-- The roles that a policy can name. -/
def named : List Role := [ui, store, service, types, publicApi]

/-- The role that a policy names. The public entry has three names. -/
def ofName? (name : String) : Option Role :=
  if name = "public_api" ∨ name = "index" then some publicApi
  else named.find? fun role => role.text = name

end Role

end Layering
