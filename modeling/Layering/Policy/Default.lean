/-! The text of the default policy, which describes the same policy as an empty text. -/
namespace Layering.Policy

/-- The lines of the default policy. -/
def defaultLines : List String := [
  "# layer-lint policy",
  "#",
  "# Layers are ranked in declaration order, lowest first. A file may import",
  "# files of its own layer or of any lower layer, never of a higher one.",
  "",
  "[analyzer]",
  "root = \"src\"",
  "extensions = [\"ts\", \"tsx\", \"js\", \"jsx\", \"mjs\", \"cjs\"]",
  "ignore_dirs = [\"node_modules\", \"dist\", \"build\", \"coverage\", \".git\"]",
  "exclude = []",
  "respect_gitignore = true",
  "",
  "[[layers]]",
  "name = \"shared\"",
  "roots = [\"src/shared\"]",
  "",
  "[[layers]]",
  "name = \"core\"",
  "roots = [\"src/core\"]",
  "",
  "[[layers]]",
  "name = \"modules\"",
  "roots = [\"src/modules\"]",
  "modules = true",
  "",
  "[[layers]]",
  "name = \"app\"",
  "roots = [\"src/app\"]",
  "",
  "[aliases]",
  "\"@\" = \"src\"",
  "\"@shared\" = \"src/shared\"",
  "\"@core\" = \"src/core\"",
  "\"@modules\" = \"src/modules\"",
  "\"@app\" = \"src/app\"",
  "",
  "[roles]",
  "ui = [\"ui\"]",
  "store = [\"store\"]",
  "service = [\"service\"]",
  "types = [\"types\"]",
  "public-api = [\"index\"]",
  "",
  "[modules]",
  "required = [\"ui\", \"store\", \"service\", \"public-api\"]",
  "allow_public_api = true",
  "",
  "[[role-rules]]",
  "name = \"store-no-network\"",
  "role = \"store\"",
  "patterns = [\"fetch(\", \"XMLHttpRequest\", \"new WebSocket(\"]",
  "deny_imports = [\"axios\", \"node:http\", \"node:https\"]",
  "message = \"store files must not perform network calls; move I/O into the module service\"",
  "severity = \"error\"",
  "",
  "[[role-rules]]",
  "name = \"ui-no-core\"",
  "role = \"ui\"",
  "deny_layers = [\"core\"]",
  "message = \"UI files must not import the core layer; go through the module store or service\"",
  "severity = \"error\"",
  "",
  "[[role-rules]]",
  "name = \"ui-no-network\"",
  "role = \"ui\"",
  "patterns = [\"fetch(\"]",
  "deny_imports = [\"axios\"]",
  "message = \"UI files must not perform network calls\"",
  "severity = \"error\"",
  "",
  "[[role-rules]]",
  "name = \"service-no-business-logic\"",
  "role = \"service\"",
  "regex = ['\\bswitch\\s*\\(', '\\bfor\\s*\\(', '\\bwhile\\s*\\(']",
  "message = \"service files should stay thin adapters; move control-flow-heavy logic into core\"",
  "severity = \"warning\"",
  "",
  "[[role-rules]]",
  "name = \"types-declarations-only\"",
  "role = \"types\"",
  "regex = ['(?m)^[ \\t]*(export[ \\t]+)?(default[ \\t]+)?(async[ \\t]+)?(function|class)[ \\t]']",
  "message = \"types files should only declare types and interfaces\"",
  "severity = \"warning\"",
  "",
  "[structure]",
  "forbidden = []",
  "",
  "# [rules.cross-module-import]",
  "# enabled = true",
  "# severity = \"error\""]

/-- The default policy as a file, every line ended. -/
def defaultText : String :=
  defaultLines.foldl (fun text line => text ++ line ++ "\n") ""

end Layering.Policy
