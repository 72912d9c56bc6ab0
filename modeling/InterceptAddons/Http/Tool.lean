import InterceptAddons.Text.Split

/-!
# Tools

The tool of the proxy that a message comes from.
-/

namespace InterceptAddons.Http

/-- A tool of the proxy; a tool without a constructor of its own is known by its name. -/
inductive Tool
  | proxy | repeater | intruder | scanner | extension
  | other (name : String)
  deriving Repr, DecidableEq

namespace Tool

def name : Tool → String
  | .proxy => "proxy"
  | .repeater => "repeater"
  | .intruder => "intruder"
  | .scanner => "scanner"
  | .extension => "extension"
  | .other name => name

/-- Whether the message is live traffic. -/
def isProxy : Tool → Bool
  | .proxy => true
  | _ => false

/-- The tool that a text names, in any ASCII case and with white space around it. -/
def ofText (text : String) : Tool :=
  match (String.ofList (Text.trim text.toList)).toLower with
  | "proxy" => .proxy
  | "repeater" => .repeater
  | "intruder" => .intruder
  | "scanner" => .scanner
  | "extension" | "extensions" => .extension
  | name => .other name

end Tool

end InterceptAddons.Http
