import InterceptAddons.Config.Basic
import InterceptAddons.Json.Printer
import InterceptAddons.Json.Record

/-!
# Configurations as JSON

Reading and writing configurations. Members may be left out where there is a default; only the id of an
adjustment has none. Filters that are not given are not written.
-/

namespace InterceptAddons

open Json

/-! ### Reading -/

def DispatchOptions.fields : List (RecordField DispatchOptions) := [
  { name := "active", read := fun d o => d.toBool.map fun isActive => { o with isActive } },
  { name := "in_scope_only", read := fun d o => d.toBool.map fun inScopeOnly => { o with inScopeOnly } },
  { name := "proxy_only", read := fun d o => d.toBool.map fun proxyOnly => { o with proxyOnly } }]

def AddonOverride.fields : List (RecordField AddonOverride) := [
  { name := "id", read := fun d o => d.toText.map fun id => { o with id }, isRequired := true },
  { name := "enabled", read := fun d o => d.toBool.map fun isEnabled => { o with isEnabled } },
  { name := "request_filter"
    read := fun d o => d.toText?.map fun requestFilter => { o with requestFilter } },
  { name := "response_filter"
    read := fun d o => d.toText?.map fun responseFilter => { o with responseFilter } }]

def EngineConfig.fields : List (RecordField EngineConfig) := [
  { name := "options"
    read := fun d c =>
      (d.toRecord DispatchOptions.fields {}).map fun options => { c with options } },
  { name := "addons"
    read := fun d c =>
      (d.toList (·.toRecord AddonOverride.fields { id := "" })).map fun addons => { c with addons } }]

/-- The configuration that a text denotes. -/
def EngineConfig.read (text : String) : Except Fault EngineConfig :=
  (Document.read (.ofString text)).decode (·.toRecord EngineConfig.fields {})

/-! ### Writing -/

def DispatchOptions.toValue (o : DispatchOptions) : Value :=
  .object [("active", .bool o.isActive), ("in_scope_only", .bool o.inScopeOnly),
    ("proxy_only", .bool o.proxyOnly)]

/-- A member for a text that may be absent. -/
def optionalMember (name : String) (text : Option String) : List (String × Value) :=
  text.elim [] fun s => [(name, .string s)]

def AddonOverride.toValue (o : AddonOverride) : Value :=
  .object ([("id", .string o.id), ("enabled", .bool o.isEnabled)] ++
    optionalMember "request_filter" o.requestFilter ++
    optionalMember "response_filter" o.responseFilter)

def EngineConfig.toValue (c : EngineConfig) : Value :=
  .object [("options", c.options.toValue), ("addons", .array (c.addons.map AddonOverride.toValue))]

def EngineConfig.print (c : EngineConfig) : String := c.toValue.printLines

end InterceptAddons
