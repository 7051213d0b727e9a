import Standby.Proxy.State
import Standby.Text.Form
set_option autoImplicit false

/-!
# Descriptions

The library's values in record notation, for people who look into a running program.

## Main definitions

* `form` — the description of a type, a catalog, a failure, a status, an instance or a proxy.

## Design

Handles describe what they refer to. Fields that hold code are not shown.
-/

namespace Standby

open Text (Form)

/-- The description of a type. -/
def TypeHandle.form (h : TypeHandle) : Form :=
  .tuple "TypeHandle" [.record "ComponentType" [("name", .quote h.name)] false]

/-- The description of a table of types. -/
def TypeTable.form (table : TypeTable) : Form :=
  .map (table.map fun h => (.quote (TypeHandle.name h), TypeHandle.form h))

/-- The description of a table of types and of the tables that enclose it. -/
def Catalog.formOf (table : TypeTable) : List TypeTable → Form
  | [] =>
    .record "TypeCatalog" [("types", TypeTable.form table), ("parent", .optional none)] true
  | parent :: rest =>
    .record "TypeCatalog"
      [("types", TypeTable.form table), ("parent", .optional (some (formOf parent rest)))] true

/-- The description of a catalog. -/
def Catalog.form (c : Catalog) : Form := Catalog.formOf c.types c.enclosing

/-- The description of a failure of foreign code is its message. -/
def Fault.form (f : Fault) : Form := .quote f.message

/-- The description of a name that could not be resolved. -/
def NotFound.form : NotFound → Form
  | unknown name => .record "Unknown" [("name", .quote name)] true
  | noContext name => .record "NoContext" [("name", .quote name)] true

/-- The description of a product that could not be built. -/
def ConstructionError.form (e : ConstructionError) : Form :=
  .record "ConstructionError" [("type_name", .quote e.typeName), ("source", e.source.form)] true

/-- The description of what a start or a stop reports. -/
def LifecycleError.form (e : LifecycleError) : Form :=
  .record "LifecycleError"
    [("message", .quote e.message), ("source", .optional (e.source.map Fault.form))] true

/-- The description of a failed operation. -/
def ProxyError.form : ProxyError → Form
  | notFound e => .tuple "NotFound" [e.form]
  | construction e => .tuple "Construction" [e.form]
  | capabilityMismatch typeName capability =>
    .record "CapabilityMismatch"
      [("type_name", .quote typeName), ("capability", .quote capability)] true
  | start name e => .record "Start" [("name", .quote name), ("source", e.form)] true
  | stop name e => .record "Stop" [("name", .quote name), ("source", e.form)] true

/-- The description of a failure that may be absent. -/
def ProxyError.formOption (e : Option ProxyError) : Form := .optional (e.map ProxyError.form)

/-- The description of a record that monitors are shown. -/
def Status.form (s : Status) : Form :=
  .record "ProxyStatus"
    [("name", .quote s.name), ("resolved", .flag s.resolved),
      ("start_requested", .flag s.startRequested), ("running", .flag s.running),
      ("last_error", .optional (s.lastError.map Form.quote))] true

/-- The description of an instance. -/
def Instance.form (i : Instance) : Form :=
  .record "InstanceHandle" [("type_name", .quote i.typeName)] false

/-- The description of a proxy with a name and a state. -/
def Proxy.State.form (s : Proxy.State) (name : String) : Form :=
  .record "LifecycleProxy"
    [("name", .quote name), ("resolved", .optional (s.type.map fun h => .quote h.name)),
      ("start_requested", .flag s.startRequested), ("running", .flag s.running),
      ("last_error", ProxyError.formOption s.lastError)] false

/-- The description of a registry with these names. -/
def registryForm (names : List String) : Form :=
  .record "ProxyRegistry" [("names", .list (names.map Form.quote))] false

end Standby
