import PeerCluster.Config
import PeerCluster.Decimal.Shortest
import PeerCluster.Toml.Document

/-! Settings written as a TOML document: which keys there are and what each of them takes. -/

namespace PeerCluster

/-- What a key takes. -/
inductive SettingKind where
  | text
  /-- An integer of 16 bits without a sign. -/
  | port
  /-- An integer of 64 bits without a sign. -/
  | millis
  /-- A layout of ports, as a table or as a sequence. -/
  | layout
deriving DecidableEq, Repr

/-- The name of what a key takes. -/
def SettingKind.name : SettingKind → String
  | text => "a string"
  | port => "u16"
  | millis => "u64"
  | layout => "struct PortLayout"

/-- Why an entry of a document is no setting. -/
inductive SchemaFault where
  | unknownKey (key : String)
  | unknownLayoutKey (key : String)
  /-- The value is of another kind; it is kept as messages describe it. -/
  | wrongKind (found : String) (expected : SettingKind)
  | outOfRange (found : Int) (expected : SettingKind)
deriving DecidableEq, Repr

/-- The wording of a fault. -/
def SchemaFault.detail : SchemaFault → String
  | unknownKey key =>
    "unknown field `" ++ key
      ++ "`, expected one of `app_name`, `host_name`, `ports`, `replication_retry_ms`"
  | unknownLayoutKey key => "unknown field `" ++ key ++ "`, expected `base_port` or `stride`"
  | wrongKind found expected => "invalid type: " ++ found ++ ", expected " ++ expected.name
  | outOfRange found expected =>
    "invalid value: integer `" ++ toString found ++ "`, expected " ++ expected.name

namespace Toml.Value

/-- How messages describe a value. -/
def description : Value → String
  | text value => "string " ++ Text.quote value
  | integer value => "integer `" ++ toString value ++ "`"
  | float value => "floating point `" ++ value.text ++ "`"
  | boolean value => "boolean `" ++ outline value ++ "`"
  | array .. => "sequence"
  | moment | table .. => "map"

/-- The key under which a date or time passes for a table. -/
def momentKey : String := "$__toml_private_datetime"

/-- A value as a text. -/
def asText : Value → Except SchemaFault String
  | text value => .ok value
  | other => .error (.wrongKind other.description .text)

/-- A value as a port. -/
def asPort : Value → Except SchemaFault UInt16
  | integer value =>
    if 0 ≤ value && value < UInt16.size then .ok (.ofNat value.toNat)
    else .error (.outOfRange value .port)
  | other => .error (.wrongKind other.description .port)

/-- A value as a number of milliseconds. -/
def asMillis : Value → Except SchemaFault Nat
  | integer value => if 0 ≤ value then .ok value.toNat else .error (.outOfRange value .millis)
  | other => .error (.wrongKind other.description .millis)

end Toml.Value

namespace PortLayout

/-- A layout with one of its entries replaced. -/
def assign (layout : PortLayout) : String × Toml.Value → Except SchemaFault PortLayout
  | ("base_port", value) => do return { layout with basePort := ← value.asPort }
  | ("stride", value) => do return { layout with stride := ← value.asPort }
  | (key, _) => .error (.unknownLayoutKey key)

/-- A layout with its first items replaced by those of a sequence; more items mean nothing. -/
def fill (layout : PortLayout) : List Toml.Value → Except SchemaFault PortLayout
  | [] => .ok layout
  | [base] => do return { layout with basePort := ← base.asPort }
  | base :: stride :: _ => do return ⟨← base.asPort, ← stride.asPort⟩

/-- The standard layout with what a value says in its place. -/
def ofValue : Toml.Value → Except SchemaFault PortLayout
  | .table _ entries => entries.foldlM assign standard
  | .array _ items => standard.fill items
  | .moment => .error (.unknownLayoutKey Toml.Value.momentKey)
  | other => .error (.wrongKind other.description .layout)

end PortLayout

namespace ClusterConfig

/-- Settings with one of them replaced. -/
def assign (config : ClusterConfig) : String × Toml.Value → Except SchemaFault ClusterConfig
  | ("app_name", value) => do return { config with appName := ← value.asText }
  | ("host_name", value) => do return { config with hostName := ← value.asText }
  | ("ports", value) => do return { config with ports := ← PortLayout.ofValue value }
  | ("replication_retry_ms", value) => do return { config with retryMillis := ← value.asMillis }
  | (key, _) => .error (.unknownKey key)

/-- The standard settings with those of a document in their place; the first fault counts. -/
def ofEntries (entries : Toml.Entries) : Except SchemaFault ClusterConfig :=
  entries.foldlM assign standard

/-- The error about a document that is not read as settings. -/
def unreadable (detail : String) : ClusterError :=
  .invalidConfig ("failed to parse toml: " ++ detail)

/-- The settings that a document writes down, if they make sense. -/
def ofText (text : String) : Except ClusterError ClusterConfig :=
  match Toml.parse? text with
  | none => .error (unreadable "<syntax>")
  | some entries =>
    match ofEntries entries with
    | .error fault => .error (unreadable fault.detail)
    | .ok config => config.validate

end ClusterConfig

end PeerCluster
