import PeerCluster.Ports
import PeerCluster.Text.Blank

/-! Settings of an embedded cluster, and the conditions under which they make sense. -/

namespace PeerCluster

/-- A length of time in whole seconds and the nanoseconds that remain. -/
structure Duration where
  seconds : Nat
  nanoseconds : Nat
deriving DecidableEq, Repr

/-- The length of a number of milliseconds. -/
def Duration.ofMillis (millis : Nat) : Duration :=
  ⟨millis / 1000, millis % 1000 * 1000000⟩

/-- The settings of an embedded cluster. -/
structure ClusterConfig where
  appName : String
  hostName : String
  ports : PortLayout
  retryMillis : Nat
deriving DecidableEq, Repr

/-- A reason why settings do not make sense, in the order in which reasons are looked for. -/
inductive SettingFault where
  | blankAppName
  | blankHostName
  | noBasePort
  | narrowStride (stride : UInt16)
deriving DecidableEq, Repr

/-- The wording of a reason. -/
def SettingFault.detail : SettingFault → String
  | blankAppName => "app_name must not be empty"
  | blankHostName => "host_name must not be empty"
  | noBasePort => "ports.base_port must be positive"
  | narrowStride stride =>
    "ports.stride must be at least " ++ toString portsPerNode ++ ", got " ++ toString stride

/-- Settings that take the place of those in use when nothing else is asked for. -/
structure SettingOverrides where
  appName? : Option String
  hostName? : Option String
  basePort? : Option UInt16
  stride? : Option UInt16
  retryMillis? : Option Nat
deriving DecidableEq, Repr

namespace ClusterConfig

/-- The settings in use when nothing else is asked for. -/
def standard : ClusterConfig :=
  ⟨"spark-write", "localhost", .standard, 1000⟩

/-- The standard settings with some of them replaced. -/
def ofOverrides (overrides : SettingOverrides) : ClusterConfig where
  appName := overrides.appName?.getD standard.appName
  hostName := overrides.hostName?.getD standard.hostName
  ports := ⟨overrides.basePort?.getD standard.ports.basePort,
    overrides.stride?.getD standard.ports.stride⟩
  retryMillis := overrides.retryMillis?.getD standard.retryMillis

/-- The first reason why settings do not make sense. -/
def fault? (config : ClusterConfig) : Option SettingFault :=
  if Text.allBlank config.appName then some .blankAppName
  else if Text.allBlank config.hostName then some .blankHostName
  else if config.ports.basePort = 0 then some .noBasePort
  else if config.ports.stride.toNat < portsPerNode then some (.narrowStride config.ports.stride)
  else none

/-- Passes settings on when they make sense. -/
def validate (config : ClusterConfig) : Except ClusterError ClusterConfig :=
  match config.fault? with
  | some fault => .error (.invalidConfig fault.detail)
  | none => .ok config

/-- How long a node waits before it replicates anew. -/
def retry (config : ClusterConfig) : Duration :=
  .ofMillis config.retryMillis

end ClusterConfig

end PeerCluster
