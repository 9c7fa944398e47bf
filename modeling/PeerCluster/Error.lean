import PeerCluster.Text.Outline

/-! The causes for which an operation on a cluster can fail. -/

namespace PeerCluster

/-- Whose fault an error is. -/
inductive ErrorCategory where
  /-- A producer or a caller broke a rule that always holds. -/
  | invariantViolation
  /-- An operation was called at a time when it is not available. -/
  | usageError
  /-- A setting does not make sense or leaves no room. -/
  | configuration
  /-- A part that was plugged in from outside failed. -/
  | collaborator
deriving DecidableEq, Repr

/-- Every cause of failure, with what a reader needs to find it. -/
inductive ClusterError where
  /-- No peer stands at the position in a membership of this size. -/
  | peerIndexOutOfRange (index size : Nat)
  /-- A source reported a change in place, which peers do not have. -/
  | modifyNotSupported (payload : String)
  /-- The resolver for the role serves no longer. -/
  | resolverClosed (role : String)
  /-- A resolver was asked for where no task can drive it. -/
  | runtimeUnavailable (role : String)
  /-- A configuration cannot be read or does not make sense. -/
  | invalidConfig (detail : String)
  /-- The next block of ports would go past the last port. -/
  | portSpaceExhausted (next : Nat) (stride : UInt16)
  /-- A node and the member at its position are not the same peer. -/
  | membershipDrift (serverIndex : Nat) (peer : String)
  /-- The launcher of nodes failed at a stage. -/
  | launcher (stage detail : String)
deriving DecidableEq, Repr, Inhabited

namespace ClusterError

/-- The stable code of an error. -/
def code : ClusterError → String
  | peerIndexOutOfRange .. => "cluster.peer_index_out_of_range"
  | modifyNotSupported .. => "cluster.modify_not_supported"
  | resolverClosed .. => "cluster.resolver_closed"
  | runtimeUnavailable .. => "cluster.runtime_unavailable"
  | invalidConfig .. => "cluster.invalid_config"
  | portSpaceExhausted .. => "cluster.port_space_exhausted"
  | membershipDrift .. => "cluster.membership_drift"
  | launcher .. => "cluster.launcher_failure"

/-- The category that an error's cause belongs to. -/
def category : ClusterError → ErrorCategory
  | peerIndexOutOfRange .. | modifyNotSupported .. | membershipDrift .. => .invariantViolation
  | resolverClosed .. | runtimeUnavailable .. => .usageError
  | invalidConfig .. | portSpaceExhausted .. => .configuration
  | launcher .. => .collaborator

/-- An error that no retry can mend, because a producer or a caller is at fault. -/
def isInvariantViolation (error : ClusterError) : Bool :=
  error.category == .invariantViolation

/-- The sentence that reports an error. -/
def message : ClusterError → String
  | peerIndexOutOfRange index size =>
    "peer index " ++ toString index ++ " is out of range for a membership of "
      ++ toString size ++ " peers"
  | modifyNotSupported payload =>
    "modify notification is not supported for immutable peer `" ++ payload ++ "`"
  | resolverClosed role => "resolver `" ++ role ++ "` has already been closed"
  | runtimeUnavailable role => "resolver `" ++ role ++ "` must be created inside a Tokio runtime"
  | invalidConfig detail => "invalid cluster configuration: " ++ detail
  | portSpaceExhausted next stride =>
    "port space exhausted: next block would start at " ++ toString next
      ++ " with stride " ++ toString stride
  | membershipDrift serverIndex peer =>
    "node " ++ toString serverIndex ++ " (`" ++ peer
      ++ "`) does not match its membership registry position"
  | launcher stage detail => "peer launcher failed during `" ++ stage ++ "`: " ++ detail

end ClusterError

instance : ToString ClusterError where
  toString := ClusterError.message

instance : Outline ClusterError where
  outline
    | .peerIndexOutOfRange index size =>
      Text.recordOutline "PeerIndexOutOfRange" [("index", outline index), ("len", outline size)]
    | .modifyNotSupported payload =>
      Text.recordOutline "ModifyNotSupported" [("payload", outline payload)]
    | .resolverClosed role => Text.recordOutline "ResolverClosed" [("role", outline role)]
    | .runtimeUnavailable role => Text.recordOutline "RuntimeUnavailable" [("role", outline role)]
    | .invalidConfig detail => Text.recordOutline "InvalidConfig" [("detail", outline detail)]
    | .portSpaceExhausted next stride =>
      Text.recordOutline "PortSpaceExhausted" [("next", outline next), ("stride", outline stride)]
    | .membershipDrift serverIndex peer =>
      Text.recordOutline "MembershipDrift" [
        ("server_index", outline serverIndex), ("peer", outline peer)]
    | .launcher stage detail =>
      Text.recordOutline "Launcher" [("stage", outline stage), ("detail", outline detail)]

end PeerCluster
