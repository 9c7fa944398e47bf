import PeerCluster.Fabric
import PeerCluster.Proofs.Registry.Calls

/-! Runs of a fabric: registries, resolvers that follow them, picks, and turns of their tasks. -/

namespace PeerCluster

/-- What holders of registries, streams and resolvers can ask, and the turns given to tasks. -/
inductive FabricCall where
  | openRegistry
  /-- Something that is asked of a registry, or of one of its streams. -/
  | membership (registry : Nat) (call : RegistryCall)
  /-- Creates a resolver that follows a registry, in a place that runs its task or in none. -/
  | follow (registry : Nat) (projection : Projection) (runtime : Bool)
  /-- Polls a pick of a resolver. -/
  | pick (service : Nat) (pick : Pick)
  /-- Polls a stream of picks of a resolver. -/
  | pickNext (service : Nat) (stream : PickStream)
  /-- Makes one more holder of a resolver out of one that there is. -/
  | retain (service : Nat)
  /-- Drops a resolver. -/
  | release (service : Nat)
  | close (service : Nat)
  /-- Gives turns until every task waits. -/
  | run

/-- What is answered to a call. -/
inductive FabricAnswer where
  | done
  /-- Nobody has what this would have to be asked through. -/
  | unreachable
  | opened (registry : Nat)
  | membership (answer : RegistryAnswer)
  | following (service : Nat)
  | failed (error : ClusterError)
  | picked (answer : Poll Choice)

/-- Whether a call gives turns to tasks. -/
def FabricCall.runs : FabricCall → Bool
  | run => true
  | _ => false

/-- Whether a call can end the service of a resolver. -/
def FabricCall.ends (id : Nat) : FabricCall → Bool
  | release service | close service => service = id
  | _ => false

/-- The service whose resolver a call asks for a candidate, if it does so. -/
def FabricCall.asked? : FabricCall → Option Nat
  | pick service _ | pickNext service _ => some service
  | _ => none

/-- The stream of a registry that a source is, if it is one. -/
def EventSource.stream? : EventSource → Option (Nat × Nat)
  | membership registry subscription _ => some (registry, subscription)
  | feed _ => none

namespace Fabric

/-- Whether a stream of a registry has been given away to the task of a service. -/
def hasGiven (fabric : Fabric) (registry id : Nat) : Bool :=
  fabric.services.any (·.source.stream? = some (registry, id))

/-- Whether there is a registry and somebody to make a call on it. -/
def reaches (fabric : Fabric) (registry : Nat) (call : RegistryCall) : Bool :=
  -- Nobody else can reach the stream that a task works through.
  registry < fabric.registries.length && !call.stream?.any (fabric.hasGiven registry)

/-- Answers a call. -/
def perform (fabric : Fabric) (call : FabricCall) : Logged (FabricAnswer × Fabric) :=
  match call with
  | .openRegistry => .quiet (.opened fabric.addRegistry.1, fabric.addRegistry.2)
  | .membership id call =>
    if fabric.reaches id call then
      ((fabric.registry id).perform call).map fun (answer, registry) =>
        (.membership answer, fabric.setRegistry id registry)
    else .quiet (.unreachable, fabric)
  | .follow id projection runtime =>
    if fabric.reaches id .subscribe && (fabric.registry id).lives then
      (fabric.follow id projection runtime).map fun (created, fabric) =>
        (match created with
          | .ok service => .following service
          | .error error => .failed error,
        fabric)
    else .quiet (.unreachable, fabric)
  | .pick id pick =>
    let ((answer, _), _, fabric) := fabric.pollPick id pick
    .quiet (.picked answer, fabric)
  | .pickNext id stream =>
    let ((answer, _), _, fabric) := fabric.pollPicks id stream
    .quiet (.picked answer, fabric)
  | .retain id => .quiet (.done, fabric.retainService id)
  | .release id => (fabric.releaseService id).map fun fabric => (.done, fabric)
  | .close id => (fabric.close id).map fun fabric => (.done, fabric)
  | .run => fabric.run.map fun fabric => (.done, fabric)

instance : Machine Fabric FabricCall FabricAnswer where
  perform := perform

end Fabric

end PeerCluster
