import PeerCluster.Cluster.Recorder
import PeerCluster.Session.Command

/-! Named objects of a session, and what happens when one of them is dropped. -/

namespace PeerCluster

/-- An object that a session knows by name; shared ones stand in the fabric. -/
inductive Slot where
  | registry (registry : Nat)
  | view (registry : Nat)
  | cluster (cluster : Cluster Recorder Nat) (registry : Nat)
  | stream (registry subscription : Nat)
  | projected (registry subscription : Nat) (projection : Projection)
  | probe (registry subscription : Nat)
  | balancer (balancer : Nat)
  | feed (feed : Nat)
  | resolver (service : Nat)
  | pick (service : Nat) (pick : Pick)
  | picks (service : Nat) (stream : PickStream)

/-- The registry behind an object through which a membership can be reached. -/
def Slot.registry? : Slot → Option Nat
  | registry id | view id | cluster _ id => some id
  | _ => none

/-- The subscription behind a stream, projected or not, with its registry. -/
def Slot.subscription? : Slot → Option (Nat × Nat)
  | stream home id | projected home id _ => some (home, id)
  | _ => none

namespace Fabric

/-- Replaces a registry by what a step makes of it. -/
def onRegistry {α : Type} (fabric : Fabric) (id : Nat) (step : Registry → Logged (α × Registry)) :
    Logged (α × Fabric) :=
  (step (fabric.registry id)).map fun (answer, changed) => (answer, fabric.setRegistry id changed)

/-- Lets go of everything that an object holds. -/
def dropSlot (fabric : Fabric) : Slot → Logged Fabric
  | .registry id | .view id => .quiet (fabric.setRegistry id (fabric.registry id).release)
  | .cluster cluster id =>
    -- The registry goes before the streams, which detach only if somebody else still holds it.
    let held := cluster.launcher.streams.map (·.2.upstream)
    ((fabric.registry id).release.cancelAll held).map (fabric.setRegistry id)
  | .stream id subscription | .projected id subscription _ =>
    ((fabric.registry id).cancel subscription).map (fabric.setRegistry id)
  | .feed id => .quiet (fabric.setFeed id { fabric.feed id with sending := false })
  | .resolver service | .pick service _ => fabric.releaseService service
  | .probe .. | .balancer _ | .picks .. => .quiet fabric

end Fabric

/-- The objects that exist, by name and in the fabric. -/
structure Session where
  fabric : Fabric
  slots : List (String × Slot)

/-- The session without objects. -/
def Session.empty : Session :=
  ⟨.empty, []⟩

/-- Something done in a session. -/
abbrev SessionAction (α : Type) := StateT Session Logged α

namespace SessionAction

/-- The object under a name. -/
def slot? (name : String) : SessionAction (Option Slot) := do
  return (← get).slots.lookup name

/-- Changes everything shared. -/
def onFabric {α : Type} (step : Fabric → Logged (α × Fabric)) : SessionAction α := fun session => do
  let (answer, fabric) ← step session.fabric
  return (answer, { session with fabric })

/-- Changes one registry. -/
def onRegistry {α : Type} (id : Nat) (step : Registry → Logged (α × Registry)) : SessionAction α :=
  onFabric fun fabric => fabric.onRegistry id step

/-- Drops an object that no name leads to any more. -/
def dropObject (object : Slot) : SessionAction Unit :=
  onFabric fun fabric => (fabric.dropSlot object).map fun fabric => ((), fabric)

/-- Forgets a name without dropping the object behind it. -/
def forget (name : String) : SessionAction Unit :=
  modify fun session => { session with slots := session.slots.filter (·.1 ≠ name) }

/-- Puts the changed object back under its name. -/
def update (name : String) (object : Slot) : SessionAction Unit := do
  forget name
  modify fun session => { session with slots := (name, object) :: session.slots }

/-- Names an object, and then drops the one that had the name before. -/
def put (name : String) (object : Slot) : SessionAction Unit := do
  let before ← slot? name
  update name object
  if let some dropped := before then
    dropObject dropped

/-- Forgets a name and drops the object behind it; the answer tells whether there was one. -/
def drop (name : String) : SessionAction Bool := do
  match ← slot? name with
  | none => return false
  | some object =>
    forget name
    dropObject object
    return true

end SessionAction

end PeerCluster
