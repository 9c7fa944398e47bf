import PeerCluster.Session.Slot

/-! Commands of a session about registries and the streams of their changes. -/

namespace PeerCluster

open SessionAction

/-- What the registry behind an object looks like through that object. -/
def Slot.registryOutline (object : Slot) (registry : Registry) : String :=
  match object with
  | .registry _ => outline registry
  | _ => Text.wrappedOutline "RegistryView" (outline registry)

/-- Subscribes to a registry; the answer is the subscription with its id. -/
def SessionAction.openStream (registry : Nat) : SessionAction (Nat × Subscription) :=
  onRegistry registry fun before => do
    let (id, after) ← before.subscribe
    return ((id, after.subscriptions.getD id (.startingAt [])), after)

/-- The subscription behind a stream as it is now. -/
def SessionAction.subscription (registry id : Nat) : SessionAction Subscription := do
  return ((← get).fabric.registry registry).subscriptions.getD id (.startingAt [])

/-- Runs a command on the registry behind a name. -/
def SessionAction.withRegistry (name : String) (step : Slot → Nat → SessionAction Answer) :
    SessionAction Answer := do
  match ← slot? name with
  | some object =>
    match object.registry? with
    | some id => step object id
    | none => return .misuse
  | none => return .misuse

/-- Runs a command on the stream behind a name, projected or not. -/
def SessionAction.withStream (name : String) (step : Slot → Nat → Nat → SessionAction Answer) :
    SessionAction Answer := do
  match ← slot? name with
  | some object =>
    match object.subscription? with
    | some (registry, id) => step object registry id
    | none => return .misuse
  | none => return .misuse

namespace MembershipCommand

/-- Runs a command. -/
def run : MembershipCommand → SessionAction Answer
  | create name => do
    let id ← onFabric fun fabric => .quiet fabric.addRegistry
    put name (.registry id)
    return .done
  | share registry name => withRegistry registry fun object id => do
    onRegistry id fun before => .quiet ((), before.retain)
    put name (match object with
      | .registry _ => .registry id
      | _ => .view id)
    return .done
  | view registry name => withRegistry registry fun _ id => do
    onRegistry id fun before => .quiet ((), before.retain)
    put name (.view id)
    return .done
  | add registry peer => withRegistry registry fun object id =>
    match object with
    | .view _ => return .misuse
    | _ => do return .number (← onRegistry id fun before => before.add peer)
  | remove registry index => withRegistry registry fun object id =>
    match object with
    | .view _ => return .misuse
    | _ => do
      match ← onRegistry id fun before => before.remove index with
      | .ok peer => return .peer peer
      | .error error => return .failed error
  | snapshot registry => withRegistry registry fun _ id => do
    return .peers ((← get).fabric.registry id).members
  | describe registry => withRegistry registry fun object id => do
    let found := (← get).fabric.registry id
    return .registry found (object.registryOutline found)
  | subscribe registry name => withRegistry registry fun _ id => do
    let (subscription, started) ← openStream id
    put name (.stream id subscription)
    return .opened subscription started.replay.length
  | project registry projection name => withRegistry registry fun _ id => do
    let (subscription, _) ← openStream id
    put name (.projected id subscription projection)
    return .label projection.label
  | next stream => withStream stream fun object registry id => do
    let item ← onRegistry registry fun before => .quiet (before.poll id)
    match object with
    | .projected _ _ projection => return .endpointItem (item.map projection.projectEvent)
    | _ => return .memberItem item
  | drain stream limit? => withStream stream fun object registry id => do
    let items ← onRegistry registry fun before => .quiet (before.drain id limit?)
    match object with
    | .projected _ _ projection => return .endpointItems (items.map projection.projectEvent)
    | _ => return .memberItems items
  | cancel stream => withStream stream fun _ registry id => do
    onRegistry registry fun before => (before.cancel id).map fun after => ((), after)
    return .flag (← subscription registry id).cancelled
  | inspect stream => withStream stream fun object registry id => do
    let found ← subscription registry id
    match object with
    | .projected _ _ projection => return .projected id found projection
    | _ => return .stream id found
  | probe stream name => withStream stream fun _ registry id => do
    put name (.probe registry id)
    return .done
  | count counted => do
    match ← slot? counted with
    | some (.probe registry id) =>
      let found ← subscription registry id
      return .counters found.published found.delivered found.depth
    | _ => return .misuse
  | unwrap stream name => do
    match ← slot? stream with
    | some (.projected registry id _) =>
      forget stream
      put name (.stream registry id)
      return .opened id (← subscription registry id).replay.length
    | _ => return .misuse

end MembershipCommand

end PeerCluster
