import PeerCluster.Session.Slot

/-! Commands of a session about balancers, feeds, resolvers and picks. -/

namespace PeerCluster

open SessionAction

/-- Runs a command on the balancer behind a name. -/
def SessionAction.withBalancer (name : String) (step : Nat → RoundRobin → SessionAction Answer) :
    SessionAction Answer := do
  match ← slot? name with
  | some (.balancer id) => step id ((← get).fabric.balancer id)
  | _ => return .misuse

/-- Runs a command on the resolver behind a name. -/
def SessionAction.withResolver (name : String) (step : Nat → Service → SessionAction Answer) :
    SessionAction Answer := do
  match ← slot? name with
  | some (.resolver id) =>
    match (← get).fabric.services[id]? with
    | some service => step id service
    | none => return .misuse
  | _ => return .misuse

/-- Puts a changed balancer back. -/
def SessionAction.setBalancer (id : Nat) (balancer : RoundRobin) : SessionAction Unit :=
  modify fun session => { session with fabric := session.fabric.setBalancer id balancer }

/-- Names a service that was created, or answers why it was not. -/
def SessionAction.nameService (name role : String) : Except ClusterError Nat → SessionAction Answer
  | .ok service => do
    put name (.resolver service)
    return .label role
  | .error error => return .failed error

namespace ServiceCommand

/-- Runs a command. -/
def run : ServiceCommand → SessionAction Answer
  | createBalancer name => do
    let id ← onFabric fun fabric => .quiet fabric.addBalancer
    put name (.balancer id)
    return .done
  | apply balancer event => withBalancer balancer fun id before => do
    let after ← (before.onEvent event : Logged RoundRobin)
    setBalancer id after
    return .number after.candidateCount
  | choose balancer times => withBalancer balancer fun id before => do
    let (choices, after) := before.chooseMany times
    setBalancer id after
    return .choices choices
  | shutdown balancer => withBalancer balancer fun id before => do
    setBalancer id before.shutdown
    return .flag before.shutdown.shutDown
  | inspectBalancer balancer => withBalancer balancer fun _ found => return .balancer found
  | createFeed queue name => do
    let id ← onFabric fun fabric => .quiet (fabric.addFeed queue)
    put name (.feed id)
    return .done
  | send feed kind target => do
    match ← slot? feed with
    | some (.feed id) => return .flag (← onFabric fun fabric => .quiet (fabric.send id kind target))
    | _ => return .misuse
  | follow registry projection runtime name => do
    match (← slot? registry).bind Slot.registry? with
    | some id =>
      nameService name projection.label
        (← onFabric fun fabric => fabric.follow id projection runtime)
    | none => return .misuse
  | consume role feed balancer? runtime name => do
    match ← slot? feed with
    | some (.feed feedId) =>
      let balancer ← match balancer? with
        | none => onFabric fun fabric => .quiet fabric.addBalancer
        | some balancer => do
          match ← slot? balancer with
          | some (.balancer id) => pure id
          | _ => return .misuse
      nameService name role
        (← onFabric fun fabric => fabric.addService role balancer (.feed feedId) runtime)
    | _ => return .misuse
  | pick resolver name => withResolver resolver fun id _ => do
    let ((answer, woken), rest) ← onFabric fun fabric =>
      let (answer, rest, after) := fabric.pollPick id .fresh
      .quiet ((answer, rest), after)
    if answer.isPending then
      modify fun session => { session with fabric := session.fabric.retainService id }
      put name (.pick id rest)
    return .choice answer woken
  | pollPick waited => do
    match ← slot? waited with
    | some (.pick id waiting) =>
      let ((answer, woken), rest) ← onFabric fun fabric =>
        let (answer, rest, after) := fabric.pollPick id waiting
        .quiet ((answer, rest), after)
      if answer.isPending then update waited (.pick id rest)
      else do let _ ← SessionAction.drop waited
      return .choice answer woken
    | _ => return .noPick
  | resolve resolver name => withResolver resolver fun id service => do
    match service.resolver.terminalError? with
    | some error => return .failed error
    | none =>
      put name (.picks id .fresh)
      return .done
  | nextPick stream => do
    match ← slot? stream with
    | some (.picks id waiting) =>
      let ((answer, woken), rest) ← onFabric fun fabric =>
        let (answer, rest, after) := fabric.pollPicks id waiting
        .quiet ((answer, rest), after)
      if answer.isFinished then forget stream else update stream (.picks id rest)
      return .choice answer woken
    | _ => return .noPick
  | close resolver => withResolver resolver fun id _ => do
    onFabric fun fabric => (fabric.close id).map fun after => ((), after)
    return .done
  | inspect resolver => withResolver resolver fun _ service => do
    return .resolver service.resolver ((← get).fabric.balancer service.balancer)

end ServiceCommand

end PeerCluster
