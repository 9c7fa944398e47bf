import PeerCluster.Text.Outline

/-! The one place that log records go to, which a process can set up only once. -/

namespace PeerCluster

/-- Why the place that log records go to could not be set up. -/
inductive TelemetryError where
  /-- This library has set it up before. -/
  | alreadyInstalled
  /-- Somebody else has set it up before. -/
  | subscriberAlreadySet
  /-- It was set up before when somebody else tried to. -/
  | setGlobalSubscriber
deriving DecidableEq, Repr

instance : Outline TelemetryError where
  outline
    | .alreadyInstalled => "AlreadyInstalled"
    | .subscriberAlreadySet => "SubscriberAlreadySet"
    | .setGlobalSubscriber => "SetGlobalSubscriber"

/-- The sentence that reports why it failed. -/
def TelemetryError.message : TelemetryError → String
  | alreadyInstalled => "cluster tracing has already been installed"
  | subscriberAlreadySet => "a global tracing subscriber is already set"
  | setGlobalSubscriber =>
    "failed to set the global tracing subscriber: "
      ++ "a global default trace dispatcher has already been set"

/-- Who has set up the place that log records go to. -/
inductive Telemetry where
  | nobody
  | library
  | host
deriving DecidableEq, Repr

/-- The attempts to set it up. -/
inductive TelemetryStep where
  /-- The library tries. -/
  | install
  /-- The host of the library tries. -/
  | set
deriving DecidableEq, Repr

namespace Telemetry

/-- The first attempt succeeds and all others fail. -/
def step (telemetry : Telemetry) : TelemetryStep → Except TelemetryError Unit × Telemetry
  | .install =>
    match telemetry with
    | nobody => (.ok (), library)
    | library => (.error .alreadyInstalled, library)
    | host => (.error .subscriberAlreadySet, host)
  | .set =>
    match telemetry with
    | nobody => (.ok (), host)
    | other => (.error .setGlobalSubscriber, other)

/-- The outcomes of attempts in order. -/
def runAll (telemetry : Telemetry) : List TelemetryStep → List (Except TelemetryError Unit)
  | [] => []
  | step :: rest =>
    let (outcome, after) := telemetry.step step
    outcome :: runAll after rest

end Telemetry

end PeerCluster
