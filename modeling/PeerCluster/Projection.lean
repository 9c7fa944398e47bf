import PeerCluster.Event
import PeerCluster.Poll

/-! Projections of peers to the one endpoint that a kind of client uses, and of streams of peers. -/

namespace PeerCluster

/-- How a projection finds the port of a peer. -/
inductive PortSelector where
  /-- The port of a built-in role. -/
  | role (role : NetworkRole)
  /-- A port computed from the whole address. -/
  | custom (port : PeerAddress → UInt16)

/-- A labelled choice of one port for every peer. -/
structure Projection where
  label : String
  selector : PortSelector

namespace Projection

/-- The projection to the port of a built-in role, labelled with its name. -/
def ofRole (role : NetworkRole) : Projection :=
  ⟨role.name, .role role⟩

/-- The built-in role behind a projection; a custom one has none, whatever its label. -/
def role? (projection : Projection) : Option NetworkRole :=
  match projection.selector with
  | .role role => some role
  | .custom _ => none

/-- The port that a projection picks for a peer. -/
def port (projection : Projection) (peer : PeerAddress) : UInt16 :=
  match projection.selector with
  | .role role => peer.portFor role
  | .custom port => port peer

/-- The endpoint of a peer: its host with the picked port. -/
def project (projection : Projection) (peer : PeerAddress) : Endpoint :=
  ⟨peer.hostName, projection.port peer⟩

/-- Projects what joined or left and keeps the kind of the change. -/
def projectEvent (projection : Projection) : ChangeEvent PeerAddress → ChangeEvent Endpoint :=
  ChangeEvent.map projection.project

/-- Projects a notification, refusing one that reports a change in place. -/
def projectNotification (projection : Projection) (notification : ChangeNotification PeerAddress) :
    Logged (Except ClusterError (ChangeEvent Endpoint)) :=
  notification.toEvent.map (Except.map projection.projectEvent)

end Projection

instance : Outline Projection where
  outline projection :=
    let kind := match projection.selector with
      | .role _ => "role"
      | .custom _ => "custom"
    Text.recordOutline "RoleProjection" [
      ("label", outline projection.label), ("selector", outline kind)]

/-- A stream of changes of peers that is seen through a projection. -/
structure ProjectedStream (Upstream : Type) where
  upstream : Upstream
  projection : Projection

/-- A subscription, by its id, that is seen as changes of endpoints. -/
abbrev EndpointEvents := ProjectedStream Nat

/-- Looks at a stream through a projection. -/
def Projection.projectStream {Upstream : Type} (projection : Projection) (upstream : Upstream) :
    ProjectedStream Upstream :=
  ⟨upstream, projection⟩

/-- Looks at a stream as the changes of the endpoints that nodes replicate from. -/
def ProjectedStream.replicating {Upstream : Type} (upstream : Upstream) :
    ProjectedStream Upstream :=
  (Projection.ofRole .replication).projectStream upstream

/-- The outline of a stream that is seen through a projection. -/
def Projection.streamOutline (projection : Projection) : String :=
  Text.recordOutline "ProjectedStream" [("projection", outline projection)]

/-! ### Streams over events that are all there from the start -/

/-- Takes the next of some items. -/
def pollItems {α : Type} : List α → Poll α × List α
  | [] => (.finished, [])
  | item :: rest => (.ready item, rest)

namespace ProjectedStream

/-- Takes the next item of a stream, as its upstream is polled, and projects it. -/
def poll {Upstream : Type} (pollUpstream : Upstream → Poll (ChangeEvent PeerAddress) × Upstream)
    (stream : ProjectedStream Upstream) :
    Poll (ChangeEvent Endpoint) × ProjectedStream Upstream :=
  let (item, upstream) := pollUpstream stream.upstream
  (item.map stream.projection.projectEvent, { stream with upstream })

/-- The least and the largest number of items still to come, which are known exactly. -/
def sizeHint (stream : ProjectedStream (List (ChangeEvent PeerAddress))) : Nat × Option Nat :=
  (stream.upstream.length, some stream.upstream.length)

/-- Polls a stream a number of times; every answer comes with the size hint before it. -/
def polls (stream : ProjectedStream (List (ChangeEvent PeerAddress))) :
    Nat → List ((Nat × Option Nat) × Poll (ChangeEvent Endpoint))
  | 0 => []
  | count + 1 =>
    let (item, rest) := stream.poll pollItems
    (stream.sizeHint, item) :: rest.polls count

end ProjectedStream

end PeerCluster
