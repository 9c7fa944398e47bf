import PeerCluster.Event
import PeerCluster.Poll
import PeerCluster.Queue

/-! One subscription to a membership: the members at its start as additions, then live changes. -/

namespace PeerCluster

/-- A change of the membership itself. -/
abbrev MemberEvent := ChangeEvent PeerAddress

/-- What a subscriber has yet to see, and how much of the live part it was sent and has taken. -/
structure Subscription where
  /-- The members that were there at the start, less those taken as additions. -/
  replay : List PeerAddress
  /-- Changes since the start, less those taken. -/
  live : Queue MemberEvent
  /-- How many live changes were sent. -/
  published : Nat
  /-- How many live changes were taken. -/
  delivered : Nat
  /-- A cancelled subscription gives nothing any more, not even what is buffered. -/
  cancelled : Bool
deriving DecidableEq, Repr

namespace Subscription

/-- The subscription that starts at a membership. -/
def startingAt (members : List PeerAddress) : Subscription :=
  ⟨members, .empty, 0, 0, false⟩

/-- Counts a live change and buffers it, unless nobody listens any more. -/
def receive (subscription : Subscription) (event : MemberEvent) : Subscription :=
  { subscription with
    published := subscription.published + 1
    live := if subscription.cancelled then subscription.live else subscription.live.push event }

/-- Takes the next item; once all is taken, the stream goes on only while its registry lives. -/
def poll (registryLives : Bool) (subscription : Subscription) : Poll MemberEvent × Subscription :=
  if subscription.cancelled then (.finished, subscription)
  else
    match subscription.replay with
    | peer :: rest => (.ready (.add peer), { subscription with replay := rest })
    | [] =>
      match subscription.live.pop? with
      | some (event, rest) =>
        (.ready event, { subscription with live := rest, delivered := subscription.delivered + 1 })
      | none => (if registryLives then .pending else .finished, subscription)

/-- Gives up everything that is still to be replayed. -/
def cancel (subscription : Subscription) : Subscription :=
  { subscription with replay := [], cancelled := true }

/-- The number of items buffered. -/
def buffered (subscription : Subscription) : Nat :=
  subscription.replay.length + subscription.live.length

/-- How many live changes wait to be taken, as far as the counters tell. -/
def depth (subscription : Subscription) : Nat :=
  subscription.published - subscription.delivered

/-- The least and, if known, the largest number of items still to come. -/
def sizeHint (subscription : Subscription) : Nat × Option Nat :=
  if subscription.cancelled then (0, some 0) else (subscription.replay.length, none)

end Subscription

end PeerCluster
