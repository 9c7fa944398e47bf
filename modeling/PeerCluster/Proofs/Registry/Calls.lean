import PeerCluster.Proofs.Run
import PeerCluster.Registry

/-! Runs of a registry: calls in any order, by holders of its handles and of its streams. -/

namespace PeerCluster

/-- A peer for examples, whose ports follow each other. -/
def PeerAddress.sample (port : UInt16) : PeerAddress :=
  ⟨"localhost", port, port + 1, port + 2⟩

/-- What holders of handles and of streams can ask of a registry. -/
inductive RegistryCall where
  | add (peer : PeerAddress)
  | remove (index : Nat)
  | subscribe
  /-- Makes one more handle out of one that there is. -/
  | retain
  /-- Drops a handle. -/
  | release
  /-- Asks a stream for its next item. -/
  | poll (id : Nat)
  /-- Cancels a stream, or drops it, which ends its subscription in the same way. -/
  | cancel (id : Nat)
deriving DecidableEq, Repr

/-- What a registry answers to a call. -/
inductive RegistryAnswer where
  | done
  /-- Nobody holds a handle any more through which this could be asked. -/
  | unreachable
  | added (index : Nat)
  | removed (peer : PeerAddress)
  | failed (error : ClusterError)
  | opened (id : Nat)
  | polled (item : Poll MemberEvent)
deriving DecidableEq, Repr

/-- The answer to a removal. -/
def RegistryAnswer.ofRemoval : Except ClusterError PeerAddress → RegistryAnswer
  | .ok peer => removed peer
  | .error error => failed error

/-- A stream can be asked without a handle. -/
def RegistryCall.needsHandle : RegistryCall → Bool
  | poll _ | cancel _ => false
  | _ => true

/-- The stream that a call takes an item from or ends, if it does so. -/
def RegistryCall.stream? : RegistryCall → Option Nat
  | poll id | cancel id => some id
  | _ => none

namespace Exchange

/-- The change of the membership that a call made, if it made one. -/
def change? : Exchange RegistryCall RegistryAnswer → Option MemberEvent
  | ⟨.add peer, .added _, _⟩ => some (.add peer)
  | ⟨.remove _, .removed peer, _⟩ => some (.remove peer)
  | _ => none

/-- The item that a call took from a stream, if it took one. -/
def item? (id : Nat) : Exchange RegistryCall RegistryAnswer → Option MemberEvent
  | ⟨.poll asked, .polled (.ready event), _⟩ => if asked = id then some event else none
  | _ => none

/-- Only a poll takes an item from a stream. -/
theorem item?_of_spared {id : Nat} {entry : Exchange RegistryCall RegistryAnswer}
    (spared : entry.call.stream? ≠ some id) : entry.item? id = none := by
  -- By the kind of call; a poll of another stream may take an item, but not from this one.
  obtain ⟨call, answer, log⟩ := entry
  cases call with
  | poll asked =>
    have different : asked ≠ id := fun same => spared (congrArg some same)
    unfold item?
    split
    · rename_i taken
      cases taken
      exact if_neg different
    · rfl
  | add | remove | subscribe | retain | release | cancel => rfl

end Exchange

namespace Registry

open Machine

/-- Answers a call of somebody who can make it. -/
def serve (registry : Registry) : RegistryCall → Logged (RegistryAnswer × Registry)
  | .add peer => (registry.add peer).map fun (index, after) => (.added index, after)
  | .remove index => (registry.remove index).map fun (result, after) => (.ofRemoval result, after)
  | .subscribe => registry.subscribe.map fun (id, after) => (.opened id, after)
  | .retain => .quiet (.done, registry.retain)
  | .release => .quiet (.done, registry.release)
  | .poll id =>
    let (item, after) := registry.poll id
    .quiet (.polled item, after)
  | .cancel id => (registry.cancel id).map fun after => (.done, after)

/-- Answers a call, which may come from somebody without a handle. -/
def perform (registry : Registry) (call : RegistryCall) : Logged (RegistryAnswer × Registry) :=
  if call.needsHandle && !registry.lives then .quiet (.unreachable, registry)
  else registry.serve call

instance : Machine Registry RegistryCall RegistryAnswer where
  perform := perform

/-- Whoever reaches a registry is served. -/
theorem perform_of_lives {registry : Registry} (lives : registry.lives = true)
    (call : RegistryCall) : Machine.perform registry call = registry.serve call := by
  -- With a handle left nobody is turned away.
  simp [Machine.perform, perform, lives]

/-- The changes of the membership that calls make, in order. -/
def changes (registry : Registry) (calls : List RegistryCall) : List MemberEvent :=
  (exchanges registry calls).filterMap Exchange.change?

/-- The items that calls take from a stream, in order. -/
def given (registry : Registry) (id : Nat) (calls : List RegistryCall) : List MemberEvent :=
  (exchanges registry calls).filterMap (Exchange.item? id)

/-- The registry once a change has led to a membership and was sent to every subscriber. -/
def announce (registry : Registry) (members : List PeerAddress) (event : MemberEvent) : Registry :=
  (publish { registry with members } event).value

/-- What a call can come to: the exchange that it makes, and the registry after it. -/
inductive Step (registry : Registry) : Exchange RegistryCall RegistryAnswer → Registry → Prop where
  | unreachable {call : RegistryCall} (handle : call.needsHandle = true)
      (gone : registry.lives = false) : Step registry ⟨call, .unreachable, []⟩ registry
  | joined (peer : PeerAddress) (lives : registry.lives = true) (log : List LogRecord) :
      Step registry ⟨.add peer, .added registry.members.length, log⟩
        (registry.announce (registry.members ++ [peer]) (.add peer))
  | left {index : Nat} {peer : PeerAddress} (found : registry.members[index]? = some peer)
      (lives : registry.lives = true) (log : List LogRecord) :
      Step registry ⟨.remove index, .removed peer, log⟩
        (registry.announce (registry.members.eraseIdx index) (.remove peer))
  | missed {index : Nat} (absent : registry.members[index]? = none)
      (lives : registry.lives = true) (log : List LogRecord) :
      Step registry ⟨.remove index,
        .failed (.peerIndexOutOfRange index registry.members.length), log⟩ registry
  | opened (lives : registry.lives = true) (log : List LogRecord) :
      Step registry ⟨.subscribe, .opened registry.nextId, log⟩ registry.subscribe.value.2
  | retained (lives : registry.lives = true) : Step registry ⟨.retain, .done, []⟩ registry.retain
  | released (lives : registry.lives = true) : Step registry ⟨.release, .done, []⟩ registry.release
  | polled (id : Nat) :
      Step registry ⟨.poll id, .polled (registry.poll id).1, []⟩ (registry.poll id).2
  | ended (id : Nat) (log : List LogRecord) :
      Step registry ⟨.cancel id, .done, log⟩ (registry.cancel id).value

/-- Every call comes to one of these. -/
theorem step (registry : Registry) (call : RegistryCall) :
    registry.Step (exchange registry call) (next registry call) := by
  show registry.Step ⟨call, (registry.perform call).value.1, (registry.perform call).log⟩
    (registry.perform call).value.2
  unfold perform
  -- The handle is looked at first; whoever is let through is served by the operation.
  by_cases outside : call.needsHandle && !registry.lives
  · rw [if_pos outside]
    obtain ⟨handle, gone⟩ := Bool.and_eq_true_iff.mp outside
    exact .unreachable handle (by simpa using gone)
  rw [if_neg outside]
  have reached (handle : call.needsHandle = true) : registry.lives = true := by
    simpa [handle] using outside
  cases call with
  | add peer => exact .joined peer (reached rfl) _
  | remove index =>
    simp only [serve, remove]
    -- A removal finds somebody at the position, or it does not.
    cases found : registry.members[index]? with
    | none => exact .missed found (reached rfl) _
    | some peer => exact .left found (reached rfl) _
  | subscribe => exact .opened (reached rfl) _
  | retain => exact .retained (reached rfl)
  | release => exact .released (reached rfl)
  | poll id => exact .polled id
  | cancel id => exact .ended id _

section Runs

variable (registry : Registry) (calls more : List RegistryCall)

/-- The first call of several makes its change before the others. -/
theorem changes_cons (call : RegistryCall) :
    registry.changes (call :: calls) =
      (exchange registry call).change?.toList ++ (next registry call).changes calls :=
  filterMap_exchanges_cons ..

/-- The changes of two batches of calls follow each other. -/
theorem changes_append :
    registry.changes (calls ++ more) =
      -- The exchanges of both batches follow each other, and filtering keeps that.
      registry.changes calls ++ (after registry calls).changes more := by
  simp only [changes, exchanges_append, List.filterMap_append]

/-- The first call of several takes its item before the others. -/
theorem given_cons (id : Nat) (call : RegistryCall) :
    registry.given id (call :: calls) =
      ((exchange registry call).item? id).toList ++ (next registry call).given id calls :=
  filterMap_exchanges_cons ..

/-- The items taken by two batches of calls follow each other. -/
theorem given_append (id : Nat) :
    registry.given id (calls ++ more) =
      registry.given id calls ++ (after registry calls).given id more := by
  simp only [given, exchanges_append, List.filterMap_append]

end Runs

end Registry

end PeerCluster
