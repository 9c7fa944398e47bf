import PeerCluster.Proofs.Cluster.Calls
import PeerCluster.Proofs.Logged

/-! Calls for several nodes are single attempts in a row, which end at the first failure. -/

namespace PeerCluster

/-- Whether a call makes one attempt at most; the others make one for each of several nodes. -/
def ClusterCall.single : ClusterCall → Bool
  | upMany _ | shutdown => false
  | _ => true

/-- Whether an answer tells that a node was started or stopped. -/
def ClusterAnswer.granted : ClusterAnswer → Bool
  | index _ | address _ => true
  | _ => false

namespace Deployment

open Machine Cluster

variable {σ η : Type}

/-- Attempts to start nodes, up to a number of them; nothing is attempted after a failure. -/
def ups (deployment : Deployment σ η) : Nat → List ClusterCall
  | 0 => []
  | count + 1 =>
    .up :: if (answerTo deployment .up).granted then ups (next deployment .up) count else []

/-- Attempts to stop the last of so many nodes, and then the one before it, until one fails. -/
def downs (deployment : Deployment σ η) : Nat → List ClusterCall
  | 0 => []
  | count + 1 =>
    .down count :: if (answerTo deployment (.down count)).granted then
      downs (next deployment (.down count)) count else []

/-- The single attempts that a call comes to. -/
def attempts (deployment : Deployment σ η) : ClusterCall → List ClusterCall
  | .upMany count => deployment.ups count
  | .shutdown => deployment.downs deployment.cluster.size
  | call => [call]

/-- The single attempts that calls come to, one call after the other. -/
def unfolded (deployment : Deployment σ η) : List ClusterCall → List ClusterCall
  | [] => []
  | call :: rest => deployment.attempts call ++ unfolded (next deployment call) rest

/-! ### The same way in small steps -/

/-- Attempts to start nodes lead where one request for all of them leads. -/
theorem after_ups (deployment : Deployment σ η) (count : Nat) :
    after deployment (deployment.ups count) = next deployment (.upMany count) := by
  -- Both make the same first attempt, and go on only if it succeeds.
  induction count generalizing deployment with
  | zero => rfl
  | succ count ih =>
    rw [ups, after]
    unfold answerTo next at *
    -- The request makes its first attempt by the same operation as the single call.
    rw [perform_up, perform_upMany, scaleUp, Logged.bind_eq]
    generalize deployment.cluster.scaleUpByOne deployment.launchers deployment.registry = first
    obtain ⟨⟨result, cluster, registry⟩, log⟩ := first
    cases result with
    | error error => rfl
    | ok index => exact ih _

/-- Attempts to stop nodes, the last one first, lead where the whole row of them leads. -/
theorem after_downs (deployment : Deployment σ η) (count : Nat) :
    after deployment (deployment.downs count) =
      (deployment.conclude (fun _ => .done)
        (scaleDownLast deployment.launchers count deployment.cluster
          deployment.registry)).value.2 := by
  induction count generalizing deployment with
  -- By induction on the nodes; each round is the single call for the last of those left.
  | zero => rfl
  | succ count ih =>
    rw [downs, after]
    unfold answerTo next at *
    rw [perform_down, scaleDownLast, Logged.bind_eq]
    generalize deployment.cluster.scaleDownByOne deployment.launchers deployment.registry count =
      first
    obtain ⟨⟨result, cluster, registry⟩, log⟩ := first
    cases result with
    | error error => rfl
    | ok address => exact ih _

/-- The single attempts of a call lead where the call leads. -/
theorem after_attempts (deployment : Deployment σ η) (call : ClusterCall) :
    after deployment (deployment.attempts call) = next deployment call := by
  -- Only the requests for several nodes have attempts other than themselves.
  cases call with
  | upMany count => exact deployment.after_ups count
  | shutdown => exact deployment.after_downs deployment.cluster.size
  | up | down | membership => rfl

/-- The single attempts of calls lead where the calls lead. -/
theorem after_unfolded (deployment : Deployment σ η) (calls : List ClusterCall) :
    after deployment (deployment.unfolded calls) = after deployment calls := by
  induction calls generalizing deployment with
  -- The attempts of the first call lead where it leads, and the others go on from there.
  | nil => rfl
  | cons call rest ih => rw [unfolded, after_append, after_attempts, ih, after]

/-! ### Nothing but single attempts -/

/-- Whoever asks for several nodes only starts one after the other. -/
theorem eq_up_of_mem_ups {deployment : Deployment σ η} {count : Nat} {call : ClusterCall}
    (member : call ∈ deployment.ups count) : call = .up := by
  -- Each of them is the first one, or an attempt after it.
  induction count generalizing deployment with
  | zero => cases member
  | succ count ih =>
    rcases List.mem_cons.mp member with first | later
    · exact first
    · -- There are more attempts only if the first one gave a node.
      split at later
      · exact ih later
      · cases later

/-- Whoever asks for the end of all nodes only stops one after the other. -/
theorem eq_down_of_mem_downs {deployment : Deployment σ η} {count : Nat} {call : ClusterCall}
    (member : call ∈ deployment.downs count) : ∃ index, call = .down index := by
  induction count generalizing deployment with
  | zero => cases member
  | succ count ih =>
    rcases List.mem_cons.mp member with first | later
    · exact ⟨count, first⟩
    · -- There are more attempts only if the last node has stopped.
      split at later
      · exact ih later
      · cases later

/-- Single attempts are single, and bypass the cluster no more than the calls they stand for. -/
theorem single_of_mem_unfolded {deployment : Deployment σ η} {calls : List ClusterCall}
    (own : ∀ call ∈ calls, call.bypassesCluster = false) :
    ∀ call ∈ deployment.unfolded calls, call.single = true ∧ call.bypassesCluster = false := by
  induction calls generalizing deployment with
  | nil => nofun
  | cons first rest ih =>
    obtain ⟨decent, others⟩ := List.forall_mem_cons.mp own
    intro call member
    rcases List.mem_append.mp member with here | later
    · -- Only the requests for several nodes come to anything else than themselves.
      cases first with
      | upMany count =>
        obtain rfl := eq_up_of_mem_ups here
        exact ⟨rfl, rfl⟩
      | shutdown =>
        obtain ⟨index, rfl⟩ := eq_down_of_mem_downs here
        exact ⟨rfl, rfl⟩
      | up | down | membership =>
        obtain rfl := List.mem_singleton.mp here
        exact ⟨rfl, decent⟩
    · -- The others are unfolded where the first call has led.
      exact ih others call later

/-- What every single attempt of the cluster keeps, all calls of the cluster keep. -/
theorem after_of_singles_kept {deployment : Deployment σ η} {Holds : Deployment σ η → Prop}
    (kept : ∀ deployment call, Holds deployment →
      call.single = true ∧ call.bypassesCluster = false → Holds (next deployment call))
    (holds : Holds deployment) {calls : List ClusterCall}
    (own : ∀ call ∈ calls, call.bypassesCluster = false) : Holds (after deployment calls) := by
  -- The run of the calls is one of single attempts, so their step is enough.
  rw [← after_unfolded]
  exact after_of_kept kept holds (single_of_mem_unfolded own)

end Deployment

end PeerCluster
