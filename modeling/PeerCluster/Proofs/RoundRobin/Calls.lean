import PeerCluster.Proofs.RoundRobin.Pool
import PeerCluster.Proofs.Run

/-! Runs of a balancer: changes that it is told of, turns that it gives, and its end. -/

namespace PeerCluster

/-- What can be asked of a balancer. -/
inductive BalancerCall where
  /-- Tells of a candidate that joined or left. -/
  | tell (event : ChangeEvent Endpoint)
  /-- Asks for the candidate whose turn it is. -/
  | choose
  | shutdown
deriving DecidableEq, Repr

/-- What a balancer answers to a call. -/
inductive BalancerAnswer where
  | done
  | chosen (candidate? : Option Endpoint)
deriving DecidableEq, Repr

/-- The change that a call tells of, if it tells of one. -/
def BalancerCall.change? : BalancerCall → Option (ChangeEvent Endpoint)
  | tell event => some event
  | _ => none

namespace RoundRobin

open Machine

instance : Machine RoundRobin BalancerCall BalancerAnswer where
  perform balancer
    | .tell event => (balancer.onEvent event).map fun after => (.done, after)
    | .choose =>
      let (candidate?, after) := balancer.choose
      .quiet (.chosen candidate?, after)
    | .shutdown => .quiet (.done, balancer.shutdown)

/-- A balancer that is shut down has let every candidate go. -/
def Ceased (balancer : RoundRobin) : Prop :=
  balancer.shutDown = true ∧ balancer.pool = []

/-- No call brings a balancer back that is shut down. -/
theorem Ceased.next {balancer : RoundRobin} (ceased : balancer.Ceased) (call : BalancerCall) :
    -- The flag is checked before anything else, so no other call reaches the pool.
    (next balancer call).Ceased := by
  cases call with
  | shutdown => exact ⟨rfl, rfl⟩
  | tell event =>
    -- Changes are no longer looked at.
    have ignored : balancer.onEvent event = .quiet balancer := by simp [onEvent, ceased.1]
    show (balancer.onEvent event).value.Ceased
    rw [ignored]
    exact ceased
  | choose =>
    have none : balancer.choose = (none, balancer) := by simp [RoundRobin.choose, ceased.1]
    show balancer.choose.2.Ceased
    rw [none]
    exact ceased

/-- No calls bring a balancer back that is shut down. -/
theorem Ceased.after {balancer : RoundRobin} (ceased : balancer.Ceased)
    (calls : List BalancerCall) : (after balancer calls).Ceased :=
  after_of_kept (fun _ call ceased _ => ceased.next call) ceased fun _ _ => trivial

/-- The pool follows the changes that were told, and a turn in between leaves no trace in it. -/
theorem pool_after {balancer : RoundRobin} (open_ : balancer.shutDown = false)
    {calls : List BalancerCall} (kept : .shutdown ∉ calls) :
    (after balancer calls).pool =
        ChangeEvent.rebuild balancer.pool (calls.filterMap BalancerCall.change?) ∧
      (after balancer calls).shutDown = false := by
  -- One call after the other; only a change has something to do with the pool.
  induction calls generalizing balancer with
  | nil => exact ⟨rfl, open_⟩
  | cons call rest ih =>
    obtain ⟨first, later⟩ := not_or.mp (mt List.mem_cons.mpr kept)
    cases call with
    | shutdown => exact absurd rfl first
    | tell event =>
      obtain ⟨pool, still⟩ := onEvent_of_open open_ event
      have more := ih still later
      rw [pool] at more
      exact more
    | choose =>
      obtain ⟨pool, shutDown, _⟩ := balancer.choose_eq
      have more := ih (shutDown.trans open_) later
      rw [pool] at more
      exact more

/-- Once the end was asked for, a balancer is shut down, whatever was asked after it. -/
theorem ceased_after (balancer : RoundRobin) {calls : List BalancerCall}
    (ended : .shutdown ∈ calls) : (after balancer calls).Ceased := by
  -- The run is cut at that call, and the state right after it is kept by all the others.
  obtain ⟨earlier, later, rfl⟩ := List.append_of_mem ended
  rw [after_append]
  have ends : (next (Machine.after balancer earlier) .shutdown).Ceased := ⟨rfl, rfl⟩
  exact ends.after later

end RoundRobin

end PeerCluster
