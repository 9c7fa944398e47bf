import PeerCluster.Proofs.Resolver.Consuming

/-! Picks that wait: they look again as soon as there is something that concerns them. -/

namespace PeerCluster

/-- What is answered while a service goes on: one of the candidates, or that there is none yet. -/
def Offers (pool : List Endpoint) (answer : Poll Choice) : Prop :=
  answer = .pending ∨ ∃ candidate ∈ pool, answer = .ready (.ok candidate)

/-- The two parts of a resolver agree: its pool is shut down if and only if its service is over. -/
structure Resolver.Coupled (resolver : Resolver) (balancer : RoundRobin) : Prop where
  serving : resolver.status = .serving → balancer.shutDown = false
  ceased : resolver.status ≠ .serving → balancer = balancer.shutdown

namespace Resolver

variable {resolver : Resolver} {balancer : RoundRobin}

/-- A resolver that serves no longer has no candidates. -/
theorem Coupled.candidateCount (coupled : resolver.Coupled balancer)
    -- To shut a pool down is to empty it.
    (ceased : resolver.status ≠ .serving) : balancer.candidateCount = 0 := by
  rw [coupled.ceased ceased]
  rfl

end Resolver

namespace Pick

variable {pick : Pick} {resolver : Resolver} {balancer : RoundRobin}

/-- What a pick has looked at is not ahead, and nothing is left that it would have to look at. -/
def Waits (pick : Pick) (resolver : Resolver) (balancer : RoundRobin) : Prop :=
  ∀ seen, pick.seen? = some seen → seen ≤ resolver.changes ∧
    (seen = resolver.changes → resolver.status = .serving ∧ balancer.pool = [])

/-- What polling a pick comes to. -/
inductive Polled (pick : Pick) (resolver : Resolver) (balancer : RoundRobin) :
    Poll Choice × Pick × RoundRobin → Prop where
  /-- The service is over. -/
  | ceased {error : ClusterError} (terminal : resolver.terminalError? = some error) :
      Polled pick resolver balancer (.ready (.error error), pick, balancer)
  | chosen {candidate : Endpoint} {left : RoundRobin} (serving : resolver.status = .serving)
      (turn : balancer.choose = (some candidate, left)) :
      Polled pick resolver balancer (.ready (.ok candidate), pick, left)
  | waits (serving : resolver.status = .serving) (nobody : balancer.pool = []) :
      Polled pick resolver balancer (.pending, ⟨some resolver.changes⟩, balancer)

/-- A fresh pick has looked at nothing yet. -/
theorem waits_fresh : fresh.Waits resolver balancer := nofun

/-- A pick that has looked at everything has nothing to expect from looking again. -/
theorem polled_poll (coupled : resolver.Coupled balancer) (waits : pick.Waits resolver balancer) :
    Polled pick resolver balancer (pick.poll resolver balancer) := by
  -- A pick without anything new to look at waits on, and any other one looks at everything.
  unfold poll
  split
  · rename_i seen
    obtain ⟨_, nothing⟩ := waits _ seen
    obtain ⟨serving, nobody⟩ := nothing rfl
    obtain ⟨seen?⟩ := pick
    obtain rfl : seen? = _ := seen
    exact .waits serving nobody
  · cases terminal : resolver.terminalError? with
    | some error => exact .ceased terminal
    | none =>
      have serving := Resolver.terminalError?_eq_none.mp terminal
      rcases turn : balancer.choose with ⟨choice, left⟩
      cases choice with
      | some candidate => exact .chosen serving turn
      | none =>
        obtain ⟨nobody, rfl⟩ := RoundRobin.pool_eq_nil_of_choose (coupled.serving serving) turn
        exact .waits serving nobody

/-- Two picks are answered alike, whatever they have looked at before. -/
theorem Polled.same {other : Pick} {outcome again : Poll Choice × Pick × RoundRobin}
    (first : Polled pick resolver balancer outcome)
    (second : Polled other resolver balancer again) :
    outcome.1 = again.1 ∧ outcome.2.2 = again.2.2 ∧
      (outcome.1 = .pending → outcome.2.1 = again.2.1) := by
  -- What a poll comes to is decided by the resolver and the pool, not by the pick.
  cases first with
  | ceased terminal =>
    cases second with
    | ceased same =>
      obtain rfl := Option.some.inj (terminal.symm.trans same)
      exact ⟨rfl, rfl, nofun⟩
    | chosen serving | waits serving =>
      rw [Resolver.terminalError?_eq_none.mpr serving] at terminal
      cases terminal
  | chosen serving turn =>
    cases second with
    | ceased terminal =>
      rw [Resolver.terminalError?_eq_none.mpr serving] at terminal
      cases terminal
    | chosen _ same =>
      obtain ⟨⟨⟩, rfl⟩ := Prod.mk.inj (turn.symm.trans same)
      exact ⟨rfl, rfl, nofun⟩
    | waits _ nobody =>
      rw [RoundRobin.choose_of_none (.inr nobody)] at turn
      cases turn
  | waits serving nobody =>
    cases second with
    | ceased terminal =>
      rw [Resolver.terminalError?_eq_none.mpr serving] at terminal
      cases terminal
    | chosen _ turn =>
      rw [RoundRobin.choose_of_none (.inr nobody)] at turn
      cases turn
    | waits => exact ⟨rfl, rfl, fun _ => rfl⟩

/-- A pick that waits is answered as a fresh one is. -/
theorem poll_fresh (coupled : resolver.Coupled balancer) (waits : pick.Waits resolver balancer) :
    (pick.poll resolver balancer).1 = (fresh.poll resolver balancer).1 ∧
      (pick.poll resolver balancer).2.2 = (fresh.poll resolver balancer).2.2 ∧
      ((pick.poll resolver balancer).1 = .pending →
        (pick.poll resolver balancer).2.1 = (fresh.poll resolver balancer).2.1) :=
  (polled_poll coupled waits).same (polled_poll coupled waits_fresh)

variable {outcome : Poll Choice × Pick × RoundRobin}

/-- A pick has to wait exactly while there is nobody to choose in a service that goes on. -/
theorem Polled.pending_iff (polled : Polled pick resolver balancer outcome) :
    outcome.1 = .pending ↔ resolver.status = .serving ∧ balancer.pool = [] := by
  -- Each outcome but waiting contradicts that the service goes on without candidates.
  cases polled with
  | ceased terminal =>
    refine iff_of_false nofun ?_
    rintro ⟨serving, _⟩
    rw [Resolver.terminalError?_eq_none.mpr serving] at terminal
    cases terminal
  | chosen serving turn =>
    refine iff_of_false nofun ?_
    rintro ⟨_, nobody⟩
    rw [RoundRobin.choose_of_none (.inr nobody)] at turn
    cases turn
  | waits serving nobody => exact iff_of_true rfl ⟨serving, nobody⟩

/-- A pick is told that its resolver was closed only if it was, and it has no other end. -/
theorem Polled.closed (polled : Polled pick resolver balancer outcome)
    (honest : ∀ role, resolver.status ≠ .failed (.resolverClosed role)) :
    outcome.1 ≠ .finished ∧
      ∀ role, outcome.1 = .ready (.error (.resolverClosed role)) → resolver.status = .closed := by
  -- The error of a service that is over is the one of its status.
  cases polled with
  | chosen | waits => exact ⟨nofun, nofun⟩
  | ceased terminal =>
    refine ⟨nofun, ?_⟩
    rintro role ⟨⟩
    unfold Resolver.terminalError? at terminal
    cases status : resolver.status with
    | closed => rfl
    | serving =>
      rw [status] at terminal
      cases terminal
    | failed error =>
      rw [status] at terminal
      obtain rfl := Option.some.inj terminal
      exact absurd status (honest role)

/-- Whoever has looked already and need not wait any more has been woken. -/
theorem isWoken_of_answered (looked : pick.seen?.isSome = true)
    (answered : (pick.poll resolver balancer).1 ≠ .pending) : pick.isWoken resolver = true := by
  -- Had nothing happened since it looked, it would have had to wait.
  obtain ⟨seen, same⟩ := Option.isSome_iff_exists.mp looked
  unfold isWoken
  rw [same]
  apply decide_eq_true
  rintro rfl
  apply answered
  unfold poll
  rw [if_pos same]

/-- Who picks from a service that goes on is given a candidate, or has to wait. -/
theorem Polled.offers (polled : Polled pick resolver balancer outcome)
    (serving : resolver.status = .serving) : Offers balancer.pool outcome.1 := by
  -- Whoever is told an error is told so by a service that is over.
  cases polled with
  | ceased terminal =>
    rw [Resolver.terminalError?_eq_none.mpr serving] at terminal
    cases terminal
  | @chosen candidate left _ turn =>
    obtain ⟨_, _, member⟩ := balancer.choose_eq
    rw [turn] at member
    exact .inr ⟨candidate, member candidate rfl, rfl⟩
  | waits => exact .inl rfl

/-- Who picks from a service that is over is told why. -/
theorem Polled.refuses (polled : Polled pick resolver balancer outcome) {error : ClusterError}
    (terminal : resolver.terminalError? = some error) : outcome.1 = .ready (.error error) := by
  -- A service that goes on has no error, so the poll came to the error of the status.
  cases polled with
  | ceased same =>
    obtain rfl := Option.some.inj (same.symm.trans terminal)
    rfl
  | chosen serving | waits serving =>
    rw [Resolver.terminalError?_eq_none.mpr serving] at terminal
    cases terminal

/-- What waited has looked at everything. -/
theorem waits_of_looked {left : RoundRobin} (serving : resolver.status = .serving)
    (nobody : left.pool = []) : Waits ⟨some resolver.changes⟩ resolver left := by
  -- It has seen the current count, and that count only grows from here.
  rintro seen ⟨⟩
  exact ⟨Nat.le_refl _, fun _ => ⟨serving, nobody⟩⟩

end Pick

namespace PickStream

variable {stream : PickStream} {resolver : Resolver} {balancer : RoundRobin}

/-- What polling a stream of picks comes to. -/
inductive Polled (stream : PickStream) (resolver : Resolver) (balancer : RoundRobin) :
    Poll Choice × PickStream × RoundRobin → Prop where
  /-- The last answer was given before. -/
  | past (ceased : stream = .done) : Polled stream resolver balancer (.finished, .done, balancer)
  | closed (closed : resolver.status = .closed) :
      Polled stream resolver balancer (.finished, .done, balancer)
  | failed {pick : Pick} (underWay : stream = .picking pick) {error : ClusterError}
      (failed : resolver.status = .failed error) :
      Polled stream resolver balancer (.ready (.error error), .done, balancer)
  | chosen {pick : Pick} (underWay : stream = .picking pick)
      (serving : resolver.status = .serving) {candidate : Endpoint} {left : RoundRobin}
      (turn : balancer.choose = (some candidate, left)) :
      Polled stream resolver balancer (.ready (.ok candidate), .fresh, left)
  | waits {pick : Pick} (underWay : stream = .picking pick) (serving : resolver.status = .serving)
      (nobody : balancer.pool = []) :
      Polled stream resolver balancer (.pending, .picking ⟨some resolver.changes⟩, balancer)

/-- A stream of picks passes on what its pick is answered, except that a resolver is closed. -/
theorem polled_poll (coupled : resolver.Coupled balancer)
    (honest : ∀ role, resolver.status ≠ .failed (.resolverClosed role))
    (waits : ∀ pick, stream = .picking pick → pick.Waits resolver balancer) :
    Polled stream resolver balancer (stream.poll resolver balancer) := by
  -- A stream under way is its pick, asked once, whose answer decides what becomes of the stream.
  cases stream with
  | done => exact .past rfl
  | picking pick =>
    have polled := Pick.polled_poll coupled (waits pick rfl)
    dsimp only [poll]
    generalize pick.poll resolver balancer = outcome at polled
    cases polled with
    | chosen serving turn => exact .chosen rfl serving turn
    | waits serving nobody => exact .waits rfl serving nobody
    | @ceased error terminal =>
      unfold Resolver.terminalError? at terminal
      cases status : resolver.status with
      | serving =>
        rw [status] at terminal
        cases terminal
      | closed =>
        rw [status] at terminal
        cases terminal
        exact .closed status
      | failed reason =>
        rw [status] at terminal
        obtain rfl : reason = error := Option.some.inj terminal
        -- No error of a failure is the one that a closed resolver answers.
        cases reason with
        | resolverClosed role => exact absurd status (honest role)
        | _ => exact .failed rfl status

/-- Two streams whose picks are answered alike are answered alike. -/
theorem poll_congr {pick other : Pick}
    (same : (pick.poll resolver balancer).1 = (other.poll resolver balancer).1)
    (left : (pick.poll resolver balancer).2.2 = (other.poll resolver balancer).2.2)
    (rest : (pick.poll resolver balancer).1 = .pending →
      (pick.poll resolver balancer).2.1 = (other.poll resolver balancer).2.1) :
    (picking pick).poll resolver balancer = (picking other).poll resolver balancer := by
  -- The two polls are compared as wholes, since the stream looks at all three parts of them.
  dsimp only [poll]
  generalize pick.poll resolver balancer = polled at same left rest ⊢
  generalize other.poll resolver balancer = again at same left rest ⊢
  obtain ⟨answer, pick, balancer⟩ := polled
  obtain ⟨_, _, _⟩ := again
  obtain rfl := same
  obtain rfl := left
  -- What the pick has looked at matters only if it has to wait on.
  cases answer with
  | pending =>
    obtain rfl := rest rfl
    rfl
  | finished => rfl
  | ready choice =>
    cases choice with
    | ok candidate => rfl
    | error error =>
      cases error with
      | _ => rfl

variable {pick : Pick} {outcome : Poll Choice × PickStream × RoundRobin}

/-- A stream has to wait exactly while there is nobody to choose in a service that goes on. -/
theorem Polled.pending_iff (polled : Polled (picking pick) resolver balancer outcome) :
    outcome.1 = .pending ↔ resolver.status = .serving ∧ balancer.pool = [] := by
  -- Only the last outcome leaves the stream waiting, and no other fits a pool without candidates.
  cases polled with
  | past ceased => cases ceased
  | closed closed => exact iff_of_false nofun fun both => nomatch closed.symm.trans both.1
  | failed _ failed => exact iff_of_false nofun fun both => nomatch failed.symm.trans both.1
  | chosen _ serving turn =>
    refine iff_of_false nofun ?_
    rintro ⟨_, nobody⟩
    rw [RoundRobin.choose_of_none (.inr nobody)] at turn
    cases turn
  | waits _ serving nobody => exact iff_of_true rfl ⟨serving, nobody⟩

/-- A stream under way passes a candidate on while the service goes on, or it has to wait. -/
theorem Polled.offers (polled : Polled stream resolver balancer outcome) (underWay : stream ≠ .done)
    (serving : resolver.status = .serving) : Offers balancer.pool outcome.1 := by
  -- The status rules out every end, and a candidate comes from the pool.
  cases polled with
  | past ceased => exact absurd ceased underWay
  | closed closed => cases closed.symm.trans serving
  | failed _ failed => cases failed.symm.trans serving
  | @chosen _ _ _ candidate left turn =>
    obtain ⟨_, _, member⟩ := balancer.choose_eq
    rw [turn] at member
    exact .inr ⟨candidate, member candidate rfl, rfl⟩
  | waits => exact .inl rfl

/-- Every stream comes to its end once its resolver was closed. -/
theorem Polled.finished (polled : Polled stream resolver balancer outcome)
    (closed : resolver.status = .closed) : outcome.1 = .finished := by
  -- No other outcome has this status.
  cases polled with
  | past | closed => rfl
  | failed _ failed => cases closed.symm.trans failed
  | chosen _ serving | waits _ serving => cases closed.symm.trans serving

/-- A stream under way passes the error of a failure on, and is done with that. -/
theorem Polled.fails (polled : Polled stream resolver balancer outcome) (underWay : stream ≠ .done)
    {error : ClusterError} (failed : resolver.status = .failed error) :
    outcome.1 = .ready (.error error) ∧ outcome.2.1 = .done := by
  -- No other outcome has this status, and there is one error for it.
  cases polled with
  | past ceased => exact absurd ceased underWay
  | closed closed => cases closed.symm.trans failed
  | failed _ same =>
    cases same.symm.trans failed
    exact ⟨rfl, rfl⟩
  | chosen _ serving | waits _ serving => cases failed.symm.trans serving

/-- A stream under way comes to its end only if its resolver was closed, and it is not told why. -/
theorem Polled.closed_of_finished (polled : Polled (picking pick) resolver balancer outcome)
    (honest : ∀ role, resolver.status ≠ .failed (.resolverClosed role)) :
    (outcome.1 = .finished → resolver.status = .closed) ∧
      ∀ role, outcome.1 ≠ .ready (.error (.resolverClosed role)) := by
  -- Only being closed ends a stream without an error.
  cases polled with
  | past ceased => cases ceased
  | closed closed => exact ⟨fun _ => closed, nofun⟩
  | failed _ failed =>
    refine ⟨nofun, ?_⟩
    rintro role ⟨⟩
    exact honest role failed
  | chosen | waits => exact ⟨nofun, nofun⟩

end PickStream

end PeerCluster
