import PeerCluster.Proofs.Venue.Desks
import PeerCluster.Proofs.Worker.Feeding

/-! Notifications as changes: a resolver with either in its feed answers as with the other. -/

namespace PeerCluster

/-! ### Calls -/

/-- The same origin, except that a feed carries changes instead of notifications. -/
def Origin.asEvents : Origin → Origin
  | consuming role queue runtime => consuming role queue.asEvents runtime
  | origin => origin

namespace VenueCall

/-- The same call, except that a feed put behind a key carries changes instead of notifications. -/
def asEvents (key : Nat) : VenueCall → VenueCall
  | create other origin => create other (if other = key then origin.asEvents else origin)
  | call => call

/-- What the feed behind a key is filled with by a call, as far as the answer says. -/
def fed (key : Nat) : VenueCall → VenueAnswer → List (ChangeNotification Endpoint)
  | create other (.consuming _ (.notifications waiting) _), .done =>
    if other = key then waiting else []
  | ask other (.desk request), .desk answer => if other = key then answer.fed request else []
  | _, _ => []

/-- What is accepted at a desk fills the feed behind it. -/
theorem fed_ask (key : Nat) (request : DeskRequest) (answer : DeskAnswer) :
    (ask key (.desk request)).fed key (.desk answer) = answer.fed request :=
  if_pos rfl

/-- What waits in a feed when it is put behind a key was told to the resolver. -/
theorem fed_create (key : Nat) (role : String) (waiting : List (ChangeNotification Endpoint))
    (runtime : Bool) :
    (create key (.consuming role (.notifications waiting) runtime)).fed key .done = waiting :=
  if_pos rfl

/-- Whoever is concerned by a call is concerned by the other one. -/
theorem concerns_asEvents (key observer : Nat) (call : VenueCall) :
    (call.asEvents key).concerns observer = call.concerns observer := by
  cases call with
  | openRegistry | handle | look | create | ask | run => rfl

/-- Nobody else fills the feed behind a key. -/
theorem fed_of_concerns {key : Nat} {call : VenueCall} (others : call.concerns key = false)
    (answer : VenueAnswer) : call.fed key answer = [] := by
  -- What is filled in by others goes to the feed behind another key.
  cases call with
  | openRegistry | handle | look | run => rfl
  | create other origin =>
    have apart : other ≠ key := of_decide_eq_false others
    cases origin with
    | stream | following => rfl
    | consuming role queue runtime =>
      cases queue with
      | events => rfl
      | notifications waiting =>
        cases answer with
        | done => exact if_neg apart
        | _ => rfl
  | ask other request =>
    have apart : other ≠ key := of_decide_eq_false others
    cases request with
    | stream => rfl
    | desk request =>
      cases answer with
      | desk answer => exact if_neg apart
      | _ => rfl

end VenueCall

/-! ### What a consumer has -/

/-- What is heard of a registry is heard by whoever takes changes instead of notifications, too. -/
theorem Worker.hear_asEvents (registry : Nat) (change? : Option MemberEvent) (lives : Bool)
    (worker : Worker) :
    worker.asEvents.hear registry change? lives = (worker.hear registry change? lives).asEvents ∧
      (worker.inbox.Immutable → (worker.hear registry change? lives).inbox.Immutable) := by
  -- Whoever hears something takes from a stream, where there is nothing to convert.
  obtain ⟨resolver, balancer, inbox, task, owners⟩ := worker
  cases inbox with
  | feed source => exact ⟨rfl, id⟩
  | stream home projection subscription before =>
    dsimp only [hear, asEvents, Inbox.asEvents]
    split
    · let heard : Inbox := .stream home projection (subscription.hear change?) lives
      refine ⟨wake_asEvents ⟨resolver, balancer, heard, task, owners⟩, fun _ => ?_⟩
      rw [inbox_wake]
      trivial
    · exact ⟨rfl, id⟩

namespace Station

/-- The same, except that the feed of a resolver carries changes instead of notifications. -/
def asEvents : Station → Station
  | desk worker ledger => desk worker.asEvents ledger
  | station => station

/-- No notification of a change in place waits there. -/
def Immutable : Station → Prop
  | desk worker _ => worker.inbox.Immutable
  | stream .. => True

/-- What is heard of a registry is heard alike. -/
theorem hear_asEvents (registry : Nat) (change? : Option MemberEvent) (lives : Bool)
    (station : Station) :
    station.asEvents.hear registry change? lives = (station.hear registry change? lives).asEvents ∧
      (station.Immutable → (station.hear registry change? lives).Immutable) := by
  -- A stream is not converted at all, and hears as it did before.
  cases station with
  | desk worker ledger =>
    obtain ⟨same, immutable⟩ := worker.hear_asEvents registry change? lives
    exact ⟨congrArg (desk · ledger) same, immutable⟩
  | stream =>
    dsimp only [hear, asEvents]
    split
    · exact ⟨rfl, id⟩
    · exact ⟨rfl, id⟩

/-- Turns come to the same. -/
theorem rest_asEvents {station : Station} (immutable : station.Immutable) :
    -- A stream has no task, and the turns of a worker come to the same.
    station.asEvents.rest = station.rest.asEvents ∧ station.rest.Immutable := by
  cases station with
  | stream => exact ⟨rfl, immutable⟩
  | desk worker ledger =>
    obtain ⟨same, still⟩ := worker.rest_asEvents immutable
    exact ⟨congrArg (desk · ledger) same, still⟩

/-- What is asked is answered alike, and no notification of a change in place is left. -/
theorem ask_asEvents {station : Station} (immutable : station.Immutable) (key : Nat)
    (request : Request)
    (fresh : ∀ notification ∈ (VenueCall.ask key request).fed key (station.ask request).1,
      notification.kind ≠ .modify) :
    station.asEvents.ask request = ((station.ask request).1, (station.ask request).2.asEvents) ∧
      (station.ask request).2.Immutable := by
  -- Only a resolver has a feed, and it answers alike whatever its feed carries.
  cases station with
  | stream registry projection? held subscription lives =>
    cases request with
    | desk => exact ⟨rfl, trivial⟩
    | stream request =>
      dsimp only [ask, asEvents]
      generalize serveStream subscription lives projection? held request = outcome
      exact ⟨rfl, trivial⟩
  | desk worker ledger =>
    cases request with
    | stream => exact ⟨rfl, immutable⟩
    | desk request =>
      obtain ⟨answer, rest⟩ := Desk.serve_asEvents ⟨worker, ledger⟩ request
      have filled := (Desk.serve_cases ⟨worker, ledger⟩ request).filled
      have accepted := VenueCall.fed_ask key request (Desk.serve ⟨worker, ledger⟩ request).1
      rw [← accepted] at filled
      refine ⟨Prod.ext (congrArg VenueAnswer.desk answer) ?_, filled.immutable immutable fresh⟩
      exact congrArg (fun left : Desk => desk left.worker left.ledger) rest

end Station

/-! ### What is seen -/

namespace Vantage

open Machine

variable {vantage : Vantage}

/-- The same vantage point, of somebody whose feed carries changes instead of notifications. -/
def asEvents (vantage : Vantage) : Vantage :=
  { vantage with station? := vantage.station?.map .asEvents }

/-- No notification of a change in place waits in the feed of the observer. -/
def Immutable (vantage : Vantage) : Prop :=
  ∀ station, vantage.station? = some station → station.Immutable

/-- What comes to the same for what the observer has comes to the same for the observer. -/
theorem map_asEvents {change : Station → Station} (immutable : vantage.Immutable)
    (same : ∀ station : Station, station.Immutable →
      change station.asEvents = (change station).asEvents ∧ (change station).Immutable) :
    (vantage.station?.map .asEvents).map change = (vantage.station?.map change).map .asEvents ∧
      ∀ station, vantage.station?.map change = some station → station.Immutable := by
  -- There is at most one station to change.
  unfold Immutable at immutable
  cases before : vantage.station? with
  | none => exact ⟨rfl, fun _ absent => nomatch absent⟩
  | some station =>
    obtain ⟨changed, still⟩ := same station (immutable station before)
    refine ⟨congrArg some changed, ?_⟩
    rintro _ ⟨⟩
    exact still

/-- Who creates a consumer with a feed of either kind is answered alike. -/
theorem create_asEvents (nobody : vantage.station? = none) (key : Nat) {origin : Origin}
    (fresh : ∀ notification ∈ (VenueCall.create key origin).fed key (vantage.create origin).1,
      notification.kind ≠ .modify) :
    vantage.asEvents.create origin.asEvents =
        ((vantage.create origin).1, (vantage.create origin).2.asEvents) ∧
      (vantage.create origin).2.Immutable := by
  -- Only a feed is converted, and everything else starts as it would in any case.
  obtain ⟨observer, books, station?⟩ := vantage
  obtain rfl : station? = none := nobody
  have nothing : Immutable ⟨observer, books, none⟩ := fun _ absent => nomatch absent
  have book (registry : Nat) : Vantage.book? (asEvents ⟨observer, books, none⟩) registry =
      Vantage.book? ⟨observer, books, none⟩ registry := rfl
  cases origin with
  | stream registry projection? =>
    dsimp only [create, Origin.asEvents]
    rw [book]
    split
    · exact ⟨rfl, nothing⟩
    · refine ⟨rfl, ?_⟩
      rintro _ ⟨⟩
      trivial
  | following registry projection runtime =>
    dsimp only [create, Origin.asEvents]
    rw [book]
    split
    · exact ⟨rfl, nothing⟩
    · exact ⟨rfl, nothing⟩
    · refine ⟨rfl, ?_⟩
      rintro _ ⟨⟩
      trivial
  | consuming role queue runtime =>
    cases runtime with
    | false => exact ⟨rfl, nothing⟩
    | true =>
      refine ⟨rfl, ?_⟩
      rintro _ ⟨⟩
      cases queue with
      | events => trivial
      | notifications waiting =>
        dsimp only [create] at fresh
        rw [VenueCall.fed_create] at fresh
        exact fresh

/-- Whatever is called, the observer is answered alike if nothing is told to be changed in place. -/
theorem perform_asEvents (immutable : vantage.Immutable) {call : VenueCall}
    (concerns : call.concerns vantage.observer = true)
    (fresh : ∀ notification ∈ call.fed vantage.observer (vantage.perform call).1,
      notification.kind ≠ .modify) :
    vantage.asEvents.perform (call.asEvents vantage.observer) =
        ((vantage.perform call).1, (vantage.perform call).2.asEvents) ∧
      (vantage.perform call).2.Immutable := by
  -- Books are the same on both sides, so calls of registries are answered alike from them.
  cases call with
  | openRegistry => exact ⟨rfl, immutable⟩
  | run =>
    obtain ⟨same, still⟩ := map_asEvents immutable fun _ => Station.rest_asEvents
    exact ⟨congrArg (fun station? => (VenueAnswer.done, { vantage with station? })) same, still⟩
  | look registry =>
    have book : vantage.asEvents.book? registry = vantage.book? registry := rfl
    dsimp only [perform, VenueCall.asEvents]
    rw [book]
    split
    · exact ⟨rfl, immutable⟩
    · exact ⟨rfl, immutable⟩
  | handle registry call =>
    have book : vantage.asEvents.book? registry = vantage.book? registry := rfl
    dsimp only [perform, VenueCall.asEvents]
    rw [book]
    split
    · exact ⟨rfl, immutable⟩
    · rename_i found _
      obtain ⟨same, still⟩ := map_asEvents immutable fun station before =>
        ⟨(station.hear_asEvents registry (found.serve call).2.1 (found.serve call).2.2.lives).1,
          (station.hear_asEvents registry _ _).2 before⟩
      refine ⟨Prod.ext rfl ?_, still⟩
      exact congrArg (fun station? => ({ vantage with books := _, station? } : Vantage)) same
  | ask key request =>
    obtain rfl : key = vantage.observer := of_decide_eq_true concerns
    dsimp only [perform, VenueCall.asEvents, asEvents] at fresh ⊢
    cases before : vantage.station? with
    | none =>
      rw [before] at fresh
      exact ⟨by simp [before], immutable⟩
    | some station =>
      rw [before] at fresh
      obtain ⟨same, still⟩ := Station.ask_asEvents (immutable station before) _ request fresh
      dsimp only [Option.map_some]
      rw [same]
      refine ⟨rfl, ?_⟩
      rintro _ ⟨⟩
      exact still
  | create key origin =>
    obtain rfl : key = vantage.observer := of_decide_eq_true concerns
    dsimp only [perform, VenueCall.asEvents] at fresh ⊢
    rw [if_pos rfl]
    have has : vantage.asEvents.station?.isSome = vantage.station?.isSome := Option.isSome_map
    rw [has]
    -- Whoever has something already is refused either way.
    split
    · exact ⟨rfl, immutable⟩
    · rename_i absent
      rw [if_neg absent] at fresh
      exact create_asEvents (Option.not_isSome_iff_eq_none.mp absent) _ fresh

/-- All calls that concern the observer are answered alike if nothing is told to be changed. -/
theorem exchanges_asEvents {observer : Nat} (here : vantage.observer = observer)
    (immutable : vantage.Immutable) {calls : List VenueCall}
    (concerning : ∀ call ∈ calls, call.concerns observer = true)
    (fresh : ∀ entry ∈ exchanges vantage calls,
      ∀ notification ∈ entry.call.fed observer entry.answer, notification.kind ≠ .modify) :
    (exchanges vantage.asEvents (calls.map (·.asEvents observer))).map (·.answer) =
        (exchanges vantage calls).map (·.answer) ∧
      after vantage.asEvents (calls.map (·.asEvents observer)) =
        (after vantage calls).asEvents := by
  -- The induction is on the calls: the states stay converted, and nothing in place is told.
  induction calls generalizing vantage with
  | nil => exact ⟨rfl, rfl⟩
  | cons call rest ih =>
    subst here
    obtain ⟨concerns, concerning⟩ := List.forall_mem_cons.mp concerning
    obtain ⟨first, fresh⟩ := List.forall_mem_cons.mp fresh
    obtain ⟨same, still⟩ := perform_asEvents immutable concerns first
    obtain ⟨answers, reached⟩ := ih (Venue.observer_perform vantage call) still concerning fresh
    -- The first call is answered alike and leaves the same, so the others follow on from there.
    have answer : answerTo vantage.asEvents (call.asEvents vantage.observer) =
        answerTo vantage call := by
      show (vantage.asEvents.perform _).1 = _
      rw [same]
      rfl
    have left : next vantage.asEvents (call.asEvents vantage.observer) =
        (next vantage call).asEvents := by
      show (vantage.asEvents.perform _).2 = _
      rw [same]
      rfl
    refine ⟨List.cons_eq_cons.mpr ⟨answer, ?_⟩, ?_⟩
    · show (exchanges (next vantage.asEvents _) _).map _ = _
      rw [left]
      exact answers
    · show after (next vantage.asEvents _) _ = _
      rw [left]
      exact reached

end Vantage

/-! ### Runs -/

namespace Venue

open Machine

/-- What the feed behind a key is filled with in a run. -/
def fed (venue : Venue) (key : Nat) (calls : List VenueCall) :
    List (ChangeNotification Endpoint) :=
  (exchanges venue calls).flatMap fun entry => entry.call.fed key entry.answer

/-- What is filled in by the first call comes before the rest. -/
theorem fed_cons (venue : Venue) (key : Nat) (call : VenueCall) (rest : List VenueCall) :
    venue.fed key (call :: rest) =
      call.fed key (answerTo venue call) ++ (next venue call).fed key rest := rfl

/-- What is filled in by the first few calls comes before the rest. -/
theorem fed_append (venue : Venue) (key : Nat) (calls more : List VenueCall) :
    venue.fed key (calls ++ more) = venue.fed key calls ++ (after venue calls).fed key more := by
  -- The second batch is told to what the first one has left.
  unfold fed
  rw [exchanges_append, List.flatMap_append]

/-- What whoever goes by a key is answered in a run, and everybody who goes by none. -/
def answersTo (venue : Venue) (key : Nat) (calls : List VenueCall) : List VenueAnswer :=
  ((exchanges venue calls).filter (·.call.concerns key)).map (·.answer)

/-- Without a change in place, a resolver does with notifications what it does with changes. -/
theorem asEvents_of_immutable {calls : List VenueCall} {key : Nat}
    (fresh : ∀ notification ∈ Venue.empty.fed key calls, notification.kind ≠ .modify) :
    Venue.empty.answersTo key (calls.map (·.asEvents key)) = Venue.empty.answersTo key calls ∧
      (after Venue.empty (calls.map (·.asEvents key))).desk? key =
        ((after Venue.empty calls).desk? key).map Desk.asEvents := by
  obtain ⟨answers, _, seen⟩ := exchanges_seen_from_start key calls
  obtain ⟨again, _, seenAgain⟩ := exchanges_seen_from_start key (calls.map (·.asEvents key))
  -- The calls that concern the key are those that did so before they were converted.
  have concerning : (calls.map (·.asEvents key)).filter (·.concerns key) =
      (calls.filter (·.concerns key)).map (·.asEvents key) := by
    rw [List.filter_map]
    refine congrArg _ (congrArg (List.filter · calls) (funext fun call => ?_))
    exact call.concerns_asEvents key key
  rw [concerning] at again seenAgain
  have here : (Vantage.empty key).observer = key := rfl
  have nothing : (Vantage.empty key).Immutable := fun _ absent => nomatch absent
  obtain ⟨same, reached⟩ := Vantage.exchanges_asEvents here nothing
    (fun call member => (List.mem_filter.mp member).2) fun entry member notification given => by
      rw [← answers] at member
      exact fresh notification
        (List.mem_flatMap.mpr ⟨entry, (List.mem_filter.mp member).1, given⟩)
  have start : (Vantage.empty key).asEvents = .empty key := rfl
  rw [start] at same reached
  -- Answers and the resolver at the end are both read off the two vantage points.
  refine ⟨?_, ?_⟩
  · unfold answersTo
    rw [again, answers]
    exact same
  · have first := seenAgain.desk?
    have second := seen.desk?
    rw [observer_after] at first second
    rw [reached] at first
    rw [here] at first second
    rw [first, second]
    show (Option.map Station.asEvents _).bind Station.desk? = _
    generalize (after (Vantage.empty key) _).station? = station?
    cases station? with
    | none => rfl
    | some station =>
      cases station with
      | stream | desk => rfl

end Venue

end PeerCluster
