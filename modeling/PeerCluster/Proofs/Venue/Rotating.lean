import PeerCluster.Proofs.Venue.Desks
import PeerCluster.Proofs.Worker.Interleaving

/-! One rotation: what is picked from a resolver anywhere are the turns of a single balancer. -/

namespace PeerCluster

open Machine

/-- What was asked at a desk, with the answer. -/
def Exchange.request? (entry : Exchange DeskCall DeskAnswer) : Option (DeskRequest × DeskAnswer) :=
  match entry.call with
  | .ask request => some (request, entry.answer)
  | _ => none

/-- What was asked of the resolver that goes by a key, with the answer. -/
def Exchange.requestOf? (key : Nat) (entry : Exchange VenueCall VenueAnswer) :
    Option (DeskRequest × DeskAnswer) :=
  match entry.call, entry.answer with
  | .ask other (.desk request), .desk answer => if other = key then some (request, answer) else none
  | _, _ => none

namespace Desk

variable {desk between later : Desk} {first second : List (DeskRequest × DeskAnswer)}

/-- A desk comes to be another one by steps in which so much is asked and answered. -/
def Unfolds (desk : Desk) (requests : List (DeskRequest × DeskAnswer)) (later : Desk) : Prop :=
  ∃ steps, after desk steps = later ∧ (exchanges desk steps).filterMap Exchange.request? = requests

namespace Unfolds

/-- A desk stays as it is by itself. -/
theorem refl (desk : Desk) : desk.Unfolds [] desk :=
  ⟨[], rfl, rfl⟩

/-- What is asked in some steps comes before what is asked in those after them. -/
theorem trans (before : desk.Unfolds first between) (after : between.Unfolds second later) :
    desk.Unfolds (first ++ second) later := by
  -- The steps of the second part are taken behind those of the first.
  obtain ⟨steps, rfl, rfl⟩ := before
  obtain ⟨more, rfl, rfl⟩ := after
  exact ⟨steps ++ more, after_append .., by rw [exchanges_append, List.filterMap_append]⟩

/-- A request is one step. -/
theorem served (desk : Desk) (request : DeskRequest) :
    desk.Unfolds [(request, (desk.serve request).1)] (desk.serve request).2 :=
  ⟨[.ask request], rfl, rfl⟩

/-- What happens to the source of a driver, and to its task, is one step. -/
theorem shifted (desk : Desk) (inbox : Inbox) (task : TaskPhase) :
    desk.Unfolds [] { desk with worker := { desk.worker with inbox, task } } :=
  ⟨[.shift inbox task], rfl, rfl⟩

/-- A failure is one step. -/
theorem failed (desk : Desk) (error : ClusterError) :
    desk.Unfolds []
      (desk.driven (desk.worker.resolver.fail error desk.worker.balancer).value) :=
  ⟨[.fail error], rfl, rfl⟩

/-- Changes are applied in one step each. -/
theorem applied (desk : Desk) (events : List (ChangeEvent Endpoint)) :
    desk.Unfolds [] (desk.driven (desk.worker.resolver.applyAll desk.worker.balancer events)) := by
  -- The induction is on the changes, and each of them is applied to what those before it left.
  induction events generalizing desk with
  | nil => exact refl desk
  | cons event rest ih =>
    have single : desk.Unfolds [] (next desk (.apply event)) := ⟨[.apply event], rfl, rfl⟩
    exact single.trans (ih _)

/-- A turn of the task is made up of what its driver does, and of what that leaves. -/
theorem turn (desk : Desk) : desk.Unfolds [] { desk with worker := desk.worker.turn } := by
  -- Each way in which a turn can go is a row of steps.
  obtain ⟨worker, ledger⟩ := desk
  have turned := worker.turn_cases
  generalize worker.turn = later at turned ⊢
  cases turned with
  | rested => exact refl _
  | stopped => exact shifted ⟨worker, ledger⟩ worker.inbox.letGo .finished
  | @applied _ events inbox task =>
    exact (applied ⟨worker, ledger⟩ events).trans (shifted _ inbox task)
  | @failed _ earlier rest data =>
    -- What was read before the failure has been applied.
    have through := applied ⟨worker, ledger⟩ (earlier.map (·.asEvent))
    exact (through.trans (failed _ (.ofModify data))).trans (shifted _ worker.inbox.letGo .finished)

/-- A task that is given its turns is given one after the other. -/
theorem rest (desk : Desk) : desk.Unfolds [] { desk with worker := desk.worker.rest } := by
  -- By induction on the number of turns, of which the last one comes behind the others.
  have turns (count : Nat) :
      desk.Unfolds [] { desk with worker := Worker.turn^[count] desk.worker } := by
    induction count with
    | zero => exact refl desk
    | succ count ih =>
      rw [Function.iterate_succ_apply']
      exact ih.trans (turn _)
  exact turns _

/-- What is heard of a registry is put where the task will find it, and may wake the task. -/
theorem heard (desk : Desk) (registry : Nat) (change? : Option MemberEvent) (lives : Bool) :
    desk.Unfolds [] { desk with worker := desk.worker.hear registry change? lives } := by
  -- Who does not listen to the registry stays as it is.
  unfold Worker.hear
  split
  · split
    · rcases Worker.wake_eq _ with asleep | ⟨_, woken⟩
      · rw [asleep]
        exact shifted desk _ desk.worker.task
      · rw [woken]
        exact shifted desk _ .ready
    · exact refl desk
  · exact refl desk

end Unfolds

end Desk

namespace Venue

variable {venue : Venue} {key : Nat} {desk : Desk}

/-- What is asked of the resolver that goes by a key, with the answers. -/
def requestsOf (venue : Venue) (key : Nat) (calls : List VenueCall) :
    List (DeskRequest × DeskAnswer) :=
  (exchanges venue calls).filterMap (·.requestOf? key)

/-- The requests of the first call come before those of the others. -/
theorem requestsOf_cons (venue : Venue) (key : Nat) (call : VenueCall) (rest : List VenueCall) :
    venue.requestsOf key (call :: rest) =
      ((exchange venue call).requestOf? key).toList ++ (next venue call).requestsOf key rest :=
  filterMap_exchanges_cons ..

/-- Whoever does not have a resolver cannot ask it. -/
theorem answerTo_ask_of_nobody (sound : venue.Sound) (nobody : venue.desk? key = none)
    (request : DeskRequest) : answerTo venue (.ask key (.desk request)) = .unreachable := by
  -- From the vantage point of the key there is nothing, or a stream of a registry.
  obtain ⟨vantage, rfl, seen⟩ := sound.seen key
  rw [seen.desk?] at nobody
  refine (answerTo_seen sound seen (.desk request)).trans ?_
  show (vantage.perform _).1 = _
  dsimp only [Vantage.perform]
  cases station : vantage.station? with
  | none => rfl
  | some met =>
    rw [station] at nobody
    cases met with
    | stream => rfl
    | desk => cases nobody

/-- A call that asks a resolver nothing is no request to it. -/
theorem requestOf?_of_others {entry : Exchange VenueCall VenueAnswer}
    -- Only a call that asks the desk behind the key counts.
    (asks : ∀ request, entry.call ≠ .ask key (.desk request)) : entry.requestOf? key = none := by
  unfold Exchange.requestOf?
  split
  · rename_i other request answer call _
    refine if_neg ?_
    rintro rfl
    exact asks request call
  · rfl

/-- Where no resolver is, none gets a request. -/
theorem requestOf?_of_nobody (sound : venue.Sound) (nobody : venue.desk? key = none)
    (call : VenueCall) : (exchange venue call).requestOf? key = none := by
  -- Whoever asks where no resolver is is refused, and so is not answered by a desk.
  by_cases asks : ∃ request, call = .ask key (.desk request)
  · obtain ⟨request, rfl⟩ := asks
    have refused := answerTo_ask_of_nobody sound nobody request
    dsimp only [Exchange.requestOf?, exchange]
    rw [refused]
  · exact requestOf?_of_others fun request same => asks ⟨request, same⟩

/-- What a call leaves of a resolver comes of steps in which as much is asked and answered. -/
theorem Invariant.unfolds_next (invariant : venue.Invariant) (found : venue.desk? key = some desk)
    (call : VenueCall) :
    ∃ later, (next venue call).desk? key = some later ∧
      desk.Unfolds ((exchange venue call).requestOf? key).toList later := by
  -- The call moves the desk in one of four ways, and each of them is a row of steps.
  obtain ⟨later, left, moves⟩ := next_desk invariant.sound found call
  refine ⟨later, left, ?_⟩
  cases moves with
  | stays runs asks =>
    rw [requestOf?_of_others asks]
    exact .refl desk
  | heard registry call change? lives => exact .heard desk registry change? lives
  | rested => exact .rest desk
  | served request =>
    have answer := answerTo_ask invariant.sound found request
    dsimp only [Exchange.requestOf?, exchange]
    rw [answer]
    dsimp only
    rw [if_pos rfl]
    exact .served desk request

/-- So does what several calls leave of it. -/
theorem Invariant.unfolds_run (invariant : venue.Invariant) (found : venue.desk? key = some desk)
    (calls : List VenueCall) :
    ∃ later, (after venue calls).desk? key = some later ∧
      desk.Unfolds (venue.requestsOf key calls) later := by
  -- The induction is on the calls, each of which goes on from what those before it left.
  induction calls generalizing venue desk with
  | nil => exact ⟨desk, found, .refl desk⟩
  | cons call rest ih =>
    obtain ⟨between, left, first⟩ := invariant.unfolds_next found call
    obtain ⟨later, reached, second⟩ := ih (invariant.step call) left
    refine ⟨later, reached, ?_⟩
    rw [requestsOf_cons]
    exact first.trans second

/-- Every resolver was created by some call, and is what came of it since then. -/
theorem Invariant.unfolds_of_nobody (invariant : venue.Invariant) (nobody : venue.desk? key = none)
    {calls : List VenueCall} (found : (after venue calls).desk? key = some desk) :
    ∃ role inbox, (Desk.opened role inbox).Unfolds (venue.requestsOf key calls) desk := by
  -- The induction is on the calls: there is no request before the one that creates the resolver.
  induction calls generalizing venue with
  | nil => cases nobody.symm.trans found
  | cons call rest ih =>
    rw [requestsOf_cons, requestOf?_of_nobody invariant.sound nobody]
    cases left : (next venue call).desk? key with
    | none => exact ih (invariant.step call) left found
    | some created =>
      obtain ⟨later, reached, unfolds⟩ := (invariant.step call).unfolds_run left rest
      obtain rfl := Option.some.inj (reached.symm.trans found)
      cases (next_opens invariant.sound nobody left).1 with
      | following | consuming => exact ⟨_, _, unfolds⟩

/--
All picks of a resolver share one rotation.

Whatever is asked at a desk, in whatever order with the changes that its driver applies, the
candidates given are the turns of one balancer that was told of the same changes in between and
asked once for each candidate: who has to wait, who is told an error or the end, and who drops a
stream of picks takes no turn. Every resolver of a venue is such a desk, whatever becomes of the
others.
-/
theorem picks_share_one_rotation :
    (∀ role inbox steps, Desk.OneRotation role inbox steps) ∧
      ∀ calls key desk, (after Venue.empty calls).desk? key = some desk →
        ∃ role inbox, (Desk.opened role inbox).Unfolds (Venue.empty.requestsOf key calls) desk :=
  ⟨Desk.oneRotation, fun _ _ _ found => (invariant_after []).unfolds_of_nobody rfl found⟩

/-- A pick and a stream that had to wait, a later pick, and a stream that was dropped meanwhile. -/
theorem picks_share_one_rotation_of_waiting :
    let calls : List VenueCall := [.create 0 (.consuming "discovery" (.events []) true),
      .ask 0 (.desk .pick), .ask 0 (.desk .resolve), .ask 0 (.desk .resolve),
      .ask 0 (.desk (.pollPicks 0)), .ask 0 (.desk (.pollPicks 1)), .ask 0 (.desk (.dropPicks 0)),
      .ask 0 (.desk (.send .add ⟨"localhost", 21⟩)),
      .ask 0 (.desk (.send .add ⟨"localhost", 22⟩)), .run, .ask 0 (.desk (.pollPicks 1)),
      .ask 0 (.desk (.pollPick 0)), .ask 0 (.desk .pick), .ask 0 (.desk (.pollPicks 1))]
    ∃ desk, (after Venue.empty calls).desk? 0 = some desk ∧
      (Venue.empty.requestsOf 0 calls).filterMap (·.2.granted?) =
        [⟨"localhost", 21⟩, ⟨"localhost", 22⟩, ⟨"localhost", 21⟩, ⟨"localhost", 22⟩] ∧
      ∃ role inbox, (Desk.opened role inbox).Unfolds (Venue.empty.requestsOf 0 calls) desk :=
  ⟨_, rfl, rfl, picks_share_one_rotation.2 _ 0 _ rfl⟩

end Venue

end PeerCluster
