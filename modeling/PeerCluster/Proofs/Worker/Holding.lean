import PeerCluster.Proofs.Worker.Lifetime
import PeerCluster.Proofs.Worker.Serving

/-! What is held of a resolver: nobody waits for what there is, and nobody is served by nobody. -/

namespace PeerCluster

namespace Pick

/-- What has been looked at stays so, unless there is something new to look at. -/
theorem Waits.persist {pick : Pick} {worker later : Worker}
    (waits : pick.Waits worker.resolver worker.balancer) (precedes : worker.Precedes later) :
    pick.Waits later.resolver later.balancer := by
  -- If the pick has seen everything even now, then nothing has happened in between.
  intro seen looked
  obtain ⟨known, nothing⟩ := waits seen looked
  have more := precedes.changes
  refine ⟨Nat.le_trans known more, fun all => ?_⟩
  have before : seen = worker.resolver.changes := by omega
  obtain ⟨resolver, pool⟩ := precedes.unchanged (by omega)
  rw [resolver, pool]
  exact nothing before

end Pick

namespace Ledger

variable {ledger : Ledger} {worker later : Worker}

/-- How many keep a resolver from being closed: its holder, and every pick that waits. -/
def owners (ledger : Ledger) : Nat :=
  (if ledger.held then 1 else 0) + ledger.picks.countP Option.isSome

/-- Nobody who was handed something out waits for what is there already. -/
structure Waits (ledger : Ledger) (worker : Worker) : Prop where
  picks : ∀ {index pick}, ledger.pick? index = some pick →
    pick.Waits worker.resolver worker.balancer ∧ pick.seen?.isSome = true
  streams : ∀ {index pick}, ledger.stream? index = some (.picking pick) →
    pick.Waits worker.resolver worker.balancer
  /-- Only a stream that has passed on an error is done without being over. -/
  done : ∀ {index}, ledger.stream? index = some .done →
    ∃ error, worker.resolver.status = .failed error

/-- Whoever waited goes on waiting, unless there is something new to look at. -/
theorem Waits.persist (waits : ledger.Waits worker) (precedes : worker.Precedes later) :
    ledger.Waits later := by
  -- A pick waits on, and an error that a stream has passed on is still the one of the failure.
  refine ⟨fun found => ?_, fun found => (waits.streams found).persist precedes, fun found => ?_⟩
  · obtain ⟨nothing, looked⟩ := waits.picks found
    exact ⟨nothing.persist precedes, looked⟩
  · obtain ⟨error, failed⟩ := waits.done found
    obtain ⟨same, _⟩ := precedes.ceased (by rw [failed]; nofun)
    exact ⟨error, by rw [same, failed]⟩

/-- What is put in the place of a pick is found there, and every other pick where it was. -/
theorem pick?_setPick {index : Nat} {before : Pick} (found : ledger.pick? index = some before)
    (after? : Option Pick) (other : Nat) :
    (ledger.setPick index after?).pick? other =
      if other = index then after? else ledger.pick? other := by
  -- The place is written, and all others are read as before.
  have there := Option.join_eq_some_iff.mp found
  show ((ledger.picks.set index after?)[other]?).join = _
  rw [Fabric.getElem?_set_of_some there]
  split
  · rfl
  · rfl

/-- What is put in the place of a stream is found there, and every other stream where it was. -/
theorem stream?_setStream {index : Nat} {before : PickStream}
    (found : ledger.stream? index = some before) (after? : Option PickStream) (other : Nat) :
    (ledger.setStream index after?).stream? other =
      if other = index then after? else ledger.stream? other := by
  -- The place is written, and all others are read as before.
  have there := Option.join_eq_some_iff.mp found
  show ((ledger.streams.set index after?)[other]?).join = _
  rw [Fabric.getElem?_set_of_some there]
  split
  · rfl
  · rfl

/-- What is handed out next is found after everything that was handed out before. -/
theorem join_concat {α : Type} (items : List (Option α)) (item : α) (index : Nat) :
    (items ++ [some item])[index]?.join =
      if index = items.length then some item else items[index]?.join := by
  -- A position lies before the new item, at it, or behind it, where there is nothing.
  rcases Nat.lt_trichotomy index items.length with before | last | after
  · rw [List.getElem?_append_left before, if_neg (Nat.ne_of_lt before)]
  · rw [last, List.getElem?_concat_length, if_pos rfl]
    rfl
  · have outside : (items ++ [some item]).length ≤ index := by
      rw [List.length_append]
      exact after
    rw [List.getElem?_eq_none outside, List.getElem?_eq_none (Nat.le_of_lt after),
      if_neg (Nat.ne_of_gt after)]

/-- A pick that was handed out is counted until nothing is left in its place. -/
theorem owners_setPick {index : Nat} {before : Pick} (found : ledger.pick? index = some before)
    (after? : Option Pick) :
    (ledger.setPick index after?).owners + 1 =
      ledger.owners + if after?.isSome then 1 else 0 := by
  -- The place held something before, so it counted for one.
  obtain ⟨inside, there⟩ := List.getElem?_eq_some_iff.mp (Option.join_eq_some_iff.mp found)
  have counted : 0 < ledger.picks.countP Option.isSome := by
    rw [List.countP_pos_iff]
    exact ⟨_, List.getElem_mem inside, by rw [there]; rfl⟩
  show (if ledger.held then 1 else 0) + (ledger.picks.set index after?).countP Option.isSome + 1 = _
  rw [List.countP_set inside, there]
  unfold owners
  simp only [Option.isSome_some, if_true]
  omega

/-- A pick that was looked after waits, or it is gone. -/
theorem Waits.setPick (waits : ledger.Waits worker) {index : Nat} {before : Pick}
    (found : ledger.pick? index = some before) {after? : Option Pick}
    (waits' : ∀ pick, after? = some pick →
      pick.Waits worker.resolver worker.balancer ∧ pick.seen?.isSome = true) :
    (ledger.setPick index after?).Waits worker := by
  -- The place is the one that was looked after, or it is another one.
  refine ⟨fun {other pick} there => ?_, waits.streams, waits.done⟩
  rw [pick?_setPick found] at there
  split at there
  · exact waits' pick there
  · exact waits.picks there

/-- A stream that was looked after waits, or it is done or gone. -/
theorem Waits.setStream (waits : ledger.Waits worker) {index : Nat} {before : PickStream}
    (found : ledger.stream? index = some before) {after? : Option PickStream}
    (waits' : ∀ pick, after? = some (.picking pick) → pick.Waits worker.resolver worker.balancer)
    (done : after? = some .done → ∃ error, worker.resolver.status = .failed error) :
    (ledger.setStream index after?).Waits worker := by
  -- The place is the one that was looked after, or it is another one.
  refine ⟨waits.picks, fun {other pick} there => ?_, fun {other} there => ?_⟩
  · rw [stream?_setStream found] at there
    split at there
    · exact waits' pick there
    · exact waits.streams there
  · rw [stream?_setStream found] at there
    split at there
    · exact done there
    · exact waits.done there

/-- A pick that is handed out waits. -/
theorem Waits.addPick (waits : ledger.Waits worker) {pick : Pick}
    (waits' : pick.Waits worker.resolver worker.balancer) (looked : pick.seen?.isSome = true) :
    ({ ledger with picks := ledger.picks ++ [some pick] } : Ledger).Waits worker := by
  -- The pick found is the new one, or it was there before.
  refine ⟨fun {other rival} there => ?_, waits.streams, waits.done⟩
  have there : (ledger.picks ++ [some pick])[other]?.join = some rival := there
  rw [join_concat] at there
  split at there
  · obtain rfl := Option.some.inj there
    exact ⟨waits', looked⟩
  · exact waits.picks there

/-- A stream that is handed out has asked for nothing yet. -/
theorem Waits.addStream (waits : ledger.Waits worker) :
    ({ ledger with streams := ledger.streams ++ [some .fresh] } : Ledger).Waits worker := by
  -- The stream found is the new one, which waits for nothing, or it was there before.
  have found {other : Nat} {stream : PickStream}
      (there : (ledger.streams ++ [some PickStream.fresh])[other]?.join = some stream) :
      stream = .fresh ∨ ledger.stream? other = some stream := by
    rw [join_concat] at there
    split at there
    · exact .inl (Option.some.inj there).symm
    · exact .inr there
  refine ⟨waits.picks, fun {other pick} there => ?_, fun {other} there => ?_⟩
  · rcases found there with fresh | before
    · obtain rfl : pick = .fresh := PickStream.picking.inj fresh
      exact Pick.waits_fresh
    · exact waits.streams before
  · rcases found there with fresh | before
    · cases fresh
    · exact waits.done before

end Ledger

namespace Worker

variable {worker later : Worker}

/-- No failure is told by the error that a closed resolver answers. -/
theorem Invariant.honest (invariant : worker.Invariant) (role : String) :
    worker.resolver.status ≠ .failed (.resolverClosed role) := by
  -- A failure is always about a change in place, which is another error.
  intro failed
  obtain ⟨⟨data, same⟩, _⟩ := invariant.failed _ failed
  cases same

/-- No turn concerns those who keep the resolver from being closed. -/
theorem owners_turn (worker : Worker) : worker.turn.owners = worker.owners := by
  -- A turn writes everything but the owners.
  have turned := worker.turn_cases
  generalize worker.turn = later at turned
  cases turned with
  | rested | stopped | applied | failed => rfl

/-- No turns concern those who keep the resolver from being closed. -/
theorem owners_rest (worker : Worker) : worker.rest.owners = worker.owners := by
  -- By induction on the number of turns, of which none concerns the owners.
  have turns (count : Nat) : (turn^[count] worker).owners = worker.owners := by
    induction count with
    | zero => rfl
    | succ count ih => rw [Function.iterate_succ_apply', owners_turn, ih]
  exact turns _

/-- Waking a task concerns neither its resolver nor those who keep that from being closed. -/
theorem wake_keeps (worker : Worker) :
    worker.wake.resolver = worker.resolver ∧ worker.wake.owners = worker.owners := by
  -- At most the phase of the task is written.
  rcases worker.wake_eq with same | ⟨_, woken⟩
  · rw [same]
    exact ⟨rfl, rfl⟩
  · rw [woken]
    exact ⟨rfl, rfl⟩

/-- Waking a task leaves its source alone. -/
theorem inbox_wake (worker : Worker) : worker.wake.inbox = worker.inbox := by
  -- At most the phase of the task is written.
  rcases worker.wake_eq with same | ⟨_, woken⟩
  · rw [same]
  · rw [woken]

/-- What is filled in concerns neither the resolver nor those who keep it from being closed. -/
theorem send_keeps (kind : NotificationKind) (target : Endpoint) (worker : Worker) :
    (worker.send kind target).2.resolver = worker.resolver ∧
      (worker.send kind target).2.owners = worker.owners := by
  -- Only the feed is written, and its task may be woken.
  unfold send
  split
  · exact ⟨rfl, rfl⟩
  · split
    · exact wake_keeps _
    · exact ⟨rfl, rfl⟩

/-- Nor does the end of what is filled in. -/
theorem hangUp_keeps (worker : Worker) :
    worker.hangUp.resolver = worker.resolver ∧ worker.hangUp.owners = worker.owners := by
  -- Only the feed is written, and its task may be woken.
  unfold hangUp
  split
  · exact ⟨rfl, rfl⟩
  · exact wake_keeps _

/-- When the last one ceases to keep a resolver from being closed, it is closed. -/
theorem release_spec (worker : Worker) :
    worker.release.owners = worker.owners - 1 ∧
      worker.release.resolver =
        if worker.owners = 1 then worker.resolver.moveTo .closed else worker.resolver := by
  -- One owner less is counted in any case, and only the last one closes.
  unfold release
  dsimp only
  split
  · exact ⟨rfl, rfl⟩
  · exact ⟨rfl, rfl⟩

/-- Only the task of a resolver lets go of the source when it is closed. -/
theorem inbox_release (worker : Worker) : worker.release.inbox = worker.inbox := by
  -- Closing writes the resolver, the pool and the task.
  unfold release
  dsimp only
  split
  · rfl
  · rfl

end Worker

namespace Desk

variable {desk : Desk} {later : Worker} {ledger : Ledger}

/-- What always holds of a resolver and of what is held of it. -/
structure Invariant (desk : Desk) : Prop where
  worker : desk.worker.Invariant
  waits : desk.ledger.Waits desk.worker
  owners : desk.worker.owners = desk.ledger.owners
  deserted : desk.ledger.owners = 0 → desk.worker.resolver.status ≠ .serving

/-- The invariant holds of a new resolver, of which nothing was handed out. -/
theorem invariant_started (role : String) {inbox : Inbox} (held : inbox.isHeld = true) :
    Invariant ⟨.started role inbox, .opened⟩ := by
  -- Nobody was handed anything, so nobody waits for anything.
  have none {index : Nat} {α : Type} : ([] : List (Option α))[index]?.join = none := rfl
  refine ⟨Worker.invariant_started role held, ⟨?_, ?_, ?_⟩, rfl, nofun⟩
  all_goals
    intro index
    nofun

/-- What happens to the resolver only is noticed by whoever waits for it. -/
theorem Invariant.moved (invariant : desk.Invariant) (reaches : desk.worker.Reaches later)
    (same : later.owners = desk.worker.owners) : Invariant ⟨later, desk.ledger⟩ := by
  -- All who wait go on waiting, and a service that was over is still over.
  obtain ⟨still, precedes⟩ := reaches.kept invariant.worker
  refine ⟨still, invariant.waits.persist precedes, same.trans invariant.owners, fun nobody => ?_⟩
  have ceased := invariant.deserted nobody
  show later.resolver.status ≠ .serving
  rw [(precedes.ceased ceased).1]
  exact ceased

/-- What is done to what is held only leaves the resolver as it was. -/
theorem Invariant.relisted (invariant : desk.Invariant) (waits : ledger.Waits desk.worker)
    (same : ledger.owners = desk.ledger.owners) : Invariant ⟨desk.worker, ledger⟩ :=
  ⟨invariant.worker, waits, invariant.owners.trans same.symm,
    fun nobody => invariant.deserted (same.symm.trans nobody)⟩

/-- Whoever ceases to keep a resolver from being closed leaves it to the others, or closes it. -/
theorem Invariant.released (invariant : desk.Invariant) (waits : ledger.Waits desk.worker)
    (fewer : ledger.owners + 1 = desk.ledger.owners) : Invariant ⟨desk.worker.release, ledger⟩ := by
  -- Owners are counted alike, so the last one leaves exactly when nobody is left.
  obtain ⟨still, precedes⟩ := (Worker.Reaches.release desk.worker).kept invariant.worker
  obtain ⟨owners, last⟩ := desk.worker.release_spec
  have before := invariant.owners
  refine ⟨still, waits.persist precedes, ?_, fun nobody => ?_⟩
  · show desk.worker.release.owners = ledger.owners
    omega
  · have nobody : ledger.owners = 0 := nobody
    show desk.worker.release.resolver.status ≠ .serving
    rw [last, if_pos (by omega)]
    exact desk.worker.resolver.status_moveTo_closed

/-- Whoever is handed a pick that waits keeps the resolver from being closed. -/
theorem Invariant.handedOut (invariant : desk.Invariant) {pick : Pick}
    (waits : pick.Waits desk.worker.resolver desk.worker.balancer)
    (looked : pick.seen?.isSome = true) :
    Invariant
      ⟨desk.worker.retain, { desk.ledger with picks := desk.ledger.picks ++ [some pick] }⟩ := by
  -- There is one owner more on either side of the count.
  have steps := Worker.Steps.owned desk.worker (desk.worker.owners + 1)
  have more : ({ desk.ledger with picks := desk.ledger.picks ++ [some pick] } : Ledger).owners =
      desk.ledger.owners + 1 := by
    unfold Ledger.owners
    dsimp only
    rw [List.countP_append, List.countP_singleton]
    simp only [Option.isSome_some, if_true]
    omega
  refine ⟨steps.invariant invariant.worker,
    (invariant.waits.addPick waits looked).persist (steps.precedes invariant.worker), ?_, ?_⟩
  · rw [more]
    exact congrArg (· + 1) invariant.owners
  · rw [more]
    exact fun nobody => absurd nobody (Nat.succ_ne_zero _)

/-- What comes of polling a stream of picks that was handed out. -/
theorem Invariant.polled (invariant : desk.Invariant) {index : Nat} {stream : PickStream}
    (found : desk.ledger.stream? index = some stream) :
    stream.Polled desk.worker.resolver desk.worker.balancer
      (stream.poll desk.worker.resolver desk.worker.balancer) :=
  PickStream.polled_poll invariant.worker.coupled invariant.worker.honest
    fun _ underWay => invariant.waits.streams (found.trans (congrArg some underWay))

/-- A pick that has to wait on has looked at all that there is. -/
theorem Invariant.waits_of_pending (invariant : desk.Invariant) {pick rest : Pick} {woken : Bool}
    (waits : pick.Waits desk.worker.resolver desk.worker.balancer)
    (polled : desk.worker.pollPick pick = ((.pending, woken), rest, later)) :
    rest.Waits later.resolver later.balancer ∧ rest.seen?.isSome = true := by
  -- Of all that a poll comes to, only having to wait leaves a pick pending.
  have outcome := Pick.polled_poll invariant.worker.coupled waits
  unfold Worker.pollPick at polled
  generalize pick.poll desk.worker.resolver desk.worker.balancer = asked at outcome polled
  cases outcome with
  | ceased | chosen => cases polled
  | waits serving nobody =>
    cases polled
    exact ⟨Pick.waits_of_looked serving nobody, rfl⟩

/-- Whatever comes of polling a stream of picks, the invariant is kept. -/
theorem Invariant.streamed (invariant : desk.Invariant) {index : Nat} {stream rest : PickStream}
    (found : desk.ledger.stream? index = some stream) {answer : Poll Choice} {woken : Bool}
    (polled : desk.worker.pollPicks stream = ((answer, woken), rest, later)) :
    Invariant ⟨later,
      desk.ledger.setStream index (if answer.isFinished then none else some rest)⟩ := by
  -- The poll moves the worker, and the stream is put back in its place in some state.
  have moved := invariant.moved (.pollPicks stream desk.worker) rfl
  have outcome := invariant.polled found
  unfold Worker.pollPicks at polled moved
  generalize stream.poll desk.worker.resolver desk.worker.balancer = asked at *
  -- Only a stream that had to wait has looked at anything, and only a failure leaves it done.
  cases outcome with
  | past ceased =>
    cases polled
    exact moved.relisted (moved.waits.setStream found nofun nofun) rfl
  | closed closed =>
    cases polled
    exact moved.relisted (moved.waits.setStream found nofun nofun) rfl
  | failed underWay failed =>
    cases polled
    exact moved.relisted (moved.waits.setStream found nofun fun _ => ⟨_, failed⟩) rfl
  | chosen underWay serving turn =>
    cases polled
    refine moved.relisted (moved.waits.setStream found ?_ nofun) rfl
    rintro pick ⟨⟩
    exact Pick.waits_fresh
  | waits underWay serving nobody =>
    cases polled
    refine moved.relisted (moved.waits.setStream found ?_ nofun) rfl
    rintro pick ⟨⟩
    exact Pick.waits_of_looked serving nobody

/-- Whatever is asked, only such steps are made by the resolver as it can make at once. -/
theorem Served.reaches {request : DeskRequest} {answer : DeskAnswer} {after : Desk}
    (served : desk.Served request answer after) : desk.worker.Reaches after.worker := by
  -- Whatever is done comes down to polls, releases, fillings and closings.
  have polls {pick rest : Pick} {outcome : Poll Choice × Bool} {left : Worker}
      (polled : desk.worker.pollPick pick = (outcome, rest, left)) : desk.worker.Reaches left := by
    have reaches := Worker.Reaches.pollPick pick desk.worker
    rw [polled] at reaches
    exact reaches
  cases served with
  | refused | denied | resolved | streamDropped | inspected => exact .refl _
  | sent kind target => exact .send kind target _
  | hungUp => exact .hangUp _
  | picked held polled => exact polls polled
  | handedOut held polled => exact (polls polled).trans (.single (.owned _ _))
  | answered found polled => exact (polls polled).trans (.release _)
  | waited found polled => exact polls polled
  | pickDropped | dropped => exact .release _
  | @streamed index stream found answer woken rest left polled =>
    have reaches := Worker.Reaches.pollPicks stream desk.worker
    rw [polled] at reaches
    exact reaches
  | closed => exact .single (.closed _)

/-- Whatever is asked, the invariant of a resolver and of what is held of it is kept. -/
theorem Served.invariant {request : DeskRequest} {answer : DeskAnswer} {after : Desk}
    (served : desk.Served request answer after) (invariant : desk.Invariant) : after.Invariant := by
  -- Polling a pick concerns the pool only, and whoever waited goes on waiting.
  have polls {pick rest : Pick} {outcome : Poll Choice × Bool} {left : Worker}
      (polled : desk.worker.pollPick pick = (outcome, rest, left)) :
      Invariant ⟨left, desk.ledger⟩ := by
    have moved := invariant.moved (.pollPick pick desk.worker) rfl
    rw [polled] at moved
    exact moved
  cases served with
  | refused | denied | inspected => exact invariant
  | sent kind target =>
    exact invariant.moved (.send kind target _) (desk.worker.send_keeps kind target).2
  | hungUp => exact invariant.moved (.hangUp _) desk.worker.hangUp_keeps.2
  | picked held polled => exact polls polled
  | handedOut held polled =>
    obtain ⟨waits, looked⟩ := invariant.waits_of_pending Pick.waits_fresh polled
    exact (polls polled).handedOut waits looked
  | answered found polled =>
    -- Whoever was answered ceases to keep the resolver from being closed.
    have moved := polls polled
    exact moved.released (moved.waits.setPick found nofun) (Ledger.owners_setPick found none)
  | @waited index pick found woken rest left polled =>
    have moved := polls polled
    refine moved.relisted (moved.waits.setPick found ?_)
      (Nat.succ.inj (Ledger.owners_setPick found (some rest)))
    rintro again ⟨⟩
    exact invariant.waits_of_pending (invariant.waits.picks found).1 polled
  | pickDropped found =>
    exact invariant.released (invariant.waits.setPick found nofun)
      (Ledger.owners_setPick found none)
  | resolved => exact invariant.relisted invariant.waits.addStream rfl
  | streamed found polled => exact invariant.streamed found polled
  | streamDropped found =>
    exact invariant.relisted (invariant.waits.setStream found nofun nofun) rfl
  | closed => exact invariant.moved (.single (.closed _)) rfl
  | dropped held =>
    have waits : ({ desk.ledger with held := false } : Ledger).Waits desk.worker :=
      ⟨invariant.waits.picks, invariant.waits.streams, invariant.waits.done⟩
    apply invariant.released waits
    unfold Ledger.owners
    dsimp only
    rw [if_pos held]
    simp only [Bool.false_eq_true, if_false]
    omega

end Desk

end PeerCluster
