import PeerCluster.Proofs.Fabric.Following
import PeerCluster.Proofs.Venue.Stations

/-! What single operations on a fabric do to what consumers have, be it theirs or not. -/

namespace PeerCluster

/-- What a consumer has hold of. -/
inductive Hold where
  | source (place : Place)
  | service (service : Nat)
deriving DecidableEq

/-- A stream is held at its source, and a resolver by its service. -/
def Consumer.hold : Consumer → Hold
  | stream registry subscription _ _ => .source (.stream registry subscription)
  | resolver id _ => .service id

/-- What becomes of a worker becomes of it together with what is held of its resolver. -/
def Station.work (change : Worker → Worker) : Station → Station
  | desk worker ledger => desk (change worker) ledger
  | station => station

/-- Nothing becomes of a consumer when nothing becomes of its worker. -/
theorem Station.work_id (station : Station) : station.work id = station := by
  cases station <;> rfl

namespace Fabric

variable {fabric result last : Fabric}

/-- What can be read of every registry. -/
def books (fabric : Fabric) : List Registry.Book :=
  fabric.registries.map Registry.book

/-- There are as many books as registries. -/
@[simp] theorem length_books (fabric : Fabric) :
    fabric.books.length = fabric.registries.length :=
  List.length_map ..

/-- The book of a registry that there is. -/
theorem getElem?_books {registry : Nat} (inside : registry < fabric.registries.length) :
    fabric.books[registry]? = some (fabric.registry registry).book := by
  -- Both sides look at the same position of the same list.
  unfold books Fabric.registry
  rw [List.getElem?_map, List.getD_eq_getElem?_getD, List.getElem?_eq_getElem inside]
  rfl

/-- A frame leaves the books alone. -/
theorem Frame.books {touched : Place → Prop} (frame : Frame touched fabric result) :
    result.books = fabric.books := by
  -- Position by position, a book that is there is the same in both.
  refine List.ext_getElem? fun position => ?_
  by_cases inside : position < fabric.registries.length
  · rw [getElem?_books inside, getElem?_books (frame.registries ▸ inside), frame.book]
  · -- Past the end there is none in either.
    have before : fabric.books[position]? = none :=
      List.getElem?_eq_none (by simpa using inside)
    have after : result.books[position]? = none := by
      refine List.getElem?_eq_none ?_
      simpa [frame.registries] using inside
    rw [before, after]

/-- Whether no task takes from a place. -/
def Unowned (fabric : Fabric) (place : Place) : Prop :=
  ∀ id, fabric.place? id ≠ some place

/-- A consumer has in a fabric what its station shows. -/
inductive Shows (fabric : Fabric) : Consumer → Station → Prop where
  | stream {registry subscription : Nat} {projection? : Option Projection} {held : Bool}
      (known : subscription < (fabric.registry registry).nextId)
      (unowned : fabric.Unowned (.stream registry subscription)) :
      Shows fabric (.stream registry subscription projection? held)
        (.stream registry projection? held ((fabric.registry registry).subscription subscription)
          (fabric.registry registry).lives)
  | desk {id : Nat} {ledger : Ledger} {worker : Worker}
      (met : fabric.worker? id = some worker) :
      Shows fabric (.resolver id ledger) (.desk worker ledger)

/-- What a consumer has is one thing. -/
theorem Shows.unique {consumer : Consumer} {station other : Station}
    (shown : fabric.Shows consumer station) (again : fabric.Shows consumer other) :
    station = other := by
  -- A stream is what the registry has under its number, and a resolver what the service is.
  cases shown with
  | stream known unowned =>
    cases again with
    | stream _ _ => rfl
  | desk met =>
    cases again with
    | desk again => rw [Option.some.inj (met.symm.trans again)]

/-- Every consumer but those with a hold of one thing sees its station change, in good order. -/
structure Shifts (exempt? : Option Hold) (change : Station → Station)
    (fabric result : Fabric) : Prop where
  scheduled : result.Scheduled
  station : ∀ {consumer station}, some consumer.hold ≠ exempt? → fabric.Shows consumer station →
    result.Shows consumer (change station)

/-- What exempts nobody exempts at most one. -/
theorem Shifts.exempting {change : Station → Station} (shifts : Shifts none change fabric result)
    (exempt? : Option Hold) : Shifts exempt? change fabric result :=
  ⟨shifts.scheduled, fun _ shown => shifts.station (Option.some_ne_none _) shown⟩

/-- Two steps after each other exempt what either of them exempts. -/
theorem Shifts.trans {first? second? exempt? : Option Hold} {change later : Station → Station}
    (first : Shifts first? change fabric result) (second : Shifts second? later result last)
    (spared : ∀ {consumer station}, some consumer.hold ≠ exempt? →
      fabric.Shows consumer station → some consumer.hold ≠ first? ∧ some consumer.hold ≠ second?) :
    Shifts exempt? (later ∘ change) fabric last := by
  -- A consumer that neither step exempts sees both of them.
  refine ⟨second.scheduled, fun {consumer station} exempt shown => ?_⟩
  obtain ⟨one, other⟩ := spared exempt shown
  have same : ∀ {station}, result.Shows consumer station → last.Shows consumer (later station) :=
    fun shown => second.station other shown
  exact same (first.station one shown)

/-! ### What leaves the books alone -/

/-- A frame around what is exempt, or around what tasks take from, leaves all other stations. -/
theorem shifts_of_frame {exempt? : Option Hold} {touched : Place → Prop}
    (scheduled : result.Scheduled) (frame : Frame touched fabric result)
    (places : ∀ place, touched place →
      (∃ id, fabric.place? id = some place) ∨ exempt? = some (.source place))
    (change : Worker → Worker)
    (workers : ∀ id, exempt? ≠ some (.service id) →
      result.worker? id = (fabric.worker? id).map change) :
    Shifts exempt? (Station.work change) fabric result := by
  -- A consumer has a stream that no task takes from, or a worker; neither is touched.
  refine ⟨scheduled, ?_⟩
  intro consumer station spared shown
  cases shown with
  | @stream registry subscription projection? held known unowned =>
    have untouched : ¬ touched (.stream registry subscription) := by
      intro touches
      rcases places _ touches with ⟨id, found⟩ | exempt
      · exact unowned id found
      · exact spared exempt.symm
    have shown : result.Shows (.stream registry subscription projection? held) _ :=
      .stream (frame.nextId registry ▸ known) fun id => frame.place? id ▸ unowned id
    rw [frame.stream registry subscription untouched,
      Registry.lives_of_book _ (frame.book registry)] at shown
    exact shown
  | @desk id ledger worker met =>
    refine .desk ?_
    rw [workers id fun exempt => spared exempt.symm, met]
    rfl

/-- A frame in which no worker changes but an exempt one leaves all other stations. -/
theorem rest_shifts_of_frame {exempt? : Option Hold} {touched : Place → Prop}
    (scheduled : result.Scheduled) (frame : Frame touched fabric result)
    (places : ∀ place, touched place →
      (∃ service, fabric.place? service = some place) ∨ exempt? = some (.source place))
    (workers : ∀ service, exempt? ≠ some (.service service) →
      result.worker? service = fabric.worker? service) :
    Shifts exempt? id fabric result := by
  -- A worker that does not change is one that the identity changes.
  have shifts := shifts_of_frame scheduled frame places id fun service spared => by
    rw [workers service spared, Option.map_id]
    rfl
  rw [funext Station.work_id] at shifts
  exact shifts

/-- What is done to one worker changes the station of nobody else. -/
theorem Becomes.shifts {service : Nat} {worker : Worker}
    (becomes : fabric.Becomes service worker result) :
    Shifts (some (.service service)) id fabric result := by
  -- Of all services only this one differs, and of all places only the one that it takes from.
  refine rest_shifts_of_frame becomes.scheduled becomes.toFrame
    (fun place found => .inl ⟨service, found⟩) fun other spared => ?_
  rw [becomes.worker?, if_neg]
  rintro rfl
  exact spared rfl

/-- A run gives every worker its turns, and concerns nobody else. -/
theorem run_shifts (scheduled : fabric.Scheduled) :
    Shifts none Station.rest fabric fabric.run.value := by
  -- Tasks touch only what they take from, and a held stream is none of these.
  obtain ⟨still, frame, workers⟩ := run_worked scheduled
  have rests : Station.rest = Station.work Worker.rest := by
    funext station
    cases station <;> rfl
  rw [rests]
  exact shifts_of_frame still frame (fun place found => .inl found) Worker.rest
    fun service _ => workers service

/-- When sources that no task takes from were put back, nobody is woken, and all is in order. -/
theorem scheduled_of_frame (scheduled : fabric.Scheduled) {touched : Place → Prop}
    (unowned : ∀ place, touched place → fabric.Unowned place) (frame : Frame touched fabric result)
    (services : result.services = fabric.services) (balancers : result.balancers = fabric.balancers)
    (due : result.due = fabric.due) :
    result.wake = result ∧ result.Scheduled ∧
      ∀ service, result.worker? service = fabric.worker? service := by
  -- A service takes from another place, so its worker is what it was.
  have workers : ∀ service, result.worker? service = fabric.worker? service := by
    intro id
    unfold worker?
    rw [services]
    cases found : fabric.services[id]? with
    | none => rfl
    | some service =>
      -- The source of a service is another one.
      have apart : ¬ touched service.source.place := by
        intro touches
        refine unowned _ touches id ?_
        unfold place?
        rw [found]
        rfl
      refine congrArg some ?_
      unfold workerOf Fabric.balancer
      rw [balancers, frame.inbox apart]
  have idle : result.Idle := by
    refine idle_iff.mpr fun service worker met => ?_
    rw [workers] at met
    exact idle_iff.mp scheduled.idle service worker met
  refine ⟨wake_of_idle idle, ⟨frame.apart scheduled.toApart, idle, ?_⟩, workers⟩
  rw [due]
  refine lists_of_worker? scheduled.lists.nodup fun service => ?_
  rw [scheduled.lists.mem_iff_worker?, workers]

/-- A stream that no task takes from is put back without anybody else noticing. -/
theorem setStream_shifts (scheduled : fabric.Scheduled) {registryId subscription : Nat}
    {left : Registry} (known : subscription < (fabric.registry registryId).nextId)
    (unowned : fabric.Unowned (.stream registryId subscription))
    (differs : (fabric.registry registryId).DiffersAt subscription left)
    (attached : (fabric.registry registryId).Attached → left.Attached) :
    Shifts (some (.source (.stream registryId subscription))) id fabric
        (fabric.setRegistry registryId left) ∧
      (fabric.setRegistry registryId left).books = fabric.books ∧
      ∀ projection? held,
        (fabric.setRegistry registryId left).Shows
          (.stream registryId subscription projection? held)
          (.stream registryId projection? held (left.subscription subscription)
            (fabric.registry registryId).lives) := by
  -- Nobody is woken, so what is put back is all that differs.
  have inside := registry_lt_of_known known
  have frame := frame_setStream inside differs attached
  have free : ∀ place, place = .stream registryId subscription → fabric.Unowned place :=
    fun _ same => same ▸ unowned
  obtain ⟨nobody, still, workers⟩ := scheduled_of_frame scheduled free frame rfl rfl rfl
  have put : fabric.setRegistry registryId left = _ := nobody
  rw [put]
  refine ⟨rest_shifts_of_frame still frame (fun place same => .inr (same ▸ rfl)) fun service _ =>
    workers service, frame.books, fun projection? held => ?_⟩
  have own := registry_set inside left registryId
  rw [if_pos rfl] at own
  have shown : ({ fabric with registries := fabric.registries.set registryId left } :
      Fabric).Shows (.stream registryId subscription projection? held) _ :=
    .stream (by rw [own, differs.nextId]; exact known) fun service =>
      frame.place? service ▸ unowned service
  rw [own, differs.lives] at shown
  exact shown

/-- Nobody notices when nothing happens. -/
theorem Shifts.refl (scheduled : fabric.Scheduled) (exempt? : Option Hold) :
    Shifts exempt? id fabric fabric :=
  ⟨scheduled, fun _ shown => shown⟩

/-- A request about a stream is answered from the stream alone, and nobody else notices. -/
theorem serveStream_shifts (scheduled : fabric.Scheduled) {registryId subscription : Nat}
    (known : subscription < (fabric.registry registryId).nextId)
    (unowned : fabric.Unowned (.stream registryId subscription))
    (projection? : Option Projection) (held : Bool) (request : StreamRequest) :
    let registry := fabric.registry registryId
    let outcome := fabric.serveStream registryId subscription projection? held request
    let expected := Station.serveStream (registry.subscription subscription) registry.lives
      projection? held request
    outcome.1 = expected.1 ∧
      Shifts (some (.source (.stream registryId subscription))) id fabric outcome.2.2 ∧
      outcome.2.2.books = fabric.books ∧
      outcome.2.2.Shows (.stream registryId subscription projection? outcome.2.1)
        (.stream registryId projection? expected.2.1 expected.2.2 registry.lives) := by
  -- A request reads the stream, polls it or ends it; only the last two put something back.
  have unchanged (held : Bool) :
      Shifts (some (.source (.stream registryId subscription))) id fabric fabric ∧
        fabric.books = fabric.books ∧
        fabric.Shows (.stream registryId subscription projection? held) (.stream registryId
          projection? held ((fabric.registry registryId).subscription subscription)
          (fabric.registry registryId).lives) :=
    ⟨.refl scheduled _, rfl, .stream known unowned⟩
  have ends (held : Bool) :
      let ended := fabric.setRegistry registryId
        ((fabric.registry registryId).cancel subscription).value
      Shifts (some (.source (.stream registryId subscription))) id fabric ended ∧
        ended.books = fabric.books ∧
        ended.Shows (.stream registryId subscription projection? held) (.stream registryId
          projection? held ((fabric.registry registryId).subscription subscription).ended
          (fabric.registry registryId).lives) := by
    obtain ⟨shifts, books, shown⟩ := setStream_shifts scheduled known unowned
      (.cancel (fabric.registry registryId) subscription) (·.cancel subscription)
    rw [Registry.cancel_subscription known] at shown
    exact ⟨shifts, books, shown projection? held⟩
  cases held with
  | false =>
    cases request with
    | next | cancel | inspect | drop | count => exact ⟨rfl, unchanged false⟩
  | true =>
    cases request with
    | next =>
      obtain ⟨answer, stored⟩ := Registry.poll_subscription known
      obtain ⟨shifts, books, shown⟩ := setStream_shifts scheduled known unowned
        (.poll (fabric.registry registryId) subscription) (·.poll subscription)
      rw [stored] at shown
      exact ⟨congrArg (StreamAnswer.ofItem projection?) answer, shifts, books,
        shown projection? true⟩
    | cancel => exact ⟨rfl, ends true⟩
    | drop => exact ⟨rfl, ends false⟩
    | inspect | count => exact ⟨rfl, unchanged true⟩

end Fabric

end PeerCluster
