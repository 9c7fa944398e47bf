import PeerCluster.Proofs.Venue.Joining

/-! What a consumer sees of a venue is what it would see if there were no other consumers. -/

namespace PeerCluster

/-- Whether a call is an operation of one consumer, or of none at all. -/
def VenueCall.concerns (observer : Nat) (call : VenueCall) : Bool :=
  match call.asker? with
  | none => true
  | some key => key = observer

namespace Venue

open Machine Fabric

variable {venue : Venue} {vantage : Vantage}

/-- Every consumer has what it has to itself, in a fabric that is in good order. -/
structure Sound (venue : Venue) : Prop where
  scheduled : venue.fabric.Scheduled
  shown : ∀ {key consumer}, venue.consumers key = some consumer →
    ∃ station, venue.fabric.Shows consumer station
  apart : ∀ {key other consumer rival}, venue.consumers key = some consumer →
    venue.consumers other = some rival → other ≠ key → rival.hold ≠ consumer.hold

/-- A venue looks from the place of one consumer as a vantage point says. -/
structure SeenFrom (venue : Venue) (vantage : Vantage) : Prop where
  books : vantage.books = venue.fabric.books
  station : Option.Rel venue.fabric.Shows (venue.consumers vantage.observer) vantage.station?

/-- What a call comes to is sound, and it is what one observer expects if it concerns them. -/
structure Fits (vantage : Vantage) (concerns : Prop) (outcome : VenueAnswer × Venue)
    (expected : VenueAnswer × Vantage) : Prop where
  sound : outcome.2.Sound
  concerned : concerns → outcome.1 = expected.1 ∧ outcome.2.SeenFrom expected.2
  spared : ¬ concerns → outcome.2.SeenFrom vantage

/-- A call that is refused changes nothing. -/
theorem Fits.refused (sound : venue.Sound) (seen : venue.SeenFrom vantage) (concerns : Prop)
    (answer : VenueAnswer) : Fits vantage concerns (answer, venue) (answer, vantage) :=
  ⟨sound, fun _ => ⟨rfl, seen⟩, fun _ => seen⟩

/-- What is expected matters only to who is concerned. -/
theorem Fits.congr {concerns : Prop} {outcome : VenueAnswer × Venue}
    {expected other : VenueAnswer × Vantage} (fits : Fits vantage concerns outcome expected)
    (same : concerns → other = expected) : Fits vantage concerns outcome other := by
  -- The expected outcome is looked at in one place only.
  refine ⟨fits.sound, fun concerned => ?_, fits.spared⟩
  rw [same concerned]
  exact fits.concerned concerned

/-- Who is a consumer sees what it has. -/
theorem SeenFrom.station_eq (seen : venue.SeenFrom vantage) {consumer : Consumer}
    {station : Station} (found : venue.consumers vantage.observer = some consumer)
    (shown : venue.fabric.Shows consumer station) : vantage.station? = some station := by
  -- What the observer is shown is determined by what it has.
  have seen := seen.station
  generalize vantage.station? = station? at seen ⊢
  rw [found] at seen
  cases seen with
  | some again => rw [again.unique shown]

/-- Who is no consumer yet sees nothing. -/
theorem SeenFrom.station_eq_none (seen : venue.SeenFrom vantage)
    (absent : venue.consumers vantage.observer = none) : vantage.station? = none := by
  -- A station is shown only of a consumer.
  have seen := seen.station
  generalize vantage.station? = station? at seen ⊢
  rw [absent] at seen
  cases seen
  rfl

/-! ### Changes of the fabric -/

section Changes

variable {result : Fabric}

/-- What all consumers see happen is what the observer sees happen. -/
theorem Fits.shift (sound : venue.Sound) (seen : venue.SeenFrom vantage)
    {change : Station → Station} (shifts : Shifts none change venue.fabric result)
    {books : List Registry.Book} (same : result.books = books) (answer : VenueAnswer) :
    Fits vantage True (answer, { venue with fabric := result })
      (answer, { vantage with books, station? := vantage.station?.map change }) := by
  -- What is shown before of a consumer is shown afterwards, changed in the same way.
  have shown {consumer : Consumer} {station : Station}
      (before : venue.fabric.Shows consumer station) : result.Shows consumer (change station) :=
    shifts.station (Option.some_ne_none _) before
  refine ⟨⟨shifts.scheduled, fun found => ?_, sound.apart⟩, fun _ => ⟨rfl, same.symm, ?_⟩,
    fun absurd => absurd.elim trivial⟩
  · obtain ⟨station, before⟩ := sound.shown found
    exact ⟨_, shown before⟩
  · have station := seen.station
    generalize vantage.station? = station? at station ⊢
    show Option.Rel _ (venue.consumers vantage.observer) _
    generalize venue.consumers vantage.observer = consumer? at station
    cases station with
    | none => exact .none
    | some before => exact .some (shown before)

/-- What no consumer sees happen changes nothing for the observer. -/
theorem Fits.unnoticed (sound : venue.Sound) (seen : venue.SeenFrom vantage)
    (shifts : Shifts none id venue.fabric result) (books : result.books = venue.fabric.books)
    (concerns : Prop) (answer : VenueAnswer) :
    Fits vantage concerns (answer, { venue with fabric := result }) (answer, vantage) := by
  -- What is seen of nothing happening is that everything stays.
  have fits := Fits.shift sound seen shifts (books.trans seen.books.symm) answer
  rw [Option.map_id] at fits
  have same := (fits.concerned trivial).2
  exact ⟨fits.sound, fun _ => ⟨rfl, same⟩, fun _ => same⟩

/-- What is put under a key is seen by who goes by it, and by nobody else. -/
theorem Fits.put (sound : venue.Sound) (seen : venue.SeenFrom vantage) {key : Nat}
    {hold : Hold} (shifts : Shifts (some hold) id venue.fabric result)
    (books : result.books = venue.fabric.books)
    (own : ∀ other rival, other ≠ key → venue.consumers other = some rival → rival.hold ≠ hold)
    {consumer : Consumer} {station : Station} (shown : result.Shows consumer station)
    (holds : consumer.hold = hold) (answer : VenueAnswer) :
    Fits vantage (key = vantage.observer) (answer, venue.put key consumer result)
      (answer, { vantage with station? := some station }) := by
  -- Under the key everything is new, and under other keys nobody holds the same thing.
  subst holds
  have others {other : Nat} {rival : Consumer} {before : Station} (different : other ≠ key)
      (met : venue.consumers other = some rival) (showed : venue.fabric.Shows rival before) :
      result.Shows rival before :=
    shifts.station (fun same => own other rival different met (Option.some.inj same)) showed
  refine ⟨⟨shifts.scheduled, ?_, ?_⟩, ?_, ?_⟩
  · intro other rival met
    dsimp only [Venue.put] at met ⊢
    split at met
    · obtain rfl := Option.some.inj met
      exact ⟨station, shown⟩
    · rename_i different
      obtain ⟨before, showed⟩ := sound.shown met
      exact ⟨before, others different met showed⟩
  · intro first second one another found met different
    dsimp only [Venue.put] at found met
    split at found
    · rename_i same
      obtain rfl := Option.some.inj found
      rw [if_neg (same ▸ different)] at met
      exact own second another (same ▸ different) met
    · rename_i other
      split at met
      · obtain rfl := Option.some.inj met
        exact Ne.symm (own first one other found)
      · exact sound.apart found met different
  · rintro rfl
    refine ⟨rfl, seen.books.trans books.symm, ?_⟩
    dsimp only [Venue.put]
    rw [if_pos rfl]
    exact .some shown
  · intro different
    refine ⟨seen.books.trans books.symm, ?_⟩
    dsimp only [Venue.put]
    rw [if_neg (Ne.symm different)]
    have before := seen.station
    generalize vantage.station? = station? at before ⊢
    cases met : venue.consumers vantage.observer with
    | none =>
      rw [met] at before
      cases before
      exact .none
    | some rival =>
      rw [met] at before
      cases before with
      | some showed => exact .some (others (Ne.symm different) met showed)

end Changes

/-! ### Calls of no consumer -/

/-- Who sees a registry sees its book while somebody has a handle. -/
theorem SeenFrom.book? (seen : venue.SeenFrom vantage) (registry : Nat) :
    vantage.book? registry =
      if venue.fabric.reachable registry then some (venue.fabric.registry registry).book
      else none := by
  -- The books of the vantage point are those of the fabric, at every position.
  unfold Vantage.book? reachable
  rw [seen.books]
  by_cases inside : registry < venue.fabric.registries.length
  · rw [getElem?_books inside, Option.filter_some]
    simp only [inside, decide_true, Bool.true_and]
    rfl
  · have absent : venue.fabric.books[registry]? = none :=
      List.getElem?_eq_none (by simpa using inside)
    rw [absent]
    simp [inside]

/-- A new registry is seen by everybody. -/
theorem openRegistry_fits (sound : venue.Sound) (seen : venue.SeenFrom vantage) :
    Fits vantage True (venue.perform .openRegistry) (vantage.perform .openRegistry) := by
  -- A registry more is noticed by nobody who is there already.
  have shifts := (extends_addRegistry venue.fabric).shifts sound.scheduled
  have books : venue.fabric.addRegistry.2.books = vantage.books ++ [.opened] := by
    rw [seen.books]
    exact List.map_append
  have number : vantage.books.length = venue.fabric.addRegistry.1 := by
    rw [seen.books]
    exact length_books _
  dsimp only [perform, Vantage.perform]
  rw [number]
  have fits := Fits.shift sound seen shifts books (.opened venue.fabric.addRegistry.1)
  rw [Option.map_id] at fits
  exact fits

/-- What is asked through a handle is answered alike to everybody, and everybody hears of it. -/
theorem handle_fits (sound : venue.Sound) (seen : venue.SeenFrom vantage) (registryId : Nat)
    (call : HandleCall) :
    Fits vantage True (venue.perform (.handle registryId call))
      (vantage.perform (.handle registryId call)) := by
  -- The answer and the new book depend on the book alone, and all who listen hear of it.
  dsimp only [perform, Vantage.perform]
  rw [seen.book?]
  by_cases reachable : venue.fabric.reachable registryId
  · rw [if_pos reachable, if_pos reachable]
    obtain ⟨inside, lives⟩ := Bool.and_eq_true_iff.mp reachable
    have inside : registryId < venue.fabric.registries.length := by simpa using inside
    obtain ⟨answer, book, nextId, attached, heard⟩ :=
      Registry.perform_handle (sound.scheduled.attached registryId) lives call
    have shifts := setRegistry_shifts sound.scheduled inside attached (Nat.le_of_eq nextId.symm)
      _ heard
    have lives := congrArg Registry.Book.lives book
    change Registry.lives _ = _ at lives
    rw [lives] at shifts
    have books : (venue.fabric.setRegistry registryId _).books = vantage.books.set registryId _ :=
      (books_setRegistry _ _ _).trans (by rw [seen.books, book])
    rw [answer]
    exact .shift sound seen shifts books _
  · rw [if_neg reachable, if_neg reachable]
    exact .refused sound seen True _

/-- A registry is read alike by everybody. -/
theorem look_fits (sound : venue.Sound) (seen : venue.SeenFrom vantage) (registryId : Nat) :
    Fits vantage True (venue.perform (.look registryId)) (vantage.perform (.look registryId)) := by
  -- Reading changes nothing, so it is enough that the same is read.
  dsimp only [perform, Vantage.perform]
  rw [seen.book?]
  by_cases reachable : venue.fabric.reachable registryId
  · rw [if_pos reachable, if_pos reachable]
    exact .refused sound seen True _
  · rw [if_neg reachable, if_neg reachable]
    exact .refused sound seen True _

/-- A run gives everybody the turns that they would be given alone. -/
theorem run_fits (sound : venue.Sound) (seen : venue.SeenFrom vantage) :
    Fits vantage True (venue.perform .run) (vantage.perform .run) := by
  -- A run gives every service its turns, and consumers see no more of it than that.
  obtain ⟨_, frame, _⟩ := run_worked sound.scheduled
  exact .shift sound seen (run_shifts sound.scheduled) (frame.books.trans seen.books.symm) .done

/-! ### Operations of consumers -/

/-- What is asked of what goes by a key is answered from that, and nobody else notices. -/
theorem ask_fits (sound : venue.Sound) (seen : venue.SeenFrom vantage) (key : Nat)
    (request : Request) :
    Fits vantage (key = vantage.observer) (venue.perform (.ask key request))
      (vantage.perform (.ask key request)) := by
  -- Nobody is there, or it is a stream or a resolver, and the request fits what is there or not.
  dsimp only [perform, ask]
  cases found : venue.consumers key with
  | none =>
    refine (Fits.refused sound seen _ .unreachable).congr ?_
    rintro rfl
    dsimp only [Vantage.perform]
    rw [seen.station_eq_none found]
  | some consumer =>
    obtain ⟨station, shown⟩ := sound.shown found
    have own : ∀ other rival, other ≠ key → venue.consumers other = some rival →
        rival.hold ≠ consumer.hold := fun other rival different met =>
      sound.apart found met different
    -- Where the request is none that can be made here, it is refused.
    have refused (mismatched : station.ask request = (.unreachable, station)) :
        Fits vantage (key = vantage.observer) (.unreachable, venue)
          (vantage.perform (.ask key request)) := by
      refine (Fits.refused sound seen _ .unreachable).congr ?_
      rintro rfl
      have same := seen.station_eq found shown
      dsimp only [Vantage.perform]
      rw [same]
      dsimp only
      rw [mismatched, ← same]
    have before := shown
    cases shown with
    | @stream registry subscription projection? held known unowned =>
      cases request with
      | desk request => exact refused rfl
      | stream request =>
        obtain ⟨answer, shifts, books, shown⟩ :=
          serveStream_shifts sound.scheduled known unowned projection? held request
        refine (Fits.put sound seen shifts books own shown rfl (.stream _)).congr ?_
        rintro rfl
        dsimp only [Vantage.perform]
        rw [seen.station_eq found before, answer]
        rfl
    | @desk service ledger worker met =>
      cases request with
      | stream request => exact refused rfl
      | desk request =>
        obtain ⟨answer, rest, becomes⟩ := Ledger.serve_follows
          (handling_follows venue.fabric service) (.refl sound.scheduled met) ledger request
        refine (Fits.put sound seen becomes.shifts becomes.books own
          (.desk becomes.worker?_self) rfl (.desk _)).congr ?_
        rintro rfl
        dsimp only [Vantage.perform]
        rw [seen.station_eq found before, answer, rest]
        rfl

/-- A resolver that was created is seen by its holder, and by nobody else. -/
theorem putService_fits (sound : venue.Sound) (seen : venue.SeenFrom vantage) (key : Nat)
    {created : Except ClusterError Nat × Fabric} {role : String} {inbox : Inbox} {runtime : Bool}
    (shifts : Shifts none id venue.fabric created.2)
    (books : created.2.books = venue.fabric.books)
    (made : Created role inbox runtime venue.fabric.services.length created) :
    Fits vantage (key = vantage.observer) (venue.putService key created)
      (if runtime then
        (.done, { vantage with station? := some (.desk (.started role inbox) .opened) })
      else (.failed (.runtimeUnavailable role), vantage)) := by
  -- Without a runtime there is an error for an answer, and otherwise a service behind all others.
  obtain ⟨service?, result⟩ := created
  cases runtime with
  | false =>
    obtain rfl : service? = .error (.runtimeUnavailable role) := made
    exact .unnoticed sound seen shifts books _ _
  | true =>
    obtain ⟨rfl, met⟩ : service? = .ok venue.fabric.services.length ∧
      result.worker? venue.fabric.services.length = some (.started role inbox) := made
    refine .put sound seen (shifts.exempting _) books ?_ (.desk met) rfl .done
    -- Whatever service a consumer has was there earlier.
    intro other rival _ found same
    obtain ⟨station, shown⟩ := sound.shown found
    cases shown with
    | stream => cases same
    | desk met =>
      cases same
      obtain ⟨_, present, _⟩ := exists_of_worker? met
      exact Nat.lt_irrefl _ (List.getElem?_eq_some_iff.mp present).1

/-- A new consumer starts at a registry or a feed, and nobody else notices. -/
theorem create_fits (sound : venue.Sound) (seen : venue.SeenFrom vantage) (key : Nat)
    (origin : Origin) :
    Fits vantage (key = vantage.observer) (venue.perform (.create key origin))
      (vantage.perform (.create key origin)) := by
  -- A key that is taken, or a registry that nobody can reach, leads to a refusal on both sides.
  have refused {expected : VenueAnswer × Vantage}
      (same : key = vantage.observer → expected = (.unreachable, vantage)) :
      Fits vantage (key = vantage.observer) (.unreachable, venue) expected :=
    (Fits.refused sound seen _ .unreachable).congr same
  dsimp only [perform]
  cases found : venue.consumers key with
  | some consumer =>
    rw [Option.isSome_some, if_pos rfl]
    refine refused ?_
    rintro rfl
    obtain ⟨station, shown⟩ := sound.shown found
    dsimp only [Vantage.perform]
    rw [seen.station_eq found shown, Option.isSome_some, if_pos rfl]
  | none =>
    rw [Option.isSome_none, if_neg Bool.false_ne_true]
    -- Who is concerned is no consumer yet.
    have expected : key = vantage.observer →
        vantage.perform (.create key origin) = vantage.create origin := by
      rintro rfl
      dsimp only [Vantage.perform]
      rw [seen.station_eq_none found, Option.isSome_none, if_neg Bool.false_ne_true]
    refine Fits.congr ?_ expected
    cases origin with
    | consuming role queue runtime =>
      obtain ⟨shifts, books, made⟩ := consume_shifts sound.scheduled role queue runtime
      have fits := putService_fits sound seen key shifts books made
      cases runtime with
      | false | true => exact fits
    | stream registry projection? =>
      dsimp only [create, Vantage.create]
      rw [seen.book?]
      by_cases reachable : venue.fabric.reachable registry
      · rw [if_pos reachable, if_pos reachable]
        obtain ⟨inside, lives⟩ := Bool.and_eq_true_iff.mp reachable
        have inside : registry < venue.fabric.registries.length := by simpa using inside
        have shown := shows_subscribe sound.scheduled inside projection?
        rw [lives] at shown
        have opens := subscribe_shifts sound.scheduled inside
        refine Fits.congr (.put sound seen (opens.exempting _) (books_subscribe _ _) ?_ shown rfl
          (.streaming _)) fun _ =>
            congrArg (fun replaying => (VenueAnswer.streaming replaying, _))
              (replaying_subscribe _).symm
        -- Whatever stream a consumer has was opened earlier.
        intro other rival _ met same
        obtain ⟨station, before⟩ := sound.shown met
        cases before with
        | stream known _ =>
          cases same
          exact Nat.lt_irrefl _ known
        | desk => cases same
      · rw [if_neg reachable, if_neg reachable]
        exact refused fun _ => rfl
    | following registry projection runtime =>
      dsimp only [create, Vantage.create]
      rw [seen.book?]
      by_cases reachable : venue.fabric.reachable registry
      · rw [if_pos reachable, if_pos reachable]
        obtain ⟨inside, lives⟩ := Bool.and_eq_true_iff.mp reachable
        have inside : registry < venue.fabric.registries.length := by simpa using inside
        obtain ⟨shifts, books, made⟩ :=
          follow_shifts sound.scheduled inside lives projection runtime
        have fits := putService_fits sound seen key shifts books made
        cases runtime with
        | false | true => exact fits
      · rw [if_neg reachable, if_neg reachable]
        exact refused fun _ => rfl

/-! ### Any call -/

/-- Who is concerned does not change by being said in another way. -/
theorem Fits.of_iff {concerns other : Prop} {outcome : VenueAnswer × Venue}
    {expected : VenueAnswer × Vantage} (fits : Fits vantage concerns outcome expected)
    (same : concerns ↔ other) : Fits vantage other outcome expected :=
  propext same ▸ fits

/-- Whatever is called, an observer sees what they would see if there were no other consumers. -/
theorem perform_fits (sound : venue.Sound) (seen : venue.SeenFrom vantage) (call : VenueCall) :
    Fits vantage (call.concerns vantage.observer = true) (venue.perform call)
      (vantage.perform call) := by
  -- An operation of a consumer concerns that one, and every other call concerns everybody.
  cases call with
  | openRegistry => exact (openRegistry_fits sound seen).of_iff (iff_of_true trivial rfl)
  | handle registry call =>
    exact (handle_fits sound seen registry call).of_iff (iff_of_true trivial rfl)
  | look registry => exact (look_fits sound seen registry).of_iff (iff_of_true trivial rfl)
  | run => exact (run_fits sound seen).of_iff (iff_of_true trivial rfl)
  | create key origin => exact (create_fits sound seen key origin).of_iff decide_eq_true_iff.symm
  | ask key request => exact (ask_fits sound seen key request).of_iff decide_eq_true_iff.symm

/-- Where nobody is, everything is in order. -/
theorem sound_empty : Venue.empty.Sound := by
  -- There are no registries, no services and no consumers of which anything had to be true.
  refine ⟨⟨⟨fun _ => ?_, List.nodup_nil, List.nodup_nil, nofun⟩, idle_empty, lists_empty⟩, nofun,
    nofun⟩
  exact Registry.attached_empty

/-- Where nobody is, everybody sees that. -/
theorem seenFrom_empty (observer : Nat) : Venue.empty.SeenFrom (.empty observer) :=
  ⟨rfl, .none⟩

end Venue

end PeerCluster
