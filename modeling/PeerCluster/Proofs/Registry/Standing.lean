import Mathlib.Data.List.InsertIdx
import Mathlib.Data.List.Nodup
import PeerCluster.Proofs.Registry.Delivery

/-! What the position of a member is worth: it falls by one whenever somebody before it leaves. -/

namespace PeerCluster

open Machine

/-! ### Everybody who ever joined -/

/-- Everybody who ever joined a membership; who joined when tells equal addresses apart. -/
structure JoinHistory where
  /-- The addresses in the order of joining; the place of an address is its number. -/
  joined : List PeerAddress
  /-- The numbers of the members, in the order of their positions. -/
  seated : List Nat
  /-- The numbers of those who have left, in the order of leaving. -/
  gone : List Nat
deriving DecidableEq, Repr

namespace JoinHistory

/-- Nobody ever joined. -/
def blank : JoinHistory :=
  ⟨[], [], []⟩

/-- Who joins gets the next number and the last position; who leaves gives its position up. -/
def record (history : JoinHistory) : Exchange RegistryCall RegistryAnswer → JoinHistory
  | ⟨.add peer, .added _, _⟩ =>
    ⟨history.joined ++ [peer], history.seated ++ [history.joined.length], history.gone⟩
  | ⟨.remove index, .removed _, _⟩ =>
    ⟨history.joined, history.seated.eraseIdx index, history.gone ++ history.seated[index]?.toList⟩
  | _ => history

/-- The position of the member with a number. -/
def position (history : JoinHistory) (number : Nat) : Nat :=
  history.seated.idxOf number

end JoinHistory

/-- Whether a call took somebody out who stood before a position. -/
def Exchange.vacates (position : Nat) : Exchange RegistryCall RegistryAnswer → Bool
  | ⟨.remove index, .removed _, _⟩ => index < position
  | _ => false

/-- How many calls took somebody out who stood before a member at that time. -/
def JoinHistory.overtaken (number : Nat) : JoinHistory →
    List (Exchange RegistryCall RegistryAnswer) → Nat
  | _, [] => 0
  | history, entry :: rest =>
    (entry.vacates (history.position number)).toNat + overtaken number (history.record entry) rest

namespace Registry

/-- The record of joins that a run of a new registry leads to. -/
def history (calls : List RegistryCall) : JoinHistory :=
  (exchanges empty calls).foldl JoinHistory.record .blank

end Registry

namespace JoinHistory

/-- A record of joins is that of a registry: members are those who have not left, in order. -/
structure Fits (history : JoinHistory) (registry : Registry) : Prop where
  members : registry.members.map some = history.seated.map (history.joined[·]?)
  seated : history.seated = (List.range history.joined.length).filter (· ∉ history.gone)
  known : ∀ number ∈ history.gone, number < history.joined.length

variable {history : JoinHistory} {registry result : Registry}
    {entry : Exchange RegistryCall RegistryAnswer}

/-- Nobody ever joined a new registry. -/
theorem fits_blank : blank.Fits .empty :=
  ⟨rfl, rfl, nofun⟩

/-- What changes no member keeps the record of joins. -/
theorem Fits.of_members (fits : history.Fits registry) (same : result.members = registry.members) :
    history.Fits result :=
  ⟨same ▸ fits.members, fits.seated, fits.known⟩

namespace Fits

/-- No two members have the same number. -/
theorem nodup (fits : history.Fits registry) : history.seated.Nodup := by
  -- Numbers of members are some of the numbers given out, in order.
  rw [fits.seated]
  exact List.nodup_range.filter _

/-- Whoever joined is a member as long as it has not left. -/
theorem mem_seated_iff (fits : history.Fits registry) {number : Nat} :
    number ∈ history.seated ↔ number < history.joined.length ∧ number ∉ history.gone := by
  rw [fits.seated]
  simp

/-- The member at a position has a number, and the address that has joined under it. -/
theorem seat_of_member (fits : history.Fits registry) {index : Nat} {peer : PeerAddress}
    (found : registry.members[index]? = some peer) :
    ∃ number, history.seated[index]? = some number ∧ history.joined[number]? = some peer := by
  -- The two lists are compared at the position, where a member stands.
  have placed := congrArg (fun members : List (Option PeerAddress) => members[index]?) fits.members
  simp only [List.getElem?_map, found, Option.map_some] at placed
  obtain ⟨number, seat, joined⟩ := Option.map_eq_some_iff.mp placed.symm
  exact ⟨number, seat, joined⟩

/-- A member with a number stands at its position with the address that has joined under it. -/
theorem member_of_seated (fits : history.Fits registry) {number : Nat}
    (seated : number ∈ history.seated) :
    history.seated[history.position number]? = some number ∧
      registry.members[history.position number]? = history.joined[number]? := by
  -- A number that is on the list is found at its first place there.
  have inside := List.idxOf_lt_length_of_mem seated
  have seat : history.seated[history.position number]? = some number := by
    unfold position
    rw [List.getElem?_eq_getElem inside, List.getElem_idxOf inside]
  have placed := congrArg
    (fun members : List (Option PeerAddress) => members[history.position number]?) fits.members
  simp only [List.getElem?_map, seat, Option.map_some] at placed
  obtain ⟨peer, found, joined⟩ := Option.map_eq_some_iff.mp placed
  exact ⟨seat, found.trans joined⟩

/-- Who stands at a position is the member with the number there. -/
theorem position_eq (fits : history.Fits registry) {index number : Nat}
    (seat : history.seated[index]? = some number) : history.position number = index := by
  -- No number stands twice, so the first place is the only one.
  obtain ⟨inside, rfl⟩ := List.getElem?_eq_some_iff.mp seat
  exact fits.nodup.idxOf_getElem index inside

/-- Who joins is the last member, under a number that nobody had. -/
theorem join (fits : history.Fits registry) (peer : PeerAddress) (event : MemberEvent) :
    Fits ⟨history.joined ++ [peer], history.seated ++ [history.joined.length], history.gone⟩
      (registry.announce (registry.members ++ [peer]) event) := by
  refine ⟨?_, ?_, ?_⟩
  · -- The numbers of the others still stand for the same addresses.
    have others : history.seated.map ((history.joined ++ [peer])[·]?) =
        history.seated.map (history.joined[·]?) := by
      refine List.map_congr_left fun number seated => ?_
      exact List.getElem?_append_left (fits.mem_seated_iff.mp seated).1
    show (registry.members ++ [peer]).map some = _
    rw [List.map_append, List.map_append, others, fits.members]
    simp
  · -- A newcomer has left no more than it has joined before.
    have fresh : history.joined.length ∉ history.gone :=
      fun left => Nat.lt_irrefl _ (fits.known _ left)
    rw [List.length_append, List.length_singleton, List.range_succ, List.filter_append,
      ← fits.seated]
    simp [fresh]
  · -- Whoever left had joined before the newcomer.
    intro number left
    rw [List.length_append]
    exact Nat.lt_add_right _ (fits.known number left)

/-- Who leaves is no member any more, and the others stay in their order. -/
theorem leave (fits : history.Fits registry) {index number : Nat}
    (seat : history.seated[index]? = some number) (event : MemberEvent) :
    Fits ⟨history.joined, history.seated.eraseIdx index, history.gone ++ [number]⟩
      (registry.announce (registry.members.eraseIdx index) event) := by
  obtain ⟨inside, rfl⟩ := List.getElem?_eq_some_iff.mp seat
  have seated := fits.mem_seated_iff.mp (List.getElem_mem inside)
  refine ⟨?_, ?_, ?_⟩
  · -- Position and number are given up together.
    show (registry.members.eraseIdx index).map some = _
    rw [← List.eraseIdx_map, fits.members, List.eraseIdx_map]
  · -- A number stands at one position only, so to give that up takes it off the list.
    calc
      history.seated.eraseIdx index
      _ = history.seated.filter (· != history.seated[index]) := by
        rw [← fits.nodup.erase_getElem index inside, fits.nodup.erase_eq_filter]
      _ = ((List.range history.joined.length).filter (· ∉ history.gone)).filter
          (· != history.seated[index]) := congrArg (List.filter _) fits.seated
      _ = (List.range history.joined.length).filter
        (· ∉ history.gone ++ [history.seated[index]]) := by
        rw [List.filter_filter]
        refine List.filter_congr fun number _ => Bool.eq_iff_iff.mpr ?_
        simp [and_comm]
  · -- Whoever left before is known, and the one who leaves now was a member.
    intro number left
    rcases List.mem_append.mp left with earlier | now
    · exact fits.known number earlier
    · exact List.mem_singleton.mp now ▸ seated.1

/-- Whatever is asked of a registry, the record still fits it. -/
theorem step (fits : history.Fits registry) (step : registry.Step entry result) :
    (history.record entry).Fits result := by
  cases step with
  -- By the kind of step: one joins, one leaves, or the members stay the same.
  | @unreachable call handle gone => cases call <;> exact fits
  | joined peer lives log => exact fits.join peer (.add peer)
  | @left index peer found lives log =>
    obtain ⟨number, seat, _⟩ := fits.seat_of_member found
    have left := fits.leave seat (.remove peer)
    show Fits ⟨history.joined, _, history.gone ++ history.seated[index]?.toList⟩ _
    rw [seat]
    exact left
  | missed => exact fits
  | opened | retained | released => exact fits.of_members rfl
  | polled id =>
    rw [Registry.poll_frame]
    exact fits.of_members rfl
  | ended id log =>
    rw [Registry.cancel_frame]
    exact fits.of_members rfl

/-- Whatever is asked of a registry one after the other, the record still fits it. -/
theorem run (fits : history.Fits registry) (calls : List RegistryCall) :
    ((exchanges registry calls).foldl record history).Fits (after registry calls) := by
  -- By induction on the calls, with the record that goes with each registry.
  induction calls generalizing registry history with
  | nil => exact fits
  | cons call rest ih => exact ih (fits.step (registry.step call))

end Fits

/-! ### Positions -/

/-- Whoever has joined keeps its number. -/
theorem joined_record (history : JoinHistory) (entry : Exchange RegistryCall RegistryAnswer) :
    history.joined <+: (history.record entry).joined := by
  -- Numbers are only ever added.
  unfold record
  split
  · exact List.prefix_append _ _
  · exact List.prefix_rfl
  · exact List.prefix_rfl

/-- Whoever has left never comes back under the same number. -/
theorem gone_record (history : JoinHistory) (entry : Exchange RegistryCall RegistryAnswer) :
    history.gone <+: (history.record entry).gone := by
  -- Whoever left is written down for good.
  unfold record
  split
  · exact List.prefix_rfl
  · exact List.prefix_append _ _
  · exact List.prefix_rfl

/-- Whoever has joined keeps its number, and whoever has left never comes back under it. -/
theorem run_prefix (history : JoinHistory) (entries : List (Exchange RegistryCall RegistryAnswer)) :
    history.joined <+: (entries.foldl record history).joined ∧
      history.gone <+: (entries.foldl record history).gone := by
  -- By induction on the exchanges, each of which extends both lists.
  induction entries generalizing history with
  | nil => exact ⟨List.prefix_rfl, List.prefix_rfl⟩
  | cons entry rest ih =>
    obtain ⟨joined, gone⟩ := ih (history.record entry)
    exact ⟨(history.joined_record entry).trans joined, (history.gone_record entry).trans gone⟩

namespace Fits

variable {number : Nat}

/-- Whoever is a member later is one now, if it has joined by now. -/
theorem seated_of_later (fits : history.Fits registry) (calls : List RegistryCall)
    (joined : number < history.joined.length)
    (later : number ∈ ((exchanges registry calls).foldl record history).seated) :
    number ∈ history.seated := by
  refine fits.mem_seated_iff.mpr ⟨joined, fun left => ?_⟩
  -- To have left is for good.
  have still := (history.run_prefix (exchanges registry calls)).2.subset left
  exact ((fits.run calls).mem_seated_iff.mp later).2 still

/-- A call moves a member by one position if it takes somebody out before it, and else not. -/
theorem position_record (fits : history.Fits registry) (step : registry.Step entry result)
    (seated : number ∈ history.seated) (still : number ∈ (history.record entry).seated) :
    (history.record entry).position number + (entry.vacates (history.position number)).toNat =
      history.position number := by
  -- After the call the record fits again, so numbers stand at one position only.
  have fits' := fits.step step
  cases step with
  | @unreachable call handle gone => cases call <;> rfl
  | joined peer lives log =>
    -- Whoever joins stands behind all others.
    exact List.idxOf_append_of_mem seated
  | @left index peer found lives log =>
    have seat := (fits.member_of_seated seated).1
    have left (place : Nat) : (history.seated.eraseIdx index)[place]? =
        if place < index then history.seated[place]? else history.seated[place + 1]? :=
      List.getElem?_eraseIdx
    show _ + (decide (index < history.position number)).toNat = _
    rcases Nat.lt_trichotomy index (history.position number) with before | same | behind
    · -- Somebody before it leaves, so it stands one position further down.
      have seat' : (history.seated.eraseIdx index)[history.position number - 1]? = some number := by
        rw [left, if_neg (by omega), Nat.sub_add_cancel (by omega)]
        exact seat
      rw [fits'.position_eq seat', decide_eq_true before]
      exact Nat.sub_add_cancel (by omega)
    · -- It does not leave itself.
      subst same
      have gone : number ∈ history.gone ++ history.seated[history.position number]?.toList := by
        rw [seat]
        simp
      exact absurd gone (fits'.mem_seated_iff.mp still).2
    · -- Somebody behind it leaves, so it stands where it stood.
      have seat' : (history.seated.eraseIdx index)[history.position number]? = some number := by
        rw [left, if_pos behind]
        exact seat
      rw [fits'.position_eq seat', decide_eq_false (Nat.lt_asymm behind)]
      rfl
  -- No other call takes anybody out.
  | missed | opened | retained | released | polled | ended => rfl

/-- A call that takes nobody out moves nobody. -/
theorem of_staying (fits : history.Fits registry) (step : registry.Step entry result)
    (seated : number ∈ history.seated) (stays : ∀ peer, entry.answer ≠ .removed peer) :
    number ∈ (history.record entry).seated ∧
      (history.record entry).position number = history.position number := by
  have still : number ∈ (history.record entry).seated := by
    cases step with
    | @unreachable call handle gone => cases call <;> exact seated
    | joined => exact List.mem_append_left _ seated
    | @left index peer => exact absurd rfl (stays peer)
    | missed | opened | retained | released | polled | ended => exact seated
  -- A call that takes nobody out takes nobody out before it.
  have none : entry.vacates (history.position number) = false := by
    unfold Exchange.vacates
    split
    · exact absurd rfl (stays _)
    · rfl
  have moved := fits.position_record step seated still
  rw [none] at moved
  exact ⟨still, moved⟩

/-- Whoever is taken out is the one at the position that was asked for. -/
theorem seated_record_iff (fits : history.Fits registry) (lives : registry.lives = true)
    (seated : number ∈ history.seated) (index : Nat) :
    number ∈ (history.record (exchange registry (.remove index))).seated ↔
      index ≠ history.position number := by
  have seat := (fits.member_of_seated seated).1
  -- What is answered and what is left are those of one step.
  have step := registry.step (.remove index)
  have fits' := fits.step step
  unfold exchange at step fits' ⊢
  generalize answerTo registry (.remove index) = answer, next registry (.remove index) = result,
    (Machine.perform registry (.remove index)).log = log at step fits' ⊢
  cases step with
  -- The registry can be reached, so the call is answered.
  | unreachable handle gone => cases gone.symm.trans lives
  | missed absent =>
    -- There is no such position, so it is not that of the member.
    refine ⟨fun _ same => ?_, fun _ => seated⟩
    obtain ⟨inside, _⟩ := List.getElem?_eq_some_iff.mp seat
    have size := congrArg List.length fits.members
    simp only [List.length_map] at size
    rw [← same, ← size] at inside
    exact absurd absent (by simp [inside])
  | left found =>
    rw [fits'.mem_seated_iff]
    show number < history.joined.length ∧ number ∉ history.gone ++ history.seated[index]?.toList ↔ _
    obtain ⟨joined, stays⟩ := fits.mem_seated_iff.mp seated
    constructor
    · -- Taken out at its own position it has left.
      rintro ⟨_, here⟩ rfl
      rw [seat] at here
      simp at here
    · -- Whoever was taken out at another position is another one.
      intro other
      refine ⟨joined, fun left => ?_⟩
      rcases List.mem_append.mp left with earlier | now
      · exact stays earlier
      · exact other (fits.position_eq (Option.mem_toList.mp now)).symm

/-- A member with a number is taken out at its position, and everybody is told its address. -/
theorem remove_own (fits : history.Fits registry) (lives : registry.lives = true)
    (seated : number ∈ history.seated) {peer : PeerAddress}
    (joined : history.joined[number]? = some peer) :
    answerTo registry (.remove (history.position number)) = .removed peer ∧
      next registry (.remove (history.position number)) =
        registry.announce (registry.members.eraseIdx (history.position number)) (.remove peer) := by
  have found := (fits.member_of_seated seated).2.trans joined
  have step := registry.step (.remove (history.position number))
  unfold exchange at step
  generalize answerTo registry (.remove (history.position number)) = answer,
    next registry (.remove (history.position number)) = result,
    (Machine.perform registry (.remove (history.position number))).log = log at step ⊢
  -- The registry lives and the member is found, so only one step is possible.
  cases step with
  | unreachable handle gone => cases gone.symm.trans lives
  | missed absent => cases absent.symm.trans found
  | left found' =>
    obtain rfl := Option.some.inj (found.symm.trans found')
    exact ⟨rfl, rfl⟩

/-- A member has moved by as many positions as members were taken out before it. -/
theorem position_run (fits : history.Fits registry) (calls : List RegistryCall)
    (joined : number < history.joined.length)
    (still : number ∈ ((exchanges registry calls).foldl record history).seated) :
    ((exchanges registry calls).foldl record history).position number +
      history.overtaken number (exchanges registry calls) = history.position number := by
  -- One call after the other; a member of the end is one at every moment.
  induction calls generalizing registry history with
  | nil => rfl
  | cons call rest ih =>
    have step := registry.step call
    have joined' : number < (history.record (exchange registry call)).joined.length :=
      Nat.lt_of_lt_of_le joined (history.joined_record _).length_le
    have one := fits.position_record step (fits.seated_of_later (call :: rest) joined still)
      ((fits.step step).seated_of_later rest joined' still)
    have more := ih (fits.step step) joined' still
    rw [exchanges, List.foldl_cons, overtaken]
    omega

end Fits

end JoinHistory

namespace Registry

/-! ### Runs -/

/-- The record of a run goes on where the record of its first calls has ended. -/
theorem history_append (calls more : List RegistryCall) :
    -- The exchanges of both batches are folded one after the other.
    history (calls ++ more) = (exchanges (after empty calls) more).foldl JoinHistory.record
      (history calls) := by
  unfold history
  rw [exchanges_append, List.foldl_append]

/-- Every run leads to a record that fits its registry. -/
theorem fits_history (calls : List RegistryCall) : (history calls).Fits (after empty calls) :=
  JoinHistory.fits_blank.run calls

/-- In a run from nothing somebody joins at a position, after some calls and before others. -/
structure Joins (calls earlier later : List RegistryCall) (peer : PeerAddress) (index : Nat) :
    Prop where
  split : calls = earlier ++ .add peer :: later
  joined : answerTo (after empty earlier) (.add peer) = .added index

namespace Joins

variable {calls earlier later : List RegistryCall} {peer : PeerAddress} {index : Nat}

/-- Who joins gets the number of those who ever joined before, and the last position. -/
theorem start (joins : Joins calls earlier later peer index) :
    let begins := history (earlier ++ [.add peer])
    let number := (history earlier).joined.length
    begins.joined = (history earlier).joined ++ [peer] ∧ number ∈ begins.seated ∧
      begins.position number = index := by
  intro begins number
  have fits : begins.Fits _ := fits_history (earlier ++ [.add peer])
  -- The answer tells the position, so the call was a join.
  have step := (after empty earlier).step (.add peer)
  have recorded : begins = (history earlier).record (exchange (after empty earlier) (.add peer)) :=
    history_append earlier [.add peer]
  have placed := congrArg List.length (fits_history earlier).members
  simp only [List.length_map] at placed
  unfold exchange at step recorded
  rw [joins.joined] at step recorded
  have seat : begins.seated[index]? = some number := by
    generalize next (after empty earlier) (.add peer) = result at step
    cases step with
    | joined =>
      rw [recorded, placed]
      exact List.getElem?_concat_length
  refine ⟨?_, List.mem_of_getElem? seat, fits.position_eq seat⟩
  rw [recorded]
  rfl

/-- Who has joined is known by its number and by its address from then on. -/
theorem joined_of_later (joins : Joins calls earlier later peer index) :
    let begins := history (earlier ++ [.add peer])
    let number := (history earlier).joined.length
    history calls =
        (exchanges (after empty (earlier ++ [.add peer])) later).foldl JoinHistory.record begins ∧
      number < begins.joined.length ∧ (history calls).joined[number]? = some peer := by
  intro begins number
  have split : calls = (earlier ++ [.add peer]) ++ later := by
    rw [joins.split, List.append_assoc, List.singleton_append]
  have follows : history calls =
      (exchanges (after empty (earlier ++ [.add peer])) later).foldl JoinHistory.record begins := by
    rw [split, history_append]
  have own : begins.joined[number]? = some peer := by
    rw [joins.start.1]
    exact List.getElem?_concat_length
  have longer : begins.joined <+: (history calls).joined := follows ▸ (begins.run_prefix _).1
  obtain ⟨within, _⟩ := List.getElem?_eq_some_iff.mp own
  refine ⟨follows, within, ?_⟩
  -- Numbers given out stay, so the newcomer is found under its own at the end.
  rw [← own, List.getElem?_eq_getElem within]
  exact List.prefix_iff_getElem?.mp longer number within

end Joins

/--
The position of a member falls by one whenever somebody before it leaves, and never otherwise.

The members are those who have joined and not left, in the order of joining; who joined when tells
equal addresses apart. As long as a member has not left, its position and the number of those who
left before it make up the position that it joined at, and no call that takes nobody out moves it.
To take it out takes its own position: the address is answered and sent to everybody who listens,
and every other position leaves it in. So the position that it joined at takes it out as long as
nobody before it has left, and only so long.
-/
theorem index_falls_with_leaves {calls earlier later : List RegistryCall} {peer : PeerAddress}
    {index : Nat} (joins : Joins calls earlier later peer index) :
    let number := (history earlier).joined.length
    let begins := history (earlier ++ [.add peer])
    let now := history calls
    let registry := after empty calls
    let position := now.position number
    let shift := begins.overtaken number (exchanges (after empty (earlier ++ [.add peer])) later)
    let standsAfter (call : RegistryCall) : Prop := number ∈ (history (calls ++ [call])).seated
    registry.members.map some = now.seated.map (now.joined[·]?) ∧
    now.seated = (List.range now.joined.length).filter (· ∉ now.gone) ∧
    now.joined[number]? = some peer ∧
    (number ∈ now.seated ↔ number ∉ now.gone) ∧
    (number ∈ now.seated →
      registry.members[position]? = some peer ∧
      position + shift = index ∧
      (∀ call, (∀ left, answerTo registry call ≠ .removed left) →
        standsAfter call ∧ (history (calls ++ [call])).position number = position) ∧
      (registry.lives = true →
        answerTo registry (.remove position) = .removed peer ∧
        (∀ id, registry.listens id = true →
          (next registry (.remove position)).awaiting id =
            registry.awaiting id ++ [.remove peer]) ∧
        (∀ place, standsAfter (.remove place) ↔ place ≠ position) ∧
        (¬ standsAfter (.remove index) ↔ shift = 0))) := by
  intro number begins now registry position shift standsAfter
  have fits : now.Fits registry := fits_history calls
  obtain ⟨follows, within, kept⟩ := joins.joined_of_later
  change now = _ at follows
  have recorded (call : RegistryCall) :
      history (calls ++ [call]) = now.record (exchange registry call) := history_append calls [call]
  refine ⟨fits.members, fits.seated, kept, ?_, fun member => ?_⟩
  · -- Whoever has joined is a member unless it has left.
    rw [fits.mem_seated_iff]
    exact and_iff_right (List.getElem?_eq_some_iff.mp kept).1
  have moved : position + shift = index := by
    have run := (fits_history (earlier ++ [.add peer])).position_run later within (follows ▸ member)
    rw [← follows] at run
    exact run.trans joins.start.2.2
  refine ⟨(fits.member_of_seated member).2.trans kept, moved, ?_, fun lives => ?_⟩
  · -- A call that takes nobody out moves nobody.
    intro call stays
    unfold standsAfter
    rw [recorded]
    exact fits.of_staying (registry.step call) member stays
  -- A removal is of this member only at its own position.
  have out (place : Nat) : standsAfter (.remove place) ↔ place ≠ position := by
    unfold standsAfter
    rw [recorded]
    exact fits.seated_record_iff lives member place
  obtain ⟨answer, left⟩ := fits.remove_own lives member kept
  refine ⟨answer, ?_, out, ?_⟩
  · intro id listens
    rw [left]
    exact awaiting_announce (attached_empty.run calls) lives _ _ listens
  · -- The position at which it joined is its position now if it has not fallen since.
    rw [out]
    omega

/-- An address joins for the second time, and the first one to join under it leaves. -/
theorem index_falls_with_leaves_of_six_calls :
    let peer : PeerAddress := ⟨"localhost", 21, 22, 23⟩
    let later : List RegistryCall :=
      [.add ⟨"127.0.0.1", 31, 32, 33⟩, .remove 0, .remove 7, .add peer]
    let calls := [.add peer, .add peer] ++ later
    let number := (history [.add peer]).joined.length
    Joins calls [.add peer] later peer 1 ∧ number ∈ (history calls).seated ∧
      (history calls).position number = 0 ∧ answerTo (after empty calls)
        (.remove 0) = .removed peer ∧
      number ∉ (history (calls ++ [.remove 0])).seated := by
  intro peer later calls number
  have joins : Joins calls [.add peer] later peer 1 := ⟨rfl, rfl⟩
  -- That it is still a member, and at which position, is computed for this one run.
  have seated : number ∈ (history calls).seated := by decide
  have position : (history calls).position number = 0 := by decide
  obtain ⟨_, _, _, _, stands⟩ := index_falls_with_leaves joins
  obtain ⟨_, _, _, leaves⟩ := stands seated
  obtain ⟨answer, _, out, _⟩ := leaves rfl
  rw [position] at answer
  exact ⟨joins, seated, position, answer, fun stays => (out 0).mp stays position.symm⟩

end Registry

end PeerCluster
