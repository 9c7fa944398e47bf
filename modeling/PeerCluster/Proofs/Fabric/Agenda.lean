import Mathlib.Data.List.Nodup
import PeerCluster.Fabric

/-! The agenda of a fabric: whose turn is due, and when the tasks that wait are woken. -/

namespace PeerCluster

/-- Whether a task has a turn coming. -/
def TaskPhase.isDue : TaskPhase → Bool
  | ready | aborted => true
  | parked | finished => false

/-- What becomes of a task that is told to let go of its source. -/
def TaskPhase.stopped : TaskPhase → TaskPhase
  | parked | ready => aborted
  | task => task

namespace Fabric

variable {fabric : Fabric}

/-- No task waits for a source that has something for it. -/
def Idle (fabric : Fabric) : Prop :=
  ∀ (id : Nat) (service : Service), fabric.services[id]? = some service →
    service.task = .parked → fabric.hasWork service.source = false

/-- A list names every service whose task has a turn coming, once. -/
structure Lists (agenda : List Nat) (fabric : Fabric) : Prop where
  nodup : agenda.Nodup
  mem_iff : ∀ id, id ∈ agenda ↔
    ∃ service, fabric.services[id]? = some service ∧ service.task.isDue = true

/-- Where there is no service, nobody waits. -/
theorem idle_empty : empty.Idle := by
  intro id service found
  cases found

/-- Where there is no service, the agenda names nobody. -/
theorem lists_empty : Lists empty.due empty := by
  refine ⟨List.nodup_nil, fun id => ⟨fun member => ?_, ?_⟩⟩
  · cases member
  · rintro ⟨service, found, _⟩
    cases found

/-! ### Putting things back -/

/-- An item that is put into a list is found at its position, and all others where they were. -/
theorem getD_set {α : Type} (items : List α) (fallback item : α) {position : Nat}
    (inside : position < items.length) (id : Nat) :
    (items.set position item).getD id fallback =
      if id = position then item else items.getD id fallback := by
  rw [List.getD_eq_getElem?_getD, List.getElem?_set, List.getD_eq_getElem?_getD]
  -- There is an item at the position, so this one is replaced.
  by_cases same : id = position
  · subst same
    simp [inside]
  · rw [if_neg (Ne.symm same), if_neg same]

/-- Where an item was found its replacement is found, and every other item where it was. -/
theorem getElem?_set_of_some {α : Type} {items : List α} {position : Nat} {item : α}
    (found : items[position]? = some item) (replacement : α) (other : Nat) :
    (items.set position replacement)[other]? =
      if other = position then some replacement else items[other]? := by
  -- An item was found, so the position lies inside the list.
  have inside : position < items.length := (List.getElem?_eq_some_iff.mp found).1
  rw [List.getElem?_set]
  by_cases same : position = other
  · rw [if_pos same, if_pos inside, if_pos same.symm]
  · rw [if_neg same, if_neg (Ne.symm same)]

/-- Putting an item back unchanged changes nothing. -/
theorem set_getD_self {α : Type} (items : List α) (fallback : α) (position : Nat) :
    items.set position (items.getD position fallback) = items := by
  -- Past the end nothing is put, and nothing is found either.
  by_cases inside : position < items.length
  · rw [List.getD_eq_getElem?_getD, List.getElem?_eq_getElem inside, Option.getD_some,
      List.set_getElem_self]
  · exact List.set_eq_of_length_le (Nat.le_of_not_lt inside)

/-- What is looked up past the end of a list is what is found there once it is added. -/
theorem getD_concat_self {α : Type} (items : List α) (fallback : α) (position : Nat) :
    (items ++ [fallback]).getD position fallback = items.getD position fallback := by
  rw [List.getD_eq_getElem?_getD, List.getD_eq_getElem?_getD, List.getElem?_append]
  -- What is found past the end is the fallback, with one more of it or without.
  by_cases inside : position < items.length
  · rw [if_pos inside]
  · rw [if_neg inside, List.getElem?_eq_none (Nat.le_of_not_lt inside)]
    cases position - items.length <;> rfl

/-- An agenda is right when it is so about the service replaced, and about others as before. -/
theorem lists_of_set {agenda renewed : List Nat} (lists : Lists agenda fabric) {id : Nat}
    {service worked : Service} (found : fabric.services[id]? = some service) {changed : Fabric}
    (services : changed.services = fabric.services.set id worked) (nodup : renewed.Nodup)
    (others : ∀ other, other ≠ id → (other ∈ renewed ↔ other ∈ agenda))
    (own : id ∈ renewed ↔ worked.task.isDue = true) : Lists renewed changed := by
  -- Only the service put back may differ, and that one is settled by what is given.
  refine ⟨nodup, fun other => ?_⟩
  rw [services, getElem?_set_of_some found]
  by_cases same : other = id
  · subst same
    rw [if_pos rfl, own]
    simp
  · rw [if_neg same, others other same, lists.mem_iff]

/-- What a turn leaves of a service does not show in a list of what stays the same about them. -/
theorem map_services_put {α : Type} {id : Nat} {service worked : Service}
    (found : fabric.services[id]? = some service) (feature : Service → α)
    (same : feature worked = feature service) :
    (fabric.services.set id worked).map feature = fabric.services.map feature := by
  -- The feature is put back unchanged, so the list of features is as it was.
  obtain ⟨inside, rfl⟩ := List.getElem?_eq_some_iff.mp found
  have known : id < (fabric.services.map feature).length := by simpa using inside
  rw [List.map_set, same, show feature fabric.services[id] = (fabric.services.map feature)[id] by
    simp, List.set_getElem_self]

/-! ### One service replaced -/

/-- Puts back a service and its balancer; who gets a turn by this comes last on the agenda. -/
def touch (fabric : Fabric) (id : Nat) (service : Service) (turned : RoundRobin)
    (worked : Service) : Fabric :=
  { fabric with
    balancers := fabric.balancers.set service.balancer turned
    services := fabric.services.set id worked
    due := if worked.task.isDue && !service.task.isDue then fabric.due ++ [id] else fabric.due }

section Touch

variable {id : Nat} {service : Service}

/-- Whoever had a turn coming still has it when a service was put back. -/
theorem lists_touch (lists : Lists fabric.due fabric)
    (found : fabric.services[id]? = some service) (turned : RoundRobin) {worked : Service}
    (keeps : service.task.isDue = true → worked.task.isDue = true) :
    Lists (fabric.touch id service turned worked).due
      (fabric.touch id service turned worked) := by
  -- The service is on the agenda if its task has a turn coming.
  have listed : id ∈ fabric.due ↔ service.task.isDue = true := by
    rw [lists.mem_iff, found]
    simp
  unfold touch
  dsimp only
  split
  · -- The service is new on the agenda.
    rename_i new
    obtain ⟨due, waited⟩ := Bool.and_eq_true_iff.mp new
    have absent : id ∉ fabric.due := by
      rw [listed]
      simpa using waited
    refine lists_of_set lists found rfl ?_ ?_ ?_
    · rw [← List.concat_eq_append, List.nodup_concat]
      exact ⟨absent, lists.nodup⟩
    · intro other different
      rw [List.mem_append, List.mem_singleton]
      simp [different]
    · simp [due]
  · -- Its place on the agenda, or off it, stays what it was.
    rename_i old
    refine lists_of_set lists found rfl lists.nodup (fun _ _ => Iff.rfl) ?_
    rw [listed]
    refine ⟨keeps, fun due => ?_⟩
    simpa [due] using old

/-- Putting a balancer back is putting it back with its service. -/
theorem setBalancer_eq_touch (found : fabric.services[id]? = some service)
    (turned : RoundRobin) :
    fabric.setBalancer service.balancer turned = fabric.touch id service turned service := by
  -- The service is put back as it was, so only the balancer has changed.
  obtain ⟨inside, rfl⟩ := List.getElem?_eq_some_iff.mp found
  unfold setBalancer touch
  rw [List.set_getElem_self, Bool.and_not_self, if_neg Bool.false_ne_true]

/-- A service that is not new on the agenda is put back as it is put back with its balancer. -/
theorem setService_eq_touch (fabric : Fabric) (id : Nat) (service worked : Service)
    (old : (worked.task.isDue && !service.task.isDue) = false) :
    fabric.setService id worked =
      fabric.touch id service (fabric.balancer service.balancer) worked := by
  -- The balancer is put back as it was found.
  have balancers : fabric.balancers.set service.balancer (fabric.balancer service.balancer) =
      fabric.balancers := set_getD_self _ _ _
  unfold setService touch
  rw [balancers, old, if_neg Bool.false_ne_true]

/-- Who closes a resolver shuts its balancer down, and tells its task to stop. -/
theorem close_eq_touch (found : fabric.services[id]? = some service) :
    (fabric.close id).value = fabric.touch id service (fabric.balancer service.balancer).shutdown
      { service with
        resolver := service.resolver.moveTo .closed
        task := service.task.stopped } := by
  unfold close
  rw [found]
  show (fabric.setBalancer _ _).abort id { service with resolver := _ } = _
  -- By the phase of the task, which decides whether it comes on the agenda.
  obtain ⟨resolver, balancer, source, task, owners⟩ := service
  cases task with
  | parked | ready | aborted | finished => rfl

end Touch

/-! ### One service added -/

section Concat

variable {service : Service}

/-- Whoever is found once a service was added was there before, or is the new one. -/
theorem before_or_newest {services : List Service} {id : Nat} {rival : Service}
    (met : (services ++ [service])[id]? = some rival) :
    services[id]? = some rival ∨ id = services.length ∧ rival = service := by
  -- A position of a longer list is one of the old list, or the one just past it.
  rcases Nat.lt_or_ge id services.length with before | past
  · rw [List.getElem?_append_left before] at met
    exact .inl met
  · rw [List.getElem?_append_right past, List.getElem?_singleton] at met
    split at met
    · exact .inr ⟨by omega, (Option.some.inj met).symm⟩
    · cases met

/-- A new service, whose turn is coming, does not wait in vain. -/
theorem idle_concat (idle : fabric.Idle) (ready : service.task = .ready) (due : List Nat) :
    ({ fabric with services := fabric.services ++ [service], due } : Fabric).Idle := by
  -- Somebody who waits is one of the old services, as the new one does not wait.
  intro id rival met parked
  rcases before_or_newest met with before | ⟨_, rfl⟩
  · exact idle id rival before parked
  · rw [ready] at parked
    cases parked

/-- A new service, whose turn is coming, comes last on the agenda. -/
theorem lists_concat (lists : Lists fabric.due fabric) (ready : service.task = .ready) :
    Lists (fabric.due ++ [fabric.services.length])
      { fabric with
        services := fabric.services ++ [service]
        due := fabric.due ++ [fabric.services.length] } := by
  constructor
  · rw [← List.concat_eq_append, List.nodup_concat]
    -- The agenda names services that there are, so not yet the new one.
    refine ⟨fun member => ?_, lists.nodup⟩
    obtain ⟨_, met, _⟩ := (lists.mem_iff _).mp member
    exact absurd (List.getElem?_eq_some_iff.mp met).1 (Nat.lt_irrefl _)
  · intro id
    -- Whoever has a turn coming is an old service that had it before, or the new one.
    rw [List.mem_append, lists.mem_iff, List.mem_singleton]
    constructor
    · rintro (⟨rival, met, due⟩ | rfl)
      · have inside : id < fabric.services.length := (List.getElem?_eq_some_iff.mp met).1
        exact ⟨rival, by rw [List.getElem?_append_left inside, met], due⟩
      · exact ⟨service, by simp, by rw [ready]; rfl⟩
    · rintro ⟨rival, met, due⟩
      rcases before_or_newest met with before | ⟨newest, _⟩
      · exact .inl ⟨rival, before, due⟩
      · exact .inr newest

end Concat

/-! ### Waking -/

/-- Whether the task of a service waits for a source that has something for it. -/
def wakes (fabric : Fabric) (service : Service) : Bool :=
  service.task = .parked && fabric.hasWork service.source

/-- A service after its task was woken, if there was something to wake it for. -/
def woken (fabric : Fabric) (service : Service) : Service :=
  if fabric.wakes service then { service with task := .ready } else service

/-- The services whose tasks are woken, oldest first. -/
def wokenIds (fabric : Fabric) : List Nat :=
  (fabric.services.zipIdx.filter fun entry => fabric.wakes entry.1).map Prod.snd

/-- Waking concerns tasks and the agenda. -/
theorem wake_eq (fabric : Fabric) :
    fabric.wake = { fabric with
      services := fabric.services.map fabric.woken
      due := fabric.due ++ fabric.wokenIds } := rfl

/-- The services woken are those that there is something for. -/
theorem mem_wokenIds_iff {id : Nat} :
    id ∈ fabric.wokenIds ↔
      ∃ service, fabric.services[id]? = some service ∧ fabric.wakes service = true := by
  -- The services are numbered, and the numbers of those that wake are kept.
  simp only [wokenIds, List.mem_map, List.mem_filter]
  constructor
  · rintro ⟨⟨service, position⟩, ⟨member, wakes⟩, rfl⟩
    exact ⟨service, List.mk_mem_zipIdx_iff_getElem?.mp member, wakes⟩
  · rintro ⟨service, found, wakes⟩
    exact ⟨⟨service, id⟩, ⟨List.mk_mem_zipIdx_iff_getElem?.mpr found, wakes⟩, rfl⟩

/-- Nobody is woken twice. -/
theorem nodup_wokenIds : fabric.wokenIds.Nodup := by
  -- The positions of all services are distinct, and those of the woken ones are among them.
  have positions : (fabric.services.zipIdx.map Prod.snd).Nodup := by
    rw [List.zipIdx_map_snd]
    exact List.nodup_range'
  exact (List.filter_sublist.map Prod.snd).nodup positions

/-- Nobody is woken when no task waits for a source that has something for it. -/
theorem wake_of_idle (idle : fabric.Idle) : fabric.wake = fabric := by
  -- Waking maps over all services, and each of them is mapped to itself.
  have asleep : ∀ service ∈ fabric.services, fabric.wakes service = false := by
    intro service member
    obtain ⟨id, found⟩ := List.getElem?_of_mem member
    by_cases parked : service.task = .parked
    · simp [wakes, idle id service found parked]
    · simp [wakes, parked]
  have services : fabric.services.map fabric.woken = fabric.services := by
    rw [List.map_congr_left (g := id), List.map_id]
    intro service member
    simp [woken, asleep service member]
  have none : fabric.wokenIds = [] := by
    refine List.eq_nil_iff_forall_not_mem.mpr fun id member => ?_
    obtain ⟨service, found, wakes⟩ := mem_wokenIds_iff.mp member
    rw [asleep service (List.mem_of_getElem? found)] at wakes
    cases wakes
  rw [wake_eq, services, none, List.append_nil]

/-- After waking, no task waits for a source that has something for it. -/
theorem idle_wake (fabric : Fabric) : fabric.wake.Idle := by
  intro id service found parked
  -- Whoever is still parked was not woken, and that for want of work.
  rw [wake_eq] at found
  simp only [List.getElem?_map, Option.map_eq_some_iff] at found
  obtain ⟨before, _, rfl⟩ := found
  show fabric.hasWork _ = false
  unfold woken at parked ⊢
  split at parked
  · cases parked
  · rename_i asleep
    rw [if_neg asleep]
    simpa [wakes, parked] using asleep

/-- Waking concerns nothing of a service but its task. -/
theorem woken_eq (fabric : Fabric) (service : Service) :
    fabric.woken service = { service with task := (fabric.woken service).task } := by
  unfold woken
  split
  · rfl
  · rfl

/-- A service after waking, and its task's turn. -/
theorem getElem?_wake (fabric : Fabric) (id : Nat) :
    -- Waking maps over the services, so it keeps their positions.
    fabric.wake.services[id]? = fabric.services[id]?.map fabric.woken := by
  rw [wake_eq]
  exact List.getElem?_map

/-- A task has a turn coming after waking if it had one before, or if it is woken. -/
theorem isDue_woken (service : Service) :
    (fabric.woken service).task.isDue = (service.task.isDue || fabric.wakes service) := by
  -- A task that is woken is ready, and any other is as it was.
  unfold woken
  split
  · rename_i wakes
    simp [wakes, TaskPhase.isDue]
  · rename_i asleep
    simp [asleep]

/-- Whoever is woken comes last on the agenda. -/
theorem Lists.wake {agenda : List Nat} (lists : Lists agenda fabric) :
    Lists (agenda ++ fabric.wokenIds) fabric.wake := by
  constructor
  · refine List.nodup_append.mpr ⟨lists.nodup, nodup_wokenIds, ?_⟩
    -- Whoever has a turn coming is not waiting, so nobody is on both lists.
    rintro id before _ woken rfl
    obtain ⟨service, found, due⟩ := (lists.mem_iff id).mp before
    obtain ⟨same, found', wakes⟩ := mem_wokenIds_iff.mp woken
    obtain rfl := Option.some.inj (found.symm.trans found')
    have parked : service.task = .parked := by
      have both := wakes
      simp only [Fabric.wakes, Bool.and_eq_true, decide_eq_true_eq] at both
      exact both.1
    rw [parked] at due
    cases due
  · -- After waking a turn is coming for whoever had one, and for whoever is woken.
    intro id
    rw [List.mem_append, lists.mem_iff, mem_wokenIds_iff, getElem?_wake]
    cases fabric.services[id]? with
    | none => simp
    | some service => simp [isDue_woken, or_comm]

end Fabric

end PeerCluster
