import PeerCluster.Proofs.Cluster.StreamHolders
import PeerCluster.Proofs.Fabric.Holding
import PeerCluster.Session.Slot

/-! Which handles and streams the objects of a session hold, so that none is held by nobody. -/

namespace PeerCluster

open Registry

/-! ### Objects -/

namespace Slot

/-- The streams that an object holds, each with its registry. -/
def streams : Slot → List (Nat × Nat)
  | stream home id | projected home id _ => [(home, id)]
  | cluster running home => running.launcher.held.map fun id => (home, id)
  | _ => []

/-- The recorder of a cluster is in order. -/
def HandlesDistinct : Slot → Prop
  | cluster running _ => running.launcher.HandlesDistinct
  | _ => True

/-- How many objects hold a handle of a registry. -/
def holders (objects : List Slot) (home : Nat) : Nat :=
  objects.countP fun object => object.registry? = some home

/-- The streams that objects hold, each with its registry. -/
def held (objects : List Slot) : List (Nat × Nat) :=
  objects.flatMap streams

/-- One more object may hold one more handle. -/
theorem holders_cons (object : Slot) (objects : List Slot) (home : Nat) :
    holders (object :: objects) home =
      holders objects home + if object.registry? = some home then 1 else 0 := by
  simp [holders, List.countP_cons]

/-- Whoever holds a handle is counted among the holders. -/
theorem holders_cons_pos {object : Slot} {home : Nat} (registry : object.registry? = some home)
    (objects : List Slot) : 0 < holders (object :: objects) home := by
  rw [holders_cons, if_pos registry]
  exact Nat.succ_pos _

/-- One more object may hold more streams. -/
theorem mem_held_cons {object : Slot} {objects : List Slot} {stream : Nat × Nat} :
    stream ∈ held (object :: objects) ↔ stream ∈ object.streams ∨ stream ∈ held objects := by
  simp [held]

end Slot

/-! ### Fabrics and the objects that hold them -/

/-- Every handle, and every stream that listens, is held by an object or by a task. -/
structure Owned (origin fabric : Fabric) (objects : List Slot) : Prop where
  evolves : ∀ home, (origin.registry home).Evolves (fabric.registry home)
  attached : ∀ home, (fabric.registry home).Attached
  handles : ∀ home < fabric.registries.length,
    (fabric.registry home).handles = Slot.holders objects home
  reached : ∀ home, 0 < Slot.holders objects home → home < fabric.registries.length
  held : ∀ home id, (fabric.registry home).listens id = true →
    (home, id) ∉ fabric.held → (home, id) ∈ Slot.held objects
  handlesDistinct : ∀ object ∈ objects, object.HandlesDistinct

namespace Owned

variable {origin fabric result : Fabric} {objects renewed : List Slot} {object other : Slot}
  {home : Nat} {left : Registry}

/-- Objects may be replaced by others that hold the same. -/
theorem congr (owned : Owned origin fabric objects)
    (holders : ∀ home, Slot.holders renewed home = Slot.holders objects home)
    (streams : ∀ stream ∈ Slot.held objects, stream ∈ Slot.held renewed)
    (handlesDistinct : ∀ object ∈ renewed, object.HandlesDistinct) :
    Owned origin fabric renewed := by
  refine ⟨owned.evolves, owned.attached, fun home inside => ?_, fun home held => ?_, ?_,
    handlesDistinct⟩
  · -- Handles are only counted, and the counts are the same.
    rw [holders, owned.handles home inside]
  · rw [holders] at held
    exact owned.reached home held
  · exact fun home id listens unheld => streams _ (owned.held home id listens unheld)

/-- The order of objects does not matter. -/
theorem perm (owned : Owned origin fabric objects) (perm : objects.Perm renewed) :
    Owned origin fabric renewed := by
  refine owned.congr (fun home => ?_) (fun stream member => ?_) fun object member => ?_
  · -- Counts and unions do not depend on the order.
    exact (perm.countP_eq _).symm
  · exact (perm.flatMap_right _).mem_iff.mp member
  · exact owned.handlesDistinct object (perm.mem_iff.mpr member)

/-- An object may be replaced by another one that holds the same. -/
theorem swap (owned : Owned origin fabric (object :: objects))
    (registry : other.registry? = object.registry?)
    (streams : ∀ stream ∈ object.streams, stream ∈ other.streams)
    (handlesDistinct : other.HandlesDistinct) :
    Owned origin fabric (other :: objects) := by
  refine owned.congr (fun home => ?_) (fun stream member => ?_) ?_
  · -- The successor holds a handle of the same registry, or none of any as well.
    rw [Slot.holders_cons, Slot.holders_cons, registry]
  · rw [Slot.mem_held_cons] at member ⊢
    exact member.imp_left (streams stream)
  · obtain ⟨_, others⟩ := List.forall_mem_cons.mp owned.handlesDistinct
    exact List.forall_mem_cons.mpr ⟨handlesDistinct, others⟩

/-- An object that holds nothing may come. -/
theorem come (owned : Owned origin fabric objects) (registry : object.registry? = none)
    (handlesDistinct : object.HandlesDistinct) : Owned origin fabric (object :: objects) := by
  refine owned.congr (fun home => ?_) (fun stream member => ?_) ?_
  · -- An object without a registry adds nothing to the count of any.
    simp [Slot.holders_cons, registry]
  · exact Slot.mem_held_cons.mpr (.inr member)
  · exact List.forall_mem_cons.mpr ⟨handlesDistinct, owned.handlesDistinct⟩

/-- An object that holds nothing may go. -/
theorem go (owned : Owned origin fabric (object :: objects)) (registry : object.registry? = none)
    (streams : object.streams = []) : Owned origin fabric objects := by
  refine owned.congr (fun home => ?_) (fun stream member => ?_) ?_
  · -- The object was counted for no registry, and no stream was held by it.
    simp [Slot.holders_cons, registry]
  · simpa [Slot.mem_held_cons, streams] using member
  · exact (List.forall_mem_cons.mp owned.handlesDistinct).2

/-- Whoever holds a handle keeps the registry alive. -/
theorem lives (owned : Owned origin fabric objects) (held : 0 < Slot.holders objects home) :
    (fabric.registry home).lives = true := by
  have handles := owned.handles home (owned.reached home held)
  -- The handles are as many as the holders, and there is one.
  exact decide_eq_true (show (fabric.registry home).handles ≠ 0 by omega)

/-- A registry that somebody holds a handle of is attached. -/
theorem live (owned : Owned origin fabric objects) (held : 0 < Slot.holders objects home) :
    (fabric.registry home).LiveAttached :=
  ⟨owned.lives held, owned.attached home⟩

/-- Nobody loses what it holds when tasks work and registries are asked. -/
theorem evolvesTo (owned : Owned origin fabric objects) (evolvesTo : fabric.EvolvesTo result) :
    Owned origin result objects := by
  refine ⟨fun home => ?_, fun home => ?_, fun home inside => ?_, fun home held => ?_, ?_,
    owned.handlesDistinct⟩
  · -- Registries have only gone on from what they were at the origin.
    exact (owned.evolves home).trans (evolvesTo.evolves home)
  · exact (evolvesTo.evolves home).attached (owned.attached home)
  · -- Neither the number of registries nor that of their handles has changed.
    rw [evolvesTo.size] at inside
    rw [evolvesTo.handles, owned.handles home inside]
  · rw [evolvesTo.size]
    exact owned.reached home held
  · intro home id listens unheld
    -- Whoever listens without a task did so before, so an object holds this stream already.
    obtain ⟨before, nobody⟩ := evolvesTo.unheld home id listens unheld
    exact owned.held home id before nobody

/-- A registry is put back, with other objects that account for its handles and streams. -/
theorem put (owned : Owned origin fabric objects) (inside : home < fabric.registries.length)
    (evolves : (fabric.registry home).Evolves left)
    (handles : left.handles = Slot.holders renewed home)
    (others : ∀ other, other ≠ home → Slot.holders renewed other = Slot.holders objects other)
    (held : ∀ id, left.listens id = true → (home, id) ∉ fabric.held →
      (home, id) ∈ Slot.held renewed)
    (still : ∀ other id, other ≠ home → (other, id) ∈ Slot.held objects →
      (other, id) ∈ Slot.held renewed)
    (handlesDistinct : ∀ object ∈ renewed, object.HandlesDistinct) :
    Owned origin (fabric.setRegistry home left) renewed := by
  -- Only the registry that is put back is another one.
  have found (other : Nat) : (fabric.setRegistry home left).registry other =
      if other = home then left else fabric.registry other := by
    rw [Fabric.registry_setRegistry]
    simp only [inside, and_true]
  have grows (other : Nat) : (fabric.registry other).Evolves
      ((fabric.setRegistry home left).registry other) := by
    rw [found]
    split
    · rename_i here
      exact here ▸ evolves
    · exact .refl _
  refine ⟨fun other => (owned.evolves other).trans (grows other),
    fun other => (grows other).attached (owned.attached other), fun other known => ?_,
    fun other holder => ?_, fun other id listens unheld => ?_, handlesDistinct⟩
  · -- Handles are told for the one that is put back, and counted as before for the others.
    rw [Fabric.size_setRegistry] at known
    rw [found]
    split
    · rename_i here
      exact here ▸ handles
    · rename_i elsewhere
      rw [others other elsewhere, owned.handles other known]
  · rw [Fabric.size_setRegistry]
    -- A holder of the one that is put back knows it, and other holders knew theirs.
    by_cases here : other = home
    · exact here ▸ inside
    · rw [others other here] at holder
      exact owned.reached other holder
  · -- Streams of the one that is put back are told, and streams of others are held as before.
    rw [Fabric.held_setRegistry] at unheld
    rw [found] at listens
    split at listens
    · rename_i here
      subst here
      exact held id listens unheld
    · rename_i elsewhere
      exact still other id elsewhere (owned.held other id listens unheld)

/-! ### Objects that come and go with handles and streams -/

/-- Whoever founds a registry holds its only handle. -/
theorem found (owned : Owned origin fabric objects)
    (registry : object.registry? = some fabric.registries.length)
    (handlesDistinct : object.HandlesDistinct) :
    Owned origin fabric.addRegistry.2 (object :: objects) := by
  -- A registry that did not exist before answers like the new one.
  have same (home : Nat) : fabric.addRegistry.2.registry home = fabric.registry home :=
    Fabric.getD_concat_self fabric.registries .empty home
  have more : fabric.addRegistry.2.registries.length = fabric.registries.length + 1 :=
    List.length_append
  refine ⟨fun home => ?_, fun home => ?_, fun home inside => ?_, fun home holder => ?_,
    fun home id listens unheld => ?_, List.forall_mem_cons.mpr
      ⟨handlesDistinct, owned.handlesDistinct⟩⟩
  · -- Nothing that is there has changed.
    rw [same]
    exact owned.evolves home
  · rw [same]
    exact owned.attached home
  · rw [same, Slot.holders_cons, registry]
    by_cases here : home = fabric.registries.length
    · -- Nobody has held a handle of the new registry before.
      subst here
      have nobody : Slot.holders objects fabric.registries.length = 0 := by
        have none := mt (owned.reached fabric.registries.length) (Nat.lt_irrefl _)
        omega
      rw [nobody, if_pos rfl]
      show (fabric.registries.getD fabric.registries.length .empty).handles = 1
      rw [List.getD_eq_getElem?_getD, List.getElem?_eq_none (Nat.le_refl _)]
      rfl
    · have known : home < fabric.registries.length := by omega
      rw [owned.handles home known, if_neg fun here' => here (Option.some.inj here').symm]
      rfl
  · -- Whoever holds a handle holds the new one, or has held it before.
    rw [Slot.holders_cons, registry] at holder
    rw [more]
    split at holder
    · rename_i here
      obtain rfl := Option.some.inj here
      exact Nat.lt_succ_self _
    · exact Nat.lt_succ_of_lt (owned.reached home holder)
  · -- Nobody listens to a registry that has just been founded.
    rw [same] at listens
    exact Slot.mem_held_cons.mpr (.inr (owned.held home id listens unheld))

/-- Whoever makes one more holder out of one that there is gives it a handle. -/
theorem share (owned : Owned origin fabric objects) (held : 0 < Slot.holders objects home)
    (registry : object.registry? = some home) (handlesDistinct : object.HandlesDistinct) :
    Owned origin (fabric.setRegistry home (fabric.registry home).retain) (object :: objects) := by
  have inside := owned.reached home held
  refine owned.put inside (.serve (owned.lives held) .retain) ?_ (fun other elsewhere => ?_)
    (fun id listens unheld => ?_) (fun other id _ member => ?_)
    (List.forall_mem_cons.mpr ⟨handlesDistinct, owned.handlesDistinct⟩)
  · -- The new holder is one more, and so is the handle.
    rw [Slot.holders_cons, if_pos registry, ← owned.handles home inside]
    rfl
  · rw [Slot.holders_cons, registry, if_neg fun same => elsewhere (Option.some.inj same).symm]
    rfl
  · -- Handing out a handle opens no stream.
    exact Slot.mem_held_cons.mpr (.inr (owned.held home id listens unheld))
  · exact Slot.mem_held_cons.mpr (.inr member)

/-- Whoever opens a stream holds it. -/
theorem subscribe (owned : Owned origin fabric objects) (held : 0 < Slot.holders objects home)
    (registry : object.registry? = none)
    (streams : object.streams = [(home, (fabric.registry home).nextId)])
    (handlesDistinct : object.HandlesDistinct) :
    Owned origin (fabric.setRegistry home (fabric.registry home).subscribe.value.2)
      (object :: objects) := by
  have inside := owned.reached home held
  refine owned.put inside (.serve (owned.lives held) .subscribe) ?_ (fun other _ => ?_)
    (fun id listens unheld => ?_) (fun other id _ member => ?_)
    (List.forall_mem_cons.mpr ⟨handlesDistinct, owned.handlesDistinct⟩)
  · -- Opening a stream hands out no handle.
    simp only [Slot.holders_cons, registry]
    exact owned.handles home inside
  · simp [Slot.holders_cons, registry]
  · -- The newest stream is the one of the object; every other one was held before.
    rw [Slot.mem_held_cons, streams, List.mem_singleton]
    rw [listens_subscribe] at listens
    split at listens
    · rename_i newest
      exact .inl (Prod.ext rfl newest)
    · exact .inr (owned.held home id listens unheld)
  · exact Slot.mem_held_cons.mpr (.inr member)

/-- Whoever lets go of a handle can end its own streams of that registry at once. -/
theorem leave (owned : Owned origin fabric (object :: objects))
    (registry : object.registry? = some home) (ids : List Nat)
    (own : ∀ stream ∈ object.streams, ∃ id ∈ ids, stream = (home, id)) :
    Owned origin (fabric.setRegistry home ((fabric.registry home).release.cancelAll ids).value)
      objects := by
  have holder := Slot.holders_cons_pos registry objects
  have inside := owned.reached home holder
  refine owned.put inside (.trans (.serve (owned.lives holder) .release) (.cancelAll _ ids)) ?_
    (fun other elsewhere => ?_) (fun id listens unheld => ?_) (fun other id elsewhere member => ?_)
    (List.forall_mem_cons.mp owned.handlesDistinct).2
  · -- One handle is given up, and one holder is gone.
    rw [cancelAll_frame]
    have handles := owned.handles home inside
    rw [Slot.holders_cons, if_pos registry] at handles
    show (fabric.registry home).handles - 1 = _
    omega
  · rw [Slot.holders_cons, registry, if_neg fun same => elsewhere (Option.some.inj same).symm]
    rfl
  · -- A stream of the object that is gone was ended with it, so it does not listen any more.
    rw [listens_cancelAll, Bool.and_eq_true] at listens
    obtain ⟨kept, listens⟩ := listens
    refine (Slot.mem_held_cons.mp (owned.held home id listens unheld)).resolve_left fun held => ?_
    obtain ⟨same, member, equal⟩ := own _ held
    obtain rfl : id = same := (Prod.mk.inj equal).2
    exact of_decide_eq_true kept member
  · -- Streams of other registries are not those of this object.
    refine (Slot.mem_held_cons.mp member).resolve_left fun held => ?_
    obtain ⟨same, _, equal⟩ := own _ held
    exact elsewhere (Prod.mk.inj equal).1

/-- Whoever ends the one stream that it holds need not hold it any more. -/
theorem finish (owned : Owned origin fabric (object :: objects)) {stream : Nat}
    (registry : object.registry? = none) (own : object.streams = [(home, stream)]) :
    Owned origin (fabric.setRegistry home ((fabric.registry home).cancel stream).value)
      objects := by
  have ended := owned.evolvesTo (fabric.evolvesTo_cancel home stream)
  -- The object held no handle, so the count of holders stays.
  have same (other : Nat) :
      Slot.holders (object :: objects) other = Slot.holders objects other := by
    simp [Slot.holders_cons, registry]
  refine ⟨ended.evolves, ended.attached, fun other known => ?_, fun other holder => ?_,
    fun other id listens unheld => ?_, (List.forall_mem_cons.mp owned.handlesDistinct).2⟩
  · rw [ended.handles other known, same]
  · exact ended.reached other (same other ▸ holder)
  · -- The one stream of the object was ended, so it cannot be the one that still listens.
    refine (Slot.mem_held_cons.mp (ended.held other id listens unheld)).resolve_left fun held => ?_
    rw [own] at held
    obtain ⟨here, this⟩ := Prod.mk.inj (List.mem_singleton.mp held)
    subst here this
    have inside := Fabric.lt_of_listens listens
    rw [Fabric.size_setRegistry] at inside
    rw [Fabric.registry_setRegistry, if_pos ⟨rfl, inside⟩, listens_cancel] at listens
    simp at listens

/-- Whoever drops an object lets go of its handle, and only ends the streams that it holds. -/
theorem drop (owned : Owned origin fabric (object :: objects)) :
    Owned origin (fabric.dropSlot object).value objects := by
  -- Objects differ in what they hold: a handle, a handle with streams, one stream, or nothing here.
  cases object with
  | registry home | view home => exact owned.leave rfl [] nofun
  | cluster cluster home =>
    refine owned.leave rfl _ fun stream member => ?_
    obtain ⟨id, held, rfl⟩ :=
      List.mem_map.mp (show stream ∈ cluster.launcher.held.map _ from member)
    exact ⟨id, held, rfl⟩
  | stream home stream | projected home stream => exact owned.finish rfl rfl
  | probe | balancer | picks => exact owned.go rfl rfl
  | feed id => exact (owned.go rfl rfl).evolvesTo (fabric.evolvesTo_setFeed id _)
  | resolver service | pick service =>
    exact (owned.go rfl rfl).evolvesTo (fabric.evolvesTo_releaseService service)

/-- Whoever listens to the membership of a cluster is one of its nodes, or known otherwise. -/
theorem subscribersHeld {cluster : Cluster Recorder Nat}
    (owned : Owned origin fabric (.cluster cluster home :: objects)) :
    SubscribersHeld Recorder.HandlesDistinct Recorder.held (fabric.registry home)
      (fun id => (home, id) ∈ fabric.held ∨ (home, id) ∈ Slot.held objects)
      cluster (fabric.registry home) := by
  have holder : 0 < Slot.holders (.cluster cluster home :: objects) home :=
    Slot.holders_cons_pos rfl objects
  refine ⟨owned.live holder, .refl _, rfl, (List.forall_mem_cons.mp owned.handlesDistinct).1, ?_⟩
  intro id listens
  -- Whoever listens without a task is held by an object, the cluster or one of the others.
  by_cases task : (home, id) ∈ fabric.held
  · exact .inr (.inl task)
  · rcases Slot.mem_held_cons.mp (owned.held home id listens task) with own | others
    · obtain ⟨same, held, equal⟩ := List.mem_map.mp own
      obtain rfl : same = id := (Prod.mk.inj equal).2
      exact .inl held
    · exact .inr (.inr others)

/-- A cluster goes on with its membership, and accounts for the streams of its nodes. -/
theorem operate {cluster later : Cluster Recorder Nat}
    (owned : Owned origin fabric (.cluster cluster home :: objects))
    (subscribersHeld : SubscribersHeld Recorder.HandlesDistinct Recorder.held (fabric.registry home)
      (fun id => (home, id) ∈ fabric.held ∨ (home, id) ∈ Slot.held objects) later left) :
    Owned origin (fabric.setRegistry home left) (.cluster later home :: objects) := by
  -- The cluster holds the same handle as before.
  have same (other : Nat) : Slot.holders (.cluster later home :: objects) other =
      Slot.holders (.cluster cluster home :: objects) other := by
    rw [Slot.holders_cons, Slot.holders_cons]
    rfl
  have inside : home < fabric.registries.length :=
    owned.reached home (Slot.holders_cons_pos rfl objects)
  refine owned.put inside subscribersHeld.evolves ?_ (fun other _ => same other)
    (fun id listens unheld => ?_) (fun other id elsewhere member => ?_)
    (List.forall_mem_cons.mpr ⟨subscribersHeld.valid,
      (List.forall_mem_cons.mp owned.handlesDistinct).2⟩)
  · -- An operation of the cluster hands out no handle and takes none back.
    rw [same, subscribersHeld.handles, owned.handles home inside]
  · rw [Slot.mem_held_cons]
    -- Whoever still listens is a node of the cluster, or was held otherwise before.
    rcases subscribersHeld.held id listens with own | task | others
    · exact .inl (List.mem_map.mpr ⟨id, own, rfl⟩)
    · exact absurd task unheld
    · exact .inr others
  · -- Streams of other registries are not held by the cluster.
    refine Slot.mem_held_cons.mpr (.inr ((Slot.mem_held_cons.mp member).resolve_left fun own => ?_))
    obtain ⟨_, _, equal⟩ := List.mem_map.mp own
    exact elsewhere (Prod.mk.inj equal).1.symm

end Owned

end PeerCluster
