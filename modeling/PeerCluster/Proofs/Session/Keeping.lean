import PeerCluster.Proofs.Session.Holding
import PeerCluster.Session

/-! A session keeps what its objects hold: whatever it is told, nothing is lost between names. -/

namespace PeerCluster

/-! ### Actions -/

namespace SessionAction

variable {α β : Type} {Before After : Session → Prop}

/-- From what holds before an action follows what holds of its answer and of the session then. -/
def Leads (Before : Session → Prop) (action : SessionAction α) (Then : α → Session → Prop) : Prop :=
  ∀ session, Before session → Then (action session).value.1 (action session).value.2

namespace Leads

/-- An answer leads to what holds already. -/
theorem pure {Then : α → Session → Prop} {answer : α}
    (holds : ∀ session, Before session → Then answer session) :
    Leads Before (Pure.pure answer) Then :=
  holds

/-- One action after another leads where the second one leads from where the first one does. -/
theorem bind {Between : α → Session → Prop} {Then : β → Session → Prop}
    {action : SessionAction α} {rest : α → SessionAction β} (first : Leads Before action Between)
    (then_ : ∀ answer, Leads (Between answer) (rest answer) Then) :
    Leads Before (action >>= rest) Then :=
  fun session holds => then_ _ _ (first session holds)

/-- An action may run where more holds than it needs. -/
theorem weaken {Prior : Session → Prop} {Then : α → Session → Prop} {action : SessionAction α}
    (leads : Leads Before action Then) (weaker : ∀ session, Prior session → Before session) :
    Leads Prior action Then :=
  fun session holds => leads session (weaker session holds)

/-- Looking a name up tells what it stands for, and changes nothing. -/
theorem slot? (name : String) :
    Leads Before (SessionAction.slot? name) fun found session =>
      Before session ∧ session.slots.lookup name = found :=
  fun _ holds => ⟨holds, rfl⟩

/-- Looking at the session changes nothing. -/
theorem get : Leads Before MonadState.get fun seen session => Before session ∧ seen = session :=
  fun _ holds => ⟨holds, rfl⟩

end Leads

end SessionAction

/-! ### Names -/

/-- Where names are distinct, what a name stands for is the one entry that has it. -/
theorem perm_of_lookup {entries : List (String × Slot)} (distinct : (entries.map Prod.fst).Nodup)
    {name : String} {object : Slot} (found : entries.lookup name = some object) :
    entries.Perm ((name, object) :: entries.filter (·.1 ≠ name)) := by
  -- The entry that is found splits the others into those before and those behind it.
  obtain ⟨front, back, rfl, _⟩ := List.lookup_eq_some_iff.mp found
  rw [List.map_append, List.map_cons, List.nodup_middle] at distinct
  obtain ⟨once, _⟩ := List.nodup_cons.mp distinct
  rw [← List.map_append] at once
  -- All other entries have other names.
  have others : (front ++ back).filter (·.1 ≠ name) = front ++ back := by
    refine List.filter_eq_self.mpr fun entry member => decide_eq_true fun same => once ?_
    exact List.mem_map.mpr ⟨entry, member, same⟩
  -- So the filter drops this entry, and nothing else.
  have kept : (front ++ (name, object) :: back).filter (·.1 ≠ name) = front ++ back := by
    rw [← others, List.filter_append, List.filter_append,
      List.filter_cons_of_neg (by simp)]
  rw [kept]
  exact List.perm_middle

/-- A name that stands for nothing is not in use. -/
theorem filter_of_lookup_none {entries : List (String × Slot)} {name : String}
    (absent : entries.lookup name = none) : entries.filter (·.1 ≠ name) = entries := by
  -- An entry with the name would have been found.
  refine List.filter_eq_self.mpr fun entry member => decide_eq_true fun same => ?_
  exact bne_iff_ne.mp (List.lookup_eq_none_iff.mp absent entry member) same.symm

namespace Session

/-- What the objects hold that a session knows, and some others that it is about to name. -/
structure Kept (origin : Fabric) (loose : List Slot) (session : Session) : Prop where
  names : (session.slots.map Prod.fst).Nodup
  owned : Owned origin session.fabric (loose ++ session.slots.map Prod.snd)

namespace Kept

variable {origin result : Fabric} {loose others : List Slot} {session : Session}

/-- What is done to a fabric without loss is done to a session without loss. -/
theorem onFabric (kept : session.Kept origin loose)
    (owned : Owned origin result (others ++ session.slots.map Prod.snd)) :
    ({ session with fabric := result } : Session).Kept origin others :=
  ⟨kept.names, owned⟩

/-- Nobody loses what it holds when tasks work and registries are asked. -/
theorem evolvesTo (kept : session.Kept origin loose) (evolvesTo : session.fabric.EvolvesTo result) :
    ({ session with fabric := result } : Session).Kept origin loose :=
  kept.onFabric (kept.owned.evolvesTo evolvesTo)

end Kept

end Session

/-- An object with a handle under some name is a holder of its registry. -/
theorem holders_pos_of_lookup {entries : List (String × Slot)} {name : String} {object : Slot}
    (found : entries.lookup name = some object) {home : Nat}
    (registry : object.registry? = some home) :
    0 < Slot.holders (entries.map Prod.snd) home := by
  -- The entry that is found is counted among the holders.
  obtain ⟨front, back, rfl, _⟩ := List.lookup_eq_some_iff.mp found
  refine List.countP_pos_iff.mpr ⟨object, ?_, decide_eq_true registry⟩
  rw [List.map_append, List.map_cons]
  exact List.mem_append_right _ List.mem_cons_self

/-- Whoever has a name that stood for another object is the only one that has it. -/
theorem nodup_renamed {entries : List (String × Slot)} (distinct : (entries.map Prod.fst).Nodup)
    (name : String) (object : Slot) :
    (((name, object) :: entries.filter (·.1 ≠ name)).map Prod.fst).Nodup := by
  -- No other entry that is kept has the name.
  refine List.nodup_cons.mpr ⟨fun used => ?_, (List.filter_sublist.map Prod.fst).nodup distinct⟩
  obtain ⟨entry, member, same⟩ := List.mem_map.mp used
  exact of_decide_eq_true (List.mem_filter.mp member).2 same

/-! ### Naming and dropping -/

namespace SessionAction

variable {α : Type} {origin : Fabric} {loose : List Slot} {object renewed : Slot} {name : String}

/-- An object that a name does not lead to any more is loose. -/
theorem leads_forget (name : String) :
    Leads (fun session => session.Kept origin loose ∧ session.slots.lookup name = some object)
      (forget name) fun _ => Session.Kept origin (object :: loose) := by
  rintro session ⟨kept, found⟩
  -- The entry that goes stands loose, and all the others stay named.
  have perm := (perm_of_lookup kept.names found).map Prod.snd
  refine ⟨(List.filter_sublist.map Prod.fst).nodup kept.names, kept.owned.perm ?_⟩
  exact (perm.append_left loose).trans List.perm_middle

/-- A loose object gets a name, and the one that had the name before is loose instead. -/
theorem leads_update (name : String) (before : Option Slot) :
    Leads (fun session => session.Kept origin (object :: loose) ∧
        session.slots.lookup name = before)
      (update name object) fun _ => Session.Kept origin (before.toList ++ loose) := by
  rintro session ⟨kept, found⟩
  refine ⟨nodup_renamed kept.names name object, ?_⟩
  -- What is loose and what is named together are the same objects as before.
  refine kept.owned.perm (List.Perm.trans (List.Perm.cons object ?_) List.perm_middle.symm)
  show (loose ++ session.slots.map Prod.snd).Perm
    ((before.toList ++ loose) ++ (session.slots.filter (·.1 ≠ name)).map Prod.snd)
  cases before with
  | none =>
    rw [filter_of_lookup_none found]
    exact .refl _
  | some before =>
    have perm := (perm_of_lookup kept.names found).map Prod.snd
    exact (perm.append_left loose).trans List.perm_middle

/-- What a loose object holds is let go of when it is dropped. -/
theorem leads_dropObject :
    Leads (Session.Kept origin (object :: loose)) (dropObject object)
      fun _ => Session.Kept origin loose :=
  fun _ kept => ⟨kept.names, kept.owned.drop⟩

/-- A loose object gets a name, and the one that had the name before is dropped. -/
theorem leads_put (name : String) :
    Leads (Session.Kept origin (object :: loose)) (put name object)
      fun _ => Session.Kept origin loose := by
  refine .bind (.slot? name) fun before => .bind (leads_update name before) fun _ => ?_
  -- There is something to drop only if the name was in use.
  cases before with
  | none => exact .pure fun _ kept => kept
  | some before => exact leads_dropObject

/-- An object takes the place of another one, if all the others are accounted for with it. -/
theorem leads_replace (name : String) :
    Leads (fun session => (session.slots.map Prod.fst).Nodup ∧ Owned origin session.fabric
        (renewed :: (session.slots.filter (·.1 ≠ name)).map Prod.snd))
      (update name renewed) fun _ => Session.Kept origin [] :=
  fun _ before => ⟨nodup_renamed before.1 name renewed, before.2⟩

/-! ### Actions that keep what objects hold -/

/-- An action loses nothing that is held under any name. -/
abbrev Keeps (origin : Fabric) (action : SessionAction α) : Prop :=
  Leads (Session.Kept origin []) action fun _ => Session.Kept origin []

/-- An action loses nothing that is held under any name, where one name stands for an object. -/
abbrev KeepsWith (origin : Fabric) (name : String) (object : Slot) (action : SessionAction α) :
    Prop :=
  Leads (fun session => session.Kept origin [] ∧ session.slots.lookup name = some object)
    action fun _ => Session.Kept origin []

/-- An answer loses nothing. -/
theorem keeps_pure (answer : α) : Keeps origin (pure answer) :=
  fun _ kept => kept

/-- Whoever needs no object under a name loses nothing with one. -/
theorem Keeps.with {action : SessionAction α} (keeps : Keeps origin action) :
    KeepsWith origin name object action :=
  .weaken keeps fun _ => And.left

/-- Nothing is lost with a name that stands for an object, or for none, if nothing is with both. -/
theorem keeps_named {rest : Option Slot → SessionAction α} (unknown : Keeps origin (rest none))
    (known : ∀ object, KeepsWith origin name object (rest (some object))) :
    Keeps origin (slot? name >>= rest) := by
  -- Whatever the name stands for is known from here on.
  refine .bind (.slot? name) fun found => ?_
  cases found with
  | none => exact .weaken unknown fun _ => And.left
  | some object => exact known object

/-- Whoever drops an object by its name drops all that it holds. -/
theorem keeps_drop (name : String) : Keeps origin (drop name) := by
  -- The object is loose between losing its name and being dropped.
  refine keeps_named (keeps_pure _) fun object => ?_
  exact .bind (leads_forget name) fun _ => .bind leads_dropObject fun _ => keeps_pure _

/-- An object that holds nothing gets a name. -/
theorem keeps_put (object : Slot) (registry : object.registry? = none)
    (handlesDistinct : object.HandlesDistinct) (name : String) :
    Keeps origin (put name object) :=
  .weaken (leads_put name) fun _ kept => ⟨kept.names, kept.owned.come registry handlesDistinct⟩

/-- An object that holds nothing goes with its name. -/
theorem keepsWith_forget (registry : object.registry? = none) (streams : object.streams = []) :
    KeepsWith origin name object (forget name) := by
  intro session holds
  -- The object is loose for want of a name, and goes from there.
  have loose := leads_forget name session holds
  exact ⟨loose.names, loose.owned.go registry streams⟩

/-- An object takes the place of another one that holds no more than it does. -/
theorem keepsWith_update (registry : renewed.registry? = object.registry?)
    (streams : ∀ stream ∈ object.streams, stream ∈ renewed.streams)
    (handlesDistinct : object.HandlesDistinct → renewed.HandlesDistinct) :
    KeepsWith origin name object (update name renewed) := by
  refine .weaken (leads_replace name) fun session ⟨kept, found⟩ => ⟨kept.names, ?_⟩
  -- The object and its successor stand at the head of all objects, one after the other.
  have owned := kept.owned.perm ((perm_of_lookup kept.names found).map Prod.snd)
  exact owned.swap registry streams (handlesDistinct
    (List.forall_mem_cons.mp owned.handlesDistinct).1)

end SessionAction

end PeerCluster
