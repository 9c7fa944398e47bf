import PeerCluster.Proofs.Cluster.Alignment
import PeerCluster.Proofs.Cluster.Asking
import PeerCluster.Proofs.Cluster.Unfolding
import PeerCluster.Proofs.Registry.Rebuilding

/-! Every node sees who was there when it was started, then itself, and then every later change. -/

namespace PeerCluster

open Machine

namespace Exchange

/-- The item that a call past a cluster took from a stream, if it took one. -/
def taken? (id : Nat) : Exchange ClusterCall ClusterAnswer → Option MemberEvent
  | ⟨.membership call, .membership answer, log⟩ => item? id ⟨call, answer, log⟩
  | _ => none

end Exchange

namespace Deployment

open Cluster ChangeEvent

variable {σ η : Type}

/-- The change of the membership that an answer to a single attempt tells of, if it tells of one. -/
def change? (deployment : Deployment σ η) (call : ClusterCall) : Option MemberEvent :=
  match exchange deployment call with
  | ⟨.up, .index index, _⟩ => (next deployment call).registry.members[index]?.map .add
  | ⟨.down _, .address address, _⟩ => some (.remove address)
  | ⟨.membership call, .membership answer, log⟩ => Exchange.change? ⟨call, answer, log⟩
  | _ => none

/-- The changes of the membership that the answers to single attempts tell of, in order. -/
def changes (deployment : Deployment σ η) : List ClusterCall → List MemberEvent
  | [] => []
  | call :: rest => (deployment.change? call).toList ++ changes (next deployment call) rest

/-- The items that calls past a cluster take from a stream, in order. -/
def given (deployment : Deployment σ η) (id : Nat) (calls : List ClusterCall) :
    List MemberEvent :=
  (exchanges deployment calls).filterMap (Exchange.taken? id)

variable {deployment : Deployment σ η}

/-- The first call of several takes its item before the others. -/
theorem given_cons (id : Nat) (call : ClusterCall) (calls : List ClusterCall) :
    deployment.given id (call :: calls) =
      ((exchange deployment call).taken? id).toList ++ (next deployment call).given id calls :=
  filterMap_exchanges_cons ..

/-- The items taken by two batches of calls follow each other. -/
theorem given_append (id : Nat) (calls more : List ClusterCall) :
    deployment.given id (calls ++ more) =
      deployment.given id calls ++ (after deployment calls).given id more := by
  simp only [given, exchanges_append, List.filterMap_append]

/-! ### Single attempts -/

/-- A node that starts opens a stream, lets go of others, and then joins. -/
theorem asked_of_index (live : deployment.registry.LiveAttached) {index : Nat}
    (started : answerTo deployment .up = .index index) :
    ∃ (node : RunningNode η) (released : List Nat),
      (deployment.launchers.launch deployment.cluster.launcher node.spec
        (.replicating deployment.registry.nextId)).result = .ok node.handle ∧
      (next deployment .up).cluster.servers = deployment.cluster.servers ++ [node] ∧
      deployment.change? .up = some (.add node.spec.address) ∧
      deployment.registry.Asked
        (.subscribe :: (released.map .cancel ++ [.add node.spec.address]))
        [.add node.spec.address] (next deployment .up).registry := by
  obtain ⟨launchers, cluster, registry⟩ := deployment
  have told : change? (⟨launchers, cluster, registry⟩ : Deployment σ η) .up =
      (next (⟨launchers, cluster, registry⟩ : Deployment σ η) .up).registry.members[index]?.map
        .add := by
    -- The call is answered by a position, so what it tells is who stands there.
    unfold change? exchange
    rw [started]
  rw [told]
  clear told
  unfold answerTo at started
  unfold next
  rw [perform_up] at started ⊢
  have growth := scaleUpByOne_growth launchers cluster registry
  generalize scaleUpByOne launchers cluster registry = outcome at growth started ⊢
  cases growth with
  -- Only a start is answered by a position.
  | full | refused | drifted => cases started
  | @grown ports reply handle log block asked granted placed errorFree =>
    obtain rfl := ClusterAnswer.index.inj started
    refine ⟨⟨cluster.specFor ports, handle⟩, reply.released, ?_, rfl, ?_, ?_⟩
    · rw [← granted, ← asked]
      rfl
    · -- The newcomer is the last of the members, as it is the last of the nodes.
      show Option.map _ (registry.members ++ [_])[cluster.size]? = _
      rw [← placed, List.getElem?_concat_length]
      rfl
    · exact asked_joinedBy cluster live ports reply.released

/-- Whoever is refused a node, or its end, is told of no change. -/
theorem change?_of_refused {call : ClusterCall} (about : ∀ asked, call ≠ .membership asked)
    (refused : (answerTo deployment call).granted = false) : deployment.change? call = none := by
  unfold change? exchange
  -- The answer tells of a change only if it is a position, an address, or one of the membership.
  cases answered : answerTo deployment call with
  | index | address => simp [answered, ClusterAnswer.granted] at refused
  | done | indices | failed => cases call <;> rfl
  | membership => cases call with
    | membership asked => exact absurd rfl (about asked)
    | up | upMany | down | shutdown => rfl

/-- What calls make of a membership are the changes and the items that an answer tells of. -/
structure MatchesCalls (deployment : Deployment σ η) (call : ClusterCall)
    (calls : List RegistryCall) : Prop where
  reached : after deployment.registry calls = (next deployment call).registry
  changes : deployment.registry.changes calls = (deployment.change? call).toList
  given : ∀ id, deployment.registry.given id calls = ((exchange deployment call).taken? id).toList

/-- Who is refused one more node has not changed the membership, where nodes stand with members. -/
theorem asked_of_refused (live : deployment.registry.LiveAttached)
    (placed : deployment.registry.members.length = deployment.cluster.size)
    (refused : ∀ index, answerTo deployment .up ≠ .index index) :
    (answerTo deployment .up).granted = false ∧
      ∃ calls, deployment.registry.Asked calls [] (next deployment .up).registry := by
  unfold answerTo at refused ⊢
  unfold next
  rw [perform_up] at refused ⊢
  have growth := scaleUpByOne_growth deployment.launchers deployment.cluster deployment.registry
  generalize scaleUpByOne _ _ _ = outcome at growth refused ⊢
  -- An attempt that finds the membership drifted is excluded by the sizes.
  cases growth with
  | full => exact ⟨rfl, _, .refl _⟩
  | refused => exact ⟨rfl, _, .handOut live _⟩
  | drifted block asked granted misplaced => exact absurd placed misplaced
  | grown => exact absurd rfl (refused _)

/-- A request for one more node starts it, or changes no member. -/
theorem matchesCalls_up (live : deployment.registry.LiveAttached)
    (placed : deployment.registry.members.length = deployment.cluster.size) :
    ∃ calls, deployment.MatchesCalls .up calls := by
  -- Either the node starts, and its address is told, or nothing has changed.
  by_cases started : ∃ index, answerTo deployment .up = .index index
  · obtain ⟨index, started⟩ := started
    obtain ⟨node, released, _, _, told, asked⟩ := asked_of_index live started
    exact ⟨_, asked.reached, told ▸ asked.changes, asked.given⟩
  · obtain ⟨refused, calls, asked⟩ := asked_of_refused live placed (not_exists.mp started)
    have untold : deployment.change? .up = none := change?_of_refused nofun refused
    exact ⟨calls, asked.reached, untold ▸ asked.changes, asked.given⟩

/-- A request to stop a node takes its address out of the membership, or changes no member. -/
theorem asked_down (live : deployment.registry.LiveAttached) (index : Nat) :
    let answer := answerTo deployment (.down index)
    let left := (next deployment (.down index)).registry
    (∃ address calls, answer = .address address ∧
      deployment.registry.Asked calls [.remove address] left) ∨
    (answer.granted = false ∧ ∃ calls, deployment.registry.Asked calls [] left) := by
  unfold answerTo next
  rw [perform_down]
  have shrinking := scaleDownByOne_shrinking deployment.launchers deployment.cluster
    deployment.registry index
  generalize scaleDownByOne _ _ _ index = outcome at shrinking ⊢
  -- Only a node that stops takes its address along.
  cases shrinking with
  | unknown | drifted => exact .inr ⟨rfl, _, .refl _⟩
  | refused => exact .inr ⟨rfl, _, .cancels _ _⟩
  | stopped found placed => exact .inl ⟨_, _, rfl, .stopped live placed _⟩

/-- A request to stop a node is told of as it is. -/
theorem matchesCalls_down (live : deployment.registry.LiveAttached) (index : Nat) :
    ∃ calls, deployment.MatchesCalls (.down index) calls := by
  -- Whether an address is told depends on whether the node has stopped.
  rcases asked_down live index with ⟨address, calls, stopped, asked⟩ | ⟨refused, calls, asked⟩
  · have told : deployment.change? (.down index) = some (.remove address) := by
      unfold change? exchange
      rw [stopped]
    exact ⟨calls, asked.reached, told ▸ asked.changes, asked.given⟩
  · have untold : deployment.change? (.down index) = none := change?_of_refused nofun refused
    exact ⟨calls, asked.reached, untold ▸ asked.changes, asked.given⟩

/-- What is asked past a cluster is asked of its membership, and told of just so. -/
theorem matchesCalls_membership (deployment : Deployment σ η) (asked : RegistryCall) :
    ∃ calls, deployment.MatchesCalls (.membership asked) calls := by
  by_cases last : (asked = .release && deployment.registry.handles ≤ 1) = true
  · -- Nobody gives up the handle of the cluster, so nothing is asked.
    have performed : Machine.perform deployment (.membership asked) =
        .quiet (.membership .unreachable, deployment) := if_pos last
    have told : exchange deployment (.membership asked) =
        ⟨.membership asked, .membership .unreachable, []⟩ := by
      simp only [exchange, answerTo, performed]
      rfl
    obtain rfl : asked = .release := of_decide_eq_true (Bool.and_eq_true_iff.mp last).1
    refine ⟨[], ?_, ?_, fun id => ?_⟩
    · simp only [next, performed, after]
      rfl
    · unfold change?
      rw [told]
      rfl
    · rw [told]
      rfl
  · have performed : Machine.perform deployment (.membership asked) =
        (deployment.registry.perform asked).map fun outcome =>
          (.membership outcome.1, { deployment with registry := outcome.2 }) := if_neg last
    have told : exchange deployment (.membership asked) =
        ⟨.membership asked, .membership (exchange deployment.registry asked).answer,
          (exchange deployment.registry asked).log⟩ := by
      simp only [exchange, answerTo, performed]
      rfl
    refine ⟨[asked], ?_, ?_, fun id => ?_⟩
    · simp only [next, performed, after]
      rfl
    · unfold change?
      rw [Registry.changes_cons, told]
      exact List.append_nil _
    · rw [Registry.given_cons, told]
      exact List.append_nil _

/-! ### Runs -/

/-- The membership is live and attached, and nodes stand with its members. -/
structure LiveAligned (deployment : Deployment σ η) : Prop where
  live : deployment.registry.LiveAttached
  inStep : deployment.InStep deployment.launchers

namespace LiveAligned

/-- A new cluster has no nodes and no members. -/
theorem start (launchers : Launcher σ η) (config : ClusterConfig) (launcher : σ) :
    (start launchers config launcher).LiveAligned :=
  ⟨⟨rfl, Registry.attached_empty⟩, rfl, rfl⟩

/-- A call that does not bypass the cluster keeps its nodes aligned with the members. -/
theorem next (liveAligned : deployment.LiveAligned) {call : ClusterCall}
    (own : call.bypassesCluster = false) :
    (next deployment call).LiveAligned := by
  -- The membership stays alive and attached, and stays in step with the nodes.
  obtain ⟨same, live⟩ := (keptByCalls_liveAttached deployment.launchers).next rfl
    liveAligned.live call
  exact ⟨live, same ▸ (step_driftFree liveAligned.inStep own).1⟩

/-- So do several of them, one after the other. -/
theorem after (liveAligned : deployment.LiveAligned) {calls : List ClusterCall}
    (single : ∀ call ∈ calls, call.single = true ∧ call.bypassesCluster = false) :
    (Machine.after deployment calls).LiveAligned :=
  after_of_kept (fun _ _ liveAligned single => LiveAligned.next liveAligned single.2)
    liveAligned single

/-- A single attempt is told of as it is. -/
theorem matchesCalls (liveAligned : deployment.LiveAligned) {call : ClusterCall}
    (single : call.single = true ∧ call.bypassesCluster = false) :
    ∃ calls, deployment.MatchesCalls call calls := by
  -- Requests for several nodes are none of the single attempts.
  cases call with
  | up => exact matchesCalls_up liveAligned.live liveAligned.inStep.aligned.size_eq.symm
  | down index => exact matchesCalls_down liveAligned.live index
  | membership asked => exact matchesCalls_membership deployment asked
  | upMany | shutdown => cases single.1

/-- What a run of single attempts makes of the membership is what its answers tell of. -/
theorem history (liveAligned : deployment.LiveAligned) {calls : List ClusterCall}
    (single : ∀ call ∈ calls, call.single = true ∧ call.bypassesCluster = false) :
    ∃ asked, Machine.after deployment.registry asked = (Machine.after deployment calls).registry ∧
      deployment.registry.changes asked = deployment.changes calls ∧
      ∀ id, deployment.registry.given id asked = deployment.given id calls := by
  -- The induction is on the calls: what each comes to is asked before what comes of the rest.
  induction calls generalizing deployment with
  | nil => exact ⟨[], rfl, rfl, fun _ => rfl⟩
  | cons call rest ih =>
    obtain ⟨first, others⟩ := List.forall_mem_cons.mp single
    obtain ⟨calls, reached, changes, given⟩ := liveAligned.matchesCalls first
    obtain ⟨more, reached', changes', given'⟩ := ih (liveAligned.next first.2) others
    refine ⟨calls ++ more, ?_, ?_, fun id => ?_⟩
    · rw [after_append, reached, reached']
      rfl
    · rw [Registry.changes_append, changes, reached, changes']
      rfl
    · rw [Registry.given_append, given, reached, given', given_cons]

end LiveAligned

/-- Only calls past a cluster take items from streams. -/
theorem given_of_own (id : Nat) {calls : List ClusterCall}
    (about : ∀ call ∈ calls, ∀ asked, call ≠ .membership asked) :
    deployment.given id calls = [] := by
  -- The cluster itself polls no stream, so no call of its own takes an item.
  induction calls generalizing deployment with
  | nil => rfl
  | cons call rest ih =>
    obtain ⟨first, others⟩ := List.forall_mem_cons.mp about
    rw [given_cons, ih others, List.append_nil]
    cases call with
    | membership asked => exact absurd rfl (first asked)
    | up | upMany | down | shutdown => rfl

/-- Single attempts take from a stream what the call that comes to them takes. -/
theorem given_attempts (deployment : Deployment σ η) (id : Nat) (call : ClusterCall) :
    deployment.given id (deployment.attempts call) =
      ((exchange deployment call).taken? id).toList := by
  -- A batch is made of attempts of the cluster, so it takes nothing, and neither does the call.
  cases call with
  | upMany count =>
    refine given_of_own id fun call member asked => ?_
    rw [eq_up_of_mem_ups member]
    exact nofun
  | shutdown =>
    refine given_of_own id fun call member asked => ?_
    obtain ⟨index, rfl⟩ := eq_down_of_mem_downs member
    exact nofun
  | up | down | membership => exact (given_cons id _ []).trans (List.append_nil _)

/-- The single attempts of calls take from a stream what the calls take. -/
theorem given_unfolded (deployment : Deployment σ η) (id : Nat) (calls : List ClusterCall) :
    deployment.given id (deployment.unfolded calls) = deployment.given id calls := by
  induction calls generalizing deployment with
  | nil => rfl
  | cons call rest ih =>
    rw [unfolded, given_append, given_attempts, after_attempts, ih, given_cons]

section Started

variable {launchers : Launcher σ η} {config : ClusterConfig} {launcher : σ}
  {calls earlier later : List ClusterCall}

/-- The stream of a node that starts is opened before the node joins, and all goes on from there. -/
theorem opens_of_started (own : ∀ call ∈ calls, call.bypassesCluster = false)
    (split : (start launchers config launcher).unfolded calls = earlier ++ .up :: later)
    {index : Nat}
    (started : answerTo (after (start launchers config launcher) earlier) .up = .index index) :
    let begun := start launchers config launcher
    let before := after begun earlier
    let joined := next before .up
    let stream := before.registry.nextId
    ∃ (node : RunningNode η) (past future : List RegistryCall),
      (launchers.launch before.cluster.launcher node.spec (.replicating stream)).result =
        .ok node.handle ∧
      joined.cluster.servers = before.cluster.servers ++ [node] ∧
      Registry.Opens (past ++ .subscribe :: future) past future stream ∧
      after Registry.empty past = before.registry ∧
      after Registry.empty (past ++ .subscribe :: future) = (after begun calls).registry ∧
      (next before.registry .subscribe).changes future =
        .add node.spec.address :: joined.changes later ∧
      Registry.empty.given stream (past ++ .subscribe :: future) = begun.given stream calls := by
  intro begun before joined stream
  have single : ∀ call ∈ begun.unfolded calls, _ := single_of_mem_unfolded own
  rw [split] at single
  obtain ⟨first, _, second⟩ : (∀ call ∈ earlier, _) ∧ _ ∧ ∀ call ∈ later, _ := by
    simpa only [List.forall_mem_append, List.forall_mem_cons] using single
  -- The run up to the launch, the launch, and the run after it, each as what it asks.
  have begins : begun.LiveAligned := .start launchers config launcher
  obtain ⟨past, reached, _, given⟩ := begins.history first
  have liveAligned : before.LiveAligned := begins.after first
  obtain ⟨node, released, launched, servers, _, asked⟩ := asked_of_index liveAligned.live started
  have still : joined.LiveAligned := liveAligned.next rfl
  obtain ⟨more, reached', changes', given'⟩ := still.history second
  have same : before.launchers = launchers := launchers_after ..
  have final : (after begun calls).registry = (after joined later).registry := by
    rw [← after_unfolded begun calls, split, after_append]
    rfl
  -- The stream is opened as soon as the launch is asked for.
  have opened : answerTo before.registry .subscribe = .opened stream :=
    congrArg (·.value.1) (Registry.perform_of_lives liveAligned.live.lives .subscribe)
  let joining : List RegistryCall := released.map .cancel ++ [.add node.spec.address]
  -- What the launcher lets go of is no change, so the node joins as the first one.
  have joins : (next before.registry .subscribe).changes joining = [.add node.spec.address] :=
    (Registry.changes_cons before.registry joining .subscribe).symm.trans asked.changes
  have there : after (next before.registry .subscribe) joining = joined.registry := asked.reached
  refine ⟨node, past, joining ++ more, same ▸ launched, servers, ⟨rfl, ?_⟩, reached, ?_, ?_, ?_⟩
  · show answerTo (after begun.registry past) .subscribe = _
    rw [reached, opened]
  · show after begun.registry (past ++ ((.subscribe :: joining) ++ more)) = _
    rw [after_append, after_append, reached, asked.reached, reached', final]
  · rw [Registry.changes_append, joins, there, changes']
    rfl
  · -- Nothing is taken by the launch itself.
    show begun.registry.given stream (past ++ ((.subscribe :: joining) ++ more)) = _
    rw [Registry.given_append, Registry.given_append, given, reached, asked.reached, asked.given,
      given', List.nil_append, ← given_unfolded begun stream calls, split, given_append, given_cons]
    rfl

end Started

/--
Every node sees who was there when it was started, then itself, and then every later change.

A request for several nodes counts as that many requests for one. What a node is given on the
stream with which it was launched, as that stream projects it, are the endpoints for replication of
the members before it in their order, of itself, and of all changes since, up to the end of the
stream. Its own leave is one of them if it is no member any more. If the stream never ended, not
even with the node, nothing of this is missing once it is asked until it is not ready, and whoever
follows it has the endpoints of those who are members by then.
-/
theorem node_follows_from_start (launchers : Launcher σ η) (config : ClusterConfig) (launcher : σ)
    {calls earlier later : List ClusterCall} (own : ∀ call ∈ calls, call.bypassesCluster = false)
    (split : (start launchers config launcher).unfolded calls = earlier ++ .up :: later)
    {index : Nat}
    (started : answerTo (after (start launchers config launcher) earlier) .up = .index index) :
    let begun := start launchers config launcher
    let before := after begun earlier
    let joined := next before .up
    let final := after begun calls
    let stream : EndpointEvents := .replicating before.registry.nextId
    let see := stream.projection.projectEvent
    let given := (begun.given stream.upstream calls).map see
    let rest := (final.registry.drain stream.upstream none).1.items.map see
    let projection := Projection.ofRole .replication
    ∃ node : RunningNode η,
      (launchers.launch before.cluster.launcher node.spec stream).result = .ok node.handle ∧
      joined.cluster.servers = before.cluster.servers ++ [node] ∧
      let law := (before.registry.members.map projection.project).map .add ++
        .add (projection.project node.spec.address) ::
          (joined.changes later).map projection.projectEvent
      given <+: law ∧
      (node.spec.address ∉ final.registry.members →
        .remove node.spec.address ∈ joined.changes later) ∧
      (final.registry.listens stream.upstream = true →
        given ++ rest = law ∧
        (rebuild [] (given ++ rest)).Perm (final.registry.members.map projection.project)) := by
  intro begun before joined final stream see given rest projection
  obtain ⟨node, past, future, launched, servers, opens, reached, final', changes, given'⟩ :=
    opens_of_started own split started
  refine ⟨node, launched, servers, ?_⟩
  intro law
  obtain ⟨start, _, reached'⟩ := opens.members_start
  rw [reached] at start reached'
  rw [final'] at reached'
  let begins := next before.registry .subscribe
  have changes : begins.changes future = .add node.spec.address :: joined.changes later := changes
  -- What a registry has to give on the stream is what is promised, up to the projection.
  let whole : List MemberEvent := before.registry.members.map .add ++ begins.changes future
  have seen : whole.map projection.projectEvent = law := by
    simp only [whole, law, changes, List.map_append, List.map_map, List.map_cons]
    rfl
  -- Three promises: what was given, what is told of its end, and what a listener ends with.
  refine ⟨?_, fun gone => ?_, fun listens => ?_⟩
  · have beginning := opens.given_prefix
    rw [reached, given'] at beginning
    rw [← seen]
    exact beginning.map _
  · -- Whoever joins and is never told to leave is a member to the end.
    have joins : node.spec.address ∈ begins.members ++ [node.spec.address] := by simp
    have view := begins.rebuild_perm_members future (.refl _)
    rw [changes] at view
    refine by_contra fun kept => gone ?_
    have member : node.spec.address ∈
        rebuild (begins.members ++ [node.spec.address]) (joined.changes later) :=
      mem_rebuild_of_kept joins kept
    rw [reached']
    exact view.mem_iff.mp member
  · -- A stream that listens was never cancelled, so all that it awaits is still to come.
    have kept : RegistryCall.cancel stream.upstream ∉ future := by
      have listening := opens.listens
      rw [final'] at listening
      exact of_decide_eq_true (listening.symm.trans listens)
    have all := opens.given_append_drained kept
    rw [given', final', reached] at all
    have items : given ++ rest = law := by
      rw [← seen, ← List.map_append]
      exact congrArg _ all
    refine ⟨items, ?_⟩
    have view := begins.rebuild_map_perm_members projection.project future (.refl _)
    have tail : .add (projection.project node.spec.address) ::
        (joined.changes later).map projection.projectEvent =
      (begins.changes future).map (.map projection.project) := by
      rw [changes]
      rfl
    rw [items]
    simp only [law, rebuild_append, rebuild_additions, List.nil_append]
    rw [tail, reached', ← start]
    exact view

/-- Two nodes start, the later one is asked for an item of its stream, and the earlier one stops. -/
theorem node_follows_from_start_of_three_calls :
    let begun := start Recorder.launcher .standard (.fresh false)
    let calls := [.upMany 2, .membership (.poll 1), .down 0]
    let final := after begun calls
    let endpoint port : Endpoint := ⟨"localhost", port⟩
    (∀ call ∈ calls, call.bypassesCluster = false) ∧
      begun.unfolded calls = [.up] ++ .up :: [.membership (.poll 1), .down 0] ∧
      answerTo (after begun [.up]) .up = .index 1 ∧ final.registry.listens 1 = true ∧
      (begun.given 1 calls ++ (final.registry.drain 1 none).1.items).map
          (Projection.ofRole .replication).projectEvent =
        [.add (endpoint 13002), .add (endpoint 13012), .remove (endpoint 13002)] := by
  intro begun calls final endpoint
  have split : begun.unfolded calls = [.up] ++ .up :: [.membership (.poll 1), .down 0] := by decide
  have started : answerTo (after begun [.up]) .up = .index 1 := by decide
  have listens : final.registry.listens 1 = true := by decide
  obtain ⟨node, _, servers, _, _, whole⟩ := node_follows_from_start Recorder.launcher .standard
    (.fresh false) (by decide) split started
  have opened : (after begun [.up]).registry.nextId = 1 := by decide
  have present : (after begun [.up]).registry.members = [⟨"localhost", 13000, 13001, 13002⟩] := by
    decide
  -- The node that is promised is the second one that runs, which tells its address.
  have address : node.spec.address = ⟨"localhost", 13010, 13011, 13012⟩ := by
    have held : (next (after begun [.up]) .up).cluster.servers.map (·.spec.address) =
      [⟨"localhost", 13000, 13001, 13002⟩, ⟨"localhost", 13010, 13011, 13012⟩] := by decide
    have first : (after begun [.up]).cluster.servers.map (·.spec.address) =
      [⟨"localhost", 13000, 13001, 13002⟩] := by decide
    rw [servers, List.map_append, first] at held
    simpa using held
  have changed : (next (after begun [.up]) .up).changes [.membership (.poll 1), .down 0] =
      [.remove ⟨"localhost", 13000, 13001, 13002⟩] := by decide
  have items := (whole (opened ▸ listens)).1
  -- The promise is about the members and changes that were just computed.
  rw [opened, present, address, changed] at items
  refine ⟨by decide, split, started, listens, ?_⟩
  rw [List.map_append]
  dsimp only [begun, final]
  exact items.trans (by decide)

end Deployment

end PeerCluster
