import PeerCluster.Cluster.Recorder
import PeerCluster.Proofs.Cluster.Sending
import PeerCluster.Proofs.Text.Legible

/-! The texts of peers, endpoints and changes tell them apart, and so do errors about them. -/

namespace PeerCluster

open Text

/-! ### Texts -/

namespace PeerAddress

/-- The text of a peer behind the bracket that follows its host. -/
def portsText (peer : PeerAddress) : List Char :=
  "registration=".toList ++ ((toString peer.registrationPort).toList
    ++ ',' :: (" discovery=".toList ++ ((toString peer.discoveryPort).toList
    ++ ',' :: (" replication=".toList ++ ((toString peer.replicationPort).toList ++ [']'])))))

/-- The text of a peer is its host and its ports with a bracket between them. -/
theorem toList_text (peer : PeerAddress) :
    peer.text.toList = peer.hostName.toList ++ '[' :: peer.portsText := by
  unfold text portsText
  simp only [String.toList_append, List.append_assoc]
  simp only [String.reduceToList, List.cons_append, List.nil_append]

/-- No bracket is opened behind the one that follows the host. -/
theorem bracket_not_mem_portsText (peer : PeerAddress) : '[' ∉ peer.portsText := by
  -- Neither the digits nor the words and commas between them are brackets.
  have digits (port : UInt16) : '[' ∉ (toString port).toList := not_mem_port (by decide) port
  refine List.not_mem_append (by decide) (List.not_mem_append (digits _) ?_)
  refine List.not_mem_cons_of_ne_of_not_mem (by decide) ?_
  refine List.not_mem_append (by decide) (List.not_mem_append (digits _) ?_)
  refine List.not_mem_cons_of_ne_of_not_mem (by decide) ?_
  exact List.not_mem_append (by decide) (List.not_mem_append (digits _) (by decide))

/-- The ports of a peer can be read off what follows its host. -/
theorem portsText_inj {peer peer' : PeerAddress} (same : peer.portsText = peer'.portsText) :
    peer.registrationPort = peer'.registrationPort ∧ peer.discoveryPort = peer'.discoveryPort ∧
      peer.replicationPort = peer'.replicationPort := by
  -- Each number ends where the comma or the bracket behind it stands.
  obtain ⟨registration, same⟩ := port_append_inj (by decide) (List.append_cancel_left same)
  obtain ⟨discovery, same⟩ := port_append_inj (by decide) (List.append_cancel_left same)
  obtain ⟨replication, _⟩ := port_append_inj (by decide) (List.append_cancel_left same)
  exact ⟨registration, discovery, replication⟩

/-- Peers with the same text are the same. -/
theorem text_injective : Function.Injective text := by
  intro peer peer' same
  have same := congrArg String.toList same
  rw [toList_text, toList_text] at same
  -- Brackets may stand in the host, but the last one is the one behind it.
  obtain ⟨host, ports⟩ := split_at_last peer.bracket_not_mem_portsText
    peer'.bracket_not_mem_portsText same
  obtain ⟨registration, discovery, replication⟩ := portsText_inj ports
  cases peer
  cases peer'
  cases String.toList_inj.mp host
  cases registration
  cases discovery
  cases replication
  rfl

end PeerAddress

/-- Endpoints with the same text are the same. -/
theorem Endpoint.text_injective : Function.Injective Endpoint.text := by
  intro target target' same
  have same := congrArg String.toList same
  simp only [text, String.toList_append, List.append_assoc] at same
  -- Colons may stand in the host, but the last one is the one behind it.
  obtain ⟨host, port⟩ :=
    split_at_last (not_mem_port (by decide) _) (not_mem_port (by decide) _) same
  cases target
  cases target'
  cases String.toList_inj.mp host
  cases port_inj port
  rfl

/-- No kind of change is more than a word. -/
theorem ChangeEvent.space_not_mem_kind {α : Type} (event : ChangeEvent α) :
    ' ' ∉ event.kind.toList := by
  cases event with
  | add => exact (by decide : ' ' ∉ "add".toList)
  | remove => exact (by decide : ' ' ∉ "remove".toList)

/-- Changes with the same text are the same if what joined or left has a text of its own. -/
theorem ChangeEvent.text_injective {α : Type} [ToString α]
    (injective : Function.Injective (toString : α → String)) :
    Function.Injective (text : ChangeEvent α → String) := by
  intro event event' same
  have same := congrArg String.toList same
  have space : " ".toList = [' '] := by decide
  simp only [text, String.toList_append, List.append_assoc, space, List.singleton_append] at same
  -- The first space ends the word for the kind, whatever the text behind it is.
  obtain ⟨kinds, texts⟩ := split_at_first event.space_not_mem_kind event'.space_not_mem_kind same
  have payloads := injective (String.toList_inj.mp texts)
  have distinct : "add".toList ≠ "remove".toList := by decide
  cases event with
  | add payload =>
    cases event' with
    | add payload' => exact congrArg add payloads
    | remove payload' => exact absurd kinds distinct
  | remove payload =>
    cases event' with
    | add payload' => exact absurd kinds.symm distinct
    | remove payload' => exact congrArg remove payloads

/-! ### Outlines -/

/-- The outline of a peer, given how characters of texts are written. -/
def PeerAddress.outlineBy (escape : Char → List Char) (peer : PeerAddress) : String :=
  recordOutline "PeerAddress" [
    ("host_name", quoteBy escape peer.hostName),
    ("registration_port", outline peer.registrationPort),
    ("discovery_port", outline peer.discoveryPort),
    ("replication_port", outline peer.replicationPort)]

/-- The outline of an endpoint, given how characters of texts are written. -/
def Endpoint.outlineBy (escape : Char → List Char) (target : Endpoint) : String :=
  recordOutline "Endpoint" [
    ("host_name", quoteBy escape target.hostName), ("port", outline target.port)]

/-- Peers with the same outline are the same. -/
theorem PeerAddress.outlineBy_injective {escape : Char → List Char} (escaping : Escaping escape) :
    Function.Injective (outlineBy escape) := by
  -- The outline is read from the front: the quoted host, and then each number up to its end.
  intro peer peer' same
  have same := congrArg String.toList same
  simp only [outlineBy, toList_recordOutline, fieldsText, List.append_cancel_left_eq,
    List.cons.injEq, true_and] at same
  obtain ⟨host, same⟩ := escaping.quoteBy_append_inj same
  simp only [List.cons.injEq, true_and, List.append_cancel_left_eq] at same
  obtain ⟨registration, same⟩ := port_append_inj (by decide) same
  simp only [List.cons.injEq, true_and, List.append_cancel_left_eq] at same
  obtain ⟨discovery, same⟩ := port_append_inj (by decide) same
  simp only [List.cons.injEq, true_and, List.append_cancel_left_eq] at same
  obtain ⟨replication, _⟩ := port_append_inj (by decide) same
  cases peer
  cases peer'
  cases host
  cases registration
  cases discovery
  cases replication
  rfl

/-- Endpoints with the same outline are the same. -/
theorem Endpoint.outlineBy_injective {escape : Char → List Char} (escaping : Escaping escape) :
    Function.Injective (outlineBy escape) := by
  -- The outline is read from the front: the quoted host, and then the number.
  intro target target' same
  have same := congrArg String.toList same
  simp only [outlineBy, toList_recordOutline, fieldsText, List.append_cancel_left_eq,
    List.cons.injEq, true_and] at same
  obtain ⟨host, same⟩ := escaping.quoteBy_append_inj same
  simp only [List.cons.injEq, true_and, List.append_cancel_left_eq] at same
  obtain ⟨port, _⟩ := port_append_inj (by decide) same
  cases target
  cases target'
  cases host
  cases port
  rfl

/-! ### Errors -/

/-- What is refused because it reports a change in place is refused for what it reports. -/
theorem ChangeNotification.eq_ofModify {α : Type} [Outline α] {notification : ChangeNotification α}
    {error : ClusterError} (refused : notification.toEvent.value = .error error) :
    notification.kind = .modify ∧ error = .ofModify notification.data := by
  -- By the kind of notification, of which one alone is refused.
  unfold toEvent at refused
  cases kind : notification.kind with
  | add | delete =>
    rw [kind] at refused
    cases refused
  | modify =>
    rw [kind] at refused
    exact ⟨rfl, (Except.error.inj refused).symm⟩

/-- Refusals of a kind of payload tell apart what they are about if outlines do. -/
theorem ChangeNotification.eq_of_refused {α : Type} [Outline α]
    (injective : Function.Injective (outline : α → String))
    {notification notification' : ChangeNotification α} {error : ClusterError}
    (refused : notification.toEvent.value = .error error)
    (refused' : notification'.toEvent.value = .error error) : notification = notification' := by
  -- Both errors have the outline of what was refused, and outlines tell payloads apart.
  obtain ⟨kind, rfl⟩ := eq_ofModify refused
  obtain ⟨kind', same⟩ := eq_ofModify refused'
  have data := injective (ClusterError.modifyNotSupported.inj same)
  cases notification
  cases notification'
  cases kind
  cases kind'
  cases data
  rfl

namespace Cluster

/-- An attempt to grow or to shrink fails because the node it is about is not where it should be. -/
inductive Drifts (error : ClusterError) : Nat → PeerAddress → Prop where
  /-- The address of a new node did not join where the node would stand. -/
  | growing {σ η : Type} {launchers : Launcher σ η} {cluster : Cluster σ η} {registry : Registry}
      {ports : NodePorts} {reply : LauncherReply σ η} {handle : η}
      (block : cluster.allocator.peek = .ok ports)
      (asked : launchReply launchers cluster registry ports = reply)
      (started : reply.result = .ok handle) (misplaced : registry.members.length ≠ cluster.size)
      (answer : (cluster.scaleUpByOne launchers registry).value.1 = .error error) :
      Drifts error cluster.size (cluster.specFor ports).address
  /-- The member at the position of a node is not that node. -/
  | shrinking {σ η : Type} {launchers : Launcher σ η} {cluster : Cluster σ η} {registry : Registry}
      {index : Nat} {node : RunningNode η} (found : cluster.servers[index]? = some node)
      (misplaced : registry.members[index]? ≠ some node.spec.address)
      (answer : (cluster.scaleDownByOne launchers registry index).value.1 = .error error) :
      Drifts error index node.spec.address

/-- The error names the position and the text of the address. -/
theorem Drifts.eq_membershipDrift {error : ClusterError} {index : Nat} {address : PeerAddress}
    (drifts : Drifts error index address) : error = .membershipDrift index address.text := by
  cases drifts with
  | @growing σ η launchers cluster registry ports reply handle block asked started misplaced
      answer =>
    have growth := scaleUpByOne_growth launchers cluster registry
    generalize cluster.scaleUpByOne launchers registry = outcome at growth answer
    -- The block and the reply are given, so of the outcomes only the drifted one is left.
    cases growth with
    | full none => cases block.symm.trans none
    | refused block' asked' refusal =>
      obtain rfl := Except.ok.inj (block.symm.trans block')
      rw [← asked', asked, started] at refusal
      cases refusal
    | grown block' asked' started' placed => exact absurd placed misplaced
    | drifted block' asked' started' misplaced' abandoned =>
      obtain rfl := Except.ok.inj (block.symm.trans block')
      have undone := value_of_abandoned abandoned
      exact (Except.error.inj answer).symm.trans (congrArg Prod.fst undone)
  | @shrinking σ η launchers cluster registry index node found misplaced answer =>
    have shrinking := scaleDownByOne_shrinking launchers cluster registry index
    generalize cluster.scaleDownByOne launchers registry index = outcome at shrinking answer
    cases shrinking with
    | unknown absent => cases absent.symm.trans found
    -- The node at the index is given, so it is the one that the error names.
    | @drifted other found' =>
      obtain rfl := Option.some.inj (found.symm.trans found')
      exact (Except.error.inj answer).symm
    -- In the other two outcomes the node is where it should be.
    | refused found' placed | stopped found' placed =>
      obtain rfl := Option.some.inj (found.symm.trans found')
      exact absurd placed misplaced

end Cluster

/--
Texts identify what they are about, whatever characters the names of hosts are made of.

Peers, endpoints and changes of either with the same text are the same. So are peers and endpoints
with the same outline, as long as the characters between quotes are written by themselves or by
escapes that tell them apart, which is how they are written. Hence two refusals of a change in place
are the same only if they refuse the same, and two complaints that the membership has drifted are
the same only if they are about the same position and the same address.
-/
theorem texts_identify_peers :
    Function.Injective PeerAddress.text ∧ Function.Injective Endpoint.text ∧
    Function.Injective (ChangeEvent.text : ChangeEvent PeerAddress → String) ∧
    Function.Injective (ChangeEvent.text : ChangeEvent Endpoint → String) ∧
    (∀ escape, Escaping escape → Function.Injective (PeerAddress.outlineBy escape) ∧
      Function.Injective (Endpoint.outlineBy escape)) ∧
    (Escaping Text.escape ∧ outline = PeerAddress.outlineBy Text.escape ∧
      outline = Endpoint.outlineBy Text.escape) ∧
    (∀ (notification notification' : ChangeNotification PeerAddress) payload,
      notification.toEvent.value = .error (.modifyNotSupported payload) →
      notification'.toEvent.value = .error (.modifyNotSupported payload) →
        notification = notification') ∧
    (∀ (notification notification' : ChangeNotification Endpoint) payload,
      notification.toEvent.value = .error (.modifyNotSupported payload) →
      notification'.toEvent.value = .error (.modifyNotSupported payload) →
        notification = notification') ∧
    (∀ error index index' address address', Cluster.Drifts error index address →
      Cluster.Drifts error index' address' → index = index' ∧ address = address') := by
  have peers : Function.Injective (outline : PeerAddress → String) :=
    PeerAddress.outlineBy_injective escaping_escape
  have endpoints : Function.Injective (outline : Endpoint → String) :=
    Endpoint.outlineBy_injective escaping_escape
  refine ⟨PeerAddress.text_injective, Endpoint.text_injective,
    ChangeEvent.text_injective PeerAddress.text_injective,
    ChangeEvent.text_injective Endpoint.text_injective,
    fun escape escaping => ⟨PeerAddress.outlineBy_injective escaping,
      Endpoint.outlineBy_injective escaping⟩,
    ⟨escaping_escape, rfl, rfl⟩,
    fun _ _ _ => ChangeNotification.eq_of_refused peers,
    fun _ _ _ => ChangeNotification.eq_of_refused endpoints, ?_⟩
  -- The errors are equal, so the positions and the texts in them are.
  intro error index index' address address' drifts drifts'
  obtain ⟨indices, texts⟩ := ClusterError.membershipDrift.inj
    (drifts.eq_membershipDrift.symm.trans drifts'.eq_membershipDrift)
  exact ⟨indices, PeerAddress.text_injective texts⟩

/-- A host that looks like a peer is not taken for it, and neither is what is said about it. -/
theorem texts_identify_peers_of_lookalike :
    let node : PeerAddress := ⟨"localhost", 13000, 13001, 13002⟩
    let lookalike : PeerAddress := ⟨node.text, 13000, 13001, 13002⟩
    let drift : ClusterError := .membershipDrift 0 node.text
    let modified : ChangeNotification Endpoint := ⟨.modify, ⟨"\", port: 1", 2⟩⟩
    let payload := outline modified.data
    lookalike.text ≠ node.text ∧ Cluster.Drifts drift 0 node ∧
      (∀ index address, Cluster.Drifts drift index address → index = 0 ∧ address = node) ∧
      modified.toEvent.value = .error (.modifyNotSupported payload) ∧
      ∀ data, (⟨.modify, data⟩ : ChangeNotification Endpoint).toEvent.value =
        .error (.modifyNotSupported payload) → data = modified.data := by
  intro node lookalike drift modified payload
  obtain ⟨peers, _, _, _, _, _, _, refusals, drifts⟩ := texts_identify_peers
  -- The texts of the two would be the same only if they were.
  have distinct : lookalike ≠ node := by decide
  -- An outsider is a member before the cluster starts its first node.
  have drifted : Cluster.Drifts drift 0 node := by
    let outsider : PeerAddress := ⟨"outsider", 1, 2, 3⟩
    let cluster : Cluster Recorder Nat := .ofConfig .standard (.fresh true)
    exact @Cluster.Drifts.growing drift _ _ Recorder.launcher cluster
      (Registry.empty.add outsider).value.2 (.startingAt 13000) _ 0 rfl rfl rfl (by decide) rfl
  refine ⟨fun same => distinct (peers same), drifted, ?_, rfl, ?_⟩
  · intro index address about
    exact drifts drift index 0 address node about drifted
  · intro data refused
    exact congrArg ChangeNotification.data (refusals _ modified payload refused rfl)

end PeerCluster
