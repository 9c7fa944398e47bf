import PeerCluster.Proofs.Worker.Desk

/-! What a request at a desk comes to. -/

namespace PeerCluster

/-- A resolver on its own, with what is held of it. -/
structure Desk where
  worker : Worker
  ledger : Ledger

/-- Polling a pick concerns neither the resolver nor the source of its task. -/
theorem Worker.pollPick_keeps {worker left : Worker} {pick rest : Pick}
    {outcome : Poll Choice × Bool} (polled : worker.pollPick pick = (outcome, rest, left)) :
    left.resolver = worker.resolver ∧ left.inbox = worker.inbox := by
  cases polled
  exact ⟨rfl, rfl⟩

/-- So does polling a stream of picks. -/
theorem Worker.pollPicks_keeps {worker left : Worker} {stream rest : PickStream}
    {outcome : Poll Choice × Bool} (polled : worker.pollPicks stream = (outcome, rest, left)) :
    left.resolver = worker.resolver ∧ left.inbox = worker.inbox := by
  cases polled
  exact ⟨rfl, rfl⟩

namespace Desk

/-- Answers a request. -/
def serve (desk : Desk) (request : DeskRequest) : DeskAnswer × Desk :=
  let (answer, ledger, worker) := desk.ledger.serve Worker.handling desk.worker request
  (answer, ⟨worker, ledger⟩)

/-- All that a request can come to. -/
inductive Served (desk : Desk) : DeskRequest → DeskAnswer → Desk → Prop where
  /-- Nobody has what this would have to be asked through. -/
  | refused (request : DeskRequest) : Served desk request .unreachable desk
  | sent (kind : NotificationKind) (target : Endpoint) :
      Served desk (.send kind target) (.sent (desk.worker.send kind target).1)
        { desk with worker := (desk.worker.send kind target).2 }
  | hungUp : Served desk .hangUp .done { desk with worker := desk.worker.hangUp }
  /-- Whoever picks is answered at once. -/
  | picked (held : desk.ledger.held = true) {answer : Poll Choice} {woken : Bool} {rest : Pick}
      {left : Worker} (polled : desk.worker.pollPick .fresh = ((answer, woken), rest, left))
      (ready : answer.isPending = false) :
      Served desk .pick (.chosen answer woken) { desk with worker := left }
  /-- Whoever picks has to wait, and is handed the pick. -/
  | handedOut (held : desk.ledger.held = true) {woken : Bool} {rest : Pick} {left : Worker}
      (polled : desk.worker.pollPick .fresh = ((.pending, woken), rest, left)) :
      Served desk .pick (.chosen .pending woken)
        ⟨left.retain, { desk.ledger with picks := desk.ledger.picks ++ [some rest] }⟩
  /-- Whoever was handed a pick is answered, and leaves it there. -/
  | answered {index : Nat} {pick : Pick} (found : desk.ledger.pick? index = some pick)
      {answer : Poll Choice} {woken : Bool} {rest : Pick} {left : Worker}
      (polled : desk.worker.pollPick pick = ((answer, woken), rest, left))
      (ready : answer.isPending = false) :
      Served desk (.pollPick index) (.chosen answer woken)
        ⟨left.release, desk.ledger.setPick index none⟩
  /-- Whoever was handed a pick has to wait on. -/
  | waited {index : Nat} {pick : Pick} (found : desk.ledger.pick? index = some pick)
      {woken : Bool} {rest : Pick} {left : Worker}
      (polled : desk.worker.pollPick pick = ((.pending, woken), rest, left)) :
      Served desk (.pollPick index) (.chosen .pending woken)
        ⟨left, desk.ledger.setPick index (some rest)⟩
  | pickDropped {index : Nat} {pick : Pick} (found : desk.ledger.pick? index = some pick) :
      Served desk (.dropPick index) .done
        ⟨desk.worker.release, desk.ledger.setPick index none⟩
  /-- Whoever asks for a stream of picks is told that the service is over. -/
  | denied (held : desk.ledger.held = true) {error : ClusterError}
      (terminal : desk.worker.resolver.terminalError? = some error) :
      Served desk .resolve (.failed error) desk
  | resolved (held : desk.ledger.held = true)
      (serving : desk.worker.resolver.terminalError? = none) :
      Served desk .resolve .done
        { desk with
          ledger := { desk.ledger with streams := desk.ledger.streams ++ [some .fresh] } }
  | streamed {index : Nat} {stream : PickStream}
      (found : desk.ledger.stream? index = some stream) {answer : Poll Choice} {woken : Bool}
      {rest : PickStream} {left : Worker}
      (polled : desk.worker.pollPicks stream = ((answer, woken), rest, left)) :
      Served desk (.pollPicks index) (.chosen answer woken)
        ⟨left, desk.ledger.setStream index (if answer.isFinished then none else some rest)⟩
  | streamDropped {index : Nat} {stream : PickStream}
      (found : desk.ledger.stream? index = some stream) :
      Served desk (.dropPicks index) .done
        { desk with ledger := desk.ledger.setStream index none }
  | inspected (held : desk.ledger.held = true) :
      Served desk .inspect
        (.inspected desk.worker.resolver desk.worker.balancer.candidateCount) desk
  | closed (held : desk.ledger.held = true) :
      Served desk .close .done { desk with worker := desk.worker.close }
  | dropped (held : desk.ledger.held = true) :
      Served desk .drop .done ⟨desk.worker.release, { desk.ledger with held := false }⟩

/-- Every request comes to one of these. -/
theorem serve_cases (desk : Desk) (request : DeskRequest) :
    desk.Served request (desk.serve request).1 (desk.serve request).2 := by
  -- Each guard of a request that holds leads to one outcome, and otherwise it is refused.
  obtain ⟨worker, ledger⟩ := desk
  unfold serve
  -- Each request either finds what it is made through and is served, or it is refused.
  cases request with
  | send kind target =>
    dsimp only [Ledger.serve]
    split
    · exact .sent kind target
    · exact .refused _
  | hangUp =>
    dsimp only [Ledger.serve]
    split
    · exact .hungUp
    · exact .refused _
  | pick =>
    dsimp only [Ledger.serve]
    split
    · rename_i held
      rcases polled : worker.pollPick .fresh with ⟨⟨answer, woken⟩, rest, left⟩
      have same : Worker.handling.pollPick .fresh worker = _ := polled
      rw [same]
      dsimp only [Ledger.handOut]
      cases answer with
      | pending => exact .handedOut held polled
      | ready | finished => exact .picked held polled rfl
    · exact .refused _
  | pollPick index =>
    dsimp only [Ledger.serve]
    split
    · rename_i pick found
      rcases polled : worker.pollPick pick with ⟨⟨answer, woken⟩, rest, left⟩
      have same : Worker.handling.pollPick pick worker = _ := polled
      rw [same]
      dsimp only [Ledger.takeBack]
      cases answer with
      | pending => exact .waited found polled
      | ready | finished => exact .answered found polled rfl
    · exact .refused _
  | dropPick index =>
    dsimp only [Ledger.serve]
    split
    · rename_i found
      exact .pickDropped found
    · exact .refused _
  | resolve =>
    dsimp only [Ledger.serve]
    split
    · rename_i held
      split
      · rename_i terminal
        exact .denied held terminal
      · rename_i serving
        exact .resolved held serving
    · exact .refused _
  | pollPicks index =>
    dsimp only [Ledger.serve]
    split
    · rename_i stream found
      exact .streamed found rfl
    · exact .refused _
  | dropPicks index =>
    dsimp only [Ledger.serve]
    split
    · rename_i found
      exact .streamDropped found
    · exact .refused _
  | inspect =>
    dsimp only [Ledger.serve]
    split
    · rename_i front held seen
      obtain rfl := Option.some.inj seen
      exact .inspected held
    · exact .refused _
  | close =>
    dsimp only [Ledger.serve]
    split
    · rename_i held
      exact .closed held
    · exact .refused _
  | drop =>
    dsimp only [Ledger.serve]
    split
    · rename_i held
      exact .dropped held
    · exact .refused _

end Desk

end PeerCluster
