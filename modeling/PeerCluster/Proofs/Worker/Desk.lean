import PeerCluster.Proofs.Worker.Turn

/-! Desks: what is asked of a resolver by those who hold it, its picks, or the end of its feed. -/

namespace PeerCluster

/-- What holders of a resolver can ask; picks and streams are numbered as they are handed out. -/
inductive DeskRequest where
  /-- Fills an item into the feed behind the resolver. -/
  | send (kind : NotificationKind) (target : Endpoint)
  /-- Gives up the end of the feed that items are filled in at. -/
  | hangUp
  /-- Asks for a candidate; who has to wait for one is handed a pick. -/
  | pick
  | pollPick (index : Nat)
  | dropPick (index : Nat)
  /-- Asks for a stream of picks. -/
  | resolve
  | pollPicks (index : Nat)
  | dropPicks (index : Nat)
  | inspect
  | close
  | drop
deriving DecidableEq, Repr

/-- What is answered to holders of a resolver. -/
inductive DeskAnswer where
  | done
  /-- Nobody has what this would have to be asked through. -/
  | unreachable
  /-- Whether somebody could still take the item. -/
  | sent (accepted : Bool)
  /-- The answer to a pick, or to a stream of them, and whether it was woken for this. -/
  | chosen (answer : Poll Choice) (woken : Bool)
  | failed (error : ClusterError)
  | inspected (resolver : Resolver) (candidates : Nat)

/-! ### Ways to handle a resolver -/

/-- What is seen of a resolver by those who hold it, or the end of its feed. -/
structure Front where
  resolver : Resolver
  candidates : Nat
  /-- Whether somebody holds the end of a feed that items are filled in at. -/
  fillable : Bool
deriving DecidableEq, Repr

/-- What can be done to one resolver, its pool and its feed, in whatever they are kept. -/
structure Handling (Home : Type) where
  front? : Home → Option Front
  send : NotificationKind → Endpoint → Home → Bool × Home
  hangUp : Home → Home
  pollPick : Pick → Home → (Poll Choice × Bool) × Pick × Home
  pollPicks : PickStream → Home → (Poll Choice × Bool) × PickStream × Home
  retain : Home → Home
  release : Home → Home
  close : Home → Home

/-- Two outcomes have everything in common but where the resolver is kept. -/
structure Agree {α β Home Other : Type} (Alike : Home → Other → Prop) (first : α × β × Home)
    (second : α × β × Other) : Prop where
  answer : first.1 = second.1
  rest : first.2.1 = second.2.1
  homes : Alike first.2.2 second.2.2

/-- One way to handle a resolver does to one home what the other does to the other home. -/
structure Handling.Follows {Home Other : Type} (Alike : Home → Other → Prop)
    (handling : Handling Home) (model : Handling Other) : Prop where
  front? : ∀ {home other}, Alike home other → handling.front? home = model.front? other
  send : ∀ {home other} kind target, Alike home other →
    (handling.send kind target home).1 = (model.send kind target other).1 ∧
      Alike (handling.send kind target home).2 (model.send kind target other).2
  hangUp : ∀ {home other}, Alike home other → Alike (handling.hangUp home) (model.hangUp other)
  pollPick : ∀ {home other} pick, Alike home other →
    Agree Alike (handling.pollPick pick home) (model.pollPick pick other)
  pollPicks : ∀ {home other} stream, Alike home other →
    Agree Alike (handling.pollPicks stream home) (model.pollPicks stream other)
  retain : ∀ {home other}, Alike home other → Alike (handling.retain home) (model.retain other)
  release : ∀ {home other}, Alike home other → Alike (handling.release home) (model.release other)
  close : ∀ {home other}, Alike home other → Alike (handling.close home) (model.close other)

/-- What is seen of a worker. -/
def Worker.front (worker : Worker) : Front :=
  ⟨worker.resolver, worker.balancer.candidateCount,
    match worker.inbox with
    | .stream .. => false
    | .feed feed => feed.sending⟩

/-! ### What is held -/

/-- What there is of a resolver outside: itself, and the picks and streams handed out for it. -/
structure Ledger where
  held : Bool
  /-- Every pick that was handed out, unless it was answered or dropped. -/
  picks : List (Option Pick)
  /-- Every stream that was handed out, unless it came to its end or was dropped. -/
  streams : List (Option PickStream)
deriving DecidableEq, Repr

namespace Ledger

/-- The ledger of a resolver that was just created. -/
def opened : Ledger :=
  ⟨true, [], []⟩

/-- The pick with a number, if it is still there. -/
def pick? (ledger : Ledger) (index : Nat) : Option Pick :=
  ledger.picks[index]?.join

/-- The stream of picks with a number, if it is still there. -/
def stream? (ledger : Ledger) (index : Nat) : Option PickStream :=
  ledger.streams[index]?.join

/-- What becomes of a pick: it stays while it has to wait. -/
def setPick (ledger : Ledger) (index : Nat) (pick? : Option Pick) : Ledger :=
  { ledger with picks := ledger.picks.set index pick? }

/-- What becomes of a stream of picks. -/
def setStream (ledger : Ledger) (index : Nat) (stream? : Option PickStream) : Ledger :=
  { ledger with streams := ledger.streams.set index stream? }

variable {Home Other : Type}

/-- Hands a pick out if it has to wait; as long as it does, the resolver is not closed for it. -/
def handOut (handling : Handling Home) (ledger : Ledger) :
    (Poll Choice × Bool) × Pick × Home → DeskAnswer × Ledger × Home
  | ((answer, woken), rest, home) =>
    if answer.isPending then
      (.chosen answer woken, { ledger with picks := ledger.picks ++ [some rest] },
        handling.retain home)
    else (.chosen answer woken, ledger, home)

/-- Takes a pick back once it was answered. -/
def takeBack (handling : Handling Home) (ledger : Ledger) (index : Nat) :
    (Poll Choice × Bool) × Pick × Home → DeskAnswer × Ledger × Home
  | ((answer, woken), rest, home) =>
    if answer.isPending then (.chosen answer woken, ledger.setPick index (some rest), home)
    else (.chosen answer woken, ledger.setPick index none, handling.release home)

/-- Takes a stream of picks back once it came to its end, which nobody was kept waiting for. -/
def takeBackStream (ledger : Ledger) (index : Nat) :
    (Poll Choice × Bool) × PickStream × Home → DeskAnswer × Ledger × Home
  | ((answer, woken), rest, home) =>
    (.chosen answer woken,
      ledger.setStream index (if answer.isFinished then none else some rest), home)

/-- Answers a request. -/
def serve (handling : Handling Home) (ledger : Ledger) (home : Home) :
    DeskRequest → DeskAnswer × Ledger × Home
  | .send kind target =>
    if (handling.front? home).any (·.fillable) then
      let (accepted, home) := handling.send kind target home
      (.sent accepted, ledger, home)
    else (.unreachable, ledger, home)
  | .hangUp =>
    if (handling.front? home).any (·.fillable) then (.done, ledger, handling.hangUp home)
    else (.unreachable, ledger, home)
  | .pick =>
    if ledger.held then ledger.handOut handling (handling.pollPick .fresh home)
    else (.unreachable, ledger, home)
  | .pollPick index =>
    match ledger.pick? index with
    | some pick => ledger.takeBack handling index (handling.pollPick pick home)
    | none => (.unreachable, ledger, home)
  | .dropPick index =>
    match ledger.pick? index with
    | some _ => (.done, ledger.setPick index none, handling.release home)
    | none => (.unreachable, ledger, home)
  | .resolve =>
    if ledger.held then
      match (handling.front? home).bind (·.resolver.terminalError?) with
      | some error => (.failed error, ledger, home)
      | none => (.done, { ledger with streams := ledger.streams ++ [some .fresh] }, home)
    else (.unreachable, ledger, home)
  | .pollPicks index =>
    match ledger.stream? index with
    | some stream => ledger.takeBackStream index (handling.pollPicks stream home)
    | none => (.unreachable, ledger, home)
  | .dropPicks index =>
    match ledger.stream? index with
    | some _ => (.done, ledger.setStream index none, home)
    | none => (.unreachable, ledger, home)
  | .inspect =>
    match ledger.held, handling.front? home with
    | true, some front => (.inspected front.resolver front.candidates, ledger, home)
    | _, _ => (.unreachable, ledger, home)
  | .close =>
    if ledger.held then (.done, ledger, handling.close home) else (.unreachable, ledger, home)
  | .drop =>
    if ledger.held then (.done, { ledger with held := false }, handling.release home)
    else (.unreachable, ledger, home)

section Following

variable {Alike : Home → Other → Prop} {handling : Handling Home} {model : Handling Other}
  {home : Home} {other : Other}

/-- Picks that agree are handed out alike. -/
theorem handOut_follows (follows : handling.Follows Alike model) (ledger : Ledger)
    {asked : (Poll Choice × Bool) × Pick × Home} {again : (Poll Choice × Bool) × Pick × Other}
    (agree : Agree Alike asked again) :
    Agree Alike (ledger.handOut handling asked) (ledger.handOut model again) := by
  -- Both outcomes have the same answer, so both hand the pick out or neither does.
  obtain ⟨⟨answer, woken⟩, rest, home⟩ := asked
  obtain ⟨⟨_, _⟩, _, other⟩ := again
  obtain ⟨⟨⟩, ⟨⟩, still⟩ := agree
  dsimp only [handOut]
  split
  · exact ⟨rfl, rfl, follows.retain still⟩
  · exact ⟨rfl, rfl, still⟩

/-- Picks that agree are taken back alike. -/
theorem takeBack_follows (follows : handling.Follows Alike model) (ledger : Ledger) (index : Nat)
    {asked : (Poll Choice × Bool) × Pick × Home} {again : (Poll Choice × Bool) × Pick × Other}
    (agree : Agree Alike asked again) :
    Agree Alike (ledger.takeBack handling index asked) (ledger.takeBack model index again) := by
  -- Both outcomes have the same answer, so both take the pick back or neither does.
  obtain ⟨⟨answer, woken⟩, rest, home⟩ := asked
  obtain ⟨⟨_, _⟩, _, other⟩ := again
  obtain ⟨⟨⟩, ⟨⟩, still⟩ := agree
  dsimp only [takeBack]
  split
  · exact ⟨rfl, rfl, still⟩
  · exact ⟨rfl, rfl, follows.release still⟩

/-- Streams that agree are taken back alike, without anything being done to the resolver. -/
theorem takeBackStream_agree (ledger : Ledger) (index : Nat)
    {asked : (Poll Choice × Bool) × PickStream × Home}
    {again : (Poll Choice × Bool) × PickStream × Other} (agree : Agree Alike asked again) :
    Agree Alike (ledger.takeBackStream index asked) (ledger.takeBackStream index again) := by
  obtain ⟨⟨answer, woken⟩, rest, home⟩ := asked
  obtain ⟨⟨_, _⟩, _, other⟩ := again
  obtain ⟨⟨⟩, ⟨⟩, still⟩ := agree
  exact ⟨rfl, rfl, still⟩

/-- Two ways to handle a resolver that do the same lead to the same answers, whatever is asked. -/
theorem serve_follows (follows : handling.Follows Alike model) (alike : Alike home other)
    (ledger : Ledger) (request : DeskRequest) :
    Agree Alike (ledger.serve handling home request) (ledger.serve model other request) := by
  -- Every request is refused alike, or it comes to the same operations one after the other.
  have seen := follows.front? alike
  have same {answer : DeskAnswer} {left : Ledger} {home : Home} {other : Other}
      (alike : Alike home other) : Agree Alike (answer, left, home) (answer, left, other) :=
    ⟨rfl, rfl, alike⟩
  cases request with
  | send kind target =>
    obtain ⟨accepted, still⟩ := follows.send kind target alike
    dsimp only [serve]
    rw [seen]
    split
    · exact ⟨congrArg _ accepted, rfl, still⟩
    · exact same alike
  | hangUp =>
    dsimp only [serve]
    rw [seen]
    split
    · exact same (follows.hangUp alike)
    · exact same alike
  | pick =>
    dsimp only [serve]
    split
    · exact handOut_follows follows ledger (follows.pollPick .fresh alike)
    · exact same alike
  | pollPick index =>
    dsimp only [serve]
    split
    · exact takeBack_follows follows ledger index (follows.pollPick _ alike)
    · exact same alike
  | dropPick index =>
    dsimp only [serve]
    split
    · exact same (follows.release alike)
    · exact same alike
  | resolve =>
    dsimp only [serve]
    rw [seen]
    split
    · split
      · exact same alike
      · exact same alike
    · exact same alike
  | pollPicks index =>
    dsimp only [serve]
    split
    · exact takeBackStream_agree ledger index (follows.pollPicks _ alike)
    · exact same alike
  | dropPicks index =>
    dsimp only [serve]
    split
    · exact same alike
    · exact same alike
  | inspect =>
    dsimp only [serve]
    rw [seen]
    split
    · exact same alike
    · exact same alike
  | close =>
    dsimp only [serve]
    split
    · exact same (follows.close alike)
    · exact same alike
  | drop =>
    dsimp only [serve]
    split
    · exact same (follows.release alike)
    · exact same alike

end Following

end Ledger

/-! ### A worker as the home of its resolver -/

namespace Worker

/-- The worker whose resolver was just created, with nothing applied to its pool. -/
def started (role : String) (inbox : Inbox) : Worker :=
  ⟨.forRole role, .empty, inbox, .ready, 1⟩

/-- Fills an item into the feed, if somebody can still take it; the answer tells. -/
def send (kind : NotificationKind) (target : Endpoint) (worker : Worker) : Bool × Worker :=
  match worker.inbox with
  | .stream .. => (false, worker)
  | .feed feed =>
    if feed.listening then
      let filled := Inbox.feed { feed with queue := feed.queue.push kind target }
      (true, wake { worker with inbox := filled })
    else (false, worker)

/-- Gives up the end of the feed that items are filled in at. -/
def hangUp (worker : Worker) : Worker :=
  match worker.inbox with
  | .stream .. => worker
  | .feed feed => wake { worker with inbox := .feed { feed with sending := false } }

/-- Polls a pick. -/
def pollPick (pick : Pick) (worker : Worker) : (Poll Choice × Bool) × Pick × Worker :=
  let (answer, rest, balancer) := pick.poll worker.resolver worker.balancer
  ((answer, pick.isWoken worker.resolver), rest, { worker with balancer })

/-- Polls a stream of picks. -/
def pollPicks (stream : PickStream) (worker : Worker) :
    (Poll Choice × Bool) × PickStream × Worker :=
  let (answer, rest, balancer) := stream.poll worker.resolver worker.balancer
  ((answer, stream.isWoken worker.resolver), rest, { worker with balancer })

/-- Lets one more holder keep the resolver from being closed. -/
def retain (worker : Worker) : Worker :=
  { worker with owners := worker.owners + 1 }

/-- Closes the resolver and tells the task to stop. -/
def close (worker : Worker) : Worker :=
  let (resolver, balancer) := (worker.resolver.close worker.balancer).value
  { worker with resolver, balancer, task := worker.task.stopped }

/-- Takes the resolver away from one holder; with the last one it is closed. -/
def release (worker : Worker) : Worker :=
  let fewer := { worker with owners := worker.owners - 1 }
  if worker.owners = 1 then fewer.close else fewer

/-- How a resolver is handled when it is kept in a worker. -/
def handling : Handling Worker :=
  ⟨fun worker => some worker.front, send, hangUp, pollPick, pollPicks, retain, release, close⟩

end Worker

end PeerCluster
