import PeerCluster.Proofs.Venue.Calls

/-! Vantage points: what a single consumer has and sees, as if there were no others. -/

namespace PeerCluster

/-! ### Registries as they are read -/

namespace Registry.Book

/-- The book of a registry that was just opened. -/
def opened : Book :=
  Registry.empty.book

/-- Whether somebody has a handle. -/
def lives (book : Book) : Bool :=
  book.handles ≠ 0

/-- Answers a call through a handle, with the change that it makes of the membership. -/
def serve (book : Book) : HandleCall → RegistryAnswer × Option MemberEvent × Book
  | .add peer =>
    (.added book.members.length, some (.add peer),
      { book with members := book.members ++ [peer], revision := book.revision + 1 })
  | .remove index =>
    match book.members[index]? with
    | none => (.failed (.peerIndexOutOfRange index book.members.length), none, book)
    | some peer =>
      (.removed peer, some (.remove peer),
        { book with members := book.members.eraseIdx index, revision := book.revision + 1 })
  | .retain => (.done, none, { book with handles := book.handles + 1 })
  | .release => (.done, none, { book with handles := book.handles - 1 })

end Registry.Book

/-! ### What a consumer has -/

/-- What becomes of a subscription when there is a change, or none, and somebody listens. -/
def Subscription.hear (change? : Option MemberEvent) (subscription : Subscription) :
    Subscription :=
  match change? with
  | none => subscription
  | some event => if subscription.cancelled then subscription else subscription.receive event

/-- What becomes of a worker when something was asked of a registry through a handle. -/
def Worker.hear (registry : Nat) (change? : Option MemberEvent) (lives : Bool) (worker : Worker) :
    Worker :=
  match worker.inbox with
  | .stream home projection subscription _ =>
    if home = registry then
      wake { worker with inbox := .stream home projection (subscription.hear change?) lives }
    else worker
  | .feed _ => worker

/-- What a consumer has, wherever it is. -/
inductive Station where
  | stream (registry : Nat) (projection? : Option Projection) (held : Bool)
    (subscription : Subscription) (lives : Bool)
  | desk (worker : Worker) (ledger : Ledger)

namespace Station

/-- What becomes of it when something was asked of a registry through a handle. -/
def hear (registry : Nat) (change? : Option MemberEvent) (lives : Bool) : Station → Station
  | stream home projection? held subscription before =>
    if home = registry then stream home projection? held (subscription.hear change?) lives
    else stream home projection? held subscription before
  | desk worker ledger => desk (worker.hear registry change? lives) ledger

/-- What becomes of it when every task was given its turns. -/
def rest : Station → Station
  | desk worker ledger => desk worker.rest ledger
  | station => station

/-- Answers a request about a stream; the answer tells also whether it is still held. -/
def serveStream (subscription : Subscription) (lives : Bool) (projection? : Option Projection)
    (held : Bool) (request : StreamRequest) : StreamAnswer × Bool × Subscription :=
  match held, request with
  | true, .next =>
    let (item, rest) := subscription.poll lives
    (.ofItem projection? item, held, rest)
  | true, .cancel => (.done, held, subscription.ended)
  | true, .inspect =>
    (.inspected subscription.replay.length subscription.cancelled subscription.sizeHint, held,
      subscription)
  | true, .drop => (.done, false, subscription.ended)
  | _, .count =>
    (.counted subscription.published subscription.delivered subscription.depth, held, subscription)
  | false, _ => (.unreachable, held, subscription)

/-- Answers a request. -/
def ask (station : Station) (request : Request) : VenueAnswer × Station :=
  match station, request with
  | stream registry projection? held subscription lives, .stream request =>
    let (answer, held, subscription) := serveStream subscription lives projection? held request
    (.stream answer, stream registry projection? held subscription lives)
  | desk worker ledger, .desk request =>
    let (answer, ledger, worker) := ledger.serve Worker.handling worker request
    (.desk answer, desk worker ledger)
  | _, _ => (.unreachable, station)

end Station

/-! ### What is seen from there -/

/-- What a consumer sees: the books of all registries, and what it has itself. -/
structure Vantage where
  observer : Nat
  books : List Registry.Book
  station? : Option Station

namespace Vantage

/-- What is seen where nothing is and nobody. -/
def empty (observer : Nat) : Vantage :=
  ⟨observer, [], none⟩

/-- The book of a registry that somebody has a handle of. -/
def book? (vantage : Vantage) (registry : Nat) : Option Registry.Book :=
  vantage.books[registry]?.filter Registry.Book.lives

/-- Makes the observer a consumer. -/
def create (vantage : Vantage) : Origin → VenueAnswer × Vantage
  | .stream registry projection? =>
    match vantage.book? registry with
    | none => (.unreachable, vantage)
    | some book =>
      (.streaming book.members.length,
        { vantage with
          station? := some (.stream registry projection? true (.startingAt book.members) true) })
  | .following registry projection runtime =>
    match vantage.book? registry, runtime with
    | none, _ => (.unreachable, vantage)
    | some _, false => (.failed (.runtimeUnavailable projection.label), vantage)
    | some book, true =>
      let worker := Worker.started projection.label
        (.stream registry projection (.startingAt book.members) true)
      (.done, { vantage with station? := some (.desk worker .opened) })
  | .consuming role _ false => (.failed (.runtimeUnavailable role), vantage)
  | .consuming role queue true =>
    let worker := Worker.started role (.feed ⟨queue, true, true⟩)
    (.done, { vantage with station? := some (.desk worker .opened) })

/-- Answers a call, which is one of the observer or one of no consumer. -/
def perform (vantage : Vantage) : VenueCall → VenueAnswer × Vantage
  | .openRegistry =>
    (.opened vantage.books.length, { vantage with books := vantage.books ++ [.opened] })
  | .handle id call =>
    match vantage.book? id with
    | none => (.unreachable, vantage)
    | some book =>
      let (answer, change?, after) := book.serve call
      (.handled answer,
        { vantage with
          books := vantage.books.set id after
          station? := vantage.station?.map (.hear id change? after.lives) })
  | .look id =>
    match vantage.book? id with
    | none => (.unreachable, vantage)
    | some book => (.looked book.members book.revision, vantage)
  | .create _ origin =>
    if vantage.station?.isSome then (.unreachable, vantage) else vantage.create origin
  | .ask _ request =>
    match vantage.station? with
    | none => (.unreachable, vantage)
    | some station =>
      let (answer, station) := station.ask request
      (answer, { vantage with station? := some station })
  | .run => (.done, { vantage with station? := vantage.station?.map .rest })

instance : Machine Vantage VenueCall VenueAnswer where
  perform vantage call := .quiet (vantage.perform call)

end Vantage

end PeerCluster
