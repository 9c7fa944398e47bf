import PeerCluster.Session.Clustering
import PeerCluster.Session.Membership
import PeerCluster.Session.Service

/-! A session runs commands one after the other on the objects that it knows by name. -/

namespace PeerCluster

/-- Runs a command. -/
def Command.run : Command → SessionAction Answer
  | membership command => command.run
  | service command => command.run
  | cluster command => command.run
  | drop name => do return .flag (← SessionAction.drop name)
  | runTasks => do
    SessionAction.onFabric fun fabric => fabric.run.map fun after => ((), after)
    return .done

namespace Session

/-- Runs a command; the answer comes with what was logged. -/
def step (session : Session) (command : Command) : Logged (Answer × Session) :=
  command.run session

/-- Runs commands in order from nothing; each answer comes with what was logged for it. -/
def runAll (session : Session) : List Command → List (Logged Answer)
  | [] => []
  | command :: rest =>
    let stepped := session.step command
    stepped.map Prod.fst :: runAll stepped.value.2 rest

end Session

end PeerCluster
