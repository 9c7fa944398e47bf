import PeerCluster.Error

/-! Structured log records, and computations that emit them in order beside their result. -/

namespace PeerCluster

/-- How grave a log record is. -/
inductive LogLevel where
  | error | warn | info | debug | trace
deriving DecidableEq, Repr

namespace LogLevel

/-- The word for a level. -/
def name : LogLevel → String
  | error => "ERROR"
  | warn => "WARN"
  | info => "INFO"
  | debug => "DEBUG"
  | trace => "TRACE"

/-- How much is logged when a level and all graver ones are on. -/
def verbosity : LogLevel → Nat
  | error => 1
  | warn => 2
  | info => 3
  | debug => 4
  | trace => 5

end LogLevel

/-- The part of the program that a log record comes from. -/
inductive LogSource where
  | event | registry | balancer | resolver | cluster | walkthrough
deriving DecidableEq, Repr

/-- The name under which a part of the program is filtered and shown. -/
def LogSource.target : LogSource → String
  | event => "spark_cluster::event"
  | registry => "spark_cluster::registry"
  | balancer => "spark_cluster::balancer"
  | resolver => "spark_cluster::resolver"
  | cluster => "spark_cluster::cluster"
  | walkthrough => "cluster_walkthrough"

/-- The value of a field of a log record. -/
inductive LogValue where
  /-- A count, position or port. -/
  | number (value : Nat)
  /-- A text that a printed line shows in quotes. -/
  | text (value : String)
  /-- The rendering of another value, which a printed line shows as it is. -/
  | rendered (value : String)
deriving DecidableEq, Repr

/-- One thing that happened, with its named details in the order of writing. -/
structure LogRecord where
  level : LogLevel
  source : LogSource
  message : String
  fields : List (String × LogValue)
deriving DecidableEq, Repr

/-- The field that carries the code of an error. -/
def ClusterError.codeField (error : ClusterError) : String × LogValue :=
  ("error.code", .text error.code)

/-- The field that carries the sentence of an error. -/
def ClusterError.messageField (error : ClusterError) : String × LogValue :=
  ("error.message", .rendered error.message)

/-- A result together with the records emitted on the way to it, oldest first. -/
structure Logged (α : Type) where
  value : α
  log : List LogRecord

namespace Logged

/-- A result that took nothing worth logging. -/
def quiet {α : Type} (value : α) : Logged α :=
  ⟨value, []⟩

/-- A single record and no result. -/
def emit (entry : LogRecord) : Logged Unit :=
  ⟨(), [entry]⟩

/-- Several records and no result. -/
def emitAll (entries : List LogRecord) : Logged Unit :=
  ⟨(), entries⟩

/-- Goes on with a result, adding what the rest emits after what was emitted already. -/
def andThen {α β : Type} (first : Logged α) (next : α → Logged β) : Logged β :=
  match first with
  | ⟨value, log⟩ =>
    let second := next value
    ⟨second.value, log ++ second.log⟩

/-- Changes a result and keeps its log. -/
def map {α β : Type} (change : α → β) : Logged α → Logged β
  | ⟨value, log⟩ => ⟨change value, log⟩

instance : Monad Logged where
  pure := quiet
  bind := andThen

end Logged

end PeerCluster
