import PeerCluster.Walkthrough

/-! The walkthrough on the command line: an optional file of settings, and a filter for its log. -/

namespace PeerCluster.Walkthrough

/-- The failure behind an error of the system. -/
def ReadFailure.ofError : IO.Error → ReadFailure
  | .noFileOrDirectory .. => .missing
  | .permissionDenied .. => .denied
  -- The system tells failures of one kind apart by their numbers.
  | .inappropriateType _ 21 _ => .directory
  | .inappropriateType .. => .belowFile
  | .invalidArgument _ 22 _ => .invalid
  | .invalidArgument _ 40 _ => .manyLinks
  | .invalidArgument .. => .longName
  | .hardwareFault .. => .brokenInput
  | .noSuchThing .. => .noDevice
  | .userError _ => .notText
  | error => .other (toString error)

/-- Reads the settings in a file. -/
def readSource (path : String) : IO Source := do
  try
    return .text (← IO.FS.readFile path)
  catch failure =>
    return .unreadable path (.ofError failure)

end PeerCluster.Walkthrough

open PeerCluster in
/-- Walks through a cluster with the settings in the file that the first argument names. -/
def main (arguments : List String) : IO UInt32 := do
  let source ← match arguments with
    | [] => pure Walkthrough.Source.standard
    | path :: _ => Walkthrough.readSource path
  let console := Walkthrough.Console.ofSource (.ofText (← IO.getEnv "RUST_LOG")) source
  for line in console.output do
    IO.println line
  if let some complaint := console.complaint? then
    IO.eprintln complaint
  return .ofNat console.exitCode
