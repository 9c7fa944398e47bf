/-! Where the walkthrough takes its settings from, and why a file of settings cannot be read. -/

namespace PeerCluster.Walkthrough

/-- Why a file could not be read. -/
inductive ReadFailure where
  | missing
  | denied
  | directory
  /-- A part of the path that is no directory has something below it. -/
  | belowFile
  | longName
  /-- The path leads through more links than are followed. -/
  | manyLinks
  /-- The file is there, but what is at its start cannot be had. -/
  | brokenInput
  /-- The file is not made for reading. -/
  | invalid
  /-- The device behind the file is not there. -/
  | noDevice
  | notText
  | other (reason : String)
deriving DecidableEq, Repr

/-- The words for a failure to read, with the number that the system gives it. -/
def ReadFailure.message : ReadFailure → String
  | missing => "No such file or directory (os error 2)"
  | denied => "Permission denied (os error 13)"
  | directory => "Is a directory (os error 21)"
  | belowFile => "Not a directory (os error 20)"
  | longName => "File name too long (os error 36)"
  | manyLinks => "Too many levels of symbolic links (os error 40)"
  | brokenInput => "Input/output error (os error 5)"
  | invalid => "Invalid argument (os error 22)"
  | noDevice => "No such device or address (os error 6)"
  | notText => "stream did not contain valid UTF-8"
  | other reason => reason

/-- Where the walkthrough takes its settings from. -/
inductive Source where
  | standard
  /-- The contents of a file. -/
  | text (text : String)
  /-- A file that could not be read, and why. -/
  | unreadable (path : String) (failure : ReadFailure)

end PeerCluster.Walkthrough
