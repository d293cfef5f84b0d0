import GroundStation.Command

/-!
What can go wrong with the link and with the station as a whole, each failure with its text. The
texts of the causes below a failure, outermost first, are its `causes`.
-/

namespace GroundStation

/-- A failed read or write on the line, by its text. -/
structure IoFault where
  text : String
deriving DecidableEq, Repr

/-- Why the link cannot do what is asked. -/
inductive LinkError where
  | notOpened (device : String) (cause : IoFault)
  | io (cause : IoFault)
  | alreadyRunning
  | closed
deriving DecidableEq, Repr

namespace LinkError

def message : LinkError → String
  | notOpened device cause => s!"failed to open port {device}: {cause.text}"
  | io cause => s!"link I/O error: {cause.text}"
  | alreadyRunning => "reader already running"
  | closed => "link closed"

def causes : LinkError → List String
  | notOpened _ cause | io cause => [cause.text]
  | alreadyRunning | closed => []

end LinkError

/-- Why the station cannot do what is asked. -/
inductive Failure where
  | invalidLayout (reason : String)
  | invalidCommand (cause : CommandError)
  | link (cause : LinkError)
  | io (cause : IoFault)
deriving DecidableEq, Repr

namespace Failure

def message : Failure → String
  | invalidLayout reason => s!"invalid protocol layout: {reason}"
  | invalidCommand cause => s!"invalid command: {cause.message}"
  | link cause => s!"transport error: {cause.message}"
  | io cause => s!"IO error: {cause.text}"

def causes : Failure → List String
  | invalidLayout _ => []
  | invalidCommand cause => [cause.message]
  | link cause => cause.message :: cause.causes
  | io cause => [cause.text]

end Failure

end GroundStation
