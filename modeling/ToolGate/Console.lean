import ToolGate.OsError

/-!
The console on which coloured text appears. It may have to be asked to interpret escape sequences.
-/

namespace ToolGate

/-- Whether the console interprets escape sequences. A console that rejects them is no failure. -/
inductive ConsoleStatus where
  | enabled
  | unsupported
  deriving DecidableEq, Repr

namespace ConsoleStatus

def isEnabled (status : ConsoleStatus) : Bool :=
  status == .enabled

def name : ConsoleStatus → String
  | .enabled => "Enabled"
  | .unsupported => "Unsupported"

/-- The status of the console of this library's host, which needs no switch. -/
def native : ConsoleStatus := .enabled

end ConsoleStatus

structure ConsoleError where
  call : String
  cause : OsError
  deriving DecidableEq, Repr

namespace ConsoleError

def message (error : ConsoleError) : String :=
  "Console call " ++ error.call ++ " failed: " ++ error.cause.message

/-- The message followed by that of the cause. -/
def chain (error : ConsoleError) : String :=
  error.message ++ ": " ++ error.cause.message

end ConsoleError

end ToolGate
