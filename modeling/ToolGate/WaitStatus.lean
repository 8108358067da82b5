/-!
The status word with which the system reports the end of a process, and its reading. The lowest
seven bits tell an exit from a death by a signal; the next byte but one bit holds the exit code.
-/

namespace ToolGate

/-- The 32 bits that the system reports for a child. -/
structure WaitStatus where
  bits : BitVec 32
  deriving DecidableEq, Repr

namespace WaitStatus

/-- The lowest seven bits: zero after an exit, otherwise the number of a signal or 127. -/
def lowSeven (status : WaitStatus) : Nat :=
  status.bits.toNat % 128

/-- The second byte: the exit code, or the signal that stopped the process. -/
def secondByte (status : WaitStatus) : Nat :=
  status.bits.toNat / 256 % 256

def exitCode? (status : WaitStatus) : Option Nat :=
  if status.lowSeven = 0 then some status.secondByte else none

def signal? (status : WaitStatus) : Option Nat :=
  if 1 ≤ status.lowSeven ∧ status.lowSeven ≤ 126 then some status.lowSeven else none

/-- Whether the system wrote a memory image of the killed process. -/
def coreDumped (status : WaitStatus) : Bool :=
  status.bits.toNat / 128 % 2 = 1

def stopSignal? (status : WaitStatus) : Option Nat :=
  if status.bits.toNat % 256 = 127 then some status.secondByte else none

/-- Whether the status reports that a stopped process goes on. -/
def isContinued (status : WaitStatus) : Bool :=
  status.bits.toNat = 0xffff

def exited (code : Nat) : WaitStatus :=
  ⟨BitVec.ofNat 32 (code % 256 * 256)⟩

def killed (signal : Nat) : WaitStatus :=
  ⟨BitVec.ofNat 32 (signal % 128)⟩

def ofInt (value : Int) : WaitStatus :=
  ⟨BitVec.ofInt 32 value⟩

/-- The names of the signals, from number 1 on. -/
def signalNames : List String :=
  ["HUP", "INT", "QUIT", "ILL", "TRAP", "ABRT", "BUS", "FPE", "KILL", "USR1", "SEGV", "USR2",
   "PIPE", "ALRM", "TERM", "STKFLT", "CHLD", "CONT", "STOP", "TSTP", "TTIN", "TTOU", "URG", "XCPU",
   "XFSZ", "VTALRM", "PROF", "WINCH", "IO", "PWR", "SYS"]

def signalText (signal : Nat) : String :=
  let name :=
    if signal = 0 then ""
    else match signalNames[signal - 1]? with
      | some name => " (SIG" ++ name ++ ")"
      | none => ""
  toString signal ++ name

def hexadecimal (value : Nat) : String :=
  String.ofList (Nat.toDigits 16 value)

def describe (status : WaitStatus) : String :=
  match status.exitCode?, status.signal?, status.stopSignal? with
  | some code, _, _ => "exit status: " ++ toString code
  | none, some signal, _ =>
    "signal: " ++ signalText signal ++ (if status.coreDumped then " (core dumped)" else "")
  | none, none, some signal => "stopped (not terminated) by signal: " ++ signalText signal
  | none, none, none =>
    if status.isContinued then "continued (WIFCONTINUED)"
    else "unrecognised wait status: " ++ toString status.bits.toInt ++ " 0x" ++
      hexadecimal status.bits.toNat

end WaitStatus

end ToolGate
