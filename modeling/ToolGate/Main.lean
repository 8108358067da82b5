import ToolGate.Gate
import ToolGate.Host.Station

/-!
The command line. The program serves its words on a host in memory: the files that every host has,
and one project in the working directory. What the program and the processes on the host have
written goes to the streams of the real process afterwards, and the exit code is passed on.
-/

namespace ToolGate.CommandLine

def handedOn : List String :=
  ["HOME", "LC_ALL", "PATH", noColorVariable, forceColorVariable, rootVariable]

/-- A host with a project in a directory, and with a text on its standard input. -/
def hostAt (directory input : String) : Host.Station :=
  let place := (Host.FileTree.pieces (Text.octets directory)).filter (· != "")
  let files := (Host.Station.commonFiles.makeDirectories place).put (place ++ [manifestName])
    (.file "" false)
  Host.Station.start files place input (.ok .native)

/-- Serves the words of a command line. The result is the exit code, and the host afterwards. -/
def serveOn (host : Host.Station) (environment : Environment) (words : List String) :
    Int × Host.Station :=
  match host.run (Gate.program (host.surroundings environment) words) with
  | (.ok code, host) => (code, host)

partial def readAll (stream : IO.FS.Stream) (text : String) : IO String := do
  let line ← stream.getLine
  if line.isEmpty then return text else readAll stream (text ++ line)

/-- Serves a command line in the surroundings of the real process. A terminal is not read. -/
def serve (words : List String) : IO UInt32 := do
  let entries ← handedOn.filterMapM fun name => do
    return (← IO.getEnv name).map fun value => (name, value)
  let directory := (← IO.getEnv "PWD").getD "/"
  let stdin ← IO.getStdin
  let input ← if ← stdin.isTty then pure "" else readAll stdin ""
  let (code, host) := serveOn (hostAt directory input) (Environment.ofList entries) words
  (← IO.getStdout).putStr (host.written Host.Machine.output)
  (← IO.getStderr).putStr (host.written Host.Machine.errors)
  return UInt32.ofNat (code % 256).toNat

end ToolGate.CommandLine

def main (words : List String) : IO UInt32 :=
  ToolGate.CommandLine.serve words
