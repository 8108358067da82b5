import ToolGate.Host.Execution
import ToolGate.Settings
import ToolGate.Text.Octets

/-!
A host as the world of a task: it keeps what is written and recorded, starts processes, and says
whether its console shows colours. A process that cannot be started leaves no trace on the machine.
-/

namespace ToolGate.Host

/-- A host, and the process on it whose requests it answers. -/
structure Station where
  machine : Machine
  /-- The working directory of the process. -/
  directory : Place
  /-- What the console answers. -/
  console : Except ConsoleError ConsoleStatus := .ok .native
  consoleCalls : Nat := 0
  records : List String := []

namespace Station

/-- The names of the programs of the host, each with the program that runs. -/
def programs : List (String × String) :=
  [("sh", "sh"), ("dash", "sh")] ++ Utility.table.map fun entry => (entry.name, entry.name)

/-- A station in a directory of a host, with a text on the standard input. -/
def start (files : FileTree) (directory : Place) (input : String)
    (console : Except ConsoleError ConsoleStatus) : Station :=
  { machine := Machine.start files (Text.octets input), directory, console }

def written (station : Station) (channel : Channel) : String :=
  Text.ofOctets (station.machine.waiting channel)

def commonDirectories : List Place := [
  ["dev", "fd"], ["etc"], ["home"], ["opt"], ["proc"], ["root"], ["run"], ["srv"], ["sys"], ["tmp"],
  ["usr", "bin"], ["usr", "lib"], ["usr", "local", "bin"], ["usr", "local", "sbin"],
  ["usr", "sbin"], ["usr", "share"], ["var", "lib"], ["var", "log"], ["var", "tmp"]]

def commonLinks : List (Place × String) := [
  (["bin"], "usr/bin"), (["lib"], "usr/lib"), (["sbin"], "usr/sbin")]

/-- The names of the channels of a process among the files of a host. -/
def channelFiles : List (Place × Nat) :=
  [(["dev", "stdin"], 0), (["dev", "stdout"], 1), (["dev", "stderr"], 2)] ++
    (List.range 10).map fun number => (["dev", "fd", toString number], number)

def commonFiles : FileTree :=
  let tree := commonDirectories.foldl FileTree.makeDirectories FileTree.empty
  let tree := commonLinks.foldl (fun tree (place, target) => tree.put place (.link target)) tree
  let tree := tree.put ["dev", "null"] .sink
  let tree := channelFiles.foldl (fun tree (place, number) => tree.put place (.channel number)) tree
  programs.foldl (fun tree (name, program) => tree.put ["usr", "bin", name] (.program program)) tree

def view (station : Station) : FileView where
  isFile path := station.machine.files.isFile station.directory (Text.octets path)
  realPath path :=
    (station.machine.files.realPath station.directory (Text.octets path)).map Text.ofOctets

/-- The path of the working directory, if that still exists. -/
def current (station : Station) : Except OsError String :=
  match station.machine.files.node? station.directory with
  | some _ => .ok (Text.ofOctets station.directory.text)
  | none => .error .notFound

def surroundings (station : Station) (environment : Environment) : Surroundings where
  environment
  current := station.current
  files := station.view

def startDirectory (station : Station) : Option String → Except OsError Place
  | none => .ok station.directory
  | some path => do
    match ← station.machine.files.find station.directory (Text.octets path) with
    | (place, .directory) => return place
    | _ => .error .notDirectory

/-- Whether a text of a request holds a NUL character. -/
def holdsNul (request : SpawnRequest) : Bool :=
  let texts := request.program :: request.args ++ request.directory.toList ++
    request.environment.toList.flatMap fun (name, value) => [name, value]
  texts.any fun text => text.toList.contains '\x00'

def ownNumber : Nat := 99

/-- Starts a process and waits for its end. Its program is seen from the directory in which it
starts, and a bare name is looked up by its own environment. -/
def spawn (station : Station) (request : SpawnRequest) : Except OsError (WaitStatus × Machine) := do
  if holdsNul request then .error .nulInData
  else
    let directory ← station.startDirectory request.directory
    let program := Text.octets request.program
    let list := (request.environment.get? "PATH").map Text.octets
    let image ← Loading.loadNamed station.machine.files directory list program
      (program :: request.args.map Text.octets)
    let (number, machine) := station.machine.beginProcess ownNumber
    let process : Process := {
      words := image.words
      definitions := request.environment.toList.map fun (name, value) =>
        Text.octets (name ++ "=" ++ value)
      directory
      channels := [(0, Machine.input), (1, Machine.output), (2, Machine.errors)]
      number
      parent := ownNumber }
    let (status, machine) := Execution.launch image.program process machine
    return (status, machine.endProcess)

def channelOf : Stream → Channel
  | .out => Machine.output
  | .err => Machine.errors

def answer : (request : Request) → Station → request.Reply × Station
  | .write stream text, station =>
    let octets := Text.octets text
    ((), { station with machine := station.machine.write (channelOf stream) octets })
  | .log message, station => ((), { station with records := station.records ++ [message] })
  | .enableConsole, station =>
    (station.console, { station with consoleCalls := station.consoleCalls + 1 })
  | .start request, station =>
    match station.spawn request with
    | .ok (status, machine) => (.ok status, { station with machine })
    | .error error => (.error error, station)

/-- Hosts as a world. -/
def world : World Station := ⟨answer⟩

def run {ε α : Type} (station : Station) (task : Task ε α) : Except ε α × Station :=
  let outcome := task.run world station
  (outcome.result, outcome.state)

end Station

end ToolGate.Host
