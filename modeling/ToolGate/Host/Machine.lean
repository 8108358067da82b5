import ToolGate.Environment
import ToolGate.Host.FileTree
import ToolGate.WaitStatus

/-!
The state of a host: its files, the texts that are on their way between processes, the time that has
passed, and the signals that have not been met. A channel is what a process reads from or writes to;
two processes with the same channel share what is left in it.
-/

namespace ToolGate.Host

/-- One end of what a process reads from or writes to. -/
inductive Channel where
  /-- A text that waits to be read: what is written goes to its end, what is read leaves at its
  beginning. -/
  | text (index : Nat)
  /-- A file that has been opened. -/
  | file (index : Nat)
  /-- A directory, which cannot be read as a text. -/
  | directory
  /-- Nothing to read, and what is written is lost. -/
  | nothing
  deriving DecidableEq, Repr

abbrev Channels : Type := List (Nat × Channel)

/-- A file that has been opened: where it stands, how far it has been read or written, and whether
what is written goes to its end in any case. -/
structure Handle where
  place : Place
  offset : Nat := 0
  append : Bool := false
  deriving DecidableEq, Repr

/-- The files and the texts of a host, and what goes on there. -/
structure Machine where
  files : FileTree
  texts : Array String
  handles : Array Handle := #[]
  /-- How long the host has been running, in nanoseconds. -/
  clock : Nat := 0
  /-- The number of the process that was started last. -/
  lastNumber : Nat := 99
  /-- The numbers of the processes that wait for the one that runs, the latest first. -/
  waitingProcesses : List Nat := []
  /-- Processes, and the signals that were sent to them. -/
  signals : List (Nat × Nat) := []

namespace Machine

def input : Channel := .text 0

def output : Channel := .text 1

/-- The text that has been written to the standard error output. -/
def errors : Channel := .text 2

/-- A host with some files, and with a text on its standard input. -/
def start (files : FileTree) (input : String) : Machine :=
  { files, texts := #[input, "", ""] }

def content (machine : Machine) (place : Place) : String :=
  match machine.files.node? place with
  | some (.file content _) => content
  | _ => ""

def waiting (machine : Machine) : Channel → String
  | .text index => machine.texts.getD index ""
  | .file index =>
    match machine.handles[index]? with
    | some handle => String.ofList ((machine.content handle.place).toList.drop handle.offset)
    | none => ""
  | .directory | .nothing => ""

/-- Takes what waits in a channel, but for its end. -/
def leave (machine : Machine) (channel : Channel) (rest : String) : Machine :=
  match channel with
  | .text index => { machine with texts := machine.texts.setIfInBounds index rest }
  | .file index =>
    let move (handle : Handle) : Handle :=
      { handle with offset := (machine.content handle.place).length - rest.length }
    { machine with handles := machine.handles.modify index move }
  | .directory | .nothing => machine

def drain (machine : Machine) (channel : Channel) : String × Machine :=
  (machine.waiting channel, machine.leave channel "")

/-- Writes a text into a file that has been opened. What stands there already is written over. -/
def writeTo (machine : Machine) (index : Nat) (handle : Handle) (text : String) : Machine :=
  match machine.files.node? handle.place with
  | some (.file content executable) =>
    let offset := if handle.append then content.length else handle.offset
    let chars := content.toList
    let gap := List.replicate (offset - chars.length) '\x00'
    let written :=
      if offset = content.length then content ++ text
      else String.ofList (chars.take offset ++ gap ++ text.toList ++
        chars.drop (offset + text.length))
    { machine with
      files := machine.files.put handle.place (.file written executable)
      handles := machine.handles.setIfInBounds index
        { handle with offset := offset + text.length } }
  | _ => machine

def write (machine : Machine) (channel : Channel) (text : String) : Machine :=
  match channel with
  | .text index => { machine with texts := machine.texts.modify index (· ++ text) }
  | .file index =>
    match machine.handles[index]? with
    | some handle => machine.writeTo index handle text
    | none => machine
  | .directory | .nothing => machine

def channel (machine : Machine) (text : String) : Channel × Machine :=
  (.text machine.texts.size, { machine with texts := machine.texts.push text })

/-- A new channel to a file. -/
def handle (machine : Machine) (place : Place) (append : Bool) : Channel × Machine :=
  (.file machine.handles.size,
    { machine with handles := machine.handles.push { place, append } })

/-- Opens a file for reading, for a process with some channels. -/
def openIn (machine : Machine) (channels : Channels) (directory : Place) (path : String) :
    Except OsError (Channel × Machine) := do
  match ← machine.files.find directory path with
  | (place, .file _ _) => return machine.handle place false
  | (_, .directory) => return (.directory, machine)
  | (_, .channel number) =>
    match channels.lookup number with
    | some channel => return (channel, machine)
    | none => .error .notFound
  | _ => return (.nothing, machine)

/-- How a file is opened for writing. -/
inductive Opening where
  /-- The file starts empty. -/
  | fresh
  /-- The file keeps its content, and is written to at its end. -/
  | append
  /-- The file keeps its content, and is read or written from its beginning on. -/
  | update
  deriving DecidableEq, Repr

/-- Opens a file for writing, for a process with some channels, and creates it if it does not exist.
-/
def openOut (machine : Machine) (channels : Channels) (directory : Place) (path : String)
    (opening : Opening) : Except OsError (Channel × Machine) := do
  if path.endsWith "/" then
    let _ ← machine.files.locate directory (FileTree.withoutEndSlashes path) false
    .error .isDirectory
  let place ← machine.files.locate directory path true
  let handle (content : String) (executable : Bool) : Channel × Machine :=
    { machine with files := machine.files.put place (.file content executable) }.handle place
      (opening == Opening.append)
  match machine.files.node? place with
  | some .directory => .error .isDirectory
  | some .sink => return (.nothing, machine)
  | some (.channel number) =>
    match channels.lookup number with
    | some channel => return (channel, machine)
    | none => .error .notFound
  | some (.file content executable) =>
    return handle (if opening = .fresh then "" else content) executable
  | some _ => .error .accessDenied
  | none =>
    if machine.files.node? place.dropLast = some .directory then return handle "" false
    else .error .notFound

/-- The number of a new process, which the process that runs waits for. -/
def beginProcess (machine : Machine) (parent : Nat) : Nat × Machine :=
  let number := machine.lastNumber + 1
  (number,
    { machine with
      lastNumber := number
      waitingProcesses := parent :: machine.waitingProcesses })

/-- Goes back to the process that waited. -/
def endProcess (machine : Machine) : Machine :=
  { machine with waitingProcesses := machine.waitingProcesses.tail }

/-- Lets time pass. -/
def wait (machine : Machine) (nanoseconds : Nat) : Machine :=
  { machine with clock := machine.clock + nanoseconds }

end Machine

/-- A process that is about to run: the words of its command line, its variables as texts of the
form `NAME=value`, its working directory, its channels, its own number, that of the process that
started it, and the signals that it does not notice. -/
structure Process where
  words : List String
  definitions : List String
  directory : Place
  channels : Channels
  number : Nat
  parent : Nat
  unnoticed : List Nat := []

/-- Runs a program, given its name, in a process. -/
abbrev Launch : Type := String → Process → Machine → WaitStatus × Machine

namespace Process

def channel (process : Process) (number : Nat) : Channel :=
  (process.channels.lookup number).getD .nothing

/-- The value of a variable: that of the first text with its name. -/
def valueOf? (process : Process) (name : String) : Option String :=
  process.definitions.findSome? fun text =>
    let lead := name.toList ++ ['=']
    if lead.isPrefixOf text.toList then some (String.ofList (text.toList.drop lead.length))
    else none

end Process

end ToolGate.Host
