import ToolGate.Options.Message

/-!
The arguments of the action that runs a single command: options of its own, then the command.
-/

namespace ToolGate

/-- One command to run, and how. -/
structure ExecArgs where
  quiet : Bool
  shell : Bool
  noShell : Bool
  /-- Texts of the form `KEY=VALUE`, as they were given. -/
  env : List String
  command : List String
  deriving DecidableEq, Repr

namespace ExecArgs

open Options

def grammar : Grammar where
  command := "devtask"
  version := "0.1.0"
  about := none
  leading := []
  trailing :=
    { name := "COMMAND", required := true, repeated := true
      about := "The program to run followed by its arguments" }
  options := [
    { long := "quiet", short := some 'q', kind := .switch
      about := "Do not echo the quoted command line before running it" },
    { long := "shell", kind := .switch
      about := "Run through the platform shell (\x60cmd /C\x60 or \x60/bin/sh -c\x60)" },
    { long := "no-shell", kind := .switch
      about := "Never run through the platform shell, even on Windows" },
    { long := "env", kind := .value "KEY=VALUE" true true
      about := "Set an environment variable for the command (\"KEY=VALUE\"); repeat for more" },
    { long := "help", short := some 'h', kind := .help, about := "Print help" }]
  conflicts := [("shell", "no-shell")]
  helpWhenEmpty := false

def ofReading (reading : Reading) : ExecArgs where
  quiet := reading.has "quiet"
  shell := reading.has "shell"
  noShell := reading.has "no-shell"
  env := reading.values "env"
  command := reading.trailing

def parse (words : List String) : Except ParseError ExecArgs :=
  (grammar.read words).map ofReading

/-- The choice about the shell; without one it is left to the platform. -/
def shellChoice (args : ExecArgs) : Option Bool :=
  if args.shell then some true
  else if args.noShell then some false
  else none

end ExecArgs

end ToolGate
