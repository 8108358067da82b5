import ToolGate.Console
import ToolGate.Environment
import ToolGate.WaitStatus

/-!
Tasks: what the library does to its surroundings, as data. A task ends with a value or an error,
or makes a request and goes on with the reply. Nothing is said here about who answers. A `World`
answers every request from a state of its own, and `Task.run` records all that was exchanged.

Main statements: `Task.run_bind` says that running a sequence is running its parts one after the
other, and that nothing follows an error.
-/

namespace ToolGate

/-- A process to be started: a program, its arguments, its environment and, if it is not to be the
caller's, its working directory. -/
structure SpawnRequest where
  program : String
  args : List String
  environment : Environment
  directory : Option String
  deriving DecidableEq

/-- The two streams that text is written to. -/
inductive Stream where
  | out
  | err
  deriving DecidableEq, Repr

/-- What a task can ask for. -/
inductive Request where
  /-- Writes a text to a stream. -/
  | write (stream : Stream) (text : String)
  /-- Leaves a record for debugging. -/
  | log (message : String)
  /-- Starts a process and waits for its end. -/
  | start (process : SpawnRequest)
  /-- Asks the console to interpret escape sequences. -/
  | enableConsole

/-- The kind of answer that a request gets. -/
abbrev Request.Reply : Request → Type
  | .write _ _ => Unit
  | .log _ => Unit
  | .start _ => Except OsError WaitStatus
  | .enableConsole => Except ConsoleError ConsoleStatus

/-- A request together with the answer that it got. -/
abbrev Exchange : Type := (request : Request) × request.Reply

/-- A finite course of action: a value, an error, or a request and what follows each reply. -/
inductive Task (ε α : Type) : Type where
  | done (value : α)
  | fail (error : ε)
  | ask (request : Request) (next : request.Reply → Task ε α)

/-- Something that answers requests, one after the other, from a state. -/
structure World (σ : Type) where
  answer : (request : Request) → σ → request.Reply × σ

/-- How a task ended in a world: its result, the state left behind, and all exchanges in order. -/
structure Outcome (σ ε α : Type) where
  result : Except ε α
  state : σ
  trace : List Exchange

namespace Task

variable {σ ε δ α β γ : Type}

/-- Goes on with the value of a task; an error ends the whole. -/
def bind (task : Task ε α) (next : α → Task ε β) : Task ε β :=
  match task with
  | .done value => next value
  | .fail error => .fail error
  | .ask request resume => .ask request fun reply => (resume reply).bind next

instance : Monad (Task ε) where
  pure := .done
  bind := bind

def perform (request : Request) : Task ε request.Reply :=
  .ask request .done

def mapError (f : ε → δ) : Task ε α → Task δ α
  | .done value => .done value
  | .fail error => .fail (f error)
  | .ask request resume => .ask request fun reply => (resume reply).mapError f

/-- Ends with the result of a task, whether it is a value or an error. -/
def attempt : Task ε α → Task δ (Except ε α)
  | .done value => .done (.ok value)
  | .fail error => .done (.error error)
  | .ask request resume => .ask request fun reply => (resume reply).attempt

/-- A result that needs no request. -/
def ofExcept : Except ε α → Task ε α
  | .ok value => .done value
  | .error error => .fail error

def writeLine (stream : Stream) (text : String) : Task ε Unit :=
  perform (.write stream (text ++ "\n"))

def run (world : World σ) : Task ε α → σ → Outcome σ ε α
  | .done value, state => ⟨.ok value, state, []⟩
  | .fail error, state => ⟨.error error, state, []⟩
  | .ask request resume, state =>
    let (reply, after) := world.answer request state
    let rest := (resume reply).run world after
    { rest with trace := ⟨request, reply⟩ :: rest.trace }

theorem bind_done (task : Task ε α) : task.bind .done = task := by
  induction task with
  | done => rfl
  | fail => rfl
  | ask request resume ih => simp only [bind, ih]

theorem bind_assoc (task : Task ε α) (f : α → Task ε β) (g : β → Task ε γ) :
    (task.bind f).bind g = task.bind fun value => (f value).bind g := by
  induction task with
  | done => rfl
  | fail => rfl
  | ask request resume ih => simp only [bind, ih]

instance : LawfulMonad (Task ε) :=
  LawfulMonad.mk' (Task ε) (fun task => bind_done task) (fun _ _ => rfl) bind_assoc

/-- A sequence runs its second part after a value, from the state that the first part left, and
ends at an error of the first part. -/
theorem run_bind (world : World σ) (task : Task ε α) (next : α → Task ε β) (state : σ) :
    (task.bind next).run world state =
      match task.run world state with
      | ⟨.ok value, after, trace⟩ =>
        let rest := (next value).run world after
        { rest with trace := trace ++ rest.trace }
      | ⟨.error error, after, trace⟩ => ⟨.error error, after, trace⟩ := by
  induction task generalizing state with
  | done value => simp [bind, run]
  | fail error => simp [bind, run]
  | ask request resume ih =>
    simp only [bind, run, ih]
    rcases (resume (world.answer request state).1).run world (world.answer request state).2 with
      ⟨_ | _, _, _⟩ <;> simp

end Task

end ToolGate
