import ToolGate.Proofs.Execution.Trace

/-! Which requests a task can make, and what the world can know from them. A task that never makes
some kind of request runs in the same way whatever the answer to that kind is, and a run goes the
same way from two states that no requests tell apart. -/
namespace ToolGate

variable {σ ε δ α β : Type}

namespace Task

/-- A task that makes allowed requests only, whatever the replies are. -/
def Uses (allowed : Request → Prop) : Task ε α → Prop
  | .done _ => True
  | .fail _ => True
  | .ask request next => allowed request ∧ ∀ reply, (next reply).Uses allowed

variable {allowed : Request → Prop}

/-- A task with one request needs nothing else to be allowed. -/
theorem uses_perform {request : Request} (h : allowed request) :
    Uses allowed (perform (ε := ε) request) :=
  ⟨h, fun _ => trivial⟩

theorem uses_writeLine {stream : Stream} {text : String} (h : allowed (.write stream (text ++ "\n"))) :
    Uses allowed (writeLine (ε := ε) stream text) :=
  uses_perform h

theorem uses_ofExcept (result : Except ε α) : Uses allowed (ofExcept result) := by
  cases result <;> trivial

/-- A sequence asks for what its parts ask for. -/
theorem uses_bind {task : Task ε α} {next : α → Task ε β} (hTask : task.Uses allowed)
    (hNext : ∀ value, (next value).Uses allowed) : (task >>= next).Uses allowed := by
  induction task with
  | done value => exact hNext value
  | fail error => trivial
  | ask request resume ih => exact ⟨hTask.1, fun reply => ih reply (hTask.2 reply)⟩

theorem uses_mapError {task : Task ε α} (hTask : task.Uses allowed) (f : ε → δ) :
    (task.mapError f).Uses allowed := by
  induction task with
  | done value => trivial
  | fail error => trivial
  | ask request resume ih => exact ⟨hTask.1, fun reply => ih reply (hTask.2 reply)⟩

/-- A loop asks for what its body asks for. -/
theorem uses_forM {task : β → Task ε Unit} {elements : List β}
    (h : ∀ element ∈ elements, (task element).Uses allowed) :
    (forM elements task).Uses allowed := by
  induction elements with
  | nil => trivial
  | cons element rest ih =>
      rw [List.forM_cons]
      exact uses_bind (h element List.mem_cons_self) fun _ =>
        ih fun other hOther => h other (List.mem_cons_of_mem element hOther)

/-- What was exchanged in a run had been allowed before. -/
theorem allowed_of_mem_trace {task : Task ε α} (hTask : task.Uses allowed) (world : World σ)
    (state : σ) : ∀ exchange ∈ (task.run world state).trace, allowed exchange.1 := by
  induction task generalizing state with
  | done value => simp [run]
  | fail error => simp [run]
  | ask request resume ih =>
      intro exchange hExchange
      rcases List.mem_cons.1 hExchange with rfl | hLater
      · exact hTask.1
      · exact ih _ (hTask.2 _) _ exchange hLater

/-- Worlds that agree on the requests of a task let it run in the same way. -/
theorem run_congr {task : Task ε α} (hTask : task.Uses allowed) {first second : World σ}
    (h : ∀ request, allowed request → ∀ state, first.answer request state =
      second.answer request state) (state : σ) : task.run first state = task.run second state := by
  induction task generalizing state with
  | done value => rfl
  | fail error => rfl
  | ask request resume ih =>
      have hHere := h request hTask.1 state
      simp only [run, hHere]
      rw [ih _ (hTask.2 _)]

end Task

namespace World

variable (world : World σ)

/-- What is exchanged when requests are made one after the other. -/
def exchanges : List Request → σ → List Exchange
  | [], _ => []
  | request :: rest, state =>
    ⟨request, (world.answer request state).1⟩ ::
      exchanges rest (world.answer request state).2

/-- Two states that no requests tell apart. -/
def Alike (first second : σ) : Prop :=
  ∀ requests, world.exchanges requests first = world.exchanges requests second

variable {world} {first second : σ}

/-- Alike states give the same reply now. -/
theorem Alike.reply (h : world.Alike first second) (request : Request) :
    (world.answer request first).1 = (world.answer request second).1 := by
  have hHead := h [request]
  simp only [exchanges, List.cons.injEq, Sigma.mk.injEq, heq_eq_eq, true_and, and_true] at hHead
  exact hHead

/-- They are alike afterwards, too. -/
theorem Alike.answer (h : world.Alike first second) (request : Request) :
    world.Alike (world.answer request first).2 (world.answer request second).2 :=
  fun requests => (List.cons.inj (h (request :: requests))).2

theorem Alike.trans {third : σ} (h : world.Alike first second) (hThird : world.Alike second third) :
    world.Alike first third :=
  fun requests => (h requests).trans (hThird requests)

/-- A task cannot tell them apart either, although it chooses its requests by the replies. -/
theorem Alike.run (h : world.Alike first second) (task : Task ε α) :
    (task.run world first).result = (task.run world second).result ∧
      (task.run world first).trace = (task.run world second).trace := by
  induction task generalizing first second with
  | done value => exact ⟨rfl, rfl⟩
  | fail error => exact ⟨rfl, rfl⟩
  | ask request resume ih =>
      have hReply := h.reply request
      obtain ⟨hResult, hTrace⟩ := ih (world.answer request first).1 (h.answer request)
      simp only [Task.run]
      rw [hResult, hTrace, hReply]
      exact ⟨rfl, rfl⟩

/-- A world of processes and a console with a state of their own. All texts and records are
collected, and none of them reads these. -/
def ofChildren (start : SpawnRequest → σ → Except OsError WaitStatus × σ)
    (console : σ → Except ConsoleError ConsoleStatus × σ) : World (σ × List String) where
  answer
    | .write _ text, (state, left) => ((), (state, left ++ [text]))
    | .log message, (state, left) => ((), (state, left ++ [message]))
    | .start process, (state, left) => ((start process state).1, ((start process state).2, left))
    | .enableConsole, (state, left) => ((console state).1, ((console state).2, left))

/-- Nobody in a world of processes can tell what has been written or recorded. -/
theorem ofChildren_alike (start : SpawnRequest → σ → Except OsError WaitStatus × σ)
    (console : σ → Except ConsoleError ConsoleStatus × σ) (state : σ) (first second : List String) :
    (ofChildren start console).Alike (state, first) (state, second) := by
  intro requests
  induction requests generalizing state first second with
  | nil => rfl
  | cons request rest ih =>
      cases request with
      | write stream text => exact congrArg (_ :: ·) (ih state _ _)
      | log message => exact congrArg (_ :: ·) (ih state _ _)
      | start process => exact congrArg (_ :: ·) (ih (start process state).2 _ _)
      | enableConsole => exact congrArg (_ :: ·) (ih (console state).2 _ _)

end World

end ToolGate
