import ToolGate.Task

/-! What a run leaves behind, read off its trace: the processes that were started, with the replies,
and the texts that were written. The run of a composed task is composed from the runs of its parts,
in any world. -/
namespace ToolGate

variable {σ ε δ α β : Type}

/-- A process that was started, with the reply. -/
abbrev Start : Type := SpawnRequest × Except OsError WaitStatus

/-- A world in which every start has the same reply and everything else succeeds. -/
def World.replying (reply : Except OsError WaitStatus) : World Unit where
  answer
    | .write _ _, state => ((), state)
    | .log _, state => ((), state)
    | .start _, state => (reply, state)
    | .enableConsole, state => (.ok .enabled, state)

namespace Trace

/-- The starts of a trace, in order. -/
def starts (trace : List Exchange) : List Start :=
  trace.filterMap fun
    | ⟨.start process, reply⟩ => some (process, reply)
    | _ => none

/-- The texts that were written to a stream, in order. -/
def texts (stream : Stream) (trace : List Exchange) : List String :=
  trace.filterMap fun
    | ⟨.write target text, _⟩ => if target = stream then some text else none
    | _ => none

@[simp] theorem starts_nil : starts [] = [] := rfl

/-- The starts of two parts are those of the first one, and then those of the second one. -/
@[simp] theorem starts_append (first second : List Exchange) :
    starts (first ++ second) = starts first ++ starts second :=
  List.filterMap_append

@[simp] theorem starts_write (stream : Stream) (text : String) (reply : Unit)
    (trace : List Exchange) : starts (⟨.write stream text, reply⟩ :: trace) = starts trace := rfl

@[simp] theorem starts_log (message : String) (reply : Unit) (trace : List Exchange) :
    starts (⟨.log message, reply⟩ :: trace) = starts trace := rfl

/-- Starts are the only exchanges that count as such; the other kinds are passed over. -/
@[simp] theorem starts_start (process : SpawnRequest) (reply : Except OsError WaitStatus)
    (trace : List Exchange) :
    starts (⟨.start process, reply⟩ :: trace) = (process, reply) :: starts trace := rfl

@[simp] theorem starts_enableConsole (reply : Except ConsoleError ConsoleStatus)
    (trace : List Exchange) : starts (⟨.enableConsole, reply⟩ :: trace) = starts trace := rfl

variable (stream : Stream)

@[simp] theorem texts_nil : texts stream [] = [] := rfl

/-- Texts on a stream come in the order in which they were written. -/
@[simp] theorem texts_append (first second : List Exchange) :
    texts stream (first ++ second) = texts stream first ++ texts stream second :=
  List.filterMap_append

/-- A text is seen on its own stream and on no other one. -/
@[simp] theorem texts_write (target : Stream) (text : String) (reply : Unit)
    (trace : List Exchange) :
    texts stream (⟨.write target text, reply⟩ :: trace) =
      if target = stream then text :: texts stream trace else texts stream trace := by
  by_cases h : target = stream <;> simp [texts, h]

@[simp] theorem texts_log (message : String) (reply : Unit) (trace : List Exchange) :
    texts stream (⟨.log message, reply⟩ :: trace) = texts stream trace := rfl

@[simp] theorem texts_start (process : SpawnRequest) (reply : Except OsError WaitStatus)
    (trace : List Exchange) :
    texts stream (⟨.start process, reply⟩ :: trace) = texts stream trace := rfl

@[simp] theorem texts_enableConsole (reply : Except ConsoleError ConsoleStatus)
    (trace : List Exchange) :
    texts stream (⟨.enableConsole, reply⟩ :: trace) = texts stream trace := rfl

end Trace

@[simp] theorem except_mapError_ok (f : ε → δ) (value : α) :
    (Except.ok value).mapError f = .ok value := rfl

@[simp] theorem except_mapError_error (f : ε → δ) (error : ε) :
    (Except.error error : Except ε α).mapError f = .error (f error) := rfl

theorem except_map_eq_ok_iff (f : α → β) (result : Except ε α) (value : β) :
    result.map f = .ok value ↔ ∃ given, result = .ok given ∧ f given = value := by
  cases result <;> simp [Except.map]

theorem except_map_eq_error_iff (f : α → β) (result : Except ε α) (error : ε) :
    result.map f = .error error ↔ result = .error error := by
  cases result <;> simp [Except.map]

namespace Outcome

/-- Goes on from the state that an outcome leaves, unless it is an error. -/
def bind (outcome : Outcome σ ε α) (next : α → σ → Outcome σ ε β) : Outcome σ ε β :=
  match outcome.result with
  | .ok value =>
    let rest := next value outcome.state
    { rest with trace := outcome.trace ++ rest.trace }
  | .error error => ⟨.error error, outcome.state, outcome.trace⟩

/-- Turns the error of an outcome into another one. -/
def mapError (f : ε → δ) (outcome : Outcome σ ε α) : Outcome σ δ α :=
  ⟨outcome.result.mapError f, outcome.state, outcome.trace⟩

/-- After a value the trace goes on. -/
@[simp] theorem bind_ok (value : α) (state : σ) (trace : List Exchange)
    (next : α → σ → Outcome σ ε β) :
    (⟨.ok value, state, trace⟩ : Outcome σ ε α).bind next =
      { next value state with trace := trace ++ (next value state).trace } := rfl

/-- After an error nothing is exchanged any more. -/
@[simp] theorem bind_error (error : ε) (state : σ) (trace : List Exchange)
    (next : α → σ → Outcome σ ε β) :
    (⟨.error error, state, trace⟩ : Outcome σ ε α).bind next = ⟨.error error, state, trace⟩ := rfl

@[simp] theorem mapError_ok (f : ε → δ) (value : α) (state : σ) (trace : List Exchange) :
    (⟨.ok value, state, trace⟩ : Outcome σ ε α).mapError f = ⟨.ok value, state, trace⟩ := rfl

@[simp] theorem mapError_error (f : ε → δ) (error : ε) (state : σ) (trace : List Exchange) :
    (⟨.error error, state, trace⟩ : Outcome σ ε α).mapError f =
      ⟨.error (f error), state, trace⟩ := rfl

end Outcome

namespace Task

variable (world : World σ) (state : σ)

@[simp] theorem run_pure (value : α) :
    (pure value : Task ε α).run world state = ⟨.ok value, state, []⟩ := rfl

@[simp] theorem run_fail (error : ε) :
    (fail error : Task ε α).run world state = ⟨.error error, state, []⟩ := rfl

-- The kind of reply is written out: in its own form the lemmas would not be found by `simp`.

@[simp] theorem run_write (stream : Stream) (text : String) :
    run (α := Unit) world (perform (ε := ε) (.write stream text)) state =
      ⟨.ok (), (world.answer (.write stream text) state).2, [⟨.write stream text, ()⟩]⟩ := rfl

/-- A line is written in one piece, its end included. -/
@[simp] theorem run_writeLine (stream : Stream) (text : String) :
    (writeLine stream text : Task ε Unit).run world state =
      ⟨.ok (), (world.answer (.write stream (text ++ "\n")) state).2,
        [⟨.write stream (text ++ "\n"), ()⟩]⟩ := rfl

@[simp] theorem run_log (message : String) :
    run (α := Unit) world (perform (ε := ε) (.log message)) state =
      ⟨.ok (), (world.answer (.log message) state).2, [⟨.log message, ()⟩]⟩ := rfl

@[simp] theorem run_start (process : SpawnRequest) :
    run (α := Except OsError WaitStatus) world (perform (ε := ε) (.start process)) state =
      ⟨.ok (world.answer (.start process) state).1, (world.answer (.start process) state).2,
        [⟨.start process, (world.answer (.start process) state).1⟩]⟩ := rfl

@[simp] theorem run_enableConsole :
    run (α := Except ConsoleError ConsoleStatus) world (perform (ε := ε) .enableConsole) state =
      ⟨.ok (world.answer .enableConsole state).1, (world.answer .enableConsole state).2,
        [⟨.enableConsole, (world.answer .enableConsole state).1⟩]⟩ := rfl

@[simp] theorem run_ofExcept (result : Except ε α) :
    (ofExcept result).run world state = ⟨result, state, []⟩ := by
  cases result <;> rfl

@[simp] theorem ofExcept_ok_bind (value : α) (next : α → Task ε β) :
    (ofExcept (.ok value) >>= next) = next value := rfl

@[simp] theorem ofExcept_error_bind (error : ε) (next : α → Task ε β) :
    (ofExcept (.error error) >>= next) = .fail error := rfl

/-- The second part of a sequence runs where the first part has led. -/
@[simp] theorem run_seq (task : Task ε α) (next : α → Task ε β) :
    (task >>= next).run world state =
      (task.run world state).bind fun value => (next value).run world := by
  refine (run_bind world task next state).trans ?_
  rcases task.run world state with ⟨_ | _, _, _⟩ <;> rfl

/-- A map changes the value, but not the trace. -/
@[simp] theorem run_map (f : α → β) (task : Task ε α) :
    (f <$> task).run world state =
      (task.run world state).bind fun value after => ⟨.ok (f value), after, []⟩ := by
  rw [map_eq_pure_bind, run_seq]
  rfl

/-- Errors are renamed at the end, where the state and the trace are what they are. -/
@[simp] theorem run_mapError (f : ε → δ) (task : Task ε α) :
    (task.mapError f).run world state = (task.run world state).mapError f := by
  induction task generalizing state with
  | done => rfl
  | fail => rfl
  | ask request resume ih =>
      simp only [mapError, run, ih]
      rfl

/-- An attempt goes on from an error with the state and the trace that led to it. -/
@[simp] theorem run_attempt (task : Task ε α) :
    (task.attempt : Task δ (Except ε α)).run world state =
      ⟨.ok (task.run world state).result, (task.run world state).state,
        (task.run world state).trace⟩ := by
  induction task generalizing state with
  | done => rfl
  | fail => rfl
  | ask request resume ih => simp only [attempt, run, ih]

end Task

end ToolGate
