import ToolGate.Action
import ToolGate.Proofs.Color.Codes
import ToolGate.Proofs.Execution.Requests

/-! Colours change what is shown and nothing else. Two courses of action are compared that differ in
the palette: they make the same requests as long as they get the same replies, except that painted
pieces of text are wrapped in one of them. What a world makes of that depends on whether the colours
are noticed by whoever answers later. -/
namespace ToolGate

variable {σ ε δ α β : Type}

/-- A piece of what is shown: as it is, or in a colour. -/
inductive Segment where
  | plain (text : String)
  | painted (color : Color) (text : String)

namespace Segment

/-- A piece as a palette shows it. -/
def text (palette : Palette) : Segment → String
  | .plain text => text
  | .painted color text => palette.paint color text

/-- Pieces one after the other. -/
def shown (palette : Palette) (segments : List Segment) : String :=
  String.join (segments.map (text palette))

theorem shown_plain (palette : Palette) (text : String) : shown palette [.plain text] = text := by
  simp [shown, Segment.text]

/-- A header is a painted piece and an end of line that is not painted. -/
theorem shown_header (palette : Palette) (name : String) :
    shown palette [.painted .cyan name, .plain "\n"] = palette.header name ++ "\n" := by
  simp [shown, Segment.text, Palette.header]

end Segment

namespace Task

/-- The first course of action writes in colours what the second one writes without them. Otherwise
both make the same requests, as long as the replies are the same, and end in the same way. -/
inductive SameButColors : Task ε α → Task ε α → Prop where
  | done (value : α) : SameButColors (.done value) (.done value)
  | fail (error : ε) : SameButColors (.fail error) (.fail error)
  | ask (request : Request) {colored plain : request.Reply → Task ε α}
      (next : ∀ reply, SameButColors (colored reply) (plain reply)) :
      SameButColors (.ask request colored) (.ask request plain)
  | write (stream : Stream) (segments : List Segment) {colored plain : Unit → Task ε α}
      (next : SameButColors (colored ()) (plain ())) :
      SameButColors (.ask (.write stream (Segment.shown ⟨true⟩ segments)) colored)
        (.ask (.write stream (Segment.shown ⟨false⟩ segments)) plain)

namespace SameButColors

theorem refl (task : Task ε α) : SameButColors task task := by
  induction task with
  | done value => exact .done value
  | fail error => exact .fail error
  | ask request next ih => exact .ask request ih

/-- Two comparable beginnings can be followed by comparable ends. -/
theorem bind {colored plain : Task ε α} (h : SameButColors colored plain)
    {after other : α → Task ε β} (hNext : ∀ value, SameButColors (after value) (other value)) :
    SameButColors (colored >>= after) (plain >>= other) := by
  induction h with
  | done value => exact hNext value
  | fail error => exact .fail error
  | ask request next ih => exact .ask request ih
  | write stream segments next ih => exact .write stream segments ih

/-- The loop over commands and steps keeps the relation if its body does. -/
theorem forM {colored plain : β → Task ε Unit}
    (h : ∀ element, SameButColors (colored element) (plain element)) (elements : List β) :
    SameButColors (forM elements colored) (forM elements plain) := by
  induction elements with
  | nil => exact .done ()
  | cons element rest ih =>
      rw [List.forM_cons, List.forM_cons]
      exact (h element).bind fun _ => ih

theorem header (name : String) :
    SameButColors (ε := ε) (writeLine .out (Palette.header ⟨true⟩ name))
      (writeLine .out (Palette.header ⟨false⟩ name)) := by
  rw [writeLine, writeLine, ← Segment.shown_header, ← Segment.shown_header]
  exact .write .out _ (.done ())

end SameButColors

end Task

/-- Outcomes with the same result, the same processes with the same replies, and the same pieces of
text, which are in colours on one side only. -/
structure Outcome.SameButColors (colored plain : Outcome σ ε α) : Prop where
  result_eq : colored.result = plain.result
  starts_eq : Trace.starts colored.trace = Trace.starts plain.trace
  exists_pieces : ∀ stream, ∃ pieces : List (List Segment),
    Trace.texts stream colored.trace = pieces.map (Segment.shown ⟨true⟩) ∧
      Trace.texts stream plain.trace = pieces.map (Segment.shown ⟨false⟩)

namespace Outcome.SameButColors

variable {colored plain : Outcome σ ε α}

/-- The same exchange before both changes nothing. -/
theorem cons (h : SameButColors colored plain) (exchange : Exchange) :
    SameButColors { colored with trace := exchange :: colored.trace }
      { plain with trace := exchange :: plain.trace } := by
  obtain ⟨request, reply⟩ := exchange
  refine ⟨h.result_eq, ?_, fun stream => ?_⟩
  · cases request <;> simp [h.starts_eq]
  · obtain ⟨pieces, hColored, hPlain⟩ := h.exists_pieces stream
    cases request with
    | write target text =>
        by_cases hTarget : target = stream
        · refine ⟨[.plain text] :: pieces, ?_, ?_⟩
          · simp [hTarget, hColored, Segment.shown_plain]
          · simp [hTarget, hPlain, Segment.shown_plain]
        · exact ⟨pieces, by simp [hTarget, hColored], by simp [hTarget, hPlain]⟩
    | log message => exact ⟨pieces, hColored, hPlain⟩
    | start process => exact ⟨pieces, hColored, hPlain⟩
    | enableConsole => exact ⟨pieces, hColored, hPlain⟩

/-- Nor does a text in colours before the one and without them before the other. -/
theorem write (h : SameButColors colored plain) (target : Stream) (segments : List Segment) :
    let exchange palette : Exchange := ⟨.write target (Segment.shown palette segments), ()⟩
    SameButColors { colored with trace := exchange ⟨true⟩ :: colored.trace }
      { plain with trace := exchange ⟨false⟩ :: plain.trace } := by
  refine ⟨h.result_eq, h.starts_eq, fun stream => ?_⟩
  obtain ⟨pieces, hColored, hPlain⟩ := h.exists_pieces stream
  by_cases hTarget : target = stream
  · exact ⟨segments :: pieces, by simp [hTarget, hColored], by simp [hTarget, hPlain]⟩
  · exact ⟨pieces, by simp [hTarget, hColored], by simp [hTarget, hPlain]⟩

end Outcome.SameButColors

namespace World

/-- A world in which nobody who answers later can tell whether a text was in colours. -/
def IgnoresColors (world : World σ) : Prop :=
  ∀ stream segments state,
    world.Alike (world.answer (.write stream (Segment.shown ⟨true⟩ segments)) state).2
      (world.answer (.write stream (Segment.shown ⟨false⟩ segments)) state).2

/-- Processes that do not read what is written cannot tell whether it was painted. -/
theorem ofChildren_ignoresColors (start : SpawnRequest → σ → Except OsError WaitStatus × σ)
    (console : σ → Except ConsoleError ConsoleStatus × σ) :
    (ofChildren start console).IgnoresColors :=
  fun _ _ state => ofChildren_alike start console state.1 _ _

end World

/-- A run goes the same way in both, by induction on what is still to be done, from states that
cannot be told apart. -/
theorem Task.SameButColors.run {colored plain : Task ε α} (h : SameButColors colored plain)
    {world : World σ} (hWorld : world.IgnoresColors) {first second : σ}
    (hAlike : world.Alike first second) :
    (colored.run world first).SameButColors (plain.run world second) := by
  induction h generalizing first second with
  | done value => exact ⟨rfl, rfl, fun _ => ⟨[], rfl, rfl⟩⟩
  | fail error => exact ⟨rfl, rfl, fun _ => ⟨[], rfl, rfl⟩⟩
  | ask request next ih =>
      have hRest := ih (world.answer request first).1 (hAlike.answer request)
      simp only [Task.run, ← hAlike.reply request]
      exact hRest.cons ⟨request, (world.answer request first).1⟩
  | write stream segments next ih =>
      -- The texts differ, and so may the states after them, but not what they will reply.
      have hWritten := hAlike.answer (.write stream (Segment.shown ⟨false⟩ segments))
      exact (ih ((hWorld stream segments first).trans hWritten)).write stream segments

variable (inherited : Environment) (root : String)

/-- A command of a step depends on the root, but not on the palette. -/
theorem Step.runOne_congr {first second : Settings} (h : first.root = second.root) (step : Step) :
    step.runOne inherited first = step.runOne inherited second := by
  funext command
  simp only [runOne, options, h]

/-- Only headers are painted, and the commands of a step do not look at the palette. -/
theorem runSteps_sameButColors (steps : List Step) :
    Task.SameButColors (runSteps inherited ⟨true, root⟩ steps)
      (runSteps inherited ⟨false, root⟩ steps) := by
  refine Task.SameButColors.forM (fun step => ?_) steps
  have hCommands : step.runOne inherited ⟨true, root⟩ = step.runOne inherited ⟨false, root⟩ :=
    step.runOne_congr inherited rfl
  rw [Step.run, Step.run, hCommands]
  exact (Task.SameButColors.header step.header).bind fun _ => .refl _

/-- A single command runs as it does without colours, and the other actions differ in the headers of
their steps only. -/
theorem Action.perform_sameButColors (action : Action) (args : List String) :
    Task.SameButColors (action.perform inherited ⟨true, root⟩ args)
      (action.perform inherited ⟨false, root⟩ args) := by
  cases action with
  | exec => exact .refl (runExec inherited ⟨true, root⟩ args)
  | format =>
      exact (Task.SameButColors.refl _).bind fun _ => runSteps_sameButColors inherited root _
  | lint =>
      exact (Task.SameButColors.refl _).bind fun _ =>
        (Task.SameButColors.refl _).bind fun _ => runSteps_sameButColors inherited root _

/-- With and without colours, the runner of steps and every action make the same requests as long as
they get the same replies, and write the same pieces of text, which are painted in one case only. So
in a world where nobody who answers later notices the colours, the results and the processes with
their replies are the same. A world in which no process reads what is written is one of them. A
painted text differs from the bare one in nothing that is left when the codes are deleted, whatever
codes or parts of codes it holds itself, and without colours it is the bare text. -/
theorem perform_color (inherited : Environment) (root : String) :
    let colored : Settings := ⟨true, root⟩
    let plain : Settings := ⟨false, root⟩
    (∀ steps, Task.SameButColors (runSteps inherited colored steps)
      (runSteps inherited plain steps)) ∧
    (∀ action args, Task.SameButColors (Action.perform inherited colored action args)
      (Action.perform inherited plain action args)) ∧
    (∀ {σ : Type} (world : World σ) (state : σ), world.IgnoresColors →
      (∀ steps, Outcome.SameButColors ((runSteps inherited colored steps).run world state)
        ((runSteps inherited plain steps).run world state)) ∧
      ∀ action args, Outcome.SameButColors
        ((Action.perform inherited colored action args).run world state)
        ((Action.perform inherited plain action args).run world state)) ∧
    (∀ {σ : Type} start console, World.IgnoresColors (World.ofChildren (σ := σ) start console)) ∧
    ∀ color text,
      Color.erased (Palette.paint ⟨true⟩ color text).toList = Color.erased text.toList ∧
      Palette.paint ⟨false⟩ color text = text ∧
      (Palette.paint ⟨false⟩ color text).toList.count '\x1b' = text.toList.count '\x1b' := by
  intro colored plain
  have hSteps := runSteps_sameButColors inherited root
  have hActions := Action.perform_sameButColors inherited root
  refine ⟨hSteps, hActions, ?_, World.ofChildren_ignoresColors, fun color text => ?_⟩
  · intro σ world state hWorld
    have hHere : world.Alike state state := fun _ => rfl
    exact ⟨fun steps => (hSteps steps).run hWorld hHere,
      fun action args => (hActions action args).run hWorld hHere⟩
  · have hPlain : Palette.paint ⟨false⟩ color text = text := by
      simp [Palette.paint, Palette.code]
    exact ⟨erased_paint ⟨true⟩ color text, hPlain, by rw [hPlain]⟩

/-- The third command fails, in colours as without them. -/
theorem perform_color_format :
    let world : World (Nat × List String) := World.ofChildren
      (fun _ count => (.ok (.exited (if count < 2 then 0 else 5)), count + 1))
      (fun count => (.ok .enabled, count))
    let outcome color := (Action.format.perform .empty ⟨color, "/"⟩ []).run world (0, [])
    world.IgnoresColors ∧
    (outcome true).result = (outcome false).result ∧
    Trace.starts (outcome true).trace = Trace.starts (outcome false).trace ∧
    Trace.texts .out (outcome true).trace =
      ["\x1b[36mrustfmt\x1b[0m\n", "\x1b[36mdeno fmt\x1b[0m\n"] ∧
    Trace.texts .out (outcome false).trace = ["rustfmt\n", "deno fmt\n"] ∧
    (outcome true).result =
      .error (.execution (.nonZeroExit "deno fmt --check benchmarks/benchmarks.ts" 5)) := by
  intro world outcome
  obtain ⟨-, -, hRuns, hChildren, -⟩ := perform_color .empty "/"
  have hWorld : world.IgnoresColors := hChildren _ _
  have hSame := (hRuns world (0, []) hWorld).2 .format []
  exact ⟨hWorld, hSame.result_eq, hSame.starts_eq, rfl, rfl, rfl⟩

end ToolGate
