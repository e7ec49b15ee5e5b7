import Mathlib
import StartOnReady.Proofs.Handler.Handling
import StartOnReady.Scripted.Plane

/-!
# Tasks that share a scripted plane

A task is the handling of one event, cut into its single accesses to the shared state.  A `System`
is a shared state with the tasks over it, and `System.run` takes it through any order of moves: each
move is one access of one task, the return of one of its calls, or the setting of a status from
outside.  Every task keeps the list of its deeds.

`run_program` says that a task that is never interrupted comes to what the plane's own handling of
the event comes to.
-/

namespace StartOnReady.Scripted

open Effects (Interface Program)

/-! ### Acts -/

/-- What a task does in one go. -/
inductive Act where
  | access (a : Access)
  /-- A call goes back to the handler. -/
  | returned (call : Call)

/-- The answer to each act. -/
def Act.Answer : Act → Type
  | access a => a.Answer
  | returned _ => Unit

/-- The interface of tasks. -/
def Acts : Interface := ⟨Act, Act.Answer⟩

/-- Accesses as acts. -/
def accessing {α : Type} (p : Program Accesses α) : Program Acts α :=
  p.interpret fun a => .question (I := Acts) (.access a)

/-- The return of a call. -/
def comeBack (call : Call) : Program Acts Unit := .question (I := Acts) (.returned call)

/-- An effect of the handler by its acts.  Records leave the shared state alone. -/
def serve : (effect : Effect) → Program Acts (Effect.Answer effect)
  | .describe app => do
    let result ← accessing (describe app)
    comeBack (.describe app result)
    return result
  | .start app => do
    let result ← accessing (start app)
    comeBack (.start app result)
    return result
  | .log _ => return ()

/-! ### Tasks -/

/-- What a task has done: an access, with the shared state that it met, or the return of a call. -/
inductive Deed where
  | performed (a : Access) (met : State)
  | returned (call : Call)

/-- The handling of an event: what is left of it and what it has done so far. -/
structure Task where
  event : ChangeEvent
  rest : Program Acts Outcome
  deeds : List Deed := []

namespace Task

/-- The acts of handling an event. -/
def program (event : ChangeEvent) : Program Acts Outcome :=
  (StartOnReady.handleEvent plane.name event).interpret serve

/-- A task that has done nothing yet. -/
def ofEvent (event : ChangeEvent) : Task := ⟨event, program event, []⟩

/-- The outcome of a task that has finished. -/
def outcome? (task : Task) : Option Outcome :=
  match task.rest with
  | .done outcome => some outcome
  | .ask _ _ => none

/-- Goes on by one act. -/
def advance (task : Task) (shared : State) : Task × State :=
  match task.rest with
  | .done _ => (task, shared)
  | .ask (.access a) next =>
    ({ task with rest := next (access a shared).1
                 deeds := task.deeds ++ [.performed a shared] }, (access a shared).2)
  | .ask (.returned call) next =>
    ({ task with rest := next (), deeds := task.deeds ++ [.returned call] }, shared)

end Task

/-! ### Systems -/

/-- A shared state and the tasks over it. -/
structure System where
  shared : State
  tasks : List Task

/-- What can happen next. -/
inductive Move where
  | setStatus (name : String) (status : ApplicationStatus)
  /-- The task at a place goes on by one act. -/
  | advance (place : Nat)
  deriving DecidableEq

namespace Move

/-- Whether a move sets a status. -/
def isSetting : Move → Bool
  | setStatus _ _ => true
  | advance _ => false

/-- Whether a move sets the status of a name. -/
def isSettingOf (name : String) : Move → Bool
  | setStatus other _ => other == name
  | advance _ => false

end Move

namespace System

/-- The tasks of some events over a plane on which nothing was set. -/
def ofEvents (events : List ChangeEvent) : System := ⟨{}, events.map Task.ofEvent⟩

/-- Makes a move; at a place without a task nothing happens. -/
def move (s : System) : Move → System
  | .setStatus name status => { s with shared := s.shared.setStatus name status }
  | .advance place =>
    match s.tasks[place]? with
    | some task => ⟨(task.advance s.shared).2, s.tasks.set place (task.advance s.shared).1⟩
    | none => s

/-- Makes moves one after the other. -/
def run (s : System) (moves : List Move) : System := moves.foldl move s

theorem run_cons (s : System) (m : Move) (moves : List Move) :
    s.run (m :: moves) = (s.move m).run moves := rfl

theorem run_append (s : System) (moves moves' : List Move) :
    s.run (moves ++ moves') = (s.run moves).run moves' := List.foldl_append

/-- How many deeds of a sort the tasks have done. -/
def count (sort : Deed → Bool) (s : System) : Nat :=
  (s.tasks.map fun task => task.deeds.countP sort).sum

end System

/-! ### What is counted -/

namespace Deed

/-- Whether a deed changes the status of a name from ready to starting. -/
def isChange (name : String) : Deed → Bool
  | performed a met =>
    met.status name = some .ready && (access a met).2.status name = some .starting
  | returned _ => false

/-- Whether a deed records a start of a name that succeeded. -/
def isRecord (name : String) : Deed → Bool
  | performed (.recordStart call) _ => call.success && call.application.name == name
  | _ => false

/-- Whether a deed is the return of a start of a name that succeeded. -/
def isSuccess (name : String) : Deed → Bool
  | returned (.start app (.ok ())) => app.name == name
  | _ => false

end Deed

/-- How many starts of a name are recorded as successful. -/
def State.recordedStarts (name : String) (s : State) : Nat :=
  s.starts.countP fun call => call.success && call.application.name == name

/-- Whether an outcome is a start of a name. -/
def requests (name : String) : Outcome → Bool
  | .startRequested app => app.name == name
  | _ => false

/-- Whether a task has ended in a start of a name. -/
def Task.requested (name : String) (task : Task) : Bool := task.outcome?.any (requests name)

/-- Whether an event is acted on and about an application of this name. -/
def IsAbout (name : String) (event : ChangeEvent) : Prop :=
  event.IsActionable ∧ ∃ app, event.applicationRef = .ok app ∧ app.name = name

/-- Whether all tasks about a name have finished. -/
def System.Settled (name : String) (s : System) : Prop :=
  ∀ task ∈ s.tasks, IsAbout name task.event → task.outcome?.isSome = true

/-! ### Tasks on their own -/

/-- Performs an act. -/
def act : (a : Act) → State → a.Answer × State
  | .access a, s => access a s
  | .returned _, s => ((), s)

theorem run_accessing {α : Type} (p : Program Accesses α) (s : State) :
    (accessing p).run act s = p.run access s :=
  Program.run_interpret (fun a => .question (I := Acts) (.access a)) act p s

theorem run_serve (effect : Effect) (j : Journal State) :
    (serve effect).run act j.state =
      ((plane.answer effect j).1, (plane.answer effect j).2.state) := by
  cases effect with
  | describe app =>
    refine (Program.run_bind act (accessing (describe app)) _ j.state).trans ?_
    rw [run_accessing]
    rfl
  | start app =>
    refine (Program.run_bind act (accessing (start app)) _ j.state).trans ?_
    rw [run_accessing]
    rfl
  | log record => rfl

theorem run_interpret_serve {α : Type} (p : Program Calls α) (j : Journal State) :
    (p.interpret serve).run act j.state =
      ((p.run plane.answer j).1, (p.run plane.answer j).2.state) := by
  induction p generalizing j with
  | done a => rfl
  | ask effect next ih =>
    refine (Program.run_bind act (serve effect) _ j.state).trans ?_
    exact (congrArg (fun r => ((next r.1).interpret serve).run act r.2) (run_serve effect j)).trans
      (ih _ _)

/-- A task that nobody interrupts comes to what the plane's handling of the event comes to. -/
theorem run_program (event : ChangeEvent) (s : State) :
    (Task.program event).run act s =
      ((plane.handle event s).1, (plane.handle event s).2.state) :=
  run_interpret_serve (StartOnReady.handleEvent plane.name event) ⟨s, [], []⟩

end StartOnReady.Scripted
