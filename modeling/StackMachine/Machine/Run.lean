import StackMachine.Log
import StackMachine.Machine.Basic

/-!
# Running a program

One step of the machine, running until it is done, and executing a program from a clean state.

Each of the three leaves a `Trace`: the machine afterwards, the result, the values that an observer
of the output sees, and the events. A run ends at the first `halt`, at the end of the program or at
the first instruction that fails; a step that goes on has moved the counter to a later instruction,
which is why every run ends.
-/

namespace StackMachine.Machine

/-- Whether there is more to do after a step. -/
inductive Progress where
  | more
  | done
  deriving DecidableEq, Repr

/-- What a piece of execution leaves behind. -/
structure Trace (α : Type) where
  /-- The machine afterwards, also after a fault. -/
  machine : Machine
  /-- The result, or the fault of the instruction at the counter. -/
  result : Except Fault α
  /-- The printed values, in the order in which an observer got them. -/
  seen : List Int64 := []
  /-- The events, in order. -/
  events : List Event := []

/-- Places what was seen and reported earlier in front of a trace. -/
def Trace.after {α : Type} (trace : Trace α) (seen : List Int64) (events : List Event) : Trace α :=
  { trace with seen := seen ++ trace.seen, events := events ++ trace.events }

/-- Stops a machine that reached the end of its program. -/
def finish (m : Machine) : Machine :=
  { m with running := false, status := .halted }

/-- Stops a machine whose instruction failed. -/
def fail (m : Machine) : Machine :=
  { m with running := false, status := .failed }

/-! ## One step -/

/-- Moves the counter to the next instruction. -/
def moveOn (m : Machine) : Machine :=
  { m with counter := m.counter + 1 }

/-- Moves on after a successful instruction, and stops at the end of the program. -/
def advance (m : Machine) (length : Nat) : Machine :=
  if m.running = true ∧ length ≤ m.counter + 1 then m.moveOn.finish else m.moveOn

/-- Whether a machine has more to do. -/
def progress (m : Machine) : Progress :=
  if m.running then .more else .done

/-- Applies the instruction at the counter. A machine that is not running does nothing, and one
that is past the end of the program stops. -/
def step (m : Machine) (program : Program) : Trace Progress :=
  if m.running then
    match program[m.counter]? with
    | none => { machine := m.finish, result := .ok .done }
    | some instruction =>
      let reply := m.dispatch instruction
      let dispatching := Event.dispatching m.counter instruction m.stack.length
      match reply.2 with
      | .ok effect =>
        let next := reply.1.advance program.length
        { machine := next, result := .ok next.progress, seen := effect.seen,
          events := [dispatching] }
      | .error fault =>
        { machine := reply.1.fail, result := .error fault,
          events := [dispatching, .failed reply.1.counter fault] }
  else
    { machine := m, result := .ok .done }

/-- No instruction moves the counter. -/
theorem counter_dispatch (m : Machine) (instruction : Instruction) :
    (m.dispatch instruction).1.counter = m.counter := by
  cases instruction <;> simp only [dispatch, binary] <;> repeat' split
  all_goals rfl

/-- A machine has more to do exactly when it is running. -/
theorem progress_eq_more_iff {m : Machine} : m.progress = .more ↔ m.running = true := by
  cases running : m.running <;> simp [progress, running]

/-- A machine that has more to do after moving on is still inside its program. -/
theorem counter_advance_of_more {m : Machine} {length : Nat}
    (more : (m.advance length).progress = .more) :
    (m.advance length).counter = m.counter + 1 ∧ m.counter + 1 < length := by
  unfold advance at more ⊢
  split at more
  · simp [finish, progress] at more
  · rename_i inside
    rw [if_neg inside]
    exact ⟨rfl, Nat.lt_of_not_le fun past => inside ⟨progress_eq_more_iff.1 more, past⟩⟩

/-- A step that goes on has moved the counter by one, to an instruction of the program. -/
theorem counter_step_of_more {m : Machine} {program : Program}
    (more : (m.step program).result = .ok .more) :
    (m.step program).machine.counter = m.counter + 1 ∧ m.counter + 1 < program.length := by
  unfold step at more ⊢
  split
  · rename_i running
    rw [if_pos running] at more
    split at more
    · simp at more
    · rename_i instruction found
      dsimp only at more ⊢
      split at more
      · rename_i effect succeeded
        simp only [Except.ok.injEq] at more
        have moved := counter_advance_of_more more
        rw [counter_dispatch] at moved
        simpa only [found, succeeded] using moved
      · simp at more
  · rename_i stopped
    simp [stopped] at more

/-! ## Running to the end -/

/-- Steps until the machine is done or an instruction fails. -/
def run (m : Machine) (program : Program) : Trace Unit :=
  let trace := m.step program
  match _more : trace.result with
  | .ok .more => (trace.machine.run program).after trace.seen trace.events
  | .ok .done => { trace with result := .ok () }
  | .error fault => { trace with result := .error fault }
termination_by program.length - m.counter
decreasing_by
  have moved := counter_step_of_more _more
  omega

/-- Executes a program from a clean state. The result is the output log. -/
def execute (m : Machine) (program : Program) : Trace (List Int64) :=
  let trace := m.start.run program
  let events := .executing program.length :: trace.events
  match trace.result with
  | .ok () =>
    let m' := trace.machine
    { machine := m', result := .ok m'.output, seen := trace.seen,
      events := events ++ [.finished m'.counter m'.output.length m'.stack.length] }
  | .error fault => { machine := trace.machine, result := .error fault, seen := trace.seen, events }

end StackMachine.Machine
