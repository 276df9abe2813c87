import StackMachine.Proofs.Machine.Stepping

/-!
# Values below the operands

A program looks only at the values that it needs. What lies deeper on the stack is neither read nor
changed, and makes no difference unless the stack runs out: only a `stackUnderflow` may turn into
something else when there is more on the stack. Main statement: a run on top of other values is the
run without them, with these values below its final stack (`run_ignores_below`).
-/

namespace StackMachine.Machine

/-! ## More values -/

/-- The machine with more values below its operands, the bottom first. -/
def above (m : Machine) (below : List Int64) : Machine :=
  { m with stack := m.stack ++ below.reverse }

/-- The event of a machine with so many more values on its stack. -/
def Event.deepened (more : Nat) : Event → Event
  | dispatching counter instruction depth => dispatching counter instruction (depth + more)
  | finished steps outputs depth => finished steps outputs (depth + more)
  | event => event

/-- The trace that is left with more values below the operands, if they make no difference. -/
def Trace.above {α : Type} (trace : Trace α) (below : List Int64) : Trace α :=
  { trace with
    machine := trace.machine.above below
    events := trace.events.map (Event.deepened below.length) }

theorem operands_above (m : Machine) (below : List Int64) :
    (m.above below).operands = below ++ m.operands := by
  simp [operands, above]

theorem Trace.above_after {α : Type} (trace : Trace α) (seen : List Int64) (events : List Event)
    (below : List Int64) :
    (trace.after seen events).above below =
      (trace.above below).after seen (events.map (Event.deepened below.length)) := by
  simp [Trace.above, Trace.after]

theorem dispatching_deepened (m : Machine) (below : List Int64) (instruction : Instruction) :
    Event.dispatching (m.above below).counter instruction (m.above below).stack.length =
      (Event.dispatching m.counter instruction m.stack.length).deepened below.length := by
  simp [Event.deepened, above]

/-! ## One instruction -/

theorem binary_above {m : Machine} {operation : Int64 → Int64 → Except Fault Int64}
    (h : (m.binary operation).2 ≠ .error .stackUnderflow) (below : List Int64) :
    (m.above below).binary operation =
      ((m.binary operation).1.above below, (m.binary operation).2) := by
  obtain ⟨stack, counter, running, output, status⟩ := m
  match stack with
  | [] => exact absurd rfl h
  | [_] => exact absurd rfl h
  | b :: a :: rest =>
    simp only [binary, above, List.cons_append]
    cases operation a b with
    | ok value => rfl
    | error fault => rfl

/-- An instruction that has enough operands does the same on top of other values. -/
theorem dispatch_above {m : Machine} {instruction : Instruction}
    (h : (m.dispatch instruction).2 ≠ .error .stackUnderflow) (below : List Int64) :
    (m.above below).dispatch instruction =
      ((m.dispatch instruction).1.above below, (m.dispatch instruction).2) := by
  cases instruction with
  | push | halt | unknown => rfl
  | add | sub | mul | div => exact binary_above h below
  | pop | print =>
    obtain ⟨stack, counter, running, output, status⟩ := m
    cases stack with
    | nil => exact absurd rfl h
    | cons value rest => rfl

/-! ## Runs -/

/-- A sweep that does not run out of operands is the same on top of other values. -/
theorem sweep_above {m : Machine} {rest : List Instruction}
    (h : (m.sweep rest).result ≠ .error .stackUnderflow) (below : List Int64) :
    (m.above below).sweep rest = (m.sweep rest).above below := by
  induction rest generalizing m with
  | nil => rfl
  | cons instruction rest ih =>
    have hreply := reply_dispatch m instruction
    have habove := @dispatch_above m instruction
    generalize hd : m.dispatch instruction = reply at hreply habove
    cases hreply with
    | fails fault hi =>
      rw [sweep_of_error hd] at h ⊢
      have hfails : fault ≠ .stackUnderflow := fun heq => h (by rw [heq])
      rw [sweep_of_error (habove (by simpa using hfails) below), dispatching_deepened]
      rfl
    | halts hi =>
      rw [sweep, sweep, habove (by simp) below, hd, dispatching_deepened]
      rfl
    | works stack effect hi he hseen hm' =>
      rename_i m'
      rw [sweep_of_ok he hd] at h ⊢
      have hnext : (m'.above below).moveOn.sweep rest = (m'.moveOn.sweep rest).above below := ih h
      rw [sweep_of_ok he (habove (by simp) below), hnext, Trace.above_after, dispatching_deepened]
      rfl

/-- A run that does not run out of operands is the same on top of other values, whether or not the
machine was running. -/
theorem run_above {m : Machine} {program : Program}
    (h : (m.run program).result ≠ .error .stackUnderflow) (below : List Int64) :
    (m.above below).run program = (m.run program).above below := by
  cases hm : m.running with
  | false =>
    have habove : (m.above below).running = false := hm
    rw [run_of_stopped hm, run_of_stopped habove]
    rfl
  | true =>
    have habove : (m.above below).running = true := hm
    rw [run_eq_sweep hm] at h ⊢
    rw [run_eq_sweep habove]
    exact sweep_above h below

/-- A run that ends in anything but a stack underflow ignores what lies below its operands: it has
the same result and shows the same, and the machine that it leaves differs in these values alone,
which lie below its final stack. Only the depths among its events tell. -/
theorem run_ignores_below (m : Machine) (program : Program) (below : List Int64)
    (h : (m.run program).result ≠ .error .stackUnderflow) :
    let alone := m.run program
    let upper := (m.above below).run program
    upper.result = alone.result ∧
      upper.seen = alone.seen ∧
      upper.machine = { alone.machine with stack := alone.machine.stack ++ below.reverse } ∧
      upper.machine.operands = below ++ alone.machine.operands ∧
      upper.events = alone.events.map (Event.deepened below.length) := by
  intro alone upper
  have hupper : upper = alone.above below := run_above h below
  rw [hupper]
  exact ⟨rfl, rfl, rfl, operands_above _ _, rfl⟩

/-- A program that adds its two operands, prints the sum and divides by zero leaves the values below
them alone; an addition that runs out of operands takes one of them. -/
theorem run_ignores_below_division :
    let program : Program := [.add, .print, .push 0, .div, .pop]
    let m : Machine := { stack := [3, 4], running := true, status := .running }
    ((m.run program).result = .error .divisionByZero ∧
      ((m.above [8, 9]).run program).machine.operands = [8, 9, 7, 0] ∧
      ((m.above [8, 9]).run program).seen = [7]) ∧
    ((m.run [.add, .add]).result = .error .stackUnderflow ∧
      ((m.above [8]).run [.add, .add]).result = .ok ()) := by
  intro program m
  have hresult : (m.run program).result = .error .divisionByZero := by
    rw [run_eq_sweep rfl]
    rfl
  obtain ⟨-, hseen, -, hoperands, -⟩ := run_ignores_below m program [8, 9] (by rw [hresult]; simp)
  refine ⟨⟨hresult, hoperands.trans ?_, hseen.trans ?_⟩, ?_, ?_⟩
  · rw [run_eq_sweep rfl]
    rfl
  · rw [run_eq_sweep rfl]
    rfl
  · rw [run_eq_sweep rfl]
    rfl
  · rw [run_eq_sweep rfl]
    rfl

end StackMachine.Machine
