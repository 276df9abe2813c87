import StackMachine.Proofs.Machine.Stepping

/-!
# Observers and the output log

A printed value is written down twice: dispatching appends it to the output log, and the step that
dispatches tells it to the observer. This file shows that the two never differ, whatever calls are
made and wherever they stop (`observers_see_output`). The values are tied to the moments at which a
`print` was dispatched, which are read off what the steps report.
-/

namespace StackMachine.Machine

/-! ## Moments -/

/-- An instruction that was dispatched with success, and the machine just before. -/
structure Moment where
  machine : Machine
  instruction : Instruction
  deriving DecidableEq, Repr

/-- The value on top of the stack at a moment. -/
def Moment.top (moment : Moment) : Option Int64 :=
  moment.machine.stack.head?

/-- The moment of a call of `step`. A step that succeeds has dispatched the instruction that it
announced, if it announced one. -/
def moment? (m : Machine) (program : Program) : Option Moment :=
  match (m.step program).result, (m.step program).events with
  | .ok _, [.dispatching _ instruction _] => some ⟨m, instruction⟩
  | _, _ => none

/-- What calls of `step` leave. -/
structure Walk where
  machine : Machine
  /-- The values that the observer was told, in order. -/
  seen : List Int64 := []
  /-- The moments of the calls, in order. -/
  moments : List Moment := []

/-- Calls `step` once for each program. A call that fails is followed by the others all the same. -/
def walk (m : Machine) : List Program → Walk
  | [] => { machine := m }
  | program :: programs =>
    let trace := m.step program
    let rest := trace.machine.walk programs
    { machine := rest.machine, seen := trace.seen ++ rest.seen,
      moments := (m.moment? program).toList ++ rest.moments }

/-- The moments at which a `print` was dispatched. -/
def Walk.prints (walk : Walk) : List Moment :=
  walk.moments.filter fun moment => moment.instruction = .print

/-! ## One step -/

/-- An instruction that succeeds shows the top of the stack if it is a `print`, and nothing
otherwise. -/
theorem shown_of_dispatch {m m' : Machine} {instruction : Instruction} {effect : Effect}
    (hd : m.dispatch instruction = (m', .ok effect)) (hseen : effect.seen = m.printed instruction) :
    effect.seen.map some =
      ([Moment.mk m instruction].filter fun moment => moment.instruction = .print).map
        Moment.top := by
  rw [hseen]
  cases instruction with
  | print =>
    cases hs : m.stack with
    | nil => simp [dispatch, hs] at hd
    | cons value rest => simp [printed, Moment.top, hs]
  | _ => rfl

/-- A step appends to the output what it shows, which is the top of the stack if its moment is that
of a `print` and nothing otherwise. -/
theorem step_shows (m : Machine) (program : Program) :
    (m.step program).machine.output = m.output ++ (m.step program).seen ∧
      (m.step program).seen.map some =
        ((m.moment? program).toList.filter fun moment => moment.instruction = .print).map
          Moment.top := by
  cases hm : m.running with
  | false => simp [moment?, step_of_stopped hm]
  | true =>
    cases hfound : program[m.counter]? with
    | none => simp [moment?, step_of_past hm hfound, finish]
    | some instruction =>
      have hreply := reply_dispatch m instruction
      generalize hd : m.dispatch instruction = reply at hreply
      cases hreply with
      | fails fault hi => simp [moment?, step_of_error hm hfound hd, fail]
      | halts hi =>
        have hshown := shown_of_dispatch hd (by rw [hi]; rfl)
        simp only [moment?, step_of_ok hm hfound hd, output_advance]
        exact ⟨(List.append_nil m.output).symm, hshown⟩
      | works stack effect hi he hseen hm' =>
        have hshown := shown_of_dispatch hd hseen
        simp only [moment?, step_of_ok hm hfound hd, output_advance]
        exact ⟨by rw [hm'], hshown⟩

/-! ## Many steps -/

/-- So does any number of steps, with any programs: the values that they show are the tops of the
stack at the moments of their `print` instructions. -/
theorem walk_shows (m : Machine) (programs : List Program) :
    (m.walk programs).machine.output = m.output ++ (m.walk programs).seen ∧
      (m.walk programs).seen.map some = (m.walk programs).prints.map Moment.top := by
  induction programs generalizing m with
  | nil => exact ⟨(List.append_nil m.output).symm, rfl⟩
  | cons program programs ih =>
    obtain ⟨houtput, hshown⟩ := step_shows m program
    obtain ⟨houtput', hshown'⟩ := ih (m.step program).machine
    simp only [walk, Walk.prints, List.filter_append, List.map_append]
    exact ⟨by rw [houtput', houtput, List.append_assoc], by rw [hshown, hshown']; rfl⟩

/-- As many values are shown as there are `print` instructions among those that were dispatched with
success. -/
theorem length_seen_walk (m : Machine) (programs : List Program) :
    (m.walk programs).seen.length =
      ((m.walk programs).moments.map Moment.instruction).count .print := by
  have hlength : (m.walk programs).seen.length = (m.walk programs).prints.length := by
    simpa using congrArg List.length (walk_shows m programs).2
  rw [hlength, Walk.prints, List.count, List.countP_map, List.countP_eq_length_filter]
  rfl

/-! ## Runs and executions -/

/-- The calls of a loop are a walk. -/
theorem EndsAfter.walk_eq {program : Program} {m : Machine} {n : Nat} {trace : Trace Unit}
    (h : EndsAfter program m n trace) :
    (m.walk (List.replicate n program)).machine = trace.machine ∧
      (m.walk (List.replicate n program)).seen = trace.seen := by
  induction h with
  | done h => exact ⟨rfl, List.append_nil _⟩
  | failed h => exact ⟨rfl, List.append_nil _⟩
  | more h _ ih =>
    simp only [List.replicate_succ, walk]
    exact ⟨ih.1, by rw [ih.2]; rfl⟩

/-- The walk of a run's loop, and what it shows. -/
theorem run_shows (m : Machine) (program : Program) :
    (m.run program).machine.output = m.output ++ (m.run program).seen ∧
      ∃ n, EndsAfter program m n (m.run program) ∧
        let walk := m.walk (List.replicate n program)
        walk.machine = (m.run program).machine ∧
          (m.run program).seen.map some = walk.prints.map Moment.top ∧
          (m.run program).seen.length =
            (walk.moments.map Moment.instruction).count .print := by
  obtain ⟨n, -, hends⟩ := endsAfter_run m program
  obtain ⟨hmachine, hseen⟩ := hends.walk_eq
  obtain ⟨houtput, hshown⟩ := walk_shows m (List.replicate n program)
  have hlength := length_seen_walk m (List.replicate n program)
  rw [hmachine, hseen] at houtput
  rw [hseen] at hshown hlength
  exact ⟨houtput, n, hends, hmachine, hshown, hlength⟩

/-- **Observers see the output log.** Whatever calls of `step` are made, with whatever programs, the
output grows by the values that the observer is told, one for each `print` that was dispatched with
success: the top of the stack at that moment. The same holds of a run, whose loop makes these calls,
and of an execution, where the observer has seen the output log also if it fails, and the result if
it succeeds. -/
theorem observers_see_output :
    (∀ (m : Machine) (programs : List Program),
      let walk := m.walk programs
      walk.machine.output = m.output ++ walk.seen ∧
        walk.seen.map some = walk.prints.map Moment.top ∧
        walk.seen.length = (walk.moments.map Moment.instruction).count .print) ∧
    (∀ (m : Machine) (program : Program),
      let trace := m.run program
      trace.machine.output = m.output ++ trace.seen ∧
        ∃ n, EndsAfter program m n trace ∧
          let walk := m.walk (List.replicate n program)
          walk.machine = trace.machine ∧
            trace.seen.map some = walk.prints.map Moment.top ∧
            trace.seen.length = (walk.moments.map Moment.instruction).count .print) ∧
    (∀ (m : Machine) (program : Program),
      let trace := m.execute program
      trace.machine.output = trace.seen ∧
        (∀ log, trace.result = .ok log → log = trace.seen) ∧
        ∃ n, EndsAfter program m.start n (m.start.run program) ∧
          let walk := m.start.walk (List.replicate n program)
          walk.machine = trace.machine ∧
            trace.seen.map some = walk.prints.map Moment.top ∧
            trace.seen.length = (walk.moments.map Moment.instruction).count .print) := by
  refine ⟨?_, ?_, ?_⟩
  · intro m programs walk
    obtain ⟨houtput, hshown⟩ := walk_shows m programs
    exact ⟨houtput, hshown, length_seen_walk m programs⟩
  · intro m program trace
    exact run_shows m program
  · intro m program trace
    have houtput : trace.machine.output = trace.seen := output_execute m program
    have hmachine : trace.machine = (m.start.run program).machine := by
      rw [run_start]
      exact machine_execute m program
    have hseen : trace.seen = (m.start.run program).seen := by
      rw [run_start]
      exact seen_execute m program
    obtain ⟨-, n, hends, hwalk⟩ := run_shows m.start program
    refine ⟨houtput, fun log hlog => ?_, n, hends, ?_⟩
    · exact (result_execute_eq_ok_iff.mp hlog).2.symm.trans houtput
    · rw [hmachine, hseen]
      exact hwalk

/-- A program that prints two values and succeeds, and steps that print one of them, go on with
another program and fail at its second `print`. -/
theorem observers_see_output_steps :
    let program : Program := [.push 5, .print, .push 7, .print]
    let other : Program := [.halt, .halt, .print, .pop, .pop, .print]
    let walk := new.start.walk [program, program, other, other, other, other]
    ((new.execute program).result = .ok [5, 7] ∧ [5, 7] = (new.execute program).seen) ∧
      walk.seen = [5, 5] ∧ walk.machine.status = .failed ∧ walk.machine.output = [5, 5] ∧
      walk.prints.map Moment.top = [some 5, some 5] := by
  intro program other walk
  obtain ⟨hwalks, -, hexecutions⟩ := observers_see_output
  obtain ⟨-, hlog, -⟩ := hexecutions new program
  obtain ⟨houtput, hshown, -⟩ := hwalks new.start [program, program, other, other, other, other]
  have hresult : (new.execute program).result = .ok [5, 7] := by
    rw [result_execute]
    rfl
  have hlogged : [5, 7] = (new.execute program).seen := hlog _ hresult
  have hseen : walk.seen = [5, 5] := by decide +kernel
  have hstatus : walk.machine.status = .failed := by decide +kernel
  rw [show (new.start.walk _).seen = _ from hseen] at houtput hshown
  exact ⟨⟨hresult, hlogged⟩, hseen, hstatus, houtput, hshown.symm⟩

end StackMachine.Machine
