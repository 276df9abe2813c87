import StackMachine.Proofs.Machine.Sweep

/-!
# Runs as steps

A run is a loop around `step`, and its caller may just as well call `step` and run later, or not at
all. `EndsAfter` is the loop with the number of its calls, `steps` a number of calls that the caller
makes. Main statement: every run ends after at most as many calls as there are instructions ahead, a
run may be taken over after any number of calls, and stepping from a fresh start, also beyond the
end, gives what executing gives (`run_split`).
-/

namespace StackMachine.Machine

/-! ## Traces one after the other -/

theorem Trace.after_nil {α : Type} (trace : Trace α) : trace.after [] [] = trace := rfl

theorem Trace.after_after {α : Type} (trace : Trace α) (seen seen' : List Int64)
    (events events' : List Event) :
    (trace.after seen' events').after seen events =
      trace.after (seen ++ seen') (events ++ events') := by
  simp [after]

/-! ## Calls of `step` -/

/-- Calls `step` a number of times or up to the first fault. A call on a machine that is done counts
like any other. -/
def steps (m : Machine) (program : Program) : Nat → Trace Unit
  | 0 => { machine := m, result := .ok () }
  | n + 1 =>
    let trace := m.step program
    match trace.result with
    | .error fault => { trace with result := .error fault }
    | .ok _ => (trace.machine.steps program n).after trace.seen trace.events

/-- The loop around `step` ends after this number of calls, and this is its trace. -/
inductive EndsAfter (program : Program) : Machine → Nat → Trace Unit → Prop
  | done {m : Machine} (h : (m.step program).result = .ok .done) :
      EndsAfter program m 1 { m.step program with result := .ok () }
  | failed {m : Machine} {fault : Fault} (h : (m.step program).result = .error fault) :
      EndsAfter program m 1 { m.step program with result := .error fault }
  | more {m : Machine} {n : Nat} {trace : Trace Unit} (h : (m.step program).result = .ok .more)
      (hrest : EndsAfter program (m.step program).machine n trace) :
      EndsAfter program m (n + 1) (trace.after (m.step program).seen (m.step program).events)

section Steps

variable {m : Machine} {program : Program}

theorem steps_of_error {fault : Fault} (h : (m.step program).result = .error fault) (n : Nat) :
    m.steps program (n + 1) = { m.step program with result := .error fault } := by
  simp only [steps, h]

theorem steps_of_ok {progress : Progress} (h : (m.step program).result = .ok progress) (n : Nat) :
    m.steps program (n + 1) =
      ((m.step program).machine.steps program n).after (m.step program).seen
        (m.step program).events := by
  simp only [steps, h]

/-- What a step says about going on is what the machine afterwards says. -/
theorem progress_of_step {progress : Progress} (h : (m.step program).result = .ok progress) :
    (m.step program).machine.progress = progress := by
  cases hm : m.running with
  | false =>
    rw [step_of_stopped hm, Except.ok.injEq] at h
    rw [step_of_stopped hm, ← h, Machine.progress, hm]
    rfl
  | true =>
    cases hfound : program[m.counter]? with
    | none =>
      rw [step_of_past hm hfound, Except.ok.injEq] at h
      rw [step_of_past hm hfound, ← h]
      rfl
    | some instruction =>
      cases hd : m.dispatch instruction with
      | mk m' reply =>
        cases reply with
        | error fault => simp [step_of_error hm hfound hd] at h
        | ok effect =>
          rw [step_of_ok hm hfound hd, Except.ok.injEq] at h
          rwa [step_of_ok hm hfound hd]

/-- A step that is done has stopped the machine, or found it stopped. -/
theorem running_of_done (h : (m.step program).result = .ok .done) :
    (m.step program).machine.running = false := by
  have hdone := progress_of_step h
  rw [← Bool.not_eq_true, ← progress_eq_more_iff, hdone]
  simp

/-- A step that fails has stopped the machine. -/
theorem running_of_error {fault : Fault} (h : (m.step program).result = .error fault) :
    (m.step program).machine.running = false := by
  cases hm : m.running with
  | false => simp [step_of_stopped hm] at h
  | true =>
    cases hfound : program[m.counter]? with
    | none => simp [step_of_past hm hfound] at h
    | some instruction =>
      rcases hd : m.dispatch instruction with ⟨m', fault' | effect⟩
      · rw [step_of_error hm hfound hd]
        rfl
      · simp [step_of_ok hm hfound hd] at h

/-- Being done is final: calls on a stopped machine do nothing. -/
theorem steps_of_stopped (hm : m.running = false) (n : Nat) :
    m.steps program n = { machine := m, result := .ok () } := by
  induction n with
  | zero => rfl
  | succ n ih => rw [steps_of_ok (by rw [step_of_stopped hm]), step_of_stopped hm, ih]; rfl

theorem run_of_stopped (hm : m.running = false) :
    m.run program = { machine := m, result := .ok () } := by
  rw [run_of_done (by rw [step_of_stopped hm]), step_of_stopped hm]

/-! ## The loop -/

/-- Steps that go on do not go on for ever, so what they take backwards holds everywhere: each one
moves the counter to a later instruction. -/
theorem step_induction (program : Program) {P : Machine → Prop}
    (h : ∀ m, ((m.step program).result = .ok .more → P (m.step program).machine) → P m)
    (m : Machine) : P m := by
  induction hahead : program.length - m.counter using Nat.strongRecOn generalizing m with
  | _ ahead ih =>
    refine h m fun hmore => ?_
    obtain ⟨hcounter, hinside⟩ := counter_step_of_more hmore
    exact ih _ (by omega) (m.step program).machine rfl

/-- A run makes at most as many calls as there are instructions ahead, and always one. -/
theorem endsAfter_run (m : Machine) (program : Program) :
    ∃ n, n ≤ max 1 (program.length - m.counter) ∧ EndsAfter program m n (m.run program) := by
  induction m using step_induction program with
  | h m ih =>
    cases hresult : (m.step program).result with
    | error fault =>
      rw [run_of_error hresult]
      exact ⟨1, Nat.le_max_left _ _, .failed hresult⟩
    | ok progress =>
      cases progress with
      | done =>
        rw [run_of_done hresult]
        exact ⟨1, Nat.le_max_left _ _, .done hresult⟩
      | more =>
        -- the counter has moved to an instruction, so there is one less ahead
        obtain ⟨hcounter, hinside⟩ := counter_step_of_more hresult
        obtain ⟨n, hn, hends⟩ := ih hresult
        rw [run_of_more hresult]
        exact ⟨n + 1, by omega, .more hresult hends⟩

/-- The loop has one trace, that of the run. -/
theorem EndsAfter.eq_run {n : Nat} {trace : Trace Unit} (h : EndsAfter program m n trace) :
    trace = m.run program := by
  induction h with
  | done h => rw [run_of_done h]
  | failed h => rw [run_of_error h]
  | more h _ ih => rw [run_of_more h, ih]

/-- Calling `step` until the loop ends, and any number of times more, leaves the trace of the loop.
-/
theorem EndsAfter.steps_eq {n : Nat} {trace : Trace Unit} (h : EndsAfter program m n trace)
    (extra : Nat) : m.steps program (n + extra) = trace := by
  induction h with
  | done h =>
    rw [Nat.add_comm, steps_of_ok h, steps_of_stopped (running_of_done h)]
    simp [Trace.after]
  | failed h => rw [Nat.add_comm, steps_of_error h]
  | @more m n trace h _ ih => rw [Nat.add_right_comm, steps_of_ok h, ih]

/-- A run may be taken over after any number of calls that do not fail. -/
theorem run_eq_after_steps {n : Nat} (h : (m.steps program n).result = .ok ()) :
    m.run program =
      ((m.steps program n).machine.run program).after (m.steps program n).seen
        (m.steps program n).events := by
  induction n generalizing m with
  | zero => exact (Trace.after_nil _).symm
  | succ n ih =>
    cases hresult : (m.step program).result with
    | error fault => simp [steps_of_error hresult] at h
    | ok progress =>
      rw [steps_of_ok hresult] at h ⊢
      have hrest := ih (m := (m.step program).machine) h
      show m.run program =
        (((m.step program).machine.steps program n).machine.run program).after
          ((m.step program).seen ++ _) ((m.step program).events ++ _)
      rw [← Trace.after_after, ← hrest]
      cases progress with
      | more => exact run_of_more hresult
      | done =>
        rw [run_of_done hresult, run_of_stopped (running_of_done hresult)]
        simp [Trace.after]

/-- What holds at first and is kept by steps that go on holds after any number of calls that leave
more to do. -/
theorem steps_invariant (P : Nat → Machine → Prop)
    (hstep : ∀ k m', P k m' → (m'.step program).result = .ok .more →
      P (k + 1) (m'.step program).machine)
    {k : Nat} (hzero : P 0 m) (hok : (m.steps program k).result = .ok ())
    (hrunning : (m.steps program k).machine.running = true) :
    P k (m.steps program k).machine := by
  induction k generalizing m P with
  | zero => exact hzero
  | succ k ih =>
    cases hresult : (m.step program).result with
    | error fault => simp [steps_of_error hresult] at hok
    | ok progress =>
      rw [steps_of_ok hresult] at hok hrunning ⊢
      cases progress with
      | done =>
        -- no later call starts the machine again
        have hstopped := running_of_done hresult
        rw [steps_of_stopped hstopped] at hrunning
        exact absurd hrunning (by simp [Trace.after, hstopped])
      | more =>
        exact ih (fun k => P (k + 1)) (fun k => hstep (k + 1)) (hstep 0 m hzero hresult) hok
          hrunning

end Steps

/-- Every run ends, after a bounded number of calls of `step`. It may be split behind any number of
calls that do not fail, and stepping from a start until the loop ends, and any number of times more,
is executing. -/
theorem run_split (program : Program) :
    (∀ m : Machine, ∃ n, n ≤ max 1 (program.length - m.counter) ∧
      EndsAfter program m n (m.run program)) ∧
    (∀ (m : Machine) (n : Nat), (m.steps program n).result = .ok () →
      m.run program =
        ((m.steps program n).machine.run program).after (m.steps program n).seen
          (m.steps program n).events) ∧
    (∀ (m : Machine) (n extra : Nat) (trace : Trace Unit), EndsAfter program m.start n trace →
      let stepped := m.start.steps program (n + extra)
      stepped.machine = (m.execute program).machine ∧
        stepped.seen = (m.execute program).seen ∧
        (stepped.result.map fun _ => stepped.machine.output) = (m.execute program).result) := by
  refine ⟨fun m => endsAfter_run m program, fun m n h => run_eq_after_steps h, ?_⟩
  intro m n extra trace h stepped
  have hstepped : stepped = m.start.sweep program := by
    rw [← run_start, ← h.eq_run]
    exact h.steps_eq extra
  rw [machine_execute, seen_execute, result_execute, hstepped]
  exact ⟨rfl, rfl, rfl⟩

/-- A machine far behind its program, a run that is taken over before its `halt`, and two calls
behind it. -/
theorem run_split_halt :
    let program : Program := [.push 7, .print, .halt, .pop]
    let m : Machine := { stack := [1], counter := 9, running := true, status := .running }
    (∃ n, n ≤ 1 ∧ EndsAfter program m n (m.run program)) ∧
    ((m.start.steps program 2).result = .ok () ∧
      m.start.run program =
        ((m.start.steps program 2).machine.run program).after [7]
          [.dispatching 0 (.push 7) 0, .dispatching 1 .print 1]) ∧
    ((m.start.steps program 3).machine.running = false ∧
      (m.start.steps program 5).machine = (m.execute program).machine ∧
      (m.start.steps program 5).seen = (m.execute program).seen) := by
  intro program m
  obtain ⟨hends, hsplit, hexecute⟩ := run_split program
  have hloop : EndsAfter program m.start 3 _ := .more rfl (.more rfl (.done rfl))
  obtain ⟨hmachine, hseen, -⟩ := hexecute m 3 2 _ hloop
  exact ⟨hends m, ⟨rfl, hsplit m.start 2 rfl⟩, rfl, hmachine, hseen⟩

end StackMachine.Machine
