import StackMachine.Machine.Run

/-!
# Runs as sweeps

A run steps through its program by the counter and stops as soon as the last instruction is done.
This file replaces it by a recursion on the instructions that are still ahead: `sweep` applies them
one after another, ends at a `halt` or at a fault, and finishes at the empty list. The two agree on
every machine that is running (`run_eq_sweep`), so statements about runs are proved by induction on
a list, with one case for each constructor of `Reply`.
-/

namespace StackMachine.Machine

/-! ## What an instruction can do -/

/-- The values that a successful instruction appends to the output. -/
def printed (m : Machine) : Instruction → List Int64
  | .print => m.stack.take 1
  | _ => []

/-- What dispatching can do: fail and change nothing, halt, or replace the stack and print. -/
inductive Reply (m : Machine) (instruction : Instruction) : Machine × Except Fault Effect → Prop
  | fails (fault : Fault) (hi : instruction ≠ .halt) : Reply m instruction (m, .error fault)
  | halts (hi : instruction = .halt) : Reply m instruction (m.finish, .ok .halted)
  | works (stack : List Int64) (effect : Effect) (hi : instruction ≠ .halt)
      (he : effect ≠ .halted) (hseen : effect.seen = m.printed instruction) {m' : Machine}
      (hm' : m' = { m with stack := stack, output := m.output ++ effect.seen }) :
      Reply m instruction (m', .ok effect)

theorem reply_binary (m : Machine) {instruction : Instruction} (hi : instruction ≠ .halt)
    (hp : instruction ≠ .print) (operation : Int64 → Int64 → Except Fault Int64) :
    Reply m instruction (m.binary operation) := by
  have hprinted : m.printed instruction = [] := by
    cases instruction <;> simp_all [printed]
  unfold binary
  split
  · rename_i b a rest _
    split
    · rename_i value _
      exact .works (value :: rest) .updated hi (by simp) hprinted.symm (by simp [Effect.seen])
    · exact .fails _ hi
  · exact .fails _ hi

/-- Dispatching does one of the three things, whatever the machine and the instruction. -/
theorem reply_dispatch (m : Machine) (instruction : Instruction) :
    Reply m instruction (m.dispatch instruction) := by
  cases instruction with
  | push operand =>
    exact .works (operand :: m.stack) .updated (by simp) (by simp) rfl (by simp [Effect.seen])
  | pop =>
    rw [dispatch]
    split
    · rename_i value rest _
      exact .works rest (.popped value) (by simp) (by simp) rfl (by simp [Effect.seen])
    · exact .fails _ (by simp)
  | add => exact reply_binary m (by simp) (by simp) _
  | sub => exact reply_binary m (by simp) (by simp) _
  | mul => exact reply_binary m (by simp) (by simp) _
  | div => exact reply_binary m (by simp) (by simp) _
  | print =>
    rw [dispatch]
    split
    · rename_i value rest hs
      exact .works m.stack (.printed value) (by simp) (by simp)
        (by simp [printed, hs, Effect.seen]) rfl
    · exact .fails _ (by simp)
  | halt => exact .halts rfl
  | unknown opcode => exact .fails _ (by simp)

/-! ## Sweeps -/

/-- Applies the instructions ahead of a running machine, up to the first `halt` or fault. -/
def sweep (m : Machine) : List Instruction → Trace Unit
  | [] => { machine := m.finish, result := .ok () }
  | instruction :: rest =>
    let dispatching := Event.dispatching m.counter instruction m.stack.length
    match m.dispatch instruction with
    | (m', .error fault) =>
      { machine := m'.fail, result := .error fault,
        events := [dispatching, .failed m.counter fault] }
    | (m', .ok .halted) =>
      { machine := m'.moveOn, result := .ok (), events := [dispatching] }
    | (m', .ok effect) => (m'.moveOn.sweep rest).after effect.seen [dispatching]

theorem sweep_of_error {m m' : Machine} {instruction : Instruction} {fault : Fault}
    (hd : m.dispatch instruction = (m', .error fault)) (rest : List Instruction) :
    m.sweep (instruction :: rest) =
      { machine := m'.fail, result := .error fault,
        events := [.dispatching m.counter instruction m.stack.length,
          .failed m.counter fault] } := by
  rw [sweep, hd]

theorem sweep_of_ok {m m' : Machine} {instruction : Instruction} {effect : Effect}
    (he : effect ≠ .halted) (hd : m.dispatch instruction = (m', .ok effect))
    (rest : List Instruction) :
    m.sweep (instruction :: rest) =
      (m'.moveOn.sweep rest).after effect.seen
        [.dispatching m.counter instruction m.stack.length] := by
  rw [sweep, hd]
  cases effect with
  | halted => exact absurd rfl he
  | updated => rfl
  | popped value => rfl
  | printed value => rfl

/-- What a sweep shows is what it appends to the output, whether or not it fails in the end. -/
theorem output_sweep (m : Machine) (rest : List Instruction) :
    (m.sweep rest).machine.output = m.output ++ (m.sweep rest).seen := by
  induction rest generalizing m with
  | nil => exact (List.append_nil m.output).symm
  | cons instruction rest ih =>
    have hreply := reply_dispatch m instruction
    generalize hd : m.dispatch instruction = reply at hreply
    cases hreply with
    | fails fault hi =>
      rw [sweep_of_error hd]
      exact (List.append_nil m.output).symm
    | halts hi =>
      rw [sweep, hd]
      exact (List.append_nil m.output).symm
    | works stack effect hi he hseen hm' =>
      rename_i m'
      have hnext : m'.moveOn.output = m.output ++ effect.seen := by rw [hm']; rfl
      rw [sweep_of_ok he hd]
      show (m'.moveOn.sweep rest).machine.output = m.output ++ (effect.seen ++ _)
      rw [ih, hnext, List.append_assoc]

/-- The status of a swept machine tells whether an instruction failed. -/
theorem status_sweep (m : Machine) (rest : List Instruction) :
    (m.sweep rest).machine.status = .failed ↔ ∃ fault, (m.sweep rest).result = .error fault := by
  induction rest generalizing m with
  | nil => simp [sweep, finish]
  | cons instruction rest ih =>
    have hreply := reply_dispatch m instruction
    generalize hd : m.dispatch instruction = reply at hreply
    cases hreply with
    | fails fault hi => simp [sweep_of_error hd, fail]
    | halts hi => simp [sweep, hd, finish, moveOn]
    | works stack effect hi he hseen hm' =>
      rename_i m'
      rw [sweep_of_ok he hd]
      exact ih m'.moveOn

/-! ## One step -/

theorem counter_advance (m : Machine) (length : Nat) :
    (m.advance length).counter = m.counter + 1 := by
  unfold advance
  split <;> rfl

theorem stack_advance (m : Machine) (length : Nat) : (m.advance length).stack = m.stack := by
  unfold advance
  split <;> rfl

theorem output_advance (m : Machine) (length : Nat) : (m.advance length).output = m.output := by
  unfold advance
  split <;> rfl

theorem step_of_stopped {m : Machine} (hm : m.running = false) (program : Program) :
    m.step program = { machine := m, result := .ok .done } := by
  simp [step, hm]

theorem step_of_past {m : Machine} {program : Program} (hm : m.running = true)
    (hpast : program[m.counter]? = none) :
    m.step program = { machine := m.finish, result := .ok .done } := by
  simp [step, hm, hpast]

theorem step_of_error {m m' : Machine} {program : Program} {instruction : Instruction}
    {fault : Fault} (hm : m.running = true) (hfound : program[m.counter]? = some instruction)
    (hd : m.dispatch instruction = (m', .error fault)) :
    m.step program =
      { machine := m'.fail, result := .error fault,
        events := [.dispatching m.counter instruction m.stack.length,
          .failed m'.counter fault] } := by
  simp [step, hm, hfound, hd]

theorem step_of_ok {m m' : Machine} {program : Program} {instruction : Instruction}
    {effect : Effect} (hm : m.running = true) (hfound : program[m.counter]? = some instruction)
    (hd : m.dispatch instruction = (m', .ok effect)) :
    m.step program =
      { machine := m'.advance program.length,
        result := .ok (m'.advance program.length).progress, seen := effect.seen,
        events := [.dispatching m.counter instruction m.stack.length] } := by
  simp [step, hm, hfound, hd]

/-! ## Runs -/

theorem run_of_done {m : Machine} {program : Program}
    (h : (m.step program).result = .ok .done) :
    m.run program = { m.step program with result := .ok () } := by
  unfold run
  dsimp only
  split <;> simp_all

theorem run_of_error {m : Machine} {program : Program} {fault : Fault}
    (h : (m.step program).result = .error fault) :
    m.run program = { m.step program with result := .error fault } := by
  unfold run
  dsimp only
  split <;> simp_all

theorem run_of_more {m : Machine} {program : Program}
    (h : (m.step program).result = .ok .more) :
    m.run program =
      ((m.step program).machine.run program).after (m.step program).seen
        (m.step program).events := by
  rw [run]
  split <;> simp_all

/-- The run of a running machine is the sweep over the instructions from the counter on. -/
theorem run_eq_sweep {m : Machine} (hm : m.running = true) (program : Program) :
    m.run program = m.sweep (program.drop m.counter) := by
  induction hrest : program.drop m.counter generalizing m with
  | nil =>
    have hpast : program[m.counter]? = none := by simpa using hrest
    have hstep := step_of_past hm hpast
    rw [run_of_done (by rw [hstep]), hstep, sweep]
  | cons instruction rest ih =>
    have hfound : program[m.counter]? = some instruction := by
      rw [← List.head?_drop, hrest, List.head?_cons]
    have hdrop : program.drop (m.counter + 1) = rest := by
      rw [← List.tail_drop, hrest, List.tail_cons]
    have hreply := reply_dispatch m instruction
    generalize hd : m.dispatch instruction = reply at hreply
    -- one case for each reply; only the last one goes on, and only if instructions are left
    cases hreply with
    | fails fault hi =>
      have hstep := step_of_error hm hfound hd
      rw [run_of_error (by rw [hstep]), hstep, sweep_of_error hd]
    | halts hi =>
      have hstep := step_of_ok hm hfound hd
      have hadvance : m.finish.advance program.length = m.finish.moveOn := by
        simp [advance, finish]
      rw [hadvance] at hstep
      rw [run_of_done (by rw [hstep]; rfl), hstep, sweep, hd]
      rfl
    | works stack effect hi he hseen hm' =>
      rename_i m'
      have hrunning : m'.running = true := by rw [hm']; exact hm
      have hcounter : m'.counter = m.counter := by rw [hm']
      have hstep := step_of_ok hm hfound hd
      rw [sweep_of_ok he hd]
      by_cases hlast : program.length ≤ m'.counter + 1
      · -- the run stops here, and the sweep does so at the empty list
        have hnil : rest = [] := by
          rw [← hdrop, List.drop_eq_nil_of_le (by omega)]
        rw [advance, if_pos ⟨hrunning, hlast⟩] at hstep
        rw [run_of_done (by rw [hstep]; rfl), hstep, hnil, sweep]
        simp [Trace.after]
      · rw [advance, if_neg (by simp [hlast])] at hstep
        rw [run_of_more (by rw [hstep]; simp [progress, moveOn, hrunning]), hstep]
        rw [ih (by simpa [moveOn] using hrunning) (by simp [moveOn, hcounter, hdrop])]

/-! ## Executing a program -/

theorem run_start (m : Machine) (program : Program) :
    m.start.run program = m.start.sweep program :=
  run_eq_sweep rfl program

theorem machine_execute (m : Machine) (program : Program) :
    (m.execute program).machine = (m.start.sweep program).machine := by
  rw [execute, run_start]
  dsimp only
  split <;> rfl

theorem seen_execute (m : Machine) (program : Program) :
    (m.execute program).seen = (m.start.sweep program).seen := by
  rw [execute, run_start]
  dsimp only
  split <;> rfl

/-- Executing gives the output log, or the fault of the sweep. -/
theorem result_execute (m : Machine) (program : Program) :
    (m.execute program).result =
      (m.start.sweep program).result.map fun _ => (m.start.sweep program).machine.output := by
  rw [execute, run_start]
  dsimp only
  split
  · rename_i h
    rw [h]
    rfl
  · rename_i fault h
    rw [h]
    rfl

theorem result_execute_eq_error_iff {m : Machine} {program : Program} {fault : Fault} :
    (m.execute program).result = .error fault ↔
      (m.start.sweep program).result = .error fault := by
  rw [result_execute]
  cases (m.start.sweep program).result with
  | ok => simp [Except.map]
  | error fault' => simp [Except.map]

/-- An execution that succeeds gives its output log. -/
theorem result_execute_eq_ok_iff {m : Machine} {program : Program} {log : List Int64} :
    (m.execute program).result = .ok log ↔
      (m.start.sweep program).result = .ok () ∧ (m.execute program).machine.output = log := by
  rw [result_execute, machine_execute]
  cases (m.start.sweep program).result with
  | ok => simp [Except.map]
  | error fault => simp [Except.map]

/-- An observer of an execution sees the output, also of one that fails. -/
theorem output_execute (m : Machine) (program : Program) :
    (m.execute program).machine.output = (m.execute program).seen := by
  rw [machine_execute, seen_execute, output_sweep]
  rfl

/-- The status after an execution tells whether it failed. -/
theorem status_execute (m : Machine) (program : Program) :
    (m.execute program).machine.status = .failed ↔
      ∃ fault, (m.execute program).result = .error fault := by
  rw [machine_execute, result_execute, status_sweep]
  cases (m.start.sweep program).result with
  | ok => simp [Except.map]
  | error fault => simp [Except.map]

end StackMachine.Machine
