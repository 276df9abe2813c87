import StackMachine.Proofs.Machine.Sweep

/-!
# Failing instructions leave nothing behind

An instruction looks before it acts, so one that fails has changed nothing, and a run that fails has
done exactly the work of the instructions before the failing one. Main statement: a failing run is
the successful run of a prefix of its program, followed by the fault of the next instruction
(`execute_failure_atomic`).
-/

namespace StackMachine.Machine

/-! ## One instruction, one step -/

/-- A failing instruction leaves the machine as it was. -/
theorem dispatch_eq_of_error {m : Machine} {instruction : Instruction} {fault : Fault}
    (h : (m.dispatch instruction).2 = .error fault) :
    m.dispatch instruction = (m, .error fault) := by
  have hreply := reply_dispatch m instruction
  generalize m.dispatch instruction = reply at hreply h ⊢
  cases hreply with
  | fails fault' hi =>
    obtain rfl : fault' = fault := by simpa using h
    rfl
  | halts hi => simp at h
  | works stack effect hi he hseen hm' => simp at h

/-- A failing step only stops the machine, and shows nothing to an observer. -/
theorem step_eq_of_error {m : Machine} {program : Program} {fault : Fault}
    (h : (m.step program).result = .error fault) :
    (m.step program).machine = m.fail ∧ (m.step program).seen = [] := by
  cases hm : m.running with
  | false => simp [step_of_stopped hm] at h
  | true =>
    cases hfound : program[m.counter]? with
    | none => simp [step_of_past hm hfound] at h
    | some instruction =>
      cases hd : m.dispatch instruction with
      | mk m' reply =>
        cases reply with
        | ok effect => simp [step_of_ok hm hfound hd] at h
        | error fault' =>
          have hsame := dispatch_eq_of_error (by rw [hd])
          obtain rfl : m' = m := by simpa [hd] using congrArg Prod.fst hsame
          rw [step_of_error hm hfound hd]
          exact ⟨rfl, rfl⟩

/-- Whether an instruction fails, and how, is decided by the stack alone. -/
theorem reply_eq_of_stack_eq {m m' : Machine} (h : m.stack = m'.stack)
    (instruction : Instruction) :
    (m.dispatch instruction).2 = (m'.dispatch instruction).2 := by
  have hbinary : ∀ operation, (m.binary operation).2 = (m'.binary operation).2 := by
    intro operation
    rw [binary, binary, h]
    split
    · split <;> rfl
    · rfl
  cases instruction with
  | pop =>
    rw [dispatch, dispatch, h]
    split <;> rfl
  | print =>
    rw [dispatch, dispatch, h]
    split <;> rfl
  | add | sub | mul | div => exact hbinary _
  | push | halt | unknown => rfl

/-! ## Whole runs -/

/-- A failing sweep splits at its fault: the instructions before it are swept without a fault and
without a `halt`, and only the status tells the two machines apart. -/
theorem sweep_split_of_error {m : Machine} {rest : List Instruction} {fault : Fault}
    (h : (m.sweep rest).result = .error fault) :
    ∃ before instruction after, rest = before ++ instruction :: after ∧
      Instruction.halt ∉ before ∧
      (m.sweep rest).machine.counter = m.counter + before.length ∧
      (m.sweep before).result = .ok () ∧
      (m.sweep before).machine = { (m.sweep rest).machine with status := .halted } ∧
      (m.sweep before).seen = (m.sweep rest).seen ∧
      ((m.sweep before).machine.dispatch instruction).2 = .error fault := by
  induction rest generalizing m with
  | nil => simp [sweep] at h
  | cons instruction rest ih =>
    have hreply := reply_dispatch m instruction
    generalize hd : m.dispatch instruction = reply at hreply
    cases hreply with
    | fails fault' hi =>
      rw [sweep_of_error hd] at h ⊢
      obtain rfl : fault' = fault := by simpa using h
      have hsame : (m.finish.dispatch instruction).2 = (m.dispatch instruction).2 :=
        reply_eq_of_stack_eq (show m.finish.stack = m.stack from rfl) instruction
      exact ⟨[], instruction, rest, rfl, by simp, rfl, rfl, rfl, rfl, hsame.trans (by rw [hd])⟩
    | halts hi => simp [sweep, hd] at h
    | works stack effect hi he hseen hm' =>
      rename_i m'
      rw [sweep_of_ok he hd] at h ⊢
      obtain ⟨before, failing, after, hrest, hhalt, hcounter, hok, hmachine, hobserved, hfault⟩ :=
        ih (m := m'.moveOn) h
      refine ⟨instruction :: before, failing, after, by rw [hrest]; rfl, ?_, ?_, ?_⟩
      · simpa [hhalt] using hi.symm
      · have hnext : m'.moveOn.counter = m.counter + 1 := by rw [hm']; rfl
        show (m'.moveOn.sweep rest).machine.counter = _
        rw [hcounter, hnext, List.length_cons]
        omega
      · rw [sweep_of_ok he hd]
        exact ⟨hok, hmachine, congrArg (effect.seen ++ ·) hobserved, hfault⟩

/-- Failure is atomic. A run that fails at an instruction has left what the run of the instructions
before it leaves, which succeeds without meeting a `halt`, and there the instruction fails in the
same way. A failing instruction changes nothing, and a failing step only stops the machine. -/
theorem execute_failure_atomic :
    (∀ (m : Machine) (program : Program) (fault : Fault),
      (m.execute program).result = .error fault →
      let failed := m.execute program
      let k := failed.machine.counter
      let partway := new.execute (program.take k)
      ∃ hk : k < program.length,
        partway.result = .ok partway.machine.output ∧
        Instruction.halt ∉ program.take k ∧
        partway.machine.stack = failed.machine.stack ∧
        partway.machine.output = failed.machine.output ∧
        partway.seen = failed.seen ∧
        partway.machine.counter = k ∧
        (partway.machine.dispatch program[k]).2 = .error fault) ∧
    (∀ (m : Machine) (instruction : Instruction) (fault : Fault),
      (m.dispatch instruction).2 = .error fault → (m.dispatch instruction).1 = m) ∧
    (∀ (m : Machine) (program : Program) (fault : Fault),
      (m.step program).result = .error fault →
      (m.step program).machine = { m with running := false, status := .failed } ∧
        (m.step program).seen = []) := by
  refine ⟨?_, ?_, ?_⟩
  · intro m program fault h failed k partway
    have hsweep : (m.start.sweep program).result = .error fault := by
      rw [result_execute] at h
      cases hresult : (m.start.sweep program).result with
      | ok => simp [hresult, Except.map] at h
      | error fault' => simpa [hresult, Except.map] using h
    obtain ⟨before, instruction, after, rfl, hhalt, hcounter, hok, hmachine, hseen, hfault⟩ :=
      sweep_split_of_error hsweep
    have hfailed : failed.machine = (m.start.sweep (before ++ instruction :: after)).machine :=
      machine_execute m _
    have hk : k = before.length := by
      rw [show k = failed.machine.counter from rfl, hfailed, hcounter]
      exact Nat.zero_add _
    have htake : (before ++ instruction :: after).take k = before := by
      rw [hk, List.take_left]
    have hpartway : partway = new.execute before := congrArg new.execute htake
    have hrest : partway.machine = { failed.machine with status := .halted } := by
      rw [hpartway, hfailed, machine_execute]
      exact hmachine
    have hlt : k < (before ++ instruction :: after).length := by
      simp [hk]
    refine ⟨hlt, ?_, by rwa [htake], by rw [hrest], by rw [hrest], ?_, by rw [hrest], ?_⟩
    · rw [hpartway, result_execute, machine_execute]
      exact congrArg (Except.map _) hok
    · rw [hpartway, seen_execute, show failed.seen = _ from seen_execute m _]
      exact hseen
    · have hget : (before ++ instruction :: after)[k] = instruction := by
        simp [hk]
      rw [hget, hpartway, machine_execute]
      exact hfault
  · intro m instruction fault h
    rw [dispatch_eq_of_error h]
  · intro m program fault h
    exact step_eq_of_error h

/-- A division by zero in the middle of a program, met at once and by a step. -/
theorem execute_failure_atomic_division :
    let m : Machine := { stack := [7], running := true, status := .running, counter := 1 }
    let program := [.push 10, .print, .push 0, .div, .halt]
    ((m.execute program).result = .error .divisionByZero ∧
      (new.execute (program.take (m.execute program).machine.counter)).seen =
        (m.execute program).seen ∧
      (m.execute program).machine.counter = 3) ∧
    ((m.dispatch .add).2 = .error .stackUnderflow ∧ (m.dispatch .add).1 = m) ∧
    ((m.step [.pop, .add]).result = .error .stackUnderflow ∧
      (m.step [.pop, .add]).machine = { m with running := false, status := .failed }) := by
  intro m program
  have hresult : (m.execute program).result = .error .divisionByZero := by
    rw [result_execute]
    rfl
  obtain ⟨hrun, hdispatch, hstep⟩ := execute_failure_atomic
  obtain ⟨_, _, _, _, _, hseen, _, _⟩ := hrun m program _ hresult
  refine ⟨⟨hresult, hseen, ?_⟩, ⟨rfl, hdispatch m .add _ rfl⟩,
    rfl, (hstep m [.pop, .add] _ rfl).1⟩
  rw [machine_execute]
  rfl

end StackMachine.Machine
