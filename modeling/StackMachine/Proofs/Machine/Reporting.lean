import StackMachine.Proofs.Machine.Atomicity
import StackMachine.Proofs.Machine.Stepping

/-!
# What a run reports

A run announces each instruction before it applies it, and reports the fault that ends it. Main
statement: the log of an execution is determined by where the machine stops and what the result is,
entry by entry (`execute_reports`).

`Stepped` says what a single step can do. A run is then followed step by step: `Announces` says that
it has announced so many instructions, each with the depth of the stack that as many calls of `step`
lead to.
-/

namespace StackMachine.Machine

/-! ## One step -/

/-- What a step of a running machine can do: find no instruction, fail at one, or apply one and move
on. -/
inductive Stepped (m : Machine) (program : Program) : Trace Progress → Prop
  | past (hpast : program[m.counter]? = none) :
      Stepped m program { machine := m.finish, result := .ok .done }
  | fails {instruction : Instruction} {fault : Fault}
      (hfound : program[m.counter]? = some instruction)
      (hd : m.dispatch instruction = (m, .error fault)) :
      Stepped m program
        { machine := m.fail, result := .error fault,
          events := [.dispatching m.counter instruction m.stack.length,
            .failed m.counter fault] }
  | applies {instruction : Instruction} {effect : Effect} {m' next : Machine}
      (hfound : program[m.counter]? = some instruction)
      (hd : m.dispatch instruction = (m', .ok effect))
      (hcounter : next.counter = m.counter + 1) (hstack : next.stack = m'.stack)
      (houtput : next.output = m'.output) :
      Stepped m program
        { machine := next, result := .ok next.progress, seen := effect.seen,
          events := [.dispatching m.counter instruction m.stack.length] }

theorem stepped_step {m : Machine} (hm : m.running = true) (program : Program) :
    Stepped m program (m.step program) := by
  cases hfound : program[m.counter]? with
  | none =>
    rw [step_of_past hm hfound]
    exact .past hfound
  | some instruction =>
    rcases hd : m.dispatch instruction with ⟨m', fault | effect⟩
    · have hsame := dispatch_eq_of_error (congrArg Prod.snd hd)
      obtain rfl : m' = m := congrArg Prod.fst (hd.symm.trans hsame)
      rw [step_of_error hm hfound hd]
      exact .fails hfound hd
    · have hcounter : m'.counter = m.counter := by
        rw [← counter_dispatch m instruction, hd]
      rw [step_of_ok hm hfound hd]
      exact .applies hfound hd (by rw [counter_advance, hcounter]) (stack_advance m' _)
        (output_advance m' _)

/-! ## Announcements -/

/-- The events that announce the next `n` instructions of a program. The depth of the stack before
each one is that after as many calls of `step`. -/
def announced (m : Machine) (program : Program) (n : Nat) : List Event :=
  ((program.drop m.counter).take n).mapIdx fun k instruction =>
    .dispatching (m.counter + k) instruction (m.steps program k).machine.stack.length

/-- How many instructions of its program a trace has come to: a failing one counts, although the
counter stays at it. -/
def Trace.reached {α : Type} (trace : Trace α) : Nat :=
  match trace.result with
  | .ok _ => trace.machine.counter
  | .error _ => trace.machine.counter + 1

/-- The report of the fault, if there is one. -/
def Trace.failure {α : Type} (trace : Trace α) : List Event :=
  match trace.result with
  | .ok _ => []
  | .error fault => [.failed trace.machine.counter fault]

/-- A trace has announced the next `n` instructions, and reported its fault if it has one. -/
structure Announces (m : Machine) (program : Program) (n : Nat) (trace : Trace Unit) : Prop where
  inside : n ≤ (program.drop m.counter).length
  reached : trace.reached = m.counter + n
  /-- There was an instruction that failed. -/
  pos_of_error : ∀ fault, trace.result = .error fault → 0 < n
  /-- The calls of `step` before each of the instructions succeed, and there is more to do. -/
  ready : ∀ k < n,
    (m.steps program k).result = .ok () ∧ (m.steps program k).machine.running = true
  events : trace.events = m.announced program n ++ trace.failure

section Runs

variable {m : Machine} {program : Program} {instruction : Instruction}

theorem announced_succ (hfound : program[m.counter]? = some instruction) (n : Nat) :
    m.announced program (n + 1) =
      .dispatching m.counter instruction m.stack.length ::
        ((program.drop (m.counter + 1)).take n).mapIdx fun k instruction =>
          .dispatching (m.counter + 1 + k) instruction
            (m.steps program (k + 1)).machine.stack.length := by
  obtain ⟨hinside, hget⟩ := List.getElem?_eq_some_iff.mp hfound
  rw [announced, List.drop_eq_getElem_cons hinside, hget, List.take_succ_cons, List.mapIdx_cons]
  simp only [Nat.add_assoc, Nat.add_comm 1]
  rfl

theorem one_le_length_drop (hfound : program[m.counter]? = some instruction) :
    1 ≤ (program.drop m.counter).length := by
  obtain ⟨hinside, -⟩ := List.getElem?_eq_some_iff.mp hfound
  rw [List.length_drop]
  omega

/-- A run announces the instructions that it comes to. -/
theorem announces_run (hm : m.running = true) (program : Program) :
    ∃ n, m.Announces program n (m.run program) := by
  induction m using step_induction program with
  | h m ih =>
    have hstepped := stepped_step hm program
    generalize hstep : m.step program = trace at hstepped
    have hzero : ∀ k < 1,
        (m.steps program k).result = .ok () ∧ (m.steps program k).machine.running = true := by
      intro k hk
      obtain rfl : k = 0 := by omega
      exact ⟨rfl, hm⟩
    cases hstepped with
    | past hpast =>
      rw [run_of_done (by rw [hstep]), hstep]
      exact ⟨0, Nat.zero_le _, rfl, by simp, by simp, rfl⟩
    | fails hfound hd =>
      rw [run_of_error (by rw [hstep]), hstep]
      exact ⟨1, one_le_length_drop hfound, rfl, fun _ _ => Nat.one_pos, hzero,
        by rw [announced_succ hfound]; rfl⟩
    | @applies instruction effect m' next hfound hd hcounter hstack houtput =>
      cases hprogress : next.progress with
      | done =>
        rw [run_of_done (by rw [hstep, hprogress]), hstep]
        exact ⟨1, one_le_length_drop hfound, hcounter, by simp, hzero,
          by rw [announced_succ hfound]; rfl⟩
      | more =>
        have hok : (m.step program).result = .ok .more := by rw [hstep, hprogress]
        obtain ⟨n, hinside, hreached, -, hready, hevents⟩ :=
          ih hok (by rw [hstep]; exact progress_eq_more_iff.mp hprogress)
        rw [run_of_more hok]
        rw [hstep] at hinside hreached hready hevents ⊢
        refine ⟨n + 1, ?_, ?_, fun _ _ => Nat.succ_pos n, fun k hk => ?_, ?_⟩
        · rw [hcounter, List.length_drop] at hinside
          have hone := one_le_length_drop hfound
          rw [List.length_drop] at hone ⊢
          omega
        · rw [hcounter] at hreached
          exact hreached.trans (by omega)
        · cases k with
          | zero => exact ⟨rfl, hm⟩
          | succ k =>
            rw [steps_of_ok hok, hstep]
            exact hready k (by omega)
        · rw [announced_succ hfound]
          show .dispatching m.counter instruction m.stack.length :: (next.run program).events = _
          rw [hevents, announced, hcounter]
          simp only [steps_of_ok hok, hstep]
          rfl

end Runs

/-- After `k` calls of `step` that leave more to do, the machine is `k` instructions further on. -/
theorem counter_steps {m : Machine} {program : Program} {k : Nat}
    (hok : (m.steps program k).result = .ok ())
    (hrunning : (m.steps program k).machine.running = true) :
    (m.steps program k).machine.counter = m.counter + k := by
  refine steps_invariant (fun k m' => m'.counter = m.counter + k) (fun k m' hcounter hmore => ?_)
    rfl hok hrunning
  rw [(counter_step_of_more hmore).1, hcounter, Nat.add_assoc]

/-! ## Executions -/

/-- The events of an execution are those of its run, between the one that announces the program and,
if it succeeds, the one that sums it up. -/
theorem events_execute (m : Machine) (program : Program) :
    let trace := m.execute program
    trace.events = .executing program.length :: ((m.start.run program).events ++
      match trace.result with
      | .ok log => [.finished trace.machine.counter log.length trace.machine.stack.length]
      | .error _ => []) := by
  intro trace
  simp only [trace, execute]
  split <;> simp

/-- An execution comes as far as its run, and fails as it does. -/
theorem reached_execute (m : Machine) (program : Program) :
    (m.execute program).reached = (m.start.run program).reached ∧
      (m.execute program).failure = (m.start.run program).failure := by
  rw [execute, Trace.reached, Trace.reached, Trace.failure, Trace.failure]
  dsimp only
  cases (m.start.run program).result <;> exact ⟨rfl, rfl⟩

/-- Before each instruction that an execution comes to, as many calls of `step` have succeeded, and
the machine is at that instruction. -/
theorem ready_execute (m : Machine) (program : Program) :
    (m.execute program).reached ≤ program.length ∧
      ∀ k < (m.execute program).reached,
        (m.start.steps program k).result = .ok () ∧
        (m.start.steps program k).machine.running = true ∧
        (m.start.steps program k).machine.counter = k := by
  obtain ⟨n, hinside, hreached, -, hready, -⟩ := announces_run (m := m.start) rfl program
  have hn : (m.execute program).reached = n := by
    rw [(reached_execute m program).1, hreached]
    exact Nat.zero_add n
  rw [hn]
  refine ⟨hinside, fun k hk => ?_⟩
  obtain ⟨hok, hrunning⟩ := hready k hk
  exact ⟨hok, hrunning, (counter_steps hok hrunning).trans (Nat.zero_add k)⟩

/-- The events of an execution: the program, each instruction that it comes to, and how it ends. -/
theorem events_execute_eq (m : Machine) (program : Program) :
    let trace := m.execute program
    trace.events =
      .executing program.length ::
        ((program.take trace.reached).mapIdx fun k instruction =>
          .dispatching k instruction (m.start.steps program k).machine.stack.length) ++
      match trace.result with
      | .ok log => [.finished trace.machine.counter log.length trace.machine.stack.length]
      | .error fault => [.failed trace.machine.counter fault] := by
  intro trace
  obtain ⟨n, -, hreached, -, -, hevents⟩ := announces_run (m := m.start) rfl program
  obtain ⟨hsame, hfailure⟩ := reached_execute m program
  have hn : trace.reached = n := by
    rw [show trace.reached = _ from hsame, hreached]
    exact Nat.zero_add n
  have hannounced : m.start.announced program n = (program.take n).mapIdx fun k instruction =>
      .dispatching k instruction (m.start.steps program k).machine.stack.length := by
    rw [announced]
    simp only [show m.start.counter = 0 from rfl, List.drop_zero, Nat.zero_add]
  rw [show trace.events = _ from events_execute m program, hevents, hannounced, ← hfailure, hn]
  show _ = _
  simp only [Trace.failure, trace]
  cases (m.execute program).result <;> simp

/-- Only the report of a fault is a warning. -/
theorem level_entry_eq_warn_iff (event : Event) :
    event.entry.level = .warn ↔ ∃ counter fault, event = .failed counter fault := by
  cases event <;> simp [Event.entry]

/-- An execution reports the fault that is its result, and no other one. -/
theorem failed_mem_events_iff {m : Machine} {program : Program} {counter : Nat} {fault : Fault} :
    .failed counter fault ∈ (m.execute program).events ↔
      (m.execute program).result = .error fault ∧
        counter = (m.execute program).machine.counter := by
  rw [events_execute_eq]
  cases (m.execute program).result with
  | ok log => simp [List.mem_mapIdx]
  | error fault' => simp [List.mem_mapIdx, and_comm, eq_comm]

/-- **The log tells the run.** An execution logs the length of the program, then each instruction
that it comes to with its number and the depth of the stack before it, and at last either the
totals, which are those of the machine and its output, or a single warning with the number of the
failing instruction and the code and the message of the fault. It comes to the instructions below
the counter, and to the one at the counter if that one failed; there is a warning only if there is
a fault. -/
theorem execute_reports (m : Machine) (program : Program) :
    let trace := m.execute program
    let entries := trace.events.map Event.entry
    entries =
      ⟨.debug, "Executing program", [("instructions", .number program.length)]⟩ ::
        ((program.take trace.reached).mapIdx fun k instruction =>
          ⟨.debug, "Dispatch",
            [("pc", .number k), ("instruction", .text instruction.display),
              ("depth", .number (m.start.steps program k).machine.stack.length)]⟩) ++
      (match trace.result with
      | .ok log =>
        [⟨.debug, "Program finished",
          [("steps", .number trace.machine.counter), ("outputs", .number log.length),
            ("depth", .number trace.machine.stack.length)]⟩]
      | .error fault =>
        [⟨.warn, "Execution failed: " ++ fault.message,
          [("pc", .number trace.machine.counter), ("code", .text fault.code)]⟩]) ∧
    trace.reached = trace.machine.counter + (if trace.result.isOk then 0 else 1) ∧
    trace.reached ≤ program.length ∧
    (∀ k < trace.reached,
      (m.start.steps program k).result = .ok () ∧
      (m.start.steps program k).machine.running = true ∧
      (m.start.steps program k).machine.counter = k) ∧
    (∀ log, trace.result = .ok log → log = trace.machine.output) ∧
    ((∃ entry ∈ entries, entry.level = .warn) ↔ ∃ fault, trace.result = .error fault) ∧
    ∀ entry ∈ entries, entry.level = .warn → ∃ fault, trace.result = .error fault ∧
      entry.fields = [("pc", .number trace.machine.counter), ("code", .text fault.code)] := by
  intro trace entries
  obtain ⟨hinside, hready⟩ := ready_execute m program
  have hwarning : ∀ entry ∈ entries, entry.level = .warn → ∃ fault,
      trace.result = .error fault ∧ entry = (Event.failed trace.machine.counter fault).entry := by
    intro entry hentry hlevel
    obtain ⟨event, hevent, rfl⟩ := List.mem_map.mp hentry
    obtain ⟨counter, fault, rfl⟩ := (level_entry_eq_warn_iff event).mp hlevel
    obtain ⟨hfault, rfl⟩ := failed_mem_events_iff.mp hevent
    exact ⟨fault, hfault, rfl⟩
  refine ⟨?_, ?_, hinside, hready, fun log hlog => ?_, ⟨?_, ?_⟩, ?_⟩
  · have hevents := congrArg (List.map Event.entry) (events_execute_eq m program)
    simp only [List.mapIdx_eq_zipIdx_map, List.map_append, List.map_cons, List.map_map] at hevents
    rw [show entries = _ from hevents, List.mapIdx_eq_zipIdx_map]
    cases trace.result <;> rfl
  · rw [Trace.reached]
    cases trace.result <;> rfl
  · exact (result_execute_eq_ok_iff.mp hlog).2.symm
  · rintro ⟨entry, hentry, hlevel⟩
    obtain ⟨fault, hfault, -⟩ := hwarning entry hentry hlevel
    exact ⟨fault, hfault⟩
  · rintro ⟨fault, hfault⟩
    exact ⟨_, List.mem_map_of_mem (failed_mem_events_iff.mpr ⟨hfault, rfl⟩), rfl⟩
  · intro entry hentry hlevel
    obtain ⟨fault, hfault, rfl⟩ := hwarning entry hentry hlevel
    exact ⟨fault, hfault, rfl⟩

/-- A division by zero in the middle of a program, on a machine that has been used. -/
theorem execute_reports_division :
    let m : Machine := { stack := [7], counter := 9, status := .failed }
    let program : Program := [.push (-3), .push 0, .div, .print]
    (m.execute program).events.map Event.entry =
        [⟨.debug, "Executing program", [("instructions", .number 4)]⟩,
          ⟨.debug, "Dispatch",
            [("pc", .number 0), ("instruction", .text "PUSH -3"), ("depth", .number 0)]⟩,
          ⟨.debug, "Dispatch",
            [("pc", .number 1), ("instruction", .text "PUSH 0"), ("depth", .number 1)]⟩,
          ⟨.debug, "Dispatch",
            [("pc", .number 2), ("instruction", .text "DIV"), ("depth", .number 2)]⟩,
          ⟨.warn, "Execution failed: Division by zero",
            [("pc", .number 2), ("code", .text "DIVISION_BY_ZERO")]⟩] ∧
      ∃ entry ∈ (m.execute program).events.map Event.entry, entry.level = .warn := by
  intro m program
  obtain ⟨hentries, -, -, -, -, hwarns, -⟩ := execute_reports m program
  have hresult : (m.execute program).result = .error .divisionByZero := by
    rw [result_execute]
    rfl
  refine ⟨?_, hwarns.mpr ⟨_, hresult⟩⟩
  have hcounter : (m.execute program).machine.counter = 2 := by
    rw [machine_execute]
    rfl
  rw [hentries, Trace.reached, hresult]
  dsimp only
  rw [hcounter]
  decide

end StackMachine.Machine
