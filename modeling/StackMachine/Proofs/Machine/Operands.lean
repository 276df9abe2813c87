import StackMachine.Proofs.Arithmetic
import StackMachine.Proofs.Machine.Reporting

/-!
# Operands

Instructions take values off the stack and put values on it, and how many of them does not depend on
the values. So the depth of the stack before an instruction can be read off the opcodes before it,
and with it whether the instruction has its operands. Main statement: `underflow_is_static`.

Behind it are two facts about a single instruction: what its faults are (`Fails`), and what it does
to the depth where it succeeds (`depth_of_dispatch`).
-/

namespace StackMachine

/-! ## Counting opcodes -/

namespace Instruction

/-- How many values an instruction must find on the stack. -/
def needs : Instruction → Nat
  | pop | print => 1
  | add | sub | mul | div => 2
  | push _ | halt | unknown _ => 0

/-- Whether an instruction replaces two values by one. -/
def isOperator : Instruction → Bool
  | add | sub | mul | div => true
  | _ => false

/-- The instruction with the operand zero in place of its own, if it has one. -/
def bare : Instruction → Instruction
  | push _ => push 0
  | instruction => instruction

end Instruction

open Instruction

/-- The number of `push` instructions minus those of `pop` instructions and of operators. -/
def balance (program : Program) : Int :=
  program.countP (· matches .push _) - program.count .pop - program.countP isOperator

theorem balance_append (p q : Program) : balance (p ++ q) = balance p + balance q := by
  simp only [balance, List.countP_append, List.count_append]
  omega

theorem needs_bare (instruction : Instruction) : instruction.bare.needs = instruction.needs := by
  cases instruction <;> rfl

/-- Operands make no difference to a count that does not look at them. -/
theorem countP_map_bare {p : Instruction → Bool} (hp : ∀ word, p (.push 0) = p (.push word))
    (program : Program) : (program.map bare).countP p = program.countP p := by
  have hbare : p ∘ bare = p := by
    funext instruction
    cases instruction with
    | push word => exact hp word
    | _ => rfl
  rw [List.countP_map, hbare]

section Bare

variable {program program' : Program}

theorem balance_eq_of_bare (h : program.map bare = program'.map bare) :
    balance program = balance program' := by
  have hbalance : ∀ program : Program, balance (program.map bare) = balance program := by
    intro program
    unfold balance List.count
    rw [countP_map_bare fun _ => rfl, countP_map_bare fun _ => rfl, countP_map_bare fun _ => rfl]
  rw [← hbalance program, h, hbalance program']

theorem count_print_eq_of_bare (h : program.map bare = program'.map bare) :
    program.count .print = program'.count .print := by
  have hcount : ∀ program : Program, (program.map bare).count .print = program.count .print :=
    fun program => countP_map_bare (fun _ => rfl) program
  rw [← hcount program, h, hcount program']

theorem take_map_bare (h : program.map bare = program'.map bare) (k : Nat) :
    (program.take k).map bare = (program'.take k).map bare := by
  rw [List.map_take, List.map_take, h]

/-- Programs that differ in operands alone need as many values everywhere. -/
theorem needs_eq_of_bare (h : program.map bare = program'.map bare) (k : Nat) :
    program[k]?.map needs = program'[k]?.map needs := by
  have hneeds : ∀ program : Program, (program.map bare)[k]?.map needs = program[k]?.map needs := by
    intro program
    rw [List.getElem?_map, Option.map_map]
    exact congrArg (Option.map · _) (funext needs_bare)
  rw [← hneeds program, h, hneeds program']

end Bare

namespace Machine

/-! ## One instruction -/

/-- Why an instruction fails: it lacks operands, or has them and raises a fault over their values,
or is outside the instruction set. -/
inductive Fails (m : Machine) : Instruction → Fault → Prop
  | underflow {instruction : Instruction} (h : m.stack.length < instruction.needs) :
      Fails m instruction .stackUnderflow
  | numeric {instruction : Instruction} {fault : Fault} (hi : instruction.isOperator = true)
      (h : instruction.needs ≤ m.stack.length) (hfault : Arithmetic.IsNumeric fault) :
      Fails m instruction fault
  | unknown (opcode : String) : Fails m (.unknown opcode) (.unknownOpcode opcode)

section Dispatch

variable {m m' : Machine} {instruction : Instruction} {effect : Effect} {fault : Fault}

theorem fails_of_binary (hi : instruction.isOperator = true)
    {operation : Int64 → Int64 → Except Fault Int64}
    (hnumeric : ∀ a b fault, operation a b = .error fault → Arithmetic.IsNumeric fault)
    (h : (m.binary operation).2 = .error fault) : m.Fails instruction fault := by
  have htwo : instruction.needs = 2 := by
    cases instruction <;> simp_all [isOperator, needs]
  unfold binary at h
  split at h
  · rename_i b a rest hstack
    have henough : instruction.needs ≤ m.stack.length := by
      rw [htwo, hstack]
      simp
    split at h
    · simp at h
    · rename_i fault' hfault
      obtain rfl : fault' = fault := Except.error.inj h
      exact .numeric hi henough (hnumeric a b _ hfault)
  · rename_i hshort
    obtain rfl : Fault.stackUnderflow = fault := Except.error.inj h
    refine .underflow ?_
    rw [htwo]
    match hstack : m.stack with
    | [] => simp
    | [value] => simp
    | b :: a :: rest => exact absurd hstack (hshort b a rest)

/-- An instruction that fails has one of these reasons. -/
theorem fails_of_dispatch (h : (m.dispatch instruction).2 = .error fault) :
    m.Fails instruction fault := by
  cases instruction with
  | push | halt => simp [dispatch] at h
  | pop | print =>
    rw [dispatch] at h
    split at h
    · simp at h
    · rename_i hstack
      obtain rfl : Fault.stackUnderflow = fault := Except.error.inj h
      exact .underflow (by simp [hstack, needs])
  | add | sub | mul =>
    exact fails_of_binary rfl (fun a b _ => Arithmetic.isNumeric_of_narrow) h
  | div => exact fails_of_binary rfl (fun a b _ => Arithmetic.isNumeric_of_floorDiv) h
  | unknown opcode =>
    obtain rfl : Fault.unknownOpcode opcode = fault := Except.error.inj h
    exact .unknown opcode

/-- An instruction with too few operands fails for want of them. -/
theorem dispatch_of_lt_needs (h : m.stack.length < instruction.needs) :
    (m.dispatch instruction).2 = .error .stackUnderflow := by
  have hbinary : m.stack.length < 2 → ∀ operation,
      (m.binary operation).2 = .error .stackUnderflow := by
    intro hshort operation
    unfold binary
    split
    · rename_i hstack
      rw [hstack, List.length_cons, List.length_cons] at hshort
      omega
    · rfl
  cases instruction with
  | push | halt | unknown => simp [needs] at h
  | pop | print =>
    have hstack : m.stack = [] := List.length_eq_zero_iff.mp (Nat.lt_one_iff.mp h)
    simp [dispatch, hstack]
  | add | sub | mul | div => exact hbinary h _

/-- Whether an instruction has its operands is a matter of the depth alone. -/
theorem underflow_dispatch_iff :
    (m.dispatch instruction).2 = .error .stackUnderflow ↔ m.stack.length < instruction.needs := by
  refine ⟨fun h => ?_, dispatch_of_lt_needs⟩
  generalize hfault : Fault.stackUnderflow = fault at h
  cases fails_of_dispatch h with
  | underflow hshort => exact hshort
  | numeric _ _ hnumeric => rcases hnumeric with rfl | rfl <;> simp at hfault
  | unknown opcode => simp at hfault

/-- An instruction that succeeds changes the depth by what it counts for, and logs a value exactly
if it is a `print`. -/
theorem depth_of_dispatch (hd : m.dispatch instruction = (m', .ok effect)) :
    (m'.stack.length : Int) = m.stack.length + balance [instruction] ∧
      m'.output.length = m.output.length + [instruction].count .print := by
  have hbinary : ∀ operation, m.binary operation = (m', .ok effect) →
      (m'.stack.length : Int) = m.stack.length + -1 ∧ m'.output.length = m.output.length := by
    intro operation hd
    unfold binary at hd
    split at hd
    · rename_i hstack
      split at hd
      · obtain ⟨rfl, -⟩ := Prod.mk.inj hd
        refine ⟨?_, rfl⟩
        simp only [hstack, List.length_cons]
        omega
      · simp at hd
    · simp at hd
  cases instruction with
  | push operand =>
    obtain ⟨rfl, -⟩ := Prod.mk.inj hd
    exact ⟨rfl, rfl⟩
  | halt =>
    obtain ⟨rfl, -⟩ := Prod.mk.inj hd
    exact ⟨(Int.add_zero _).symm, rfl⟩
  | pop =>
    rw [dispatch] at hd
    split at hd
    · rename_i hstack
      obtain ⟨rfl, -⟩ := Prod.mk.inj hd
      refine ⟨?_, rfl⟩
      simp only [hstack, show balance [.pop] = -1 from rfl, List.length_cons]
      omega
    · simp at hd
  | print =>
    rw [dispatch] at hd
    split at hd
    · obtain ⟨rfl, -⟩ := Prod.mk.inj hd
      exact ⟨(Int.add_zero _).symm, List.length_append⟩
    · simp at hd
  | add | sub | mul | div => exact hbinary _ hd
  | unknown opcode => simp [dispatch] at hd

end Dispatch

/-! ## Before each instruction -/

section Executions

variable {m : Machine} {program : Program}

theorem running_of_more (h : (m.step program).result = .ok .more) : m.running = true := by
  cases hm : m.running with
  | true => rfl
  | false => simp [step_of_stopped hm] at h

/-- A step that goes on has applied an instruction. -/
theorem depth_of_more (h : (m.step program).result = .ok .more) :
    ∃ instruction, program[m.counter]? = some instruction ∧
      (m.step program).machine.counter = m.counter + 1 ∧
      ((m.step program).machine.stack.length : Int) = m.stack.length + balance [instruction] ∧
      (m.step program).machine.output.length =
        m.output.length + [instruction].count .print := by
  have hstepped := stepped_step (running_of_more h) program
  generalize m.step program = trace at hstepped h ⊢
  cases hstepped with
  | past hpast => simp at h
  | fails hfound hd => simp at h
  | applies hfound hd hcounter hstack houtput =>
    obtain ⟨hdepth, hlog⟩ := depth_of_dispatch hd
    exact ⟨_, hfound, hcounter, by rw [hstack, hdepth], by rw [houtput, hlog]⟩

/-- After `k` calls of `step` that leave more to do, the depth of the stack and the length of the
log are the counts over the first `k` instructions. -/
theorem depth_of_steps {k : Nat} (hok : (m.start.steps program k).result = .ok ())
    (hrunning : (m.start.steps program k).machine.running = true) :
    let before := (m.start.steps program k).machine
    before.counter = k ∧ (before.stack.length : Int) = balance (program.take k) ∧
      before.output.length = (program.take k).count .print := by
  refine steps_invariant (fun k before => before.counter = k ∧
    (before.stack.length : Int) = balance (program.take k) ∧
    before.output.length = (program.take k).count .print) ?_ ⟨rfl, rfl, rfl⟩ hok hrunning
  intro k before ⟨hcounter, hdepth, hlog⟩ hmore
  obtain ⟨instruction, hfound, hcounter', hdepth', hlog'⟩ := depth_of_more hmore
  rw [hcounter] at hfound hcounter'
  have htake : program.take (k + 1) = program.take k ++ [instruction] := by
    rw [List.take_add_one, hfound]
    rfl
  refine ⟨hcounter', ?_, ?_⟩
  · rw [hdepth', hdepth, htake, balance_append]
  · rw [hlog', hlog, htake, List.count_append]

/-! ## Where an execution fails -/

/-- A run fails at its first instruction only by what the instruction does. -/
theorem dispatch_of_run_error {fault : Fault} (hm : m.running = true)
    (h : (m.run program).result = .error fault)
    (hcounter : (m.run program).machine.counter = m.counter) :
    ∃ instruction, program[m.counter]? = some instruction ∧
      (m.dispatch instruction).2 = .error fault := by
  have hstepped := stepped_step hm program
  generalize hstep : m.step program = trace at hstepped
  cases hstepped with
  | past hpast =>
    rw [run_of_done (by rw [hstep])] at h
    simp at h
  | fails hfound hd =>
    rw [run_of_error (by rw [hstep])] at h
    obtain rfl : _ = fault := Except.error.inj h
    exact ⟨_, hfound, by rw [hd]⟩
  | @applies instruction effect m' next hfound hd hnext hstack houtput =>
    cases hprogress : next.progress with
    | done =>
      rw [run_of_done (by rw [hstep, hprogress])] at h
      simp at h
    | more =>
      -- the run goes on behind the instruction, and the counter never comes back to it
      rw [run_of_more (by rw [hstep, hprogress]), hstep] at h hcounter
      obtain ⟨n, -, hreached, hpos, -, -⟩ :=
        announces_run (progress_eq_more_iff.mp hprogress) program
      have hn := hpos fault h
      have hfailed : (next.run program).result = .error fault := h
      simp only [Trace.reached, hfailed, hnext] at hreached
      have hsame : (next.run program).machine.counter = m.counter := hcounter
      omega

theorem run_of_dispatch_error {instruction : Instruction} {fault : Fault} (hm : m.running = true)
    (hfound : program[m.counter]? = some instruction)
    (h : (m.dispatch instruction).2 = .error fault) :
    (m.run program).result = .error fault ∧ (m.run program).machine.counter = m.counter := by
  have hstep := step_of_error hm hfound (dispatch_eq_of_error h)
  rw [run_of_error (by rw [hstep]), hstep]
  exact ⟨rfl, rfl⟩

/-- Whether the instruction with this number is dispatched. -/
def Trace.Dispatches {α : Type} (trace : Trace α) (k : Nat) : Prop :=
  ∃ instruction depth, Event.dispatching k instruction depth ∈ trace.events

/-- Whether the instruction with this number fails for want of operands. -/
def Trace.UnderflowsAt {α : Type} (trace : Trace α) (k : Nat) : Prop :=
  trace.result = .error .stackUnderflow ∧ trace.machine.counter = k

theorem dispatching_mem_events_iff {k depth : Nat} {instruction : Instruction} :
    .dispatching k instruction depth ∈ (m.execute program).events ↔
      k < (m.execute program).reached ∧ program[k]? = some instruction ∧
        depth = (m.start.steps program k).machine.stack.length := by
  obtain ⟨hinside, -⟩ := ready_execute m program
  have hmem : .dispatching k instruction depth ∈ (m.execute program).events ↔
      .dispatching k instruction depth ∈ (program.take (m.execute program).reached).mapIdx
        fun k instruction => Event.dispatching k instruction
          (m.start.steps program k).machine.stack.length := by
    rw [events_execute_eq]
    cases (m.execute program).result <;> simp
  rw [hmem, List.mem_mapIdx]
  constructor
  · rintro ⟨j, hj, heq⟩
    obtain ⟨rfl, rfl, rfl⟩ := Event.dispatching.inj heq
    rw [List.length_take] at hj
    exact ⟨by omega, by simp, rfl⟩
  · rintro ⟨hk, hfound, rfl⟩
    obtain ⟨hlt, rfl⟩ := List.getElem?_eq_some_iff.mp hfound
    exact ⟨k, by rw [List.length_take]; omega, by simp⟩

theorem dispatches_execute_iff {k : Nat} :
    (m.execute program).Dispatches k ↔ k < (m.execute program).reached := by
  obtain ⟨hinside, -⟩ := ready_execute m program
  constructor
  · rintro ⟨instruction, depth, hmem⟩
    exact (dispatching_mem_events_iff.mp hmem).1
  · intro hk
    exact ⟨program[k], _, dispatching_mem_events_iff.mpr ⟨hk, by simp, rfl⟩⟩

/-- An execution fails as the run from any machine on its way does. -/
theorem failed_execute_iff {k : Nat} (hok : (m.start.steps program k).result = .ok ())
    {fault : Fault} :
    let before := (m.start.steps program k).machine
    (m.execute program).result = .error fault ∧ (m.execute program).machine.counter = k ↔
      (before.run program).result = .error fault ∧ (before.run program).machine.counter = k := by
  intro before
  have hrun := run_eq_after_steps hok
  rw [run_start] at hrun
  rw [result_execute_eq_error_iff, machine_execute, hrun]
  rfl

/-- An execution runs out of operands at an instruction that it dispatches and whose operands the
counts say are missing. -/
theorem underflowsAt_execute_iff {k : Nat} :
    (m.execute program).UnderflowsAt k ↔
      (m.execute program).Dispatches k ∧ ∃ instruction, program[k]? = some instruction ∧
        balance (program.take k) < instruction.needs := by
  obtain ⟨-, hready⟩ := ready_execute m program
  rw [dispatches_execute_iff]
  constructor
  · rintro ⟨hresult, hcounter⟩
    have hk : k < (m.execute program).reached := by
      simp only [Trace.reached, hresult]
      omega
    obtain ⟨hok, hrunning, hat⟩ := hready k hk
    obtain ⟨-, hdepth, -⟩ := depth_of_steps hok hrunning
    obtain ⟨hresult', hcounter'⟩ := (failed_execute_iff hok).mp ⟨hresult, hcounter⟩
    obtain ⟨instruction, hfound, hfails⟩ :=
      dispatch_of_run_error hrunning hresult' (hcounter'.trans hat.symm)
    rw [hat] at hfound
    refine ⟨hk, instruction, hfound, ?_⟩
    rw [← hdepth]
    exact Int.ofNat_lt.mpr (underflow_dispatch_iff.mp hfails)
  · rintro ⟨hk, instruction, hfound, hshort⟩
    obtain ⟨hok, hrunning, hat⟩ := hready k hk
    obtain ⟨-, hdepth, -⟩ := depth_of_steps hok hrunning
    rw [← hdepth] at hshort
    have hfails := dispatch_of_lt_needs (Int.ofNat_lt.mp hshort)
    obtain ⟨hresult, hcounter⟩ := run_of_dispatch_error hrunning (hat.symm ▸ hfound) hfails
    exact (failed_execute_iff hok).mpr ⟨hresult, hcounter.trans hat⟩

end Executions

/-- **Underflow is decided by opcodes.** Before each instruction that an execution dispatches, the
depth of the stack is the number of `push` instructions before it minus those of `pop` and of
operators, and the log has a value for each `print`. The execution runs out of operands exactly at
an instruction that it dispatches and that needs more values. So programs that differ in operands
alone agree, wherever both come to an instruction, in the depth, in the length of the log, and in
whether the instruction runs out of operands. -/
theorem underflow_is_static :
    (∀ (m : Machine) (program : Program),
      let trace := m.execute program
      (∀ k instruction depth, .dispatching k instruction depth ∈ trace.events →
        let before := m.start.steps program k
        program[k]? = some instruction ∧
        (before.result = .ok () ∧ before.machine.running = true ∧ before.machine.counter = k) ∧
        before.machine.stack.length = depth ∧
        (depth : Int) = balance (program.take k) ∧ 0 ≤ balance (program.take k) ∧
        before.machine.output.length = (program.take k).count .print) ∧
      ∀ k, trace.UnderflowsAt k ↔
        trace.Dispatches k ∧ ∃ instruction, program[k]? = some instruction ∧
          balance (program.take k) < instruction.needs) ∧
    ∀ (m m' : Machine) (program program' : Program), program.map bare = program'.map bare →
      ∀ k, (m.execute program).Dispatches k → (m'.execute program').Dispatches k →
        let before := (m.start.steps program k).machine
        let before' := (m'.start.steps program' k).machine
        before.stack.length = before'.stack.length ∧
        before.output.length = before'.output.length ∧
        ((m.execute program).UnderflowsAt k ↔ (m'.execute program').UnderflowsAt k) := by
  refine ⟨fun m program => ⟨?_, fun k => underflowsAt_execute_iff⟩, ?_⟩
  · intro k instruction depth hmem
    obtain ⟨hk, hfound, rfl⟩ := dispatching_mem_events_iff.mp hmem
    obtain ⟨hok, hrunning, hat⟩ := (ready_execute m program).2 k hk
    obtain ⟨-, hdepth, hlog⟩ := depth_of_steps hok hrunning
    exact ⟨hfound, ⟨hok, hrunning, hat⟩, rfl, hdepth, hdepth ▸ Int.natCast_nonneg _, hlog⟩
  · intro m m' program program' hsame k hk hk'
    have htake := take_map_bare hsame k
    obtain ⟨hok, hrunning, -⟩ := (ready_execute m program).2 k (dispatches_execute_iff.mp hk)
    obtain ⟨hok', hrunning', -⟩ := (ready_execute m' program').2 k (dispatches_execute_iff.mp hk')
    obtain ⟨-, hdepth, hlog⟩ := depth_of_steps hok hrunning
    obtain ⟨-, hdepth', hlog'⟩ := depth_of_steps hok' hrunning'
    refine ⟨?_, ?_, ?_⟩
    · rw [← Int.ofNat_inj, hdepth, hdepth', balance_eq_of_bare htake]
    · rw [hlog, hlog', count_print_eq_of_bare htake]
    · have hshort : ∀ program : Program, (∃ instruction, program[k]? = some instruction ∧
          balance (program'.take k) < instruction.needs) ↔
            ∃ n ∈ program[k]?.map needs, balance (program'.take k) < n := by
        intro program
        cases program[k]? <;> simp
      rw [underflowsAt_execute_iff, underflowsAt_execute_iff, balance_eq_of_bare htake, hshort,
        hshort, needs_eq_of_bare hsame k]
      exact and_congr_left fun _ => iff_of_true hk hk'

/-- Two programs that differ in an operand: one goes on to run out of operands at its last
instruction, the other divides by zero before. Both come to the `print` with two values. -/
theorem underflow_is_static_operands :
    let program : Program := [.push 8, .push 2, .print, .div, .pop, .print]
    let program' : Program := [.push 8, .push 0, .print, .div, .pop, .print]
    let before := new.start.steps program 3
    (before.machine.stack.length = 2 ∧ (2 : Int) = balance (program.take 3) ∧
      before.machine.output.length = 1) ∧
    (new.execute program).UnderflowsAt 5 ∧ ¬ (new.execute program').UnderflowsAt 5 ∧
    before.machine.stack.length = (new.start.steps program' 3).machine.stack.length := by
  intro program program' before
  obtain ⟨hcounts, hpairs⟩ := underflow_is_static
  obtain ⟨hbefore, hunderflow⟩ := hcounts new program
  have hreached : (new.execute program).reached = 6 := by
    rw [Trace.reached, result_execute, machine_execute]
    rfl
  have hreached' : (new.execute program').reached = 4 := by
    rw [Trace.reached, result_execute, machine_execute]
    rfl
  obtain ⟨-, -, hdepth, hbalance, -, hlog⟩ :=
    hbefore 3 .div 2 (dispatching_mem_events_iff.mpr ⟨by omega, rfl, rfl⟩)
  refine ⟨⟨hdepth, hbalance, hlog⟩, ?_, ?_, ?_⟩
  · rw [hunderflow, dispatches_execute_iff, hreached]
    exact ⟨by decide, .print, rfl, by decide⟩
  · rw [(hcounts new program').2, dispatches_execute_iff, hreached']
    exact fun h => absurd h.1 (by decide)
  · have hboth := hpairs new new program program' rfl 3
      (dispatches_execute_iff.mpr (by omega)) (dispatches_execute_iff.mpr (by omega))
    exact hboth.1

end Machine

end StackMachine
