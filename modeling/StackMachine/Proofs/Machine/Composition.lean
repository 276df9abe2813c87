import StackMachine.Proofs.Machine.Sweep

/-!
# Programs one after the other

What executing `p ++ q` has to do with executing `p` and running `q`. A program that fails or halts
does not let the next one begin, whatever it is; any other program hands its stack and its output
over, and the next one runs on them as if it stood alone, only that it counts on (`execute_append`).
-/

namespace StackMachine.Machine

/-! ## How a program ends -/

/-- Whether an instruction is among those that were dispatched. -/
def Trace.Dispatched {α : Type} (trace : Trace α) (instruction : Instruction) : Prop :=
  ∃ counter depth, Event.dispatching counter instruction depth ∈ trace.events

/-- Whether nothing that follows the program is reached: it fails, or it dispatches a `halt`. -/
def Trace.StopsEarly {α : Type} (trace : Trace α) : Prop :=
  (∃ fault, trace.result = .error fault) ∨ trace.Dispatched .halt

theorem not_dispatched_nil {instruction : Instruction} (m : Machine) :
    ¬ (m.sweep []).Dispatched instruction := by
  rintro ⟨counter, depth, hmem⟩
  simp [sweep] at hmem

/-- A `halt` behind another instruction is dispatched by what follows that instruction. -/
theorem stopsEarly_after_iff {trace : Trace Unit} {seen : List Int64} {counter depth : Nat}
    {instruction : Instruction} (hi : instruction ≠ .halt) :
    (trace.after seen [.dispatching counter instruction depth]).StopsEarly ↔
      trace.StopsEarly := by
  simp [Trace.StopsEarly, Trace.Dispatched, Trace.after, Ne.symm hi]

/-- What was executed has stopped early if its sweep has. -/
theorem stopsEarly_execute_iff (m : Machine) (program : Program) :
    (m.execute program).StopsEarly ↔ (m.start.sweep program).StopsEarly := by
  rw [execute, run_start]
  dsimp only
  split
  · rename_i h
    simp [Trace.StopsEarly, Trace.Dispatched, h]
  · rename_i fault h
    simp [Trace.StopsEarly, h]

/-! ## Sweeps over two lists -/

/-- A sweep that stops early is not concerned with what follows. -/
theorem sweep_append_of_stopsEarly {m : Machine} {p : List Instruction}
    (h : (m.sweep p).StopsEarly) (q : List Instruction) : m.sweep (p ++ q) = m.sweep p := by
  induction p generalizing m with
  | nil =>
    rcases h with ⟨fault, hfault⟩ | hhalt
    · simp [sweep] at hfault
    · exact absurd hhalt (not_dispatched_nil m)
  | cons instruction p ih =>
    have hreply := reply_dispatch m instruction
    generalize hd : m.dispatch instruction = reply at hreply
    rw [List.cons_append]
    cases hreply with
    | fails fault hi => rw [sweep_of_error hd, sweep_of_error hd]
    | halts hi => simp only [sweep, hd]
    | works stack effect hi he hseen hm' =>
      rw [sweep_of_ok he hd, stopsEarly_after_iff hi] at h
      rw [sweep_of_ok he hd, sweep_of_ok he hd, ih h]

/-- The machine that goes on where another one has stopped. -/
def resumed (m : Machine) : Machine := { m with running := true, status := .running }

/-- A sweep that does not stop early ends behind its last instruction and succeeds. There the sweep
over what follows goes on. -/
theorem sweep_append_of_not_stopsEarly {m : Machine} {p : List Instruction}
    (hm : m.resumed = m) (h : ¬ (m.sweep p).StopsEarly) (q : List Instruction) :
    (m.sweep p).machine.counter = m.counter + p.length ∧
      m.sweep (p ++ q) =
        ((m.sweep p).machine.resumed.sweep q).after (m.sweep p).seen (m.sweep p).events := by
  induction p generalizing m with
  | nil =>
    -- finishing is undone
    have hresumed : (m.sweep []).machine.resumed = m := hm
    rw [hresumed]
    exact ⟨rfl, rfl⟩
  | cons instruction p ih =>
    have hreply := reply_dispatch m instruction
    generalize hd : m.dispatch instruction = reply at hreply
    cases hreply with
    | fails fault hi =>
      rw [sweep_of_error hd] at h
      exact absurd (Or.inl ⟨fault, rfl⟩) h
    | halts hi =>
      subst hi
      exact absurd (Or.inr ⟨m.counter, m.stack.length, List.mem_singleton.mpr rfl⟩) h
    | works stack effect hi he hseen hm' =>
      rename_i m'
      rw [sweep_of_ok he hd, stopsEarly_after_iff hi] at h
      have hnext : m'.moveOn.resumed = m'.moveOn := by
        rw [hm', ← hm]
        rfl
      obtain ⟨hcounter, hsweep⟩ := ih hnext h
      rw [List.cons_append, sweep_of_ok he hd, sweep_of_ok he hd, hsweep]
      refine ⟨?_, by simp [Trace.after]⟩
      have hmoved : m'.moveOn.counter = m.counter + 1 := by rw [hm']; rfl
      show (m'.moveOn.sweep p).machine.counter = _
      rw [hcounter, hmoved, List.length_cons]
      omega

/-! ## Counting on -/

/-- The machine with a counter that is greater by `k`. -/
def shifted (m : Machine) (k : Nat) : Machine := { m with counter := m.counter + k }

/-- The counter makes no difference to an instruction. -/
theorem dispatch_shifted (m : Machine) (k : Nat) (instruction : Instruction) :
    (m.shifted k).dispatch instruction =
      ((m.dispatch instruction).1.shifted k, (m.dispatch instruction).2) := by
  have hbinary : ∀ operation, (m.shifted k).binary operation =
      ((m.binary operation).1.shifted k, (m.binary operation).2) := by
    intro operation
    simp only [binary, shifted]
    split
    · split <;> rfl
    · rfl
  cases instruction with
  | pop | print =>
    simp only [dispatch, shifted]
    split <;> rfl
  | add | sub | mul | div => exact hbinary _
  | push | halt | unknown => rfl

/-- Nor does it make one to a sweep, which counts on from it. -/
theorem sweep_shifted (m : Machine) (k : Nat) (rest : List Instruction) :
    ((m.shifted k).sweep rest).machine = (m.sweep rest).machine.shifted k ∧
      ((m.shifted k).sweep rest).result = (m.sweep rest).result ∧
      ((m.shifted k).sweep rest).seen = (m.sweep rest).seen := by
  induction rest generalizing m with
  | nil => exact ⟨rfl, rfl, rfl⟩
  | cons instruction rest ih =>
    have hshifted := m.dispatch_shifted k instruction
    have hreply := reply_dispatch m instruction
    generalize hd : m.dispatch instruction = reply at hreply hshifted
    cases hreply with
    | fails fault hi =>
      rw [sweep_of_error hd, sweep_of_error hshifted]
      exact ⟨rfl, rfl, rfl⟩
    | halts hi =>
      subst hi
      have hcounter : m.counter + k + 1 = m.counter + 1 + k := Nat.add_right_comm _ k 1
      exact ⟨congrArg (fun c => { m.finish with counter := c }) hcounter, rfl, rfl⟩
    | works stack effect hi he hseen hm' =>
      rename_i m'
      have hmoved : (m'.shifted k).moveOn = m'.moveOn.shifted k := by
        simp [shifted, moveOn, Nat.add_right_comm]
      obtain ⟨hmachine, hresult, hobserved⟩ := ih m'.moveOn
      rw [sweep_of_ok he hd, sweep_of_ok he hshifted, hmoved]
      exact ⟨hmachine, hresult, congrArg (effect.seen ++ ·) hobserved⟩

/-! ## Executing two programs -/

/-- A running machine at its first instruction, with the stack and the output of another one. -/
def handedOver (m : Machine) : Machine :=
  { stack := m.stack, output := m.output, running := true, status := .running }

/-- Executing two programs one after the other. If the first one fails or dispatches a `halt`, it
alone counts. Otherwise the second one runs on the stack and the output of the first one, with a
counter that is greater by the first one's length. -/
theorem execute_append (m : Machine) (p q : Program) :
    ((m.execute p).StopsEarly →
      (m.execute (p ++ q)).result = (m.execute p).result ∧
      (m.execute (p ++ q)).seen = (m.execute p).seen ∧
      (m.execute (p ++ q)).machine = (m.execute p).machine) ∧
    (¬ (m.execute p).StopsEarly →
      let second := (m.execute p).machine.handedOver.run q
      (m.execute (p ++ q)).result = (second.result.map fun _ => second.machine.output) ∧
      (m.execute (p ++ q)).seen = (m.execute p).seen ++ second.seen ∧
      (m.execute (p ++ q)).machine =
        { second.machine with counter := second.machine.counter + p.length }) := by
  rw [stopsEarly_execute_iff]
  constructor
  · intro h
    have hsweep := sweep_append_of_stopsEarly h q
    simp only [result_execute, seen_execute, machine_execute, hsweep, and_self]
  · intro h second
    have hsecond : second = (m.start.sweep p).machine.handedOver.sweep q := by
      show Machine.run (m.execute p).machine.handedOver q = _
      rw [run_eq_sweep rfl, machine_execute]
      rfl
    obtain ⟨hcounter, hsweep⟩ := sweep_append_of_not_stopsEarly rfl h q
    -- the machine that goes on differs from the one that starts afresh in its counter alone
    have hresumed : (m.start.sweep p).machine.resumed =
        (m.start.sweep p).machine.handedOver.shifted p.length := by
      have hstart : m.start.counter = 0 := rfl
      rw [hstart] at hcounter
      simp [resumed, handedOver, shifted, hcounter]
    obtain ⟨hmachine, hresult, hseen⟩ :=
      sweep_shifted (m.start.sweep p).machine.handedOver p.length q
    rw [hresumed] at hsweep
    rw [result_execute, seen_execute, machine_execute, hsweep, seen_execute, hsecond]
    refine ⟨?_, congrArg (_ ++ ·) hseen, hmachine⟩
    simp only [Trace.after, hresult, hmachine]
    rfl

/-- A first program that halts before a fault, one that fails, and one that hands over three values
and a printed one to a second program that fails. -/
theorem execute_append_three :
    let m : Machine := { stack := [1], counter := 9, status := .failed }
    let second : Program := [.add, .print, .push 0, .div]
    ((m.execute [.push 5, .halt, .pop]).StopsEarly ∧
      (m.execute ([.push 5, .halt, .pop] ++ second)).machine =
        (m.execute [.push 5, .halt, .pop]).machine) ∧
    ((m.execute [.push 5, .add]).StopsEarly ∧
      (m.execute ([.push 5, .add] ++ second)).result = (m.execute [.push 5, .add]).result) ∧
    (¬ (m.execute [.push 5, .print, .push 2]).StopsEarly ∧
      let after := (m.execute [.push 5, .print, .push 2]).machine.handedOver.run second
      (m.execute ([.push 5, .print, .push 2] ++ second)).machine =
        { after.machine with counter := after.machine.counter + 3 }) := by
  intro m second
  have hhalts : (m.execute [.push 5, .halt, .pop]).StopsEarly := by
    rw [stopsEarly_execute_iff]
    exact Or.inr ⟨1, 1, List.mem_cons_of_mem _ (List.mem_singleton.mpr rfl)⟩
  have hfails : (m.execute [.push 5, .add]).StopsEarly := by
    rw [stopsEarly_execute_iff]
    exact Or.inl ⟨.stackUnderflow, rfl⟩
  have hends : ¬ (m.execute [.push 5, .print, .push 2]).StopsEarly := by
    rw [stopsEarly_execute_iff]
    rintro (⟨fault, h⟩ | ⟨counter, depth, h⟩)
    · simp [sweep, dispatch, Trace.after, start, moveOn] at h
    · simp [sweep, dispatch, Trace.after, start, moveOn] at h
  refine ⟨⟨hhalts, ((execute_append m _ second).1 hhalts).2.2⟩,
    ⟨hfails, ((execute_append m _ second).1 hfails).1⟩, hends,
    ((execute_append m _ second).2 hends).2.2⟩

end StackMachine.Machine
