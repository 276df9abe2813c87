import Mathlib.Algebra.Group.Nat.Defs
import StackMachine.Proofs.Machine.Stepping

/-!
# Sessions on one machine

A machine takes any calls in any order: it may be stepped through one program and then through
another one, run after it has failed, or be given single instructions. A session keeps, beside the
machine, what has happened since the machine was last reset or started: the events, and the programs
that were passed. Successful dispatches are counted twice, by the events (`successes`) and by what
`dispatch` answers on the machines between the steps (`dispatched`), with the same number. Main
statement: after any calls the flag and the status agree, and the counter is that number, which no
passed program is too short for (`session_invariant`).
-/

namespace StackMachine.Machine

/-! ## Counting events -/

/-- Whether an event announces an instruction. -/
def Event.isDispatching : Event → Bool
  | .dispatching _ _ _ => true
  | _ => false

/-- Whether an event reports a fault. -/
def Event.isFailed : Event → Bool
  | .failed _ _ => true
  | _ => false

/-- The number of instructions that were dispatched successfully: each instruction is announced, and
each fault is reported. -/
def successes (events : List Event) : Nat :=
  events.countP Event.isDispatching - events.countP Event.isFailed

/-- Events announce a number of instructions that succeed, and beside them those that fail. -/
def Tells (events : List Event) (n : Nat) : Prop :=
  events.countP Event.isDispatching = n + events.countP Event.isFailed

theorem Tells.append {events events' : List Event} {n n' : Nat} (h : Tells events n)
    (h' : Tells events' n') : Tells (events ++ events') (n + n') := by
  unfold Tells at h h' ⊢
  rw [List.countP_append, List.countP_append, h, h']
  omega

theorem Tells.successes_eq {events : List Event} {n : Nat} (h : Tells events n) :
    successes events = n := by
  rw [successes, h, Nat.add_sub_cancel]

/-! ## Counting dispatches -/

/-- Whether a step dispatches an instruction, and the instruction does not fail. -/
def succeeds (m : Machine) (program : Program) : Bool :=
  m.running && program[m.counter]?.any fun instruction => (m.dispatch instruction).2.isOk

/-- The number of instructions that some calls of `step` dispatch successfully, told from the
machines between the calls and not from events. -/
def dispatched (m : Machine) (program : Program) : Nat → Nat
  | 0 => 0
  | n + 1 => (m.succeeds program).toNat + (m.step program).machine.dispatched program n

/-- The events of a step tell whether it dispatches an instruction successfully. -/
theorem tells_step (m : Machine) (program : Program) :
    Tells (m.step program).events (m.succeeds program).toNat := by
  cases hm : m.running with
  | false =>
    rw [step_of_stopped hm, succeeds, hm]
    rfl
  | true =>
    cases hfound : program[m.counter]? with
    | none =>
      rw [step_of_past hm hfound, succeeds, hm, hfound]
      rfl
    | some instruction =>
      rcases hd : m.dispatch instruction with ⟨m', fault | effect⟩
      · rw [step_of_error hm hfound hd, succeeds, hm, hfound, Option.any_some, hd]
        rfl
      · rw [step_of_ok hm hfound hd, succeeds, hm, hfound, Option.any_some, hd]
        rfl

theorem dispatched_of_stopped {m : Machine} (hm : m.running = false) (program : Program) (n : Nat) :
    m.dispatched program n = 0 := by
  induction n with
  | zero => rfl
  | succ n ih => rw [dispatched, step_of_stopped hm, ih, succeeds, hm]; rfl

/-- The events of a loop tell what its calls dispatch successfully. Calls behind its end dispatch
nothing. -/
theorem EndsAfter.tells {m : Machine} {program : Program} {n : Nat} {trace : Trace Unit}
    (h : EndsAfter program m n trace) (extra : Nat) :
    Tells trace.events (m.dispatched program (n + extra)) := by
  induction h with
  | @done m h =>
    have hstep := tells_step m program
    rwa [Nat.add_comm, dispatched, dispatched_of_stopped (running_of_done h)]
  | @failed m fault h =>
    have hstep := tells_step m program
    rwa [Nat.add_comm, dispatched, dispatched_of_stopped (running_of_error h)]
  | @more m n trace h _ ih =>
    rw [Nat.add_right_comm, dispatched]
    exact (tells_step m program).append ih

/-- The events of a run tell what its steps dispatch successfully. A run makes at most one call more
than its program has instructions. -/
theorem tells_run (m : Machine) (program : Program) :
    Tells (m.run program).events (m.dispatched program (program.length + 1)) := by
  obtain ⟨n, hn, hends⟩ := endsAfter_run m program
  have hle : n ≤ program.length + 1 := by omega
  rw [← Nat.add_sub_of_le hle]
  exact hends.tells _

/-- The events around a run are neither announcements nor reports. -/
theorem countP_execute (m : Machine) (program : Program) {p : Event → Bool}
    (hexecuting : p (.executing program.length) = false)
    (hfinished : ∀ steps outputs depth, p (.finished steps outputs depth) = false) :
    (m.execute program).events.countP p = (m.start.run program).events.countP p := by
  rw [Machine.execute]
  dsimp only
  split <;> simp [hexecuting, hfinished]

theorem tells_execute (m : Machine) (program : Program) :
    Tells (m.execute program).events (m.start.dispatched program (program.length + 1)) := by
  unfold Tells
  rw [countP_execute m program rfl fun _ _ _ => rfl, countP_execute m program rfl fun _ _ _ => rfl]
  exact tells_run m.start program

/-! ## Lengths of programs -/

/-- The greatest length of some programs. -/
def longest (programs : List Program) : Nat :=
  (programs.map List.length).foldr max 0

theorem longest_cons (program : Program) (programs : List Program) :
    longest (program :: programs) = max program.length (longest programs) := rfl

theorem longest_le {bound : Nat} {programs : List Program}
    (h : ∀ program ∈ programs, program.length ≤ bound) : longest programs ≤ bound := by
  induction programs with
  | nil => exact Nat.zero_le bound
  | cons program programs ih =>
    rw [longest_cons]
    exact Nat.max_le.mpr ⟨h program List.mem_cons_self,
      ih fun other hother => h other (List.mem_cons_of_mem _ hother)⟩

/-! ## Calls -/

/-- A call on a machine. An observer changes nothing about the machine, so executing with one and
executing without one are the same call. -/
inductive Call where
  | reset
  | start
  | execute (program : Program)
  | step (program : Program)
  | run (program : Program)
  | dispatch (instruction : Instruction)
  deriving DecidableEq, Repr

/-- What a call makes of a count of the instructions that steps have dispatched successfully. Only
steps count, also those of a run, and resetting, starting and executing begin a new count. -/
def Call.dispatched (m : Machine) (n : Nat) : Call → Nat
  | .reset => 0
  | .start => 0
  | .execute program => m.start.dispatched program (program.length + 1)
  | .step program => n + (m.succeeds program).toNat
  | .run program => n + m.dispatched program (program.length + 1)
  | .dispatch _ => n

/-- A machine, and what has happened since it was last reset or started. -/
structure Session where
  machine : Machine := .new
  /-- The events of steps and runs. Single instructions have none. -/
  events : List Event := []
  /-- The programs that were passed, the last one first. -/
  programs : List Program := []

namespace Session

/-- The session in which a program was passed. -/
def pass (s : Session) (program : Program) : Session :=
  { s with programs := program :: s.programs }

/-- The session after a trace of its machine. -/
def record {α : Type} (s : Session) (trace : Trace α) : Session :=
  { s with machine := trace.machine, events := s.events ++ trace.events }

/-- The session after a call. Resetting and starting begin a new history, and executing starts the
machine before anything else. -/
def call (s : Session) : Call → Session
  | .reset => { machine := s.machine.reset }
  | .start => { machine := s.machine.start }
  | .execute program =>
    (Session.pass { machine := s.machine.start } program).record (s.machine.execute program)
  | .step program => (s.pass program).record (s.machine.step program)
  | .run program => (s.pass program).record (s.machine.run program)
  | .dispatch instruction => { s with machine := (s.machine.dispatch instruction).1 }

/-- The session after calls, the first one first. -/
def calls (s : Session) (calls : List Call) : Session :=
  calls.foldl Session.call s

/-! ## Counting over a session -/

/-- The number of instructions that steps have dispatched successfully since the last call that
began a new count, if it was `n` before the calls. -/
def dispatched (s : Session) (n : Nat) : List Call → Nat
  | [] => n
  | call :: calls => (s.call call).dispatched (call.dispatched s.machine n) calls

variable {s : Session}

/-- The events of a session tell the count after a call, if they told the one before it. -/
theorem tells_call {n : Nat} (h : Tells s.events n) (call : Call) :
    Tells (s.call call).events (call.dispatched s.machine n) := by
  cases call with
  | reset => rfl
  | start => rfl
  | execute program => exact tells_execute s.machine program
  | step program => exact h.append (tells_step s.machine program)
  | run program => exact h.append (tells_run s.machine program)
  | dispatch instruction => exact h

theorem tells_calls {n : Nat} (h : Tells s.events n) (calls : List Call) :
    Tells (s.calls calls).events (s.dispatched n calls) := by
  induction calls generalizing s n with
  | nil => exact h
  | cons call calls ih => exact ih (tells_call h call)

/-! ## The invariant -/

/-- What holds between the calls of a session. -/
structure Sound (s : Session) : Prop where
  running_iff : s.machine.running = true ↔ s.machine.status = .running
  idle : s.machine.status = .idle → s.machine.counter = 0
  /-- Every announced instruction has moved the counter, unless it has failed. -/
  counter_add : s.machine.counter + s.events.countP Event.isFailed =
    s.events.countP Event.isDispatching
  counter_le : s.machine.counter ≤ longest s.programs

theorem sound_reset (m : Machine) : Sound { machine := m.reset } :=
  ⟨by simp [Machine.reset, new], fun _ => rfl, rfl, Nat.zero_le _⟩

theorem sound_start (m : Machine) : Sound { machine := m.start } :=
  ⟨by simp [Machine.start], fun _ => rfl, rfl, Nat.zero_le _⟩

theorem Sound.pass (h : s.Sound) (program : Program) : (s.pass program).Sound :=
  ⟨h.running_iff, h.idle, h.counter_add, Nat.le_trans h.counter_le (Nat.le_max_right _ _)⟩

/-- A single instruction keeps the counter, and a `halt` takes flag and status along. -/
theorem Sound.dispatch (h : s.Sound) (instruction : Instruction) :
    (s.call (.dispatch instruction)).Sound := by
  obtain ⟨hrunning, hidle, hadd, hle⟩ := h
  have hreply := reply_dispatch s.machine instruction
  simp only [call]
  generalize s.machine.dispatch instruction = reply at hreply ⊢
  cases hreply with
  | fails fault hi => exact ⟨hrunning, hidle, hadd, hle⟩
  | halts hi => exact ⟨by simp [finish], by simp [finish], hadd, hle⟩
  | works stack effect hi he hseen hm' =>
    rw [hm']
    exact ⟨hrunning, hidle, hadd, hle⟩

/-- A successful step moves the counter by one and leaves flag and status in agreement. -/
theorem advance_spec {m : Machine} (length : Nat) (hm : m.running = true ↔ m.status = .running)
    (hidle : m.status ≠ .idle) :
    (m.advance length).counter = m.counter + 1 ∧
      ((m.advance length).running = true ↔ (m.advance length).status = .running) ∧
      (m.advance length).status ≠ .idle := by
  unfold advance
  split
  · simp [finish, moveOn]
  · exact ⟨rfl, hm, hidle⟩

/-- Announcing an instruction that leaves flag and status in agreement, and moving on behind it,
keeps the invariant, if a program that was passed has the instruction. -/
theorem Sound.advance (h : s.Sound) {m : Machine} (hcounter : m.counter = s.machine.counter)
    (hm : m.running = true ↔ m.status = .running) (hidle : m.status ≠ .idle)
    (hinside : s.machine.counter < longest s.programs) (length : Nat) (instruction : Instruction)
    (depth : Nat) :
    Sound { s with
      machine := m.advance length
      events := s.events ++ [.dispatching s.machine.counter instruction depth] } := by
  obtain ⟨hmoved, hrunning', hidle'⟩ := advance_spec length hm hidle
  rw [hcounter] at hmoved
  refine ⟨hrunning', fun h => absurd h hidle', ?_, hmoved ▸ hinside⟩
  simp only [hmoved, List.countP_append]
  exact (Nat.add_right_comm _ 1 _).trans (congrArg (· + 1) h.counter_add)

/-- A step keeps the invariant, if its program was passed. -/
theorem Sound.step (h : s.Sound) {program : Program}
    (hpassed : program.length ≤ longest s.programs) :
    (s.record (s.machine.step program)).Sound := by
  have ⟨hrunning, hidle, hadd, hle⟩ := h
  cases hm : s.machine.running with
  | false =>
    rw [step_of_stopped hm]
    exact ⟨hrunning, hidle, by simpa [record] using hadd, hle⟩
  | true =>
    have hstatus := hrunning.mp hm
    cases hfound : program[s.machine.counter]? with
    | none =>
      rw [step_of_past hm hfound]
      exact ⟨by simp [record, finish], by simp [record, finish],
        by simpa [record, finish] using hadd, hle⟩
    | some instruction =>
      have hinside : s.machine.counter < longest s.programs :=
        Nat.lt_of_lt_of_le (List.getElem?_eq_some_iff.mp hfound).1 hpassed
      have hreply := reply_dispatch s.machine instruction
      generalize hd : s.machine.dispatch instruction = reply at hreply
      -- a fault is announced and reported, a success announced alone
      cases hreply with
      | fails fault hi =>
        rw [step_of_error hm hfound hd]
        refine ⟨by simp [record, fail], by simp [record, fail], ?_, hle⟩
        simp only [record, fail, List.countP_append]
        exact congrArg (· + 1) hadd
      | halts hi =>
        rw [step_of_ok hm hfound hd]
        exact h.advance (m := s.machine.finish) rfl (by simp [finish]) (by simp [finish]) hinside
          program.length instruction _
      | works stack effect hi he hseen hm' =>
        rename_i m'
        rw [step_of_ok hm hfound hd]
        exact h.advance (m := m') (by rw [hm']) (by rw [hm']; exact hrunning)
          (by rw [hm']; simp [hstatus]) hinside program.length instruction _

/-- A run keeps the invariant, since its steps do. -/
theorem Sound.run (h : s.Sound) {program : Program}
    (hpassed : program.length ≤ longest s.programs) :
    (s.record (s.machine.run program)).Sound := by
  generalize hm : s.machine = m
  induction m using step_induction program generalizing s with
  | h m ih =>
    subst hm
    have hstep := h.step hpassed
    cases hresult : (s.machine.step program).result with
    | error fault =>
      rw [run_of_error hresult]
      exact hstep
    | ok progress =>
      cases progress with
      | done =>
        rw [run_of_done hresult]
        exact hstep
      | more =>
        have hrest := ih hresult hstep hpassed rfl
        rw [run_of_more hresult]
        simpa [record, Trace.after] using hrest

/-- Executing is running from the start, as far as the invariant goes. -/
theorem Sound.execute (m : Machine) (program : Program) :
    ((Session.pass { machine := m.start } program).record (m.execute program)).Sound := by
  have hrun := ((sound_start m).pass program).run (Nat.le_max_left _ _)
  obtain ⟨hrunning, hidle, hadd, hle⟩ := hrun
  have hmachine : (m.execute program).machine = (m.start.run program).machine := by
    rw [machine_execute, run_start]
  simp only [record, Session.pass, List.nil_append] at hrunning hidle hadd hle
  refine ⟨?_, ?_, ?_, ?_⟩
  · rwa [record, hmachine]
  · rwa [record, hmachine]
  · rw [record, hmachine, Session.pass, List.nil_append,
      countP_execute m program rfl fun _ _ _ => rfl,
      countP_execute m program rfl fun _ _ _ => rfl, hadd]
  · rwa [record, hmachine]

/-- Every call keeps the invariant. -/
theorem Sound.call (h : s.Sound) (call : Call) : (s.call call).Sound := by
  cases call with
  | reset => exact sound_reset s.machine
  | start => exact sound_start s.machine
  | execute program => exact Sound.execute s.machine program
  | step program => exact (h.pass program).step (Nat.le_max_left _ _)
  | run program => exact (h.pass program).run (Nat.le_max_left _ _)
  | dispatch instruction => exact h.dispatch instruction

theorem Sound.calls (h : s.Sound) (calls : List Call) : (s.calls calls).Sound := by
  induction calls generalizing s with
  | nil => exact h
  | cons call calls ih => exact ih (h.call call)

end Session

/-- After any calls on a new machine: it is running exactly if its status says so, an idle machine
is at its first instruction, and the counter is the number of instructions that steps have
dispatched successfully since the machine was last reset or started, counted by the events and
counted call by call. The counter is within the longest program that was passed since then, so if no
program fills half of the address space, a word has room for one more. -/
theorem session_invariant (calls : List Call) :
    let s := Session.calls {} calls
    (s.machine.running = true ↔ s.machine.status = .running) ∧
    (s.machine.status = .idle → s.machine.counter = 0) ∧
    s.machine.counter = successes s.events ∧
    successes s.events = Session.dispatched {} 0 calls ∧
    s.machine.counter ≤ longest s.programs ∧
    ((∀ program ∈ s.programs, program.length < 2 ^ 63) → s.machine.counter + 1 < 2 ^ 64) := by
  intro s
  have hnew : Session.Sound {} := Session.sound_reset .new
  have hsound : s.Sound := hnew.calls calls
  have hcounter : Tells s.events s.machine.counter := hsound.counter_add.symm
  have hnone : Tells (Session.events {}) 0 := rfl
  have hcounted : Tells s.events (Session.dispatched {} 0 calls) := Session.tells_calls hnone calls
  refine ⟨hsound.running_iff, hsound.idle, hcounter.successes_eq.symm, hcounted.successes_eq,
    hsound.counter_le, fun hlength => ?_⟩
  have hlongest : longest s.programs ≤ 2 ^ 63 - 1 :=
    longest_le fun program hprogram => by
      have := hlength program hprogram
      omega
  have hle := hsound.counter_le
  omega

/-- Three programs and a single instruction on one machine, which fails twice. Since it was started,
the step has dispatched one instruction and the run two, before it failed at the third; the single
`pop` was none of a step. -/
theorem session_invariant_mixed :
    let calls : List Call := [.execute [.push 1, .add], .start, .step [.push 1, .print, .push 2],
      .dispatch .pop, .run [.pop, .push 5, .print, .add]]
    let s := Session.calls {} calls
    s.programs = [[.pop, .push 5, .print, .add], [.push 1, .print, .push 2]] ∧
    s.machine.counter = 3 ∧ successes s.events = 3 ∧ Session.dispatched {} 0 calls = 3 ∧
    s.machine.counter + 1 < 2 ^ 64 := by
  intro calls s
  have hprograms : s.programs = [[.pop, .push 5, .print, .add], [.push 1, .print, .push 2]] := rfl
  have hcount : Session.dispatched {} 0 calls = 3 := by decide
  obtain ⟨-, -, hcounter, hsuccesses, -, hroom⟩ := session_invariant calls
  refine ⟨hprograms, hcounter.trans (hsuccesses.trans hcount), hsuccesses.trans hcount, hcount,
    hroom fun program hprogram => ?_⟩
  rw [hprograms] at hprogram
  simp only [List.mem_cons, List.not_mem_nil, or_false] at hprogram
  rcases hprogram with rfl | rfl <;> decide

end StackMachine.Machine
