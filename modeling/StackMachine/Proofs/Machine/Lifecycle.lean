import StackMachine.Proofs.Machine.Session

/-!
# The life of a machine

A run ends once: the status leaves `running` for `halted` or for `failed`, and stays there until the
machine is reset, started or given a program to execute. Steps and runs keep to that, since they do
nothing to a machine that is not running. A single instruction is applied to any machine, and one of
them writes the status: a `halt` makes every machine a halted one, also one that has failed and one
that has not run yet (`failed_machine_halts`).

Main statement: what the calls of a session do to the status, the `halt` on a machine that is not
running being the one exception (`status_changes`).
-/

namespace StackMachine.Machine

/-- The end of a run, as a change of the status. -/
inductive Ends : Status → Status → Prop
  | halted : Ends .running .halted
  | failed : Ends .running .failed

/-- Only a machine that is running ends its run. -/
theorem Ends.eq_running {status status' : Status} (h : Ends status status') :
    status = .running := by
  cases h <;> rfl

/-- The status of a machine that was running before a step with this result. -/
def stepStatus : Except Fault Progress → Status
  | .ok .more => .running
  | .ok .done => .halted
  | .error _ => .failed

/-- The status of a machine that was running before a run with this result. -/
def runStatus {α : Type} : Except Fault α → Status
  | .ok _ => .halted
  | .error _ => .failed

theorem ends_runStatus {α : Type} (result : Except Fault α) : Ends .running (runStatus result) := by
  cases result with
  | ok => exact .halted
  | error => exact .failed

/-! ## Steps and runs -/

section Runs

variable {m : Machine}

/-- Moving on leaves a running machine running inside its program and halts it at the end. -/
theorem status_advance (h : m.running = true → m.status = .running)
    (hstopped : m.running = false → m.status = .halted) (length : Nat) :
    (m.advance length).status = stepStatus (.ok (m.advance length).progress) := by
  unfold advance
  split
  · rfl
  · cases hm : m.running with
    | true => simp [moveOn, progress, hm, h hm, stepStatus]
    | false => simp [moveOn, progress, hm, hstopped hm, stepStatus]

/-- The result of a step tells the status of a machine that was running. -/
theorem status_step (hm : m.running = true) (hstatus : m.status = .running) (program : Program) :
    (m.step program).machine.status = stepStatus (m.step program).result := by
  cases hfound : program[m.counter]? with
  | none =>
    rw [step_of_past hm hfound]
    rfl
  | some instruction =>
    have hreply := reply_dispatch m instruction
    generalize hd : m.dispatch instruction = reply at hreply
    cases hreply with
    | fails fault hi =>
      rw [step_of_error hm hfound hd]
      rfl
    | halts hi =>
      rw [step_of_ok hm hfound hd]
      exact status_advance (by simp [finish]) (fun _ => rfl) program.length
    | works stack effect hi he hseen hm' =>
      rw [step_of_ok hm hfound hd]
      exact status_advance (fun _ => by rw [hm']; exact hstatus) (by simp [hm', hm]) program.length

/-- The result of a run tells the status of a machine that was running: a run never leaves it so. -/
theorem status_run (hm : m.running = true) (hstatus : m.status = .running) (program : Program) :
    (m.run program).machine.status = runStatus (m.run program).result := by
  induction m using step_induction program with
  | h m ih =>
    have hstep := status_step hm hstatus program
    cases hresult : (m.step program).result with
    | error fault =>
      rw [hresult] at hstep
      rw [run_of_error hresult]
      exact hstep
    | ok progress =>
      rw [hresult] at hstep
      cases progress with
      | done =>
        rw [run_of_done hresult]
        exact hstep
      | more =>
        rw [run_of_more hresult]
        exact ih hresult (progress_eq_more_iff.mp (progress_of_step hresult)) hstep

/-- Executing ends with the status that its result tells, wherever the machine came from. -/
theorem status_execute_eq (m : Machine) (program : Program) :
    (m.execute program).machine.status = runStatus (m.execute program).result := by
  rw [machine_execute, ← run_start, status_run (m := m.start) rfl rfl, run_start, result_execute]
  cases (m.start.sweep program).result <;> rfl

/-! ## Single instructions -/

/-- No instruction but `halt` writes the status. -/
theorem status_dispatch {instruction : Instruction} (hi : instruction ≠ .halt) (m : Machine) :
    (m.dispatch instruction).1.status = m.status := by
  have hreply := reply_dispatch m instruction
  generalize m.dispatch instruction = reply at hreply ⊢
  cases hreply with
  | fails fault _ => rfl
  | halts h => exact absurd h hi
  | works stack effect _ he hseen hm' => rw [hm']

end Runs

/-! ## Sessions -/

/-- Whether a call goes on with the machine as it is, instead of beginning anew. -/
def Call.continues : Call → Bool
  | .step _ | .run _ | .dispatch _ => true
  | .reset | .start | .execute _ => false

namespace Session

variable {s : Session}

/-- A call that goes on ends a run or keeps the status, a `halt` on a machine that is not running
apart. -/
theorem Sound.status_call (h : s.Sound) {call : Call} (hcall : call.continues = true)
    (hhalt : call = .dispatch .halt → s.machine.status = .running) :
    (s.call call).machine.status = s.machine.status ∨
      Ends s.machine.status (s.call call).machine.status := by
  have hstopped : s.machine.running = false ∨
      s.machine.running = true ∧ s.machine.status = .running := by
    cases hm : s.machine.running with
    | false => exact Or.inl rfl
    | true => exact Or.inr ⟨rfl, h.running_iff.mp hm⟩
  cases call with
  | reset | start | execute _ => simp [Call.continues] at hcall
  | step program =>
    show (s.machine.step program).machine.status = _ ∨
      Ends _ (s.machine.step program).machine.status
    rcases hstopped with hm | ⟨hm, hstatus⟩
    · rw [step_of_stopped hm]
      exact Or.inl rfl
    · rw [status_step hm hstatus, hstatus]
      match (s.machine.step program).result with
      | .ok .more => exact Or.inl rfl
      | .ok .done => exact Or.inr .halted
      | .error _ => exact Or.inr .failed
  | run program =>
    show (s.machine.run program).machine.status = _ ∨
      Ends _ (s.machine.run program).machine.status
    rcases hstopped with hm | ⟨hm, hstatus⟩
    · rw [run_of_stopped hm]
      exact Or.inl rfl
    · rw [status_run hm hstatus, hstatus]
      exact Or.inr (ends_runStatus _)
  | dispatch instruction =>
    by_cases hi : instruction = .halt
    · subst hi
      rw [hhalt rfl]
      exact Or.inr .halted
    · exact Or.inl (status_dispatch hi s.machine)

/-- A machine whose run is over keeps its status through any calls that go on, if none of them
applies a `halt`. -/
theorem Sound.status_calls (h : s.Sound) (hstatus : s.machine.status ≠ .running)
    {calls : List Call} (hcalls : ∀ call ∈ calls, call.continues = true ∧ call ≠ .dispatch .halt) :
    (s.calls calls).machine.status = s.machine.status := by
  induction calls generalizing s with
  | nil => rfl
  | cons call calls ih =>
    obtain ⟨⟨hcall, hhalt⟩, hrest⟩ := List.forall_mem_cons.mp hcalls
    have hsame : (s.call call).machine.status = s.machine.status := by
      have hkept := h.status_call hcall fun heq => absurd heq hhalt
      exact hkept.resolve_right fun hends => hstatus hends.eq_running
    exact (ih (h.call call) (hsame ▸ hstatus) hrest).trans hsame

end Session

/-- **What calls do to the status.** On every machine that calls can lead to, a step, a run or a
single instruction keeps the status or takes it from `running` to `halted` or `failed`, with one
exception: a single `halt` makes a halted machine of one that is not running. A step or a run of a
machine that is not running changes nothing at all; otherwise its result tells the status. Other
instructions never write the status, so without single `halt`s a machine that is not running stays
as it is until it is reset, started or given a program, and those calls set the status whatever it
was. -/
theorem status_changes (calls : List Call) :
    let s := Session.calls {} calls
    (∀ call : Call, call.continues = true →
      (s.call call).machine.status = s.machine.status ∨
      Ends s.machine.status (s.call call).machine.status ∨
      (call = .dispatch .halt ∧ s.machine.status ≠ .running ∧
        (s.call call).machine.status = .halted)) ∧
    (∀ program : Program,
      (s.machine.status ≠ .running → (s.machine.step program).machine = s.machine ∧
        (s.machine.run program).machine = s.machine) ∧
      (s.machine.status = .running →
        (s.machine.step program).machine.status =
            stepStatus (s.machine.step program).result ∧
          (s.machine.run program).machine.status = runStatus (s.machine.run program).result)) ∧
    (∀ later : List Call,
      (∀ call ∈ later, call.continues = true ∧ call ≠ .dispatch .halt) →
      s.machine.status ≠ .running → (s.calls later).machine.status = s.machine.status) ∧
    (s.call .reset).machine.status = .idle ∧ (s.call .start).machine.status = .running ∧
    ∀ program : Program, (s.call (.execute program)).machine.status =
      runStatus (s.machine.execute program).result := by
  intro s
  have hnew : Session.Sound {} := Session.sound_reset .new
  have hsound : s.Sound := hnew.calls calls
  refine ⟨fun call hcall => ?_, fun program => ⟨fun hstatus => ?_, fun hstatus => ?_⟩,
    fun later hlater hstatus => hsound.status_calls hstatus hlater, rfl, rfl,
    fun program => status_execute_eq s.machine program⟩
  · by_cases hhalt : call = .dispatch .halt ∧ s.machine.status ≠ .running
    · obtain ⟨rfl, hstatus⟩ := hhalt
      exact Or.inr (Or.inr ⟨rfl, hstatus, rfl⟩)
    · rcases hsound.status_call hcall fun heq => by simpa [heq] using hhalt with hsame | hends
      · exact Or.inl hsame
      · exact Or.inr (Or.inl hends)
  · have hm : s.machine.running = false := by
      rw [← Bool.not_eq_true]
      exact fun hm => hstatus (hsound.running_iff.mp hm)
    rw [step_of_stopped hm, run_of_stopped hm]
    exact ⟨rfl, rfl⟩
  · have hm := hsound.running_iff.mpr hstatus
    exact ⟨status_step hm hstatus program, status_run hm hstatus program⟩

/-- A machine that has failed stays so through a step, a run and a single instruction. -/
theorem status_changes_failed :
    let s := Session.calls {} [.start, .step [.pop]]
    s.machine.status = .failed ∧
    (s.calls [.step [.push 1], .run [.halt], .dispatch (.push 2)]).machine.status = .failed := by
  intro s
  obtain ⟨-, -, hlater, -⟩ := status_changes [.start, .step [.pop]]
  exact ⟨rfl, hlater _ (by decide) (by decide)⟩

/-- A single `halt` makes a halted machine of one that has failed. -/
theorem failed_machine_halts :
    ¬ ∀ (calls : List Call) (call : Call), call.continues = true →
      let s := Session.calls {} calls
      (s.call call).machine.status = s.machine.status ∨
        Ends s.machine.status (s.call call).machine.status := by
  intro h
  rcases h [.start, .step [.pop]] (.dispatch .halt) rfl with hsame | hends
  · exact absurd hsame (by decide)
  · cases hends

end StackMachine.Machine
