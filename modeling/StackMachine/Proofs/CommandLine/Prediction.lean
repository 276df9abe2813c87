import StackMachine.CommandLine.Run
import StackMachine.Proofs.Machine.Operands
import StackMachine.Proofs.Program.RoundTrip

/-!
# What a check tells about runs

The command that checks a program file reads it as the command that runs it does, and lists the
opcodes outside the instruction set without executing anything. Main statement: the list tells with
which unknown opcode a run can fail, and a program that succeeds all the same has a `halt` before
its first unknown instruction (`check_predicts_run`).

Behind it is that a sweep passes no unknown instruction: it ends at a `halt` or a fault before, or
fails right there (`halt_mem_of_sweep`, `first_unknown_of_sweep`).
-/

namespace StackMachine

namespace Machine

/-! ## Unknown instructions -/

/-- Only an unknown instruction has an unknown opcode. -/
theorem eq_unknown_of_dispatch {m : Machine} {instruction : Instruction} {name : String}
    (h : (m.dispatch instruction).2 = .error (.unknownOpcode name)) :
    instruction = .unknown name := by
  generalize hfault : Fault.unknownOpcode name = fault at h
  cases fails_of_dispatch h with
  | underflow hshort => simp at hfault
  | numeric hi hneeds hnumeric => rcases hnumeric with rfl | rfl <;> simp at hfault
  | unknown opcode => rw [Fault.unknownOpcode.inj hfault]

/-- A sweep over an unknown instruction succeeds only if it ends before, at a `halt`. -/
theorem halt_mem_of_sweep {m : Machine} {known after : List Instruction} {name : String}
    (h : (m.sweep (known ++ .unknown name :: after)).result = .ok ()) :
    Instruction.halt ∈ known := by
  induction known generalizing m with
  | nil => simp [sweep, dispatch] at h
  | cons instruction known ih =>
    have hreply := reply_dispatch m instruction
    generalize hd : m.dispatch instruction = reply at hreply
    rw [List.cons_append] at h
    cases hreply with
    | fails fault hi => simp [sweep_of_error hd] at h
    | halts hi => exact hi ▸ List.mem_cons_self
    | works stack effect hi he hseen hm' =>
      rw [sweep_of_ok he hd] at h
      exact List.mem_cons_of_mem _ (ih h)

/-- A sweep that fails with an unknown opcode fails at the first unknown instruction. -/
theorem first_unknown_of_sweep {m : Machine} {rest : List Instruction} {name : String}
    (h : (m.sweep rest).result = .error (.unknownOpcode name)) :
    ∃ known after, rest = known ++ .unknown name :: after ∧
      ∀ other, Instruction.unknown other ∉ known := by
  obtain ⟨before, instruction, after, hrest, hhalt, -, hok, -, -, hfails⟩ := sweep_split_of_error h
  obtain rfl := eq_unknown_of_dispatch hfails
  refine ⟨before, after, hrest, fun other hother => ?_⟩
  obtain ⟨known, between, rfl⟩ := List.append_of_mem hother
  exact hhalt (List.mem_append_left _ (halt_mem_of_sweep hok))

/-- A program without unknown instructions never fails with an unknown opcode, from wherever it is
run. -/
theorem run_ne_unknown {program : Program} (h : ∀ name, Instruction.unknown name ∉ program)
    (m : Machine) (name : String) : (m.run program).result ≠ .error (.unknownOpcode name) := by
  intro hfails
  cases hm : m.running with
  | false => simp [run_of_stopped hm] at hfails
  | true =>
    rw [run_eq_sweep hm] at hfails
    obtain ⟨known, after, hrest, -⟩ := first_unknown_of_sweep hfails
    exact h name (List.mem_of_mem_drop (hrest ▸ List.mem_append_cons_self))

end Machine

/-! ## The report -/

namespace CheckReport

variable {file : String} {program : Program}

/-- The listed opcodes are those of the unknown instructions, in order and with repetitions. -/
theorem map_unknownOpcodes (file : String) (program : Program) :
    (ofProgram file program).unknownOpcodes.map .unknown =
      program.filter (· matches .unknown _) := by
  show (program.filterMap Instruction.unknownOpcode?).map Instruction.unknown = _
  induction program with
  | nil => rfl
  | cons instruction program ih =>
    cases instruction with
    | unknown name => exact congrArg (Instruction.unknown name :: ·) ih
    | _ => exact ih

theorem unknown_not_mem (h : (ofProgram file program).unknownOpcodes = []) (name : String) :
    Instruction.unknown name ∉ program := by
  intro hmem
  have hname := List.filterMap_eq_nil_iff.mp h _ hmem
  simp [Instruction.unknownOpcode?] at hname

/-- The first opcode of the list is that of the first unknown instruction. -/
theorem head?_unknownOpcodes {known after : List Instruction} {name : String}
    (hprogram : program = known ++ .unknown name :: after)
    (hknown : ∀ other, Instruction.unknown other ∉ known) :
    (ofProgram file program).unknownOpcodes.head? = some name := by
  have hnone : known.filterMap Instruction.unknownOpcode? = [] := by
    refine List.filterMap_eq_nil_iff.mpr fun instruction hmem => ?_
    cases instruction with
    | unknown other => exact absurd hmem (hknown other)
    | _ => rfl
  show (program.filterMap Instruction.unknownOpcode?).head? = some name
  rw [hprogram, List.filterMap_append, hnone]
  rfl

/-- A program with listed opcodes has a first unknown instruction. -/
theorem exists_first_unknown (h : (ofProgram file program).unknownOpcodes ≠ []) :
    ∃ known name after, program = known ++ .unknown name :: after ∧
      ∀ other, Instruction.unknown other ∉ known := by
  induction program with
  | nil => exact absurd rfl h
  | cons instruction program ih =>
    cases instruction with
    | unknown name => exact ⟨[], name, program, rfl, by simp⟩
    | _ =>
      obtain ⟨known, name, after, rfl, hknown⟩ := ih h
      exact ⟨_ :: known, name, after, rfl, by simpa using hknown⟩

end CheckReport

namespace CommandLine

open Machine

/-- What a command comes to once the settings are loaded. -/
theorem execute_of_load {around : Surroundings} {configuration : Option String}
    {settings : Settings} (h : Settings.load around configuration = .ok settings)
    (command : Command) :
    ((⟨configuration, command⟩ : Invocation).execute around).output =
        (command.execute around.look settings).output ∧
      ((⟨configuration, command⟩ : Invocation).execute around).result =
        (command.execute around.look settings).result := by
  rw [Invocation.execute, h]
  exact ⟨String.empty_append, rfl⟩

/-- **A check predicts runs.** Where the settings can be loaded, checking a file fails exactly if
the program in it cannot be read, and running the file then fails in the same way. Otherwise what is
written is the report of the program: the number of its instructions, and the opcodes of its unknown
instructions in order and with repetitions. An execution that fails with an unknown opcode fails
with the first one of the list; if the list is empty, no execution and no run does; and if it is not
but an execution succeeds, a `halt` stands before the first unknown instruction. -/
theorem check_predicts_run {around : Surroundings} {configuration : Option String}
    {settings : Settings} (hload : Settings.load around configuration = .ok settings)
    (file : String) :
    let check := (⟨configuration, .check file⟩ : Invocation).execute around
    let run := (⟨configuration, .run file⟩ : Invocation).execute around
    ((∃ failure, check.result = .error failure) ↔
      ∃ fault, Program.load around.look file = .error fault) ∧
    (∀ failure, check.result = .error failure → run.result = .error failure) ∧
    ∀ program, Program.load around.look file = .ok program →
      let report := CheckReport.ofProgram file program
      check.output = lines (checkLines settings report) ∧
      report.instructions = program.length ∧
      report.unknownOpcodes.map .unknown = program.filter (· matches .unknown _) ∧
      (∀ m name, (Machine.execute m program).result = .error (.unknownOpcode name) →
        report.unknownOpcodes.head? = some name) ∧
      (report.unknownOpcodes = [] → ∀ m name,
        (Machine.execute m program).result ≠ .error (.unknownOpcode name) ∧
          (Machine.run m program).result ≠ .error (.unknownOpcode name)) ∧
      (report.unknownOpcodes ≠ [] → ∀ m log, (Machine.execute m program).result = .ok log →
        ∃ known name after, program = known ++ .unknown name :: after ∧
          (∀ other, Instruction.unknown other ∉ known) ∧ Instruction.halt ∈ known) := by
  intro check run
  obtain ⟨hcheckOutput, hcheck⟩ := execute_of_load hload (.check file)
  obtain ⟨-, hrun⟩ := execute_of_load hload (.run file)
  cases hprogram : Program.load around.look file with
  | error fault =>
    have hcheckFails : check.result = .error (.program fault) := by
      rw [show check.result = _ from hcheck, Command.execute, withProgram, hprogram]
      rfl
    have hrunFails : run.result = .error (.program fault) := by
      rw [show run.result = _ from hrun, Command.execute, withProgram, hprogram]
      rfl
    refine ⟨⟨fun _ => ⟨fault, rfl⟩, fun _ => ⟨_, hcheckFails⟩⟩, ?_, by simp⟩
    intro failure hfailure
    rw [hrunFails, ← hcheckFails, hfailure]
  | ok program =>
    have hcheckOk : check.result = .ok () := by
      rw [show check.result = _ from hcheck, Command.execute, withProgram, hprogram]
      rfl
    refine ⟨by simp [hcheckOk], by simp [hcheckOk], ?_⟩
    intro program' hsame report
    obtain rfl : program = program' := by simpa using hsame
    have hfirst : ∀ m name, (Machine.execute m program).result = .error (.unknownOpcode name) →
        ∃ known after, program = known ++ .unknown name :: after ∧
          ∀ other, Instruction.unknown other ∉ known :=
      fun m name hfails => first_unknown_of_sweep (result_execute_eq_error_iff.mp hfails)
    refine ⟨?_, rfl, CheckReport.map_unknownOpcodes file program, ?_, ?_, ?_⟩
    · rw [show check.output = _ from hcheckOutput, Command.execute, withProgram, hprogram]
      exact String.empty_append
    · intro m name hfails
      obtain ⟨known, after, hsplit, hknown⟩ := hfirst m name hfails
      exact CheckReport.head?_unknownOpcodes hsplit hknown
    · intro hempty m name
      have hnone := CheckReport.unknown_not_mem hempty
      refine ⟨fun hfails => ?_, run_ne_unknown hnone m name⟩
      obtain ⟨known, after, hsplit, -⟩ := hfirst m name hfails
      exact hnone name (hsplit ▸ List.mem_append_cons_self)
    · intro hlisted m log hok
      obtain ⟨known, name, after, hsplit, hknown⟩ := CheckReport.exists_first_unknown hlisted
      refine ⟨known, name, after, hsplit, hknown, ?_⟩
      have hsweep := (result_execute_eq_ok_iff.mp hok).1
      rw [hsplit] at hsweep
      exact halt_mem_of_sweep hsweep

/-- Of two unknown instructions the first one is listed first and fails. -/
theorem check_predicts_run_unknown :
    let program : Program := [.push 1, .unknown "JMP", .print, .unknown "NOP"]
    let around : Surroundings :=
      { env := [("HOME", "/")]
        look := fun path =>
          if path = "p.json" then .ok (Program.encode program).toUTF8 else .error .missing }
    let check := (⟨none, .check "p.json"⟩ : Invocation).execute around
    Settings.load around none = .ok {} ∧ Program.load around.look "p.json" = .ok program ∧
      check.output = "p.json: 4 instruction(s)\nUnknown opcodes: JMP, NOP\n" ∧
      (Machine.new.execute program).result = .error (.unknownOpcode "JMP") ∧
      (CheckReport.ofProgram "p.json" program).unknownOpcodes.head? = some "JMP" := by
  intro program around check
  have hload : Settings.load around none = .ok {} := rfl
  have hprogram : Program.load around.look "p.json" = .ok program := by
    have hread : Program.readProgram (Program.encode program).toList = .ok (program, []) :=
      Program.readProgram_written program
    have hdecode : Program.decode (Program.encode program) = .ok program := by
      rw [Program.decode, Program.whole, hread]
      rfl
    have hlook : around.look "p.json" = .ok (Program.encode program).toUTF8 := rfl
    rw [Program.load, hlook]
    simp only [Files.text_toUTF8, hdecode]
  obtain ⟨-, -, hpredicts⟩ := check_predicts_run hload "p.json"
  obtain ⟨houtput, -, -, hfirst, -⟩ := hpredicts program hprogram
  have hfails : (Machine.new.execute program).result = .error (.unknownOpcode "JMP") := by
    rw [Machine.result_execute]
    rfl
  exact ⟨hload, hprogram, houtput.trans (by decide), hfails, hfirst _ _ hfails⟩

end CommandLine

end StackMachine
