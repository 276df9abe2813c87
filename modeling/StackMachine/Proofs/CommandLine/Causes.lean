import StackMachine.Proofs.CommandLine.Prediction
import StackMachine.Proofs.CommandLine.Presentation
import StackMachine.Proofs.Program.Canonical

/-!
# Why commands fail

Every fault with which a command ends has its cause: settings that cannot be loaded, a program file
that cannot be read, a demonstration that nobody knows, or an instruction that failed. `Causes` says
which one counts, settings before everything else; that a demonstration may fail is not among them.

Main statement: a command fails exactly if it has a cause, nothing is written unless it is an
instruction that failed, and what is written about that run is what the settings prescribe
(`nothing_before_faults`).
-/

namespace StackMachine.CommandLine

open Reference (evaluate)

/-! ## Demonstrations -/

/-- The demonstrations run to their ends. -/
theorem status_of_mem_all :
    ∀ demo ∈ Demo.all, (evaluate 0 [] [] demo.program).ending.status = .halted := by
  decide

theorem verdict_of_halted {outcome : Reference.Outcome} (h : outcome.ending.status = .halted) :
    verdict outcome = .ok () := by
  rw [verdict]
  cases hending : outcome.ending with
  | failed index fault => simp [hending, Reference.Ending.status] at h
  | halted index | ended => rfl

/-- Programs that run to their ends are all presented. -/
theorem result_runDemos (settings : Settings) {demos : List Demo}
    (h : ∀ demo ∈ demos, (evaluate 0 [] [] demo.program).ending.status = .halted) (index : Nat) :
    (runDemos settings index demos).result = .ok () := by
  induction demos generalizing index with
  | nil => rfl
  | cons demo demos ih =>
    obtain ⟨hdemo, hdemos⟩ := List.forall_mem_cons.mp h
    have hrun : (runProgram settings demo.name demo.program).result = .ok () :=
      (result_runProgram settings demo.name demo.program).trans (verdict_of_halted hdemo)
    rw [runDemos, Outcome.andThen]
    simp only [Outcome.after, hrun]
    exact ih hdemos (index + 1)

theorem find?_eq_none_iff {name : String} :
    Demo.find? name = none ↔ ∀ demo ∈ Demo.all, demo.name ≠ name := by
  simp [Demo.find?, List.find?_eq_none]

theorem name_of_find? {name : String} {demo : Demo} (h : Demo.find? name = some demo) :
    demo.name = name := by
  simpa using List.find?_some h

/-- Of the commands for demonstrations only one for an unknown name fails. -/
theorem result_demo_eq_error_iff {look : String → Files.Lookup} {settings : Settings}
    {name : Option String} {fault : CommandFault} :
    ((Command.demo name).execute look settings).result = .error fault ↔
      ∃ unknown, name = some unknown ∧ (∀ demo ∈ Demo.all, demo.name ≠ unknown) ∧
        fault = .unknownDemo unknown := by
  cases name with
  | none =>
    rw [Command.execute, result_runDemos settings status_of_mem_all]
    simp
  | some name =>
    rw [Command.execute]
    cases hfind : Demo.find? name with
    | none =>
      have hunknown := find?_eq_none_iff.mp hfind
      constructor
      · intro h
        exact ⟨name, rfl, hunknown, (Except.error.inj h).symm⟩
      · rintro ⟨unknown, hname, -, rfl⟩
        rw [Option.some.inj hname]
        rfl
    | some chosen =>
      have hmem : chosen ∈ Demo.all := List.mem_of_find?_eq_some hfind
      have hchosen : ∀ demo ∈ [chosen],
          (evaluate 0 [] [] demo.program).ending.status = .halted := by
        intro demo hdemo
        rw [List.mem_singleton.mp hdemo]
        exact status_of_mem_all chosen hmem
      simp only [result_runDemos settings hchosen]
      refine iff_of_false (by simp) ?_
      rintro ⟨unknown, hname, hunknown, -⟩
      exact hunknown chosen hmem (Option.some.inj hname ▸ name_of_find? hfind)

/-! ## Program files -/

section Files

variable {look : String → Files.Lookup} {file : String} {next : Program → Outcome}

theorem withProgram_of_error {fault : Program.LoadFault}
    (h : Program.load look file = .error fault) :
    withProgram look file next = .refuse (.program fault) := by
  rw [withProgram, h]

/-- A command on a program file fails because there is no program in it, or for a reason of its own.
-/
theorem result_withProgram_eq_error_iff {fault : CommandFault} :
    (withProgram look file next).result = .error fault ↔
      (∃ reason, Program.load look file = .error reason ∧ fault = .program reason) ∨
      ∃ program, Program.load look file = .ok program ∧ (next program).result = .error fault := by
  rw [withProgram]
  cases hload : Program.load look file with
  | error reason => simp [Outcome.refuse, eq_comm]
  | ok program => simp [Outcome.after]

end Files

theorem verdict_eq_error_iff {outcome : Reference.Outcome} {fault : CommandFault} :
    verdict outcome = .error fault ↔
      ∃ index reason, outcome.ending = .failed index reason ∧ fault = .failed index reason := by
  rw [verdict]
  cases outcome.ending with
  | failed index reason =>
    constructor
    · intro h
      exact ⟨index, reason, rfl, (Except.error.inj h).symm⟩
    · rintro ⟨_, _, hending, rfl⟩
      cases hending
      rfl
  | halted index | ended => simp

/-! ## Causes -/

/-- Why a command ends with a fault. -/
inductive Causes (around : Surroundings) (configuration : Option String) :
    Command → CommandFault → Prop
  | settings {command : Command} {fault : Settings.LoadFault}
      (h : Settings.load around configuration = .error fault) :
      Causes around configuration command (.settings fault)
  | program {command : Command} {file : String} {settings : Settings} {fault : Program.LoadFault}
      (hload : Settings.load around configuration = .ok settings) (hfile : file ∈ command.paths)
      (h : Program.load around.look file = .error fault) :
      Causes around configuration command (.program fault)
  | unknownDemo {name : String} {settings : Settings}
      (hload : Settings.load around configuration = .ok settings)
      (h : ∀ demo ∈ Demo.all, demo.name ≠ name) :
      Causes around configuration (.demo (some name)) (.unknownDemo name)
  | failed {file : String} {settings : Settings} {program : Program} {index : Nat} {fault : Fault}
      (hload : Settings.load around configuration = .ok settings)
      (hprogram : Program.load around.look file = .ok program)
      (h : (evaluate 0 [] [] program).ending = .failed index fault) :
      Causes around configuration (.run file) (.failed index fault)

section Loaded

variable {around : Surroundings} {configuration : Option String} {settings : Settings}
  (hload : Settings.load around configuration = .ok settings) {file : String} {fault : CommandFault}

include hload

theorem not_causes_config : ¬ Causes around configuration .config fault := by
  intro h
  cases h with
  | settings h => simp [hload] at h
  | program _ hfile _ => simp [Command.paths] at hfile

theorem causes_demo_iff {name : Option String} :
    Causes around configuration (.demo name) fault ↔
      ∃ unknown, name = some unknown ∧ (∀ demo ∈ Demo.all, demo.name ≠ unknown) ∧
        fault = .unknownDemo unknown := by
  constructor
  · intro h
    cases h with
    | settings h => simp [hload] at h
    | program _ hfile _ => simp [Command.paths] at hfile
    | unknownDemo _ h => exact ⟨_, rfl, h, rfl⟩
  · rintro ⟨unknown, rfl, hunknown, rfl⟩
    exact .unknownDemo hload hunknown

theorem causes_check_iff :
    Causes around configuration (.check file) fault ↔
      ∃ reason, Program.load around.look file = .error reason ∧ fault = .program reason := by
  constructor
  · intro h
    cases h with
    | settings h => simp [hload] at h
    | program _ hfile h =>
      rw [List.mem_singleton.mp hfile] at h
      exact ⟨_, h, rfl⟩
  · rintro ⟨reason, hprogram, rfl⟩
    exact .program hload (List.mem_singleton_self file) hprogram

theorem causes_run_iff :
    Causes around configuration (.run file) fault ↔
      (∃ reason, Program.load around.look file = .error reason ∧ fault = .program reason) ∨
      ∃ program, Program.load around.look file = .ok program ∧ ∃ index reason,
        (evaluate 0 [] [] program).ending = .failed index reason ∧
          fault = .failed index reason := by
  constructor
  · intro h
    cases h with
    | settings h => simp [hload] at h
    | program _ hfile h =>
      rw [List.mem_singleton.mp hfile] at h
      exact Or.inl ⟨_, h, rfl⟩
    | failed _ hprogram h => exact Or.inr ⟨_, hprogram, _, _, h, rfl⟩
  · rintro (⟨reason, hprogram, rfl⟩ | ⟨program, hprogram, index, reason, hending, rfl⟩)
    · exact .program hload (List.mem_singleton_self file) hprogram
    · exact .failed hload hprogram hending

end Loaded

/-- A command fails exactly if it has a cause, and with the fault of its cause. -/
theorem result_execute_eq_error_iff {around : Surroundings} {configuration : Option String}
    {command : Command} {fault : CommandFault} :
    ((⟨configuration, command⟩ : Invocation).execute around).result = .error fault ↔
      Causes around configuration command fault := by
  cases hload : Settings.load around configuration with
  | error reason =>
    rw [Invocation.execute, hload]
    constructor
    · intro h
      rw [← Except.error.inj h]
      exact .settings hload
    · intro h
      cases h with
      | settings h =>
        rw [hload, Except.error.injEq] at h
        rw [h]
        rfl
      | program hother | unknownDemo hother | failed hother => simp [hload] at hother
  | ok settings =>
    rw [(execute_of_load hload command).2]
    cases command with
    | config =>
      refine iff_of_false ?_ (not_causes_config hload)
      simp [Command.execute, Outcome.write]
    | demo name => rw [result_demo_eq_error_iff, causes_demo_iff hload]
    | check file =>
      rw [Command.execute, result_withProgram_eq_error_iff, causes_check_iff hload]
      simp [Outcome.write]
    | run file =>
      rw [Command.execute, result_withProgram_eq_error_iff, causes_run_iff hload]
      simp only [result_runProgram, verdict_eq_error_iff]

/-! ## Output -/

/-- A command that fails before its run writes nothing. -/
theorem output_of_causes {around : Surroundings} {configuration : Option String}
    {command : Command} {fault : CommandFault} (h : Causes around configuration command fault)
    (hfault : ∀ index reason, fault ≠ .failed index reason) :
    ((⟨configuration, command⟩ : Invocation).execute around).output = "" := by
  cases h with
  | settings h =>
    rw [Invocation.execute, h]
    rfl
  | @program _ file settings _ hload hfile h =>
    rw [(execute_of_load hload command).1]
    cases command with
    | run path | check path =>
      rw [List.mem_singleton.mp hfile] at h
      rw [Command.execute, withProgram_of_error h]
      rfl
    | demo _ | config => simp [Command.paths] at hfile
  | unknownDemo hload h =>
    rw [(execute_of_load hload _).1, Command.execute, find?_eq_none_iff.mpr h]
    rfl
  | failed _ _ _ => exact absurd rfl (hfault _ _)

/-- The lines that settings prescribe for the run of a program from a file. -/
def prescribed (settings : Settings) (program : Program) : List String :=
  match settings.format with
  | .json => [(RunReport.ofTrace none (Machine.new.execute program)).render]
  | .text => textLines settings (evaluate 0 [] [] program)

/-- What is written about a run is what the settings prescribe. -/
theorem output_run {around : Surroundings} {configuration : Option String} {settings : Settings}
    {file : String} {program : Program} (hload : Settings.load around configuration = .ok settings)
    (hprogram : Program.load around.look file = .ok program) :
    ((⟨configuration, .run file⟩ : Invocation).execute around).output =
      lines (prescribed settings program) := by
  rw [(execute_of_load hload (.run file)).1, (execute_run hprogram settings).1, output_runProgram,
    prescribed]
  cases hformat : settings.format with
  | json => rw [presentation, hformat]
  | text => rw [presentation_eq_textLines hformat]

/-! ## Command lines -/

/-- What arguments come to: the outcome of what they ask for, unless they ask for nothing. -/
def respond (around : Surroundings) (arguments : List String) : Except UsageFault Outcome :=
  (Invocation.ofArguments arguments).map (Invocation.execute around)

/-- **Nothing is written before a fault.** Whatever arguments ask for, it ends with a fault exactly
if the fault has a cause. Settings that cannot be loaded are reported whatever the command is, and
nothing is written if they, the program file or the name of the demonstration are at fault. An
instruction fails only when a program file is run and its program can be read, and then the output
is what the settings prescribe for the run. -/
theorem nothing_before_faults {around : Surroundings} {arguments : List String} {outcome : Outcome}
    (h : respond around arguments = .ok outcome) :
    ∃ configuration command,
      Invocation.ofArguments arguments = .ok ⟨configuration, command⟩ ∧
      (∀ fault, outcome.result = .error fault ↔ Causes around configuration command fault) ∧
      (∀ fault, outcome.result = .error fault →
        (∀ index reason, fault ≠ .failed index reason) → outcome.output = "") ∧
      (∀ fault, Settings.load around configuration = .error fault →
        outcome.result = .error (.settings fault)) ∧
      ∀ index fault, outcome.result = .error (.failed index fault) →
        ∃ file settings program, command = .run file ∧
          Settings.load around configuration = .ok settings ∧
          Program.load around.look file = .ok program ∧
          (evaluate 0 [] [] program).ending = .failed index fault ∧
          outcome.output = lines (prescribed settings program) := by
  rw [respond] at h
  cases harguments : Invocation.ofArguments arguments with
  | error fault => simp [harguments, Except.map] at h
  | ok invocation =>
    obtain ⟨configuration, command⟩ := invocation
    obtain rfl : (⟨configuration, command⟩ : Invocation).execute around = outcome := by
      rw [harguments] at h
      exact Except.ok.inj h
    refine ⟨configuration, command, rfl, fun fault => result_execute_eq_error_iff,
      fun fault hfails hfault => ?_, fun fault hload => ?_, fun index fault hfails => ?_⟩
    · exact output_of_causes (result_execute_eq_error_iff.mp hfails) hfault
    · exact result_execute_eq_error_iff.mpr (.settings hload)
    · cases result_execute_eq_error_iff.mp hfails with
      | @failed file settings program _ _ hload hprogram hending =>
        exact ⟨file, settings, program, rfl, hload, hprogram, hending, output_run hload hprogram⟩

/-- A missing configuration file counts before an unknown name, and a program that fails at its last
instruction has printed a value before. -/
theorem nothing_before_faults_underflow :
    let program : Program := [.push (-7), .print, .pop, .add]
    let around : Surroundings :=
      { env := [("HOME", "/")]
        look := fun path =>
          if path = "p.json" then .ok (Program.encode program).toUTF8 else .error .missing }
    (∃ outcome, respond around ["--config", "no.toml", "demo", "none"] = .ok outcome ∧
      outcome.result = .error (.settings (.notFound "no.toml")) ∧ outcome.output = "") ∧
    ∃ outcome, respond around ["run", "p.json"] = .ok outcome ∧
      outcome.result = .error (.failed 3 .stackUnderflow) ∧ outcome.output = "-7\nStack: []\n" := by
  intro program around
  have hdemo : Invocation.ofArguments ["--config", "no.toml", "demo", "none"] =
      .ok ⟨some "no.toml", .demo (some "none")⟩ := rfl
  have hrun : Invocation.ofArguments ["run", "p.json"] = .ok ⟨none, .run "p.json"⟩ := rfl
  constructor
  · refine ⟨_, by rw [respond, hdemo]; rfl, ?_⟩
    obtain ⟨configuration, command, harguments, -, hsilent, hsettings, -⟩ :=
      @nothing_before_faults around _ _ (by rw [respond, hdemo]; rfl)
    rw [hdemo] at harguments
    obtain ⟨rfl, rfl⟩ := Invocation.mk.inj (Except.ok.inj harguments)
    have hfails := hsettings (.notFound "no.toml") rfl
    exact ⟨hfails, hsilent _ hfails (by simp)⟩
  · refine ⟨_, by rw [respond, hrun]; rfl, ?_⟩
    obtain ⟨configuration, command, harguments, hcauses, -, -, hfailed⟩ :=
      @nothing_before_faults around _ _ (by rw [respond, hrun]; rfl)
    rw [hrun] at harguments
    obtain ⟨rfl, rfl⟩ := Invocation.mk.inj (Except.ok.inj harguments)
    have hload : Settings.load around none = .ok {} := rfl
    have hcanonical : Program.Canonical program := by decide
    have hprogram : Program.load around.look "p.json" = .ok program := hcanonical.load_encode rfl
    have hcause : Causes around none (.run "p.json") (.failed 3 .stackUnderflow) :=
      .failed hload hprogram rfl
    have hfails := (hcauses _).mpr hcause
    obtain ⟨file, settings, program', hfile, hload', hprogram', -, houtput⟩ := hfailed _ _ hfails
    obtain rfl := Command.run.inj hfile
    obtain rfl := Except.ok.inj (hload.symm.trans hload')
    obtain rfl := Except.ok.inj (hprogram.symm.trans hprogram')
    exact ⟨hfails, houtput.trans (by decide)⟩

end StackMachine.CommandLine
