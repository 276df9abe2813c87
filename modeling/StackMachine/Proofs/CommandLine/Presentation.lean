import StackMachine.CommandLine.Run
import StackMachine.Proofs.Machine.Reference
import StackMachine.Proofs.Program.RoundTrip
import StackMachine.Proofs.Report.RoundTrip

/-!
# Settings only present a run

What is written about a run, for any settings. The reference evaluation of the program, which knows
neither settings nor observers, gives the values in the lines and the ending of the command; the
settings only choose among the lines. Values that are shown while the program runs are those that
are in its output log in the end, also if it fails midway. Main statement: `runs_are_presented`.
-/

namespace StackMachine.CommandLine

open Json

/-! ## Lines -/

theorem oneLine_toString (n : Int) : OneLine (toString n).toList := by
  have hdigits (k : Nat) : OneLine (Nat.repr k).toList := by
    rw [Nat.repr, String.toList_ofList]
    exact oneLine_of_digits (wholeText_digitsOf k).1.2
  cases n with
  | ofNat k => exact hdigits k
  | negSucc k =>
    show OneLine ("-" ++ Nat.repr k.succ).toList
    rw [String.toList_append, oneLine_append]
    exact ⟨by decide, hdigits k.succ⟩

theorem oneLine_intercalate {separator : List Char} (hs : OneLine separator)
    {texts : List (List Char)} (h : ∀ text ∈ texts, OneLine text) :
    OneLine (separator.intercalate texts) := by
  induction texts with
  | nil => exact oneLine_nil
  | cons text texts ih =>
    rw [List.forall_mem_cons] at h
    cases texts with
    | nil => simpa [List.intercalate] using h.1
    | cons next texts =>
      rw [List.intercalate_cons_cons, oneLine_append, oneLine_append]
      exact ⟨⟨h.1, hs⟩, ih h.2⟩

/-- Integers in brackets, with commas between them. -/
def listed (values : List Int) : String :=
  "[" ++ ", ".intercalate (values.map toString) ++ "]"

theorem oneLine_listed (values : List Int) : OneLine (listed values).toList := by
  have hvalues : ∀ text ∈ (values.map toString).map String.toList, OneLine text :=
    List.forall_mem_map.mpr (List.forall_mem_map.mpr fun n _ => oneLine_toString n)
  rw [listed]
  simp only [String.toList_append, String.toList_intercalate, oneLine_append]
  exact ⟨⟨by decide, oneLine_intercalate (by decide) hvalues⟩, by decide⟩

/-! ## The lines about an evaluation -/

open Reference (ints evaluate)

theorem bracketed_eq_listed (values : List Int64) : bracketed values = listed (ints values) := by
  rw [bracketed, listed, ints, List.map_map]
  rfl

/-- The lines for people about an evaluation: the values of its log, each in a line of its own or
all in one, and its stack if it is wanted. -/
def textLines (settings : Settings) (outcome : Reference.Outcome) : List String :=
  (if settings.echo then outcome.log.map toString else ["Output: " ++ listed outcome.log]) ++
    if settings.showStack then ["Stack: " ++ listed outcome.stack.reverse] else []

theorem oneLine_of_mem_textLines {settings : Settings} {outcome : Reference.Outcome} {line : String}
    (h : line ∈ textLines settings outcome) : OneLine line.toList := by
  have hlabelled {label : String} (hlabel : OneLine label.toList) (values : List Int) :
      OneLine (label ++ listed values).toList := by
    rw [String.toList_append, oneLine_append]
    exact ⟨hlabel, oneLine_listed values⟩
  rcases List.mem_append.mp h with h | h
  · split at h
    · obtain ⟨n, -, rfl⟩ := List.mem_map.mp h
      exact oneLine_toString n
    · rw [List.mem_singleton.mp h]
      exact hlabelled (by decide) _
  · split at h
    · rw [List.mem_singleton.mp h]
      exact hlabelled (by decide) _
    · simp at h

/-- What is written about an execution are the lines about its evaluation. -/
theorem presentation_eq_textLines {settings : Settings} (hformat : settings.format = .text)
    (name : Option String) (m : Machine) (program : Program) :
    presentation settings name (m.execute program) =
      textLines settings (evaluate 0 [] [] program) := by
  obtain ⟨hagrees, -⟩ := Reference.agrees_execute m program
  have hlog : ints (m.execute program).machine.output = (evaluate 0 [] [] program).log :=
    hagrees.log
  have hseen : (m.execute program).seen.map (fun value => toString value.toInt) =
      (evaluate 0 [] [] program).log.map toString := by
    rw [← hlog, ← Machine.output_execute, ints, List.map_map]
    rfl
  have hstack : ints (m.execute program).machine.operands =
      (evaluate 0 [] [] program).stack.reverse := by
    rw [← hagrees.stack, Machine.operands, ints, ints, List.map_reverse]
  rw [presentation, hformat]
  simp only [textLines, hseen, bracketed_eq_listed, hlog, hstack]

/-- How a command ends after an evaluation. -/
def verdict (outcome : Reference.Outcome) : Except CommandFault Unit :=
  match outcome.ending with
  | .failed index fault => .error (.failed index fault)
  | _ => .ok ()

theorem result_runProgram (settings : Settings) (name : Option String) (program : Program) :
    (runProgram settings name program).result = verdict (evaluate 0 [] [] program) := by
  obtain ⟨hagrees, hresult⟩ := Reference.agrees_execute Machine.new program
  have hcounter := hagrees.counter
  rw [runProgram, verdict]
  cases hending : (evaluate 0 [] [] program).ending with
  | failed index fault =>
    rw [hending] at hresult hcounter
    rw [hresult]
    simp only [Reference.Ending.verdict, Except.map, hcounter, Reference.Ending.counter]
  | halted index | ended =>
    rw [hending] at hresult
    rw [hresult]
    rfl

/-! ## Runs under all settings -/

theorem output_runProgram (settings : Settings) (name : Option String) (program : Program) :
    (runProgram settings name program).output =
      lines (presentation settings name (Machine.new.execute program)) := by
  rw [runProgram]
  dsimp only
  split <;> rfl

/-- The command that runs a program file writes and returns what the run of its program does. -/
theorem execute_run {look : String → Files.Lookup} {file : String} {program : Program}
    (h : Program.load look file = .ok program) (settings : Settings) :
    ((Command.run file).execute look settings).output =
        (runProgram settings none program).output ∧
      ((Command.run file).execute look settings).result =
        (runProgram settings none program).result := by
  rw [Command.execute, withProgram, h]
  exact ⟨String.empty_append, rfl⟩

/-- Settings only present a run. In the JSON format exactly one line is written, the report; in the
text format the values of the output log stand in lines of their own or in one line, and one more
line tells the stack if it is wanted. All settings have the same result: success exactly if the
execution succeeds, and otherwise a message with the number of the instruction that failed. The
command that runs a program file does the same with the program in it. -/
theorem runs_are_presented :
    (∀ (settings : Settings) (name : Option String) (program : Program),
      let trace := Machine.new.execute program
      let outcome := evaluate 0 [] [] program
      let run := runProgram settings name program
      (∃ printed, run.output = lines printed ∧ (∀ line ∈ printed, '\n' ∉ line.toList) ∧
        (settings.format = .json → printed = [(RunReport.ofTrace name trace).render]) ∧
        (settings.format = .text → printed =
          (if settings.echo then outcome.log.map toString
            else ["Output: " ++ listed outcome.log]) ++
          if settings.showStack then ["Stack: " ++ listed outcome.stack.reverse] else [])) ∧
      (run.result = .ok () ↔ ∃ log, trace.result = .ok log) ∧
      (∀ index fault, outcome.ending = .failed index fault →
        ∃ failure, run.result = .error failure ∧
          failure.message =
            "Program failed at instruction " ++ toString index ++ ": " ++ fault.message) ∧
      ∀ other : Settings, (runProgram other name program).result = run.result) ∧
    (∀ (look : String → Files.Lookup) (file : String) (program : Program),
      Program.load look file = .ok program → ∀ settings : Settings,
      let command := (Command.run file).execute look settings
      command.output = (runProgram settings none program).output ∧
        command.result = (runProgram settings none program).result) := by
  refine ⟨?_, fun look file program h settings => execute_run h settings⟩
  intro settings name program trace outcome run
  have hresult : run.result = verdict outcome := result_runProgram settings name program
  refine ⟨⟨presentation settings name trace, output_runProgram settings name program, ?_, ?_, ?_⟩,
    ?_, ?_, ?_⟩
  · intro line hline
    refine OneLine.newline_not_mem ?_
    cases hformat : settings.format with
    | json =>
      rw [presentation, hformat, List.mem_singleton] at hline
      rw [hline]
      exact ((RunReport.ofTrace name trace).plain_value 0).oneLine_render
    | text =>
      rw [presentation_eq_textLines hformat] at hline
      exact oneLine_of_mem_textLines hline
  · intro hformat
    rw [presentation, hformat]
  · intro hformat
    exact presentation_eq_textLines hformat name Machine.new program
  · have htrace : trace.result = outcome.ending.verdict.map fun _ => trace.machine.output :=
      (Reference.agrees_execute Machine.new program).2
    rw [hresult, htrace, verdict]
    cases outcome.ending <;> simp [Reference.Ending.verdict, Except.map]
  · intro index fault hending
    refine ⟨.failed index fault, ?_, rfl⟩
    rw [hresult, verdict, hending]
  · intro other
    rw [hresult]
    exact result_runProgram other name program

/-- A program that fails at its last instruction, run from a file: the value that it printed is
shown before and stands in the report, and the form of the output makes no difference to the ending.
-/
theorem runs_are_presented_underflow :
    let program : Program := [.push (-7), .print, .pop, .add]
    let look : String → Files.Lookup := fun _ => .ok (Program.encode program).toUTF8
    let shown (settings : Settings) := (Command.run "p.json").execute look settings
    Program.load look "p.json" = .ok program ∧
      (shown {}).output = "-7\nStack: []\n" ∧
      (shown { echo := false, showStack := false }).output = "Output: [-7]\n" ∧
      (shown { format := .json }).output =
        "\x7b\"output\":[-7],\"stack\":[],\"status\":\"failed\",\"error\":" ++
          "\x7b\"code\":\"STACK_UNDERFLOW\",\"message\":\"Stack underflow\"\x7d\x7d\n" ∧
      (shown { format := .json }).result = (shown {}).result ∧
      ∃ failure, (shown {}).result = .error failure ∧
        failure.message = "Program failed at instruction 3: Stack underflow" := by
  intro program look shown
  have hload : Program.load look "p.json" = .ok program := by
    have hread : Program.readProgram (Program.encode program).toList = .ok (program, []) :=
      Program.readProgram_written program
    have hdecode : Program.decode (Program.encode program) = .ok program := by
      rw [Program.decode, Program.whole, hread]
      rfl
    rw [Program.load]
    simp only [look, Files.text_toUTF8, hdecode]
  obtain ⟨hruns, hcommand⟩ := runs_are_presented
  have hprints (settings : Settings) (hformat : settings.format = .text) :
      (shown settings).output = lines (textLines settings (evaluate 0 [] [] program)) := by
    obtain ⟨⟨printed, houtput, -, -, htext⟩, -⟩ := hruns settings none program
    rw [(hcommand look "p.json" program hload settings).1, houtput, htext hformat]
    rfl
  have hreport : RunReport.ofTrace none (Machine.new.execute program) =
      { name := none, output := [-7], stack := [], status := .failed
        fault := some .stackUnderflow } := by
    rw [RunReport.ofTrace, Machine.machine_execute, Machine.result_execute]
    rfl
  have hjson : (shown { format := .json }).output =
      lines [(RunReport.ofTrace none (Machine.new.execute program)).render] := by
    obtain ⟨⟨printed, houtput, -, hreported, -⟩, -⟩ := hruns { format := .json } none program
    rw [(hcommand look "p.json" program hload _).1, houtput, hreported rfl]
  rw [hreport] at hjson
  obtain ⟨-, -, hfails, hsame⟩ := hruns {} none program
  obtain ⟨failure, hfailure, hmessage⟩ := hfails 3 .stackUnderflow rfl
  have hresult (settings : Settings) := (hcommand look "p.json" program hload settings).2
  refine ⟨hload, (hprints {} rfl).trans (by decide), (hprints _ rfl).trans (by decide),
    hjson.trans (by decide), ?_, failure, (hresult {}).trans hfailure,
    hmessage.trans (by decide)⟩
  rw [hresult, hresult]
  exact hsame _

end StackMachine.CommandLine
