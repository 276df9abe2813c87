import Mathlib.Algebra.Group.Nat.Defs
import StackMachine.Proofs.Json.Values
import StackMachine.Proofs.Machine.Sweep
import StackMachine.Report

/-!
# Reports that are read back

What a program finds in a report when it reads it as JSON. Main statement: a report is one line, and
everything that was put into it is found again, whatever characters stand in names, in opcodes and
so in messages; and a report tells of an error exactly if the run failed (`reports_read_back`).
-/

namespace StackMachine

open Json

/-! ## Reading values -/

namespace Json.Value

/-- The text that a value is. -/
def text? : Value → Option String
  | .string s => some s
  | _ => none

/-- The word that a value is. -/
def word? : Value → Option Int64
  | .number (.integer n) => if Arithmetic.Fits n then some (Int64.ofInt n) else none
  | _ => none

/-- The count that a value is. -/
def count? : Value → Option Nat
  | .number (.integer n) => if 0 ≤ n then some n.toNat else none
  | _ => none

/-- The items of a list, each of which must be something. -/
def items? {α : Type} (item? : Value → Option α) : Value → Option (List α)
  | .list items => items.mapM item?
  | _ => none

theorem mapM_map {α β : Type} {f : α → β} {g : β → Option α} (h : ∀ a, g (f a) = some a)
    (as : List α) : (as.map f).mapM g = some as := by
  induction as with
  | nil => rfl
  | cons a as ih =>
    rw [List.map_cons, List.mapM_cons, h, ih]
    rfl

theorem word?_integer (value : Int64) : word? (.integer value.toInt) = some value := by
  rw [integer, word?, if_pos (Arithmetic.fits_toInt value), Int64.ofInt_toInt]

theorem items?_integers (values : List Int64) : items? word? (.integers values) = some values :=
  mapM_map word?_integer values

theorem items?_strings (values : List String) :
    items? text? (.list (values.map .string)) = some values :=
  @mapM_map _ _ Value.string text? (fun _ => rfl) values

end Json.Value

/-- What is found under a key. -/
def required? {α : Type} (members : List (String × Value)) (key : String)
    (read? : Value → Option α) : Option α :=
  (members.lookup key).bind read?

/-- What is found under a key that need not be there. -/
def optional? {α : Type} (members : List (String × Value)) (key : String)
    (read? : Value → Option α) : Option (Option α) :=
  match members.lookup key with
  | none => some none
  | some value => (read? value).map some

/-! ## Reports of runs -/

/-- The status that a value names. -/
def Status.ofValue? : Value → Option Status
  | .string s => (Status.ofName s).toOption
  | _ => none

theorem Status.ofValue?_name (status : Status) : ofValue? (.string status.name) = some status := by
  cases status <;> rfl

namespace RunReport

/-- What the report of a run says. -/
structure Findings where
  name : Option String
  output : List Int64
  stack : List Int64
  status : Status
  /-- The code and the message of the error, if there is one. -/
  error : Option (String × String)
  deriving DecidableEq, Repr

/-- The code and the message of an error, which has these two members and no others. -/
def errorOf? : Value → Option (String × String)
  | .object [("code", .string code), ("message", .string message)] => some (code, message)
  | _ => none

/-- What the members of a report say. -/
def findings? (members : List (String × Value)) : Option Findings :=
  match optional? members "name" Value.text?, required? members "output" (Value.items? Value.word?),
      required? members "stack" (Value.items? Value.word?),
      required? members "status" Status.ofValue?, optional? members "error" errorOf? with
  | some name, some output, some stack, some status, some error =>
    some { name, output, stack, status, error }
  | _, _, _, _, _ => none

/-- The members of a report. -/
def members (report : RunReport) : List (String × Value) :=
  (report.name.map fun name => ("name", Value.string name)).toList ++
    [("output", .integers report.output), ("stack", .integers report.stack),
      ("status", .string report.status.name)] ++
    (report.fault.map fun fault => ("error", faultValue fault)).toList

theorem value_eq_object (report : RunReport) : report.value = .object report.members := rfl

theorem plain_faultValue (fault : StackMachine.Fault) (depth : Nat) :
    (faultValue fault).Plain (depth + 1) := by
  refine .object fun member hmem => ?_
  simp only [List.mem_cons, List.not_mem_nil, or_false] at hmem
  rcases hmem with rfl | rfl
  · exact .string fault.code
  · exact .string fault.message

theorem plain_value (report : RunReport) (depth : Nat) : report.value.Plain (depth + 2) := by
  rw [value_eq_object]
  refine .object fun member hmem => ?_
  simp only [members, List.mem_append, Option.mem_toList, Option.map_eq_some_iff, List.mem_cons,
    List.not_mem_nil, or_false] at hmem
  rcases hmem with (⟨name, -, rfl⟩ | rfl | rfl | rfl) | ⟨fault, -, rfl⟩
  · exact .string name
  · exact plain_integers depth report.output
  · exact plain_integers depth report.stack
  · exact .string report.status.name
  · exact plain_faultValue fault depth

/-- The keys of a report. That of the name stands only where there is a name, and that of the error
only where there is a fault. -/
theorem map_fst_members (report : RunReport) :
    report.members.map Prod.fst =
      (if report.name.isSome then ["name"] else []) ++ ["output", "stack", "status"] ++
        if report.fault.isSome then ["error"] else [] := by
  obtain ⟨name, output, stack, status, fault⟩ := report
  cases name <;> cases fault <;> rfl

theorem findings?_members (report : RunReport) :
    findings? report.members = some
      { name := report.name, output := report.output, stack := report.stack,
        status := report.status
        error := report.fault.map fun fault => (fault.code, fault.message) } := by
  have houtput := Value.items?_integers report.output
  have hstack := Value.items?_integers report.stack
  have hstatus := Status.ofValue?_name report.status
  obtain ⟨name, output, stack, status, fault⟩ := report
  cases name <;> cases fault <;>
    simp [findings?, members, optional?, required?, List.lookup_cons, Value.text?, houtput, hstack,
      hstatus, errorOf?, faultValue]

end RunReport

/-- The fault that a trace ends with. -/
def Machine.Trace.fault? {α : Type} (trace : Machine.Trace α) : Option StackMachine.Fault :=
  match trace.result with
  | .ok _ => none
  | .error fault => some fault

theorem Machine.isSome_fault?_iff {α : Type} (trace : Machine.Trace α) :
    trace.fault?.isSome = true ↔ ∃ fault, trace.result = .error fault := by
  unfold Trace.fault?
  cases trace.result <;> simp

theorem RunReport.fault_ofTrace {α : Type} (name : Option String) (trace : Machine.Trace α) :
    (ofTrace name trace).fault = trace.fault? := rfl

/-! ## Reports of program files -/

namespace CheckReport

/-- What the members of a report say. -/
def findings? (members : List (String × Value)) : Option CheckReport :=
  match required? members "file" Value.text?, required? members "instructions" Value.count?,
      required? members "unknown_opcodes" (Value.items? Value.text?) with
  | some file, some instructions, some unknownOpcodes =>
    some { file, instructions, unknownOpcodes }
  | _, _, _ => none

/-- The members of a report. -/
def members (report : CheckReport) : List (String × Value) :=
  [("file", .string report.file), ("instructions", .integer report.instructions),
    ("unknown_opcodes", .list (report.unknownOpcodes.map .string))]

theorem value_eq_object (report : CheckReport) : report.value = .object report.members := rfl

theorem plain_value {report : CheckReport} (h : report.instructions < 2 ^ 64) (depth : Nat) :
    report.value.Plain (depth + 2) := by
  rw [value_eq_object]
  refine .object fun member hmem => ?_
  simp only [members, List.mem_cons, List.not_mem_nil, or_false] at hmem
  rcases hmem with rfl | rfl | rfl
  · exact .string report.file
  · exact .integer (by omega)
  · exact plain_strings depth report.unknownOpcodes

theorem findings?_members (report : CheckReport) : findings? report.members = some report := by
  have hopcodes := Value.items?_strings report.unknownOpcodes
  simp [findings?, members, required?, List.lookup_cons, Value.text?, Value.count?, Value.integer,
    hopcodes]

end CheckReport

/-! ## Both -/

/-- Reports are read back. The report of an execution is one line, and as JSON an object with
exactly these keys, in which the name, the output, the stack, the status, and the code and the
message of a fault are found again; it has an error exactly if the status is `failed`, which is
exactly if the execution failed. The report of a program file, whose instructions a word can count,
is one line from which the file, the count and the unknown opcodes are found again. -/
theorem reports_read_back :
    (∀ (m : Machine) (name : Option String) (program : Program),
      let trace := m.execute program
      let text := (RunReport.ofTrace name trace).render
      OneLine text.toList ∧
      ∃ members, Json.parse text = .ok (.object members) ∧
        members.map Prod.fst =
          (if name.isSome then ["name"] else []) ++ ["output", "stack", "status"] ++
            (if trace.fault?.isSome then ["error"] else []) ∧
        RunReport.findings? members = some
          { name := name, output := trace.machine.output, stack := trace.machine.operands,
            status := trace.machine.status
            error := trace.fault?.map fun fault => (fault.code, fault.message) } ∧
        ("error" ∈ members.map Prod.fst ↔ trace.machine.status = .failed) ∧
        (trace.machine.status = .failed ↔ ∃ fault, trace.result = .error fault)) ∧
    (∀ (file : String) (program : Program), program.length < 2 ^ 64 →
      let text := (CheckReport.ofProgram file program).render
      OneLine text.toList ∧
      ∃ members, Json.parse text = .ok (.object members) ∧
        members.map Prod.fst = ["file", "instructions", "unknown_opcodes"] ∧
        CheckReport.findings? members = some
          { file := file, instructions := program.length
            unknownOpcodes := program.filterMap Instruction.unknownOpcode? }) := by
  constructor
  · intro m name program trace text
    have hplain : (RunReport.ofTrace name trace).value.Plain greatestDepth :=
      (RunReport.ofTrace name trace).plain_value 125
    have hkeys := (RunReport.ofTrace name trace).map_fst_members
    have hstatus := Machine.status_execute m program
    refine ⟨hplain.oneLine_render, _, hplain.parse_render, hkeys,
      (RunReport.ofTrace name trace).findings?_members, ?_, hstatus⟩
    show "error" ∈ (RunReport.ofTrace name trace).members.map Prod.fst ↔ _
    rw [hkeys, RunReport.fault_ofTrace, hstatus, ← Machine.isSome_fault?_iff]
    show _ ↔ trace.fault?.isSome = true
    cases trace.fault? <;> cases (RunReport.ofTrace name trace).name <;> simp
  · intro file program hlength text
    have hplain : (CheckReport.ofProgram file program).value.Plain greatestDepth :=
      CheckReport.plain_value hlength 125
    exact ⟨hplain.oneLine_render, _, hplain.parse_render, rfl,
      (CheckReport.ofProgram file program).findings?_members⟩

/-- A failing run of a program whose unknown opcode holds a quote, a line end and a backslash, and
the report of its file. -/
theorem reports_read_back_escaped :
    let opcode := "J\"M\nP\\"
    let program : Program := [.push (-9223372036854775808), .print, .unknown opcode]
    let trace := Machine.new.execute program
    (∃ members, Json.parse (RunReport.ofTrace none trace).render = .ok (.object members) ∧
      RunReport.findings? members = some
        { name := none, output := [-9223372036854775808], stack := [-9223372036854775808],
          status := .failed, error := some ("UNKNOWN_OPCODE", "Unknown opcode: " ++ opcode) }) ∧
    (∃ members, Json.parse (CheckReport.ofProgram "a\tb" program).render = .ok (.object members) ∧
      CheckReport.findings? members = some
        { file := "a\tb", instructions := 3, unknownOpcodes := [opcode] }) := by
  intro opcode program trace
  obtain ⟨-, members, hparse, -, hfindings, -⟩ := reports_read_back.1 Machine.new none program
  obtain ⟨-, members', hparse', -, hfindings'⟩ :=
    reports_read_back.2 "a\tb" program (by decide)
  have hmachine : trace.machine = (Machine.new.start.sweep program).machine :=
    Machine.machine_execute _ _
  have hresult : trace.result = _ := Machine.result_execute _ _
  refine ⟨⟨members, hparse, hfindings.trans ?_⟩, members', hparse', hfindings'⟩
  simp only [Machine.Trace.fault?]
  rw [show (Machine.new.execute program).result = _ from hresult,
    show (Machine.new.execute program).machine = _ from hmachine]
  rfl

end StackMachine
