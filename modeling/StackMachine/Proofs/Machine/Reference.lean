import Mathlib.Algebra.Group.Int.Defs
import StackMachine.Proofs.Arithmetic
import StackMachine.Proofs.Machine.Sweep

/-!
# The reference semantics of a run

A big-step evaluator that knows nothing of words, counters and lifecycles: its values are unbounded
integers, and it takes the instructions of a program from left to right. Main statement: executing a
program on any machine gives what the evaluator gives from an empty stack and an empty log
(`execute_agrees_evaluate`).
-/

namespace StackMachine.Reference

/-! ## The evaluator -/

/-- An exact result, which must lie in the range of 64-bit signed words. -/
def checked (n : Int) : Except Fault Int :=
  if -2 ^ 63 ≤ n ∧ n ≤ 2 ^ 63 - 1 then .ok n else .error .integerOverflow

/-- The floor of the exact quotient. -/
def quotient (a b : Int) : Except Fault Int :=
  if b = 0 then .error .divisionByZero else checked (a.fdiv b)

/-- Replaces the two top values `a` and `b`, with `b` on top. Missing operands count before anything
that is wrong with them. -/
def binary (operation : Int → Int → Except Fault Int) : List Int → Except Fault (List Int)
  | b :: a :: below => (operation a b).map (· :: below)
  | _ => .error .stackUnderflow

/-- The stack after an instruction, its top first. -/
def apply : Instruction → List Int → Except Fault (List Int)
  | .push operand, stack => .ok (operand.toInt :: stack)
  | .pop, _ :: below => .ok below
  | .pop, [] => .error .stackUnderflow
  | .add, stack => binary (fun a b => checked (a + b)) stack
  | .sub, stack => binary (fun a b => checked (a - b)) stack
  | .mul, stack => binary (fun a b => checked (a * b)) stack
  | .div, stack => binary quotient stack
  | .print, top :: below => .ok (top :: below)
  | .print, [] => .error .stackUnderflow
  | .halt, stack => .ok stack
  | .unknown opcode, _ => .error (.unknownOpcode opcode)

/-- What an instruction appends to the log. -/
def printed : Instruction → List Int → List Int
  | .print, stack => stack.take 1
  | _, _ => []

/-- How an evaluation ends. -/
inductive Ending where
  /-- At the `halt` with this number. -/
  | halted (index : Nat)
  /-- Behind the last instruction. -/
  | ended
  /-- At the instruction with this number. -/
  | failed (index : Nat) (fault : Fault)
  deriving DecidableEq, Repr

/-- What an evaluation gives: the stack, its top first, the log, its oldest value first, and the
ending. -/
structure Outcome where
  stack : List Int
  log : List Int
  ending : Ending
  deriving DecidableEq, Repr

/-- Evaluates the instructions from the one numbered `index` on. -/
def evaluate (index : Nat) (stack log : List Int) : Program → Outcome
  | [] => ⟨stack, log, .ended⟩
  | .halt :: _ => ⟨stack, log, .halted index⟩
  | instruction :: rest =>
    match apply instruction stack with
    | .error fault => ⟨stack, log, .failed index fault⟩
    | .ok stack' => evaluate (index + 1) stack' (log ++ printed instruction stack) rest

/-- Floors and not truncated quotients are logged, and a lone operand is an underflow even if it is
zero. -/
example :
    evaluate 0 [] [] [.push (-7), .push 2, .div, .print] = ⟨[-4], [-4], .ended⟩ ∧
      evaluate 0 [] [] [.push 0, .div] = ⟨[0], [], .failed 1 .stackUnderflow⟩ := by
  decide

/-- Whether an ending is a fault. -/
def Ending.verdict : Ending → Except Fault Unit
  | failed _ fault => .error fault
  | _ => .ok ()

/-- The log, or the fault in place of it. -/
def Outcome.result (outcome : Outcome) : Except Fault (List Int) :=
  outcome.ending.verdict.map fun _ => outcome.log

/-- The status of a machine after an ending. -/
def Ending.status : Ending → Status
  | failed _ _ => .failed
  | _ => .halted

/-- The counter of a machine after an ending: behind a `halt` and behind the last instruction, but
at an instruction that failed. -/
def Ending.counter (length : Nat) : Ending → Nat
  | halted index => index + 1
  | ended => length
  | failed index _ => index

/-! ## Words stand for integers -/

/-- The integers that words stand for. -/
def ints (values : List Int64) : List Int := values.map Int64.toInt

@[simp] theorem ints_cons (value : Int64) (values : List Int64) :
    ints (value :: values) = value.toInt :: ints values := rfl

@[simp] theorem ints_append (values more : List Int64) :
    ints (values ++ more) = ints values ++ ints more := List.map_append

/-- A machine after a run is the one that an outcome describes. -/
structure Agrees (m : Machine) (length : Nat) (outcome : Outcome) : Prop where
  stack : ints m.stack = outcome.stack
  log : ints m.output = outcome.log
  running : m.running = false
  status : m.status = outcome.ending.status
  counter : m.counter = outcome.ending.counter length

theorem checked_eq_narrow (n : Int) : checked n = (Arithmetic.narrow n).map Int64.toInt := by
  unfold checked
  by_cases hn : Arithmetic.Fits n
  · have hrange : -2 ^ 63 ≤ n ∧ n ≤ 2 ^ 63 - 1 := by
      unfold Arithmetic.Fits at hn
      omega
    rw [if_pos hrange, Arithmetic.narrow_of_fits hn, Except.map,
      Arithmetic.toInt_ofInt_of_fits hn]
  · have hrange : ¬ (-2 ^ 63 ≤ n ∧ n ≤ 2 ^ 63 - 1) := by
      unfold Arithmetic.Fits at hn
      omega
    rw [if_neg hrange, Arithmetic.narrow, if_neg hn, Except.map]

theorem quotient_eq_floorDiv (a b : Int64) :
    quotient a.toInt b.toInt = (Arithmetic.floorDiv a b).map Int64.toInt := by
  rw [quotient, Arithmetic.floorDiv_eq_narrow]
  by_cases hb : b = 0
  · rw [if_pos hb, if_pos (by rw [hb]; rfl), Except.map]
  · have hb0 : b.toInt ≠ 0 := fun h => hb (Int64.toInt_inj.mp h)
    rw [if_neg hb, if_neg hb0, checked_eq_narrow]

/-- An operator on words does to a stack what its exact form does to the integers. -/
theorem binary_ints (m : Machine) {operation : Int64 → Int64 → Except Fault Int64}
    {exact : Int → Int → Except Fault Int}
    (h : ∀ a b, exact a.toInt b.toInt = (operation a b).map Int64.toInt) :
    binary exact (ints m.stack) =
      (m.binary operation).2.map fun _ => ints (m.binary operation).1.stack := by
  unfold Machine.binary
  rcases hs : m.stack with _ | ⟨b, _ | ⟨a, below⟩⟩
  · rfl
  · rfl
  · simp only [ints_cons, binary, h]
    cases operation a b with
    | error fault => rfl
    | ok value => rfl

/-- Dispatching fails exactly where the evaluator does, and otherwise leaves its stack. -/
theorem apply_ints (m : Machine) (instruction : Instruction) :
    apply instruction (ints m.stack) =
      (m.dispatch instruction).2.map fun _ => ints (m.dispatch instruction).1.stack := by
  cases instruction with
  | push operand => rfl
  | pop => cases hs : m.stack <;> simp [Machine.dispatch, hs, apply, ints, Except.map]
  | add => exact binary_ints m fun a b => checked_eq_narrow _
  | sub => exact binary_ints m fun a b => checked_eq_narrow _
  | mul => exact binary_ints m fun a b => checked_eq_narrow _
  | div => exact binary_ints m quotient_eq_floorDiv
  | print => cases hs : m.stack <;> simp [Machine.dispatch, hs, apply, ints, Except.map]
  | halt => rfl
  | unknown opcode => rfl

theorem printed_ints (m : Machine) (instruction : Instruction) :
    printed instruction (ints m.stack) = ints (m.printed instruction) := by
  cases instruction with
  | print => exact (List.map_take).symm
  | _ => rfl

/-! ## Sweeps and evaluations -/

theorem evaluate_cons {instruction : Instruction} (hi : instruction ≠ .halt) (index : Nat)
    (stack log : List Int) (rest : Program) :
    evaluate index stack log (instruction :: rest) =
      match apply instruction stack with
      | .error fault => ⟨stack, log, .failed index fault⟩
      | .ok stack' => evaluate (index + 1) stack' (log ++ printed instruction stack) rest := by
  cases instruction with
  | halt => exact absurd rfl hi
  | _ => rfl

/-- A sweep from any machine is the evaluation from its stack and its log. -/
theorem sweep_agrees (m : Machine) (rest : List Instruction) {length : Nat}
    (hlength : length = m.counter + rest.length) :
    let outcome := evaluate m.counter (ints m.stack) (ints m.output) rest
    Agrees (m.sweep rest).machine length outcome ∧
      (m.sweep rest).result = outcome.ending.verdict := by
  induction rest generalizing m with
  | nil => exact ⟨⟨rfl, rfl, rfl, rfl, hlength.symm⟩, rfl⟩
  | cons instruction rest ih =>
    have happly := apply_ints m instruction
    have hreply := m.reply_dispatch instruction
    generalize hd : m.dispatch instruction = reply at hreply happly
    cases hreply with
    | fails fault hi =>
      rw [Machine.sweep_of_error hd, evaluate_cons hi, happly]
      exact ⟨⟨rfl, rfl, rfl, rfl, rfl⟩, rfl⟩
    | halts hi =>
      subst hi
      exact ⟨⟨rfl, rfl, rfl, rfl, rfl⟩, rfl⟩
    | works stack effect hi he hseen hm' =>
      rename_i m'
      have hnext := ih m'.moveOn (by simp [hm', Machine.moveOn, hlength]; omega)
      rw [Machine.sweep_of_ok he hd, evaluate_cons hi, happly, printed_ints, ← hseen]
      simpa [hm', Machine.moveOn, Machine.Trace.after, Except.map] using hnext

/-- A machine that has executed a program is the one that the outcome of the evaluation describes,
and it has a result exactly if the ending is no fault. -/
theorem agrees_execute (m : Machine) (program : Program) :
    let outcome := evaluate 0 [] [] program
    Agrees (m.execute program).machine program.length outcome ∧
      (m.execute program).result =
        outcome.ending.verdict.map fun _ => (m.execute program).machine.output := by
  have hsweep : Agrees (m.start.sweep program).machine program.length (evaluate 0 [] [] program) ∧
      (m.start.sweep program).result = (evaluate 0 [] [] program).ending.verdict :=
    sweep_agrees m.start program (Nat.zero_add program.length).symm
  rw [Machine.result_execute, Machine.machine_execute]
  exact ⟨hsweep.1, by rw [hsweep.2]⟩

/-- Executing a program gives what the evaluator gives from an empty stack and an empty log,
whatever the machine did before. -/
theorem execute_agrees_evaluate (m : Machine) (program : Program) :
    let outcome := evaluate 0 [] [] program
    (m.execute program).result.map ints = outcome.result ∧
      Agrees (m.execute program).machine program.length outcome := by
  have hsweep : Agrees (m.start.sweep program).machine program.length (evaluate 0 [] [] program) ∧
      (m.start.sweep program).result = (evaluate 0 [] [] program).ending.verdict :=
    sweep_agrees m.start program (Nat.zero_add program.length).symm
  obtain ⟨hagrees, hverdict⟩ := hsweep
  rw [Machine.result_execute, Machine.machine_execute]
  refine ⟨?_, hagrees⟩
  rw [Outcome.result, ← hagrees.log, hverdict]
  cases (evaluate 0 [] [] program).ending.verdict with
  | error fault => rfl
  | ok => rfl

end StackMachine.Reference
