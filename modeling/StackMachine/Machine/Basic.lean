import StackMachine.Arithmetic

/-!
# The machine

The state of the stack machine and the effect of a single instruction on it.

An instruction looks before it acts: it inspects the stack, and only an instruction that is bound
to succeed changes the machine. So a failing instruction leaves the machine as it was.
-/

namespace StackMachine

/-- Where the machine is in its life. -/
inductive Status where
  | idle
  | running
  | halted
  | failed
  deriving DecidableEq, Repr

/-- The state of the machine. -/
structure Machine where
  /-- The operands, the top of the stack first. -/
  stack : List Int64 := []
  /-- The number of the instruction that is next. -/
  counter : Nat := 0
  /-- Whether the machine goes on executing. -/
  running : Bool := false
  /-- The printed values, the oldest first. -/
  output : List Int64 := []
  /-- Where the machine is in its life. -/
  status : Status := .idle
  deriving DecidableEq, Repr

/-- What a successful instruction did. -/
inductive Effect where
  /-- The stack changed. -/
  | updated
  /-- The value was removed from the stack. -/
  | popped (value : Int64)
  /-- The value was appended to the output log. -/
  | printed (value : Int64)
  /-- The machine stopped. -/
  | halted
  deriving DecidableEq, Repr

/-- The values that an observer of the output is told about an effect. -/
def Effect.seen : Effect → List Int64
  | printed value => [value]
  | _ => []

namespace Machine

/-- A machine that has not run yet. -/
def new : Machine := {}

/-- Forgets everything about earlier runs. -/
def reset (_ : Machine) : Machine := new

/-- Forgets everything about earlier runs and makes the machine ready to execute. -/
def start (m : Machine) : Machine :=
  { m.reset with running := true, status := .running }

/-- The operands, the bottom of the stack first. -/
def operands (m : Machine) : List Int64 :=
  m.stack.reverse

/-- Replaces the two top values `a` and `b`, with `b` on top, by `operation a b`. -/
def binary (m : Machine) (operation : Int64 → Int64 → Except Fault Int64) :
    Machine × Except Fault Effect :=
  match m.stack with
  | b :: a :: rest =>
    match operation a b with
    | .ok value => ({ m with stack := value :: rest }, .ok .updated)
    | .error fault => (m, .error fault)
  | _ => (m, .error .stackUnderflow)

/-- Applies one instruction. The counter stays where it is, and only `halt` touches the lifecycle.
-/
def dispatch (m : Machine) : Instruction → Machine × Except Fault Effect
  | .push operand => ({ m with stack := operand :: m.stack }, .ok .updated)
  | .pop =>
    match m.stack with
    | value :: rest => ({ m with stack := rest }, .ok (.popped value))
    | [] => (m, .error .stackUnderflow)
  | .add => m.binary Arithmetic.add
  | .sub => m.binary Arithmetic.sub
  | .mul => m.binary Arithmetic.mul
  | .div => m.binary Arithmetic.floorDiv
  | .print =>
    match m.stack with
    | value :: _ => ({ m with output := m.output ++ [value] }, .ok (.printed value))
    | [] => (m, .error .stackUnderflow)
  | .halt => ({ m with running := false, status := .halted }, .ok .halted)
  | .unknown opcode => (m, .error (.unknownOpcode opcode))

end Machine

end StackMachine
