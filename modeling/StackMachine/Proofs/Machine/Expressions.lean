import StackMachine.Proofs.Machine.Reference

/-!
# Arithmetic expressions

The machine computes an expression from its nodes in post-order: a literal is pushed, an operator
applied behind the code of its left and of its right operand. Main statement: executing this code
gives the value of the expression, and where the evaluation fails it stops at the first operator
that fails, above the operands that still wait for theirs (`execute_code`).

Both parts are stated for code in the middle of a program and on top of other values, as the code of
an operand is: `evaluate_code_of_ok` and `exists_firstFailure`.
-/

namespace StackMachine

/-! ## Expressions and their values -/

/-- An operator with two operands. -/
inductive Operator where
  | add
  | sub
  | mul
  | div
  deriving DecidableEq, Repr

/-- The instruction that applies an operator. -/
def Operator.instruction : Operator → Instruction
  | add => .add
  | sub => .sub
  | mul => .mul
  | div => .div

/-- The result of an operator, which must be a word. Quotients are rounded down. -/
def Operator.apply : Operator → Int → Int → Except Fault Int
  | add, a, b => Reference.checked (a + b)
  | sub, a, b => Reference.checked (a - b)
  | mul, a, b => Reference.checked (a * b)
  | div, a, b => Reference.quotient a b

/-- An arithmetic expression. -/
inductive Expression where
  | literal (word : Int64)
  | operation (operator : Operator) (left right : Expression)
  deriving DecidableEq, Repr

namespace Expression

/-- The value of an expression, its left operand being evaluated before its right one. -/
def value : Expression → Except Fault Int
  | literal word => .ok word.toInt
  | operation operator left right =>
    match left.value with
    | .error fault => .error fault
    | .ok a =>
      match right.value with
      | .error fault => .error fault
      | .ok b => operator.apply a b

/-- The instructions of an expression, in post-order. -/
def code : Expression → Program
  | literal word => [.push word]
  | operation operator left right => left.code ++ right.code ++ [operator.instruction]

/-- The quotient of 7 and -2 is rounded down before it is subtracted from 10. -/
example :
    let e := operation .sub (literal 10) (operation .div (literal 7) (literal (-2)))
    e.value = .ok 14 ∧ e.code = [.push 10, .push 7, .push (-2), .div, .sub] :=
  ⟨rfl, rfl⟩

/-! ## Nodes in post-order -/

/-- A node of an expression, and the left operands that are complete when the node is reached and
still wait for their operators, the outermost one first. -/
structure Node where
  pending : List Expression
  expression : Expression

/-- The node of a right operand as one of the whole expression. -/
def Node.behind (left : Expression) (node : Node) : Node :=
  { node with pending := left :: node.pending }

/-- The nodes of an expression in post-order, one for each instruction of its code. -/
def nodes : Expression → List Node
  | literal word => [⟨[], literal word⟩]
  | operation operator left right =>
    left.nodes ++ right.nodes.map (Node.behind left) ++ [⟨[], operation operator left right⟩]

/-- The last instruction of an expression's code. -/
def root : Expression → Instruction
  | literal word => .push word
  | operation operator _ _ => operator.instruction

theorem code_eq_map_nodes (e : Expression) :
    e.code = e.nodes.map fun node => node.expression.root := by
  induction e with
  | literal word => rfl
  | operation operator left right ihl ihr =>
    rw [code, nodes, ihl, ihr]
    simp only [List.map_append, List.map_map]
    rfl

/-- An expression with a value has no node without one. -/
theorem value_of_mem_nodes {e : Expression} {n : Int} (h : e.value = .ok n) :
    ∀ node ∈ e.nodes, ∃ k, node.expression.value = .ok k := by
  induction e generalizing n with
  | literal word =>
    intro node hnode
    rw [List.mem_singleton.mp hnode]
    exact ⟨n, h⟩
  | operation operator left right ihl ihr =>
    have hwhole := h
    rw [value] at h
    split at h
    · simp at h
    · rename_i a hleft
      split at h
      · simp at h
      · rename_i b hright
        intro node hnode
        simp only [nodes, List.mem_append, List.mem_map, List.mem_singleton] at hnode
        rcases hnode with (hnode | ⟨inner, hinner, rfl⟩) | rfl
        · exact ihl hleft node hnode
        · exact ihr hright inner hinner
        · exact ⟨n, hwhole⟩

/-- The first operator of an expression, in post-order, whose application fails: the nodes before it
have values, and so have its operands and the left operands that wait below them. -/
structure FirstFailure (e : Expression) (fault : Fault) where
  before : List Node
  pending : List Expression
  operator : Operator
  left : Expression
  right : Expression
  after : List Node
  nodes_eq : e.nodes = before ++ ⟨pending, operation operator left right⟩ :: after
  value_before : ∀ node ∈ before, ∃ n, node.expression.value = .ok n
  /-- The values of the waiting operands, the outermost one first. -/
  waiting : List Int
  a : Int
  b : Int
  value_pending : pending.map value = waiting.map .ok
  value_left : left.value = .ok a
  value_right : right.value = .ok b
  fails : operator.apply a b = .error fault

namespace FirstFailure

variable {e : Expression} {fault : Fault}

/-- The values on the stack where the operator fails, the bottom first. -/
def operands (f : FirstFailure e fault) : List Int :=
  f.waiting ++ [f.a, f.b]

/-- The operator's instruction stands in the code behind those of the nodes before it. -/
theorem getElem?_code (f : FirstFailure e fault) :
    e.code[f.before.length]? = some f.operator.instruction := by
  rw [code_eq_map_nodes, f.nodes_eq]
  simp [root]

/-- A left operand fails before anything else of the expression is reached. -/
def ofLeft (operator : Operator) {left : Expression} (right : Expression)
    (f : FirstFailure left fault) : FirstFailure (operation operator left right) fault :=
  { f with
    after := f.after ++ right.nodes.map (Node.behind left) ++ [⟨[], operation operator left right⟩]
    nodes_eq := by simp [nodes, f.nodes_eq] }

/-- A right operand fails while the left one, which has a value, waits. -/
def ofRight (operator : Operator) {left right : Expression} {n : Int} (hleft : left.value = .ok n)
    (f : FirstFailure right fault) : FirstFailure (operation operator left right) fault :=
  { f with
    before := left.nodes ++ f.before.map (Node.behind left)
    pending := left :: f.pending
    waiting := n :: f.waiting
    after := f.after.map (Node.behind left) ++ [⟨[], operation operator left right⟩]
    nodes_eq := by simp [nodes, f.nodes_eq, Node.behind]
    value_before := by
      intro node hnode
      rcases List.mem_append.mp hnode with hnode | hnode
      · exact value_of_mem_nodes hleft node hnode
      · obtain ⟨inner, hinner, rfl⟩ := List.mem_map.mp hnode
        exact f.value_before inner hinner
    value_pending := by simp [hleft, f.value_pending] }

/-- The operator itself fails if its operands do not. -/
def ofRoot {operator : Operator} {left right : Expression} {a b : Int}
    (hleft : left.value = .ok a) (hright : right.value = .ok b)
    (hfails : operator.apply a b = .error fault) :
    FirstFailure (operation operator left right) fault where
  before := left.nodes ++ right.nodes.map (Node.behind left)
  pending := []
  operator := operator
  left := left
  right := right
  after := []
  nodes_eq := rfl
  value_before := by
    intro node hnode
    rcases List.mem_append.mp hnode with hnode | hnode
    · exact value_of_mem_nodes hleft node hnode
    · obtain ⟨inner, hinner, rfl⟩ := List.mem_map.mp hnode
      exact value_of_mem_nodes hright inner hinner
  waiting := []
  a := a
  b := b
  value_pending := rfl
  value_left := hleft
  value_right := hright
  fails := hfails

/-- Operators have operands, so nothing but their results can be wrong. -/
theorem fault_eq (f : FirstFailure e fault) :
    fault = .divisionByZero ∨ fault = .integerOverflow := by
  have hchecked : ∀ n, Reference.checked n = .error fault → fault = .integerOverflow := by
    intro n h
    rw [Reference.checked] at h
    split at h
    · simp at h
    · simpa using h.symm
  have hfails := f.fails
  cases hoperator : f.operator with
  | add | sub | mul =>
    rw [hoperator] at hfails
    exact Or.inr (hchecked _ hfails)
  | div =>
    rw [hoperator, Operator.apply, Reference.quotient] at hfails
    split at hfails
    · exact Or.inl (by simpa using hfails.symm)
    · exact Or.inr (hchecked _ hfails)

end FirstFailure

end Expression

/-! ## The code of an expression -/

namespace Reference

open Expression

/-- An operator takes its operands off the stack, the right one from the top. -/
theorem evaluate_operator (operator : Operator) (index : Nat) (a b : Int) (stack log : List Int)
    (rest : Program) :
    evaluate index (b :: a :: stack) log (operator.instruction :: rest) =
      match operator.apply a b with
      | .error fault => ⟨b :: a :: stack, log, .failed index fault⟩
      | .ok n => evaluate (index + 1) (n :: stack) log rest := by
  have hhalt : operator.instruction ≠ .halt := by
    cases operator <;> simp [Operator.instruction]
  have happly : Reference.apply operator.instruction (b :: a :: stack) =
      (operator.apply a b).map (· :: stack) := by
    cases operator <;> rfl
  have hprinted : printed operator.instruction (b :: a :: stack) = [] := by
    cases operator <;> rfl
  rw [evaluate_cons hhalt, happly, hprinted, List.append_nil]
  cases operator.apply a b with
  | error fault => rfl
  | ok n => rfl

/-- The code of an expression puts its value on the stack, whatever lies below and follows. -/
theorem evaluate_code_of_ok {e : Expression} {n : Int} (h : e.value = .ok n) (index : Nat)
    (stack log : List Int) (rest : Program) :
    evaluate index stack log (e.code ++ rest) =
      evaluate (index + e.code.length) (n :: stack) log rest := by
  induction e generalizing n index stack rest with
  | literal word =>
    obtain rfl : word.toInt = n := by simpa [value] using h
    simp [code, evaluate, apply, printed]
  | operation operator left right ihl ihr =>
    rw [value] at h
    split at h
    · simp at h
    · rename_i a hleft
      split at h
      · simp at h
      · rename_i b hright
        rw [code, List.append_assoc, List.append_assoc, ihl hleft, ihr hright,
          List.singleton_append, evaluate_operator, h]
        simp [Nat.add_assoc]

/-- Where an expression has no value, its code ends at the first operator that fails, with the
operands of this operator and those that wait below them on the stack. -/
theorem exists_firstFailure {e : Expression} {fault : Fault} (h : e.value = .error fault)
    (index : Nat) (stack log : List Int) (rest : Program) :
    ∃ f : FirstFailure e fault,
      evaluate index stack log (e.code ++ rest) =
        ⟨f.operands.reverse ++ stack, log, .failed (index + f.before.length) fault⟩ := by
  induction e generalizing index stack rest with
  | literal word => simp [value] at h
  | operation operator left right ihl ihr =>
    rw [value] at h
    rw [code, List.append_assoc, List.append_assoc]
    split at h
    · rename_i fault' hleft
      obtain rfl : fault' = fault := by simpa using h
      obtain ⟨f, hf⟩ := ihl hleft index stack (right.code ++ ([operator.instruction] ++ rest))
      exact ⟨f.ofLeft operator right, hf⟩
    · rename_i a hleft
      have hlength : left.code.length = left.nodes.length := by
        rw [code_eq_map_nodes, List.length_map]
      rw [evaluate_code_of_ok hleft]
      split at h
      · rename_i fault' hright
        obtain rfl : fault' = fault := by simpa using h
        obtain ⟨f, hf⟩ := ihr hright (index + left.code.length) (a :: stack)
          ([operator.instruction] ++ rest)
        refine ⟨f.ofRight operator hleft, ?_⟩
        rw [hf]
        simp [FirstFailure.ofRight, FirstFailure.operands, hlength, Nat.add_assoc]
      · rename_i b hright
        have hlength' : right.code.length = right.nodes.length := by
          rw [code_eq_map_nodes, List.length_map]
        refine ⟨.ofRoot hleft hright h, ?_⟩
        rw [evaluate_code_of_ok hright, List.singleton_append, evaluate_operator, h]
        simp [FirstFailure.ofRoot, FirstFailure.operands, hlength, hlength', Nat.add_assoc]

end Reference

namespace Expression

open Reference (ints)

/-- **The machine computes expressions.** On any machine the code of an expression neither runs out
of operands nor meets an unknown opcode, and it succeeds exactly if the expression has a value. Then
this value is all that is on the stack, nothing is printed, and the counter is behind the code.
Otherwise the machine stops with the fault of the first operator that fails and with the counter at
its instruction; on the stack are, the bottom first, the values of the left operands that wait for
their operators and the two operands of the one that failed. -/
theorem execute_code (m : Machine) (e : Expression) :
    let trace := m.execute e.code
    trace.result ≠ .error .stackUnderflow ∧
    (∀ opcode, trace.result ≠ .error (.unknownOpcode opcode)) ∧
    ((∃ log, trace.result = .ok log) ↔ ∃ n, e.value = .ok n) ∧
    (∀ n, e.value = .ok n →
      trace.result = .ok [] ∧ ints trace.machine.operands = [n] ∧ trace.machine.output = [] ∧
        trace.machine.counter = e.code.length) ∧
    ∀ fault, e.value = .error fault →
      ∃ f : FirstFailure e fault,
        trace.result = .error fault ∧
        trace.machine.counter = f.before.length ∧
        e.code[f.before.length]? = some f.operator.instruction ∧
        ints trace.machine.operands = f.waiting ++ [f.a, f.b] := by
  intro trace
  obtain ⟨hagrees, hresult⟩ := Reference.agrees_execute m e.code
  have hoperands : ints trace.machine.operands =
      (Reference.evaluate 0 [] [] e.code).stack.reverse := by
    rw [← hagrees.stack, Machine.operands, ints, ints, List.map_reverse]
  cases hvalue : e.value with
  | ok n =>
    have hevaluate := Reference.evaluate_code_of_ok hvalue 0 [] [] []
    rw [List.append_nil, Nat.zero_add, Reference.evaluate] at hevaluate
    rw [hevaluate] at hagrees hresult hoperands
    have houtput : trace.machine.output = [] := List.map_eq_nil_iff.mp hagrees.log
    have hok : trace.result = .ok [] := by
      rw [show trace.result = _ from hresult, houtput]
      rfl
    refine ⟨by simp [hok], by simp [hok], by simp [hok], ?_, by simp⟩
    intro k hk
    obtain rfl : n = k := by simpa using hk
    exact ⟨hok, hoperands, houtput, hagrees.counter⟩
  | error fault =>
    obtain ⟨f, hevaluate⟩ := Reference.exists_firstFailure hvalue 0 [] [] []
    rw [List.append_nil, List.append_nil, Nat.zero_add] at hevaluate
    rw [hevaluate] at hagrees hresult hoperands
    have hfails : trace.result = .error fault := hresult
    have hfault := f.fault_eq
    refine ⟨?_, ?_, by simp [hfails], by simp, ?_⟩
    · rcases hfault with rfl | rfl <;> simp [hfails]
    · rcases hfault with rfl | rfl <;> simp [hfails]
    · intro fault' hfault'
      obtain rfl : fault = fault' := by simpa using hfault'
      refine ⟨f, hfails, hagrees.counter, f.getElem?_code, ?_⟩
      rw [hoperands, List.reverse_reverse]
      rfl

/-- A division by zero below two operators that wait: `10 - 3 * (4 / (2 - 2))`. -/
theorem execute_code_division :
    let e : Expression := operation .sub (literal 10) (operation .mul (literal 3)
      (operation .div (literal 4) (operation .sub (literal 2) (literal 2))))
    let trace := Machine.new.execute e.code
    e.value = .error .divisionByZero ∧ trace.result = .error .divisionByZero ∧
    ∃ f : FirstFailure e .divisionByZero,
      f.before.length = 6 ∧ f.waiting ++ [f.a, f.b] = [10, 3, 4, 0] := by
  intro e trace
  have hvalue : e.value = .error .divisionByZero := rfl
  obtain ⟨-, -, -, -, hfails⟩ := execute_code Machine.new e
  obtain ⟨f, hresult, hcounter, -, hoperands⟩ := hfails _ hvalue
  rw [Machine.machine_execute] at hcounter hoperands
  exact ⟨hvalue, hresult, f, hcounter.symm, hoperands.symm⟩

end Expression

end StackMachine
