import StackMachine.Decimal.Parse
import StackMachine.Text.Lowercase

/-!
# Trees of settings

What the sources of settings give, before it is known which settings there are: a tree of named
values. Later values replace earlier ones, tables grow together, and the case of names does not
count.

A value remembers its origin, which is told if the value turns out to be unfit.
-/

namespace StackMachine.Settings

/-- A value without names in it. The items of a list are not kept, as no setting is a list. -/
inductive Scalar where
  | nothing
  | boolean (value : Bool)
  | integer (value : Int)
  | floating (value : Decimal.Binary64)
  | text (value : String)
  | sequence
  deriving DecidableEq, Repr

/-- A tree of settings. -/
inductive Tree where
  /-- A value, and where it comes from. -/
  | leaf (origin : Option String) (value : Scalar)
  /-- Named trees. -/
  | table (entries : List (String × Tree))

namespace Tree

/-- Named trees. -/
abbrev Entries := List (String × Tree)

/-- The entries of a table. Anything else has none. -/
def entries : Tree → Entries
  | leaf _ _ => []
  | table entries => entries

/-- Named trees with one of them set, in place of one of the same name or behind the others. -/
def Entries.set (entries : Entries) (name : String) (tree : Tree) : Entries :=
  match entries with
  | [] => [(name, tree)]
  | (other, old) :: rest =>
    if other = name then (name, tree) :: rest else (other, old) :: Entries.set rest name tree

mutual

/-- The tree with a value set under a name; a tree that is no table becomes one. A value that is a
table is merged name by name into what is there. -/
def set (tree : Tree) (name : String) : Tree → Tree
  | leaf origin value =>
    .table (Entries.set tree.entries (Text.lowerString name) (.leaf origin value))
  | table entries =>
    let there := (tree.entries.lookup (Text.lowerString name)).getD (.table [])
    .table (Entries.set tree.entries (Text.lowerString name) (setAll there entries))

/-- The tree with several values set. -/
def setAll (tree : Tree) : Entries → Tree
  | [] => tree
  | (name, value) :: entries => setAll (set tree name value) entries

end

end Tree

/-! ## Paths -/

/-- One step of a path below its first name. -/
inductive PathStep where
  /-- Into a table. -/
  | child (name : String)
  /-- Into a list. -/
  | item
  deriving DecidableEq, Repr

/-- The characters of names in paths. -/
def isNameChar (c : Char) : Bool :=
  c.isAlphanum || c == ' ' || c == '_' || c == '-'

/-- Reads a name at the front of a text. -/
def readName (s : List Char) : Option (String × List Char) :=
  match s.takeWhile isNameChar with
  | [] => none
  | name => some (String.ofList name, s.dropWhile isNameChar)

/-- Reads a number in brackets, after the first bracket. It has no sign but a minus, and must fit in
64 bits. Blanks may stand around it. -/
def readIndex (s : List Char) : Option (List Char) :=
  let isBlank (c : Char) : Bool := c == ' ' || c == '\t'
  let inside := s.dropWhile isBlank
  let isPart (c : Char) : Bool := c.isDigit || c == '-'
  if (Decimal.integer? (inside.takeWhile isPart)).isSome then
    match (inside.dropWhile isPart).dropWhile isBlank with
    | ']' :: rest => some rest
    | _ => none
  else none

/-- Reads the steps of a path. The first argument bounds their number. -/
def readSteps : Nat → List Char → Option (List PathStep)
  | 0, s => if s = [] then some [] else none
  | bound + 1, s =>
    match s with
    | [] => some []
    | '.' :: s =>
      match readName s with
      | none => none
      | some (name, rest) => (readSteps bound rest).map (.child name :: ·)
    | '[' :: s =>
      match readIndex s with
      | none => none
      | some rest => (readSteps bound rest).map (.item :: ·)
    | _ => none

/-- The name and the steps that a key stands for. A key that is no path is a name as a whole. -/
def readPath (key : String) : String × List PathStep :=
  match readName key.toList with
  | none => (key, [])
  | some (name, rest) =>
    match readSteps rest.length rest with
    | none => (key, [])
    | some steps => (name, steps)

namespace Tree

/-- The tree with a value set at the end of a path. What is in the way becomes a table or a list,
and what goes into a list is lost. -/
def setPath (tree : Tree) (name : String) (value : Tree) : List PathStep → Tree
  | [] => tree.set name value
  | step :: steps =>
    let lower := Text.lowerString name
    let there := (tree.entries.lookup lower).getD (.leaf none .nothing)
    let changed := match step with
      | .child name => setPath there name value steps
      | .item =>
        match there with
        | .leaf origin .sequence => .leaf origin .sequence
        | _ => .leaf none .sequence
    .table (Entries.set tree.entries lower changed)

/-- The tree with the entries of a source added. -/
def add (tree : Tree) (source : Entries) : Tree :=
  source.foldl (fun tree (key, value) =>
    let (name, steps) := readPath key
    tree.setPath name value steps) tree

end Tree

end StackMachine.Settings
