import StackMachine.Toml.Moment

/-!
# TOML documents

Tables, inline tables and whole documents.

While a document is read its tables are kept as `Node`s that know how they came about, since that
decides which of them may still grow: a table that a header only passes through may get a header of
its own later, one that dotted keys made grows by dotted keys only, and values never grow.
-/

namespace StackMachine.Toml

/-! ## Growing tables -/

/-- How a table came about. -/
inductive Making where
  /-- By a header of its own. -/
  | header
  /-- On the way to another table's header. -/
  | passage
  /-- By dotted keys. -/
  | dotted
  deriving DecidableEq, Repr

/-- A part of a document that is being read. -/
inductive Node where
  /-- A finished value. -/
  | leaf (value : Value)
  /-- A table. -/
  | table (making : Making) (entries : List (String × Node))
  /-- A list of tables with headers, of which only the last one may grow. -/
  | tables (earlier : List Value) (last : List (String × Node))

/-- The entries of a table. -/
abbrev Entries := List (String × Node)

mutual

/-- The value of a finished part. -/
def Node.finish : Node → Value
  | .leaf value => value
  | .table _ entries => .table (Node.finishEntries entries)
  | .tables earlier last => .array (earlier ++ [.table (Node.finishEntries last)])

/-- The values of finished entries. -/
def Node.finishEntries : Entries → List (String × Value)
  | [] => []
  | (key, node) :: entries => (key, node.finish) :: Node.finishEntries entries

end

/-- The entries with one of them set, in place of an entry of the same key or behind the others. -/
def Entries.set (entries : Entries) (key : String) (node : Node) : Entries :=
  match entries with
  | [] => [(key, node)]
  | (name, old) :: rest =>
    if name = key then (key, node) :: rest else (name, old) :: Entries.set rest key node

/-- The entries without the one of a key. -/
def Entries.erase (entries : Entries) (key : String) : Entries :=
  entries.filter fun (name, _) => name ≠ key

/-- Changes the table at the end of a path, making the tables on the way that do not exist. Dotted
keys do not go through a table that has a header. -/
def Entries.modify (dotted : Bool) (change : Making → Entries → Option Entries) :
    List String → Making → Entries → Option Entries
  | [], making, entries => change making entries
  | key :: path, _, entries =>
    let inside (making : Making) (inner : Entries) : Option Entries :=
      Entries.modify dotted change path making inner
    match entries.lookup key with
    | none =>
      let making := if dotted then .dotted else .passage
      (inside making []).map fun inner => entries.set key (.table making inner)
    | some (.leaf _) => none
    | some (.table making inner) =>
      if dotted && making == .header then none
      else (inside making inner).map fun inner => entries.set key (.table making inner)
    | some (.tables earlier last) =>
      (inside .header last).map fun last => entries.set key (.tables earlier last)

/-- Adds a value under a dotted key. The table that gets it must be the one at hand or one that
dotted keys made, and must not have the key. -/
def Entries.insert (entries : Entries) (making : Making) (path : List String) (key : String)
    (value : Value) : Option Entries :=
  let add (making : Making) (entries : Entries) : Option Entries :=
    if path ≠ [] ∧ making ≠ .dotted then none
    else if (entries.lookup key).isSome then none
    else some (entries.set key (.leaf value))
  entries.modify true add path making

/-- Opens the table of a header. A table that only headers passed through goes behind the others. -/
def Entries.openTable (root : Entries) (path : List String) (key : String) : Option Entries :=
  let add (_ : Making) (entries : Entries) : Option Entries :=
    match entries.lookup key with
    | none => some (entries.set key (.table .header []))
    | some (.table .passage inner) => some (entries.erase key ++ [(key, .table .header inner)])
    | _ => none
  root.modify false add path .header

/-- Appends an empty table to a list of tables. -/
def Entries.appendTable (root : Entries) (path : List String) (key : String) : Option Entries :=
  let add (_ : Making) (entries : Entries) : Option Entries :=
    match entries.lookup key with
    | none => some (entries.set key (.tables [] []))
    | some (.tables earlier last) =>
      some (entries.set key (.tables (earlier ++ [.table (Node.finishEntries last)]) []))
    | _ => none
  root.modify false add path .header

/-- Adds a value under a dotted key to the table that a header opened. -/
def Entries.insertAt (root : Entries) (header path : List String) (key : String) (value : Value) :
    Option Entries :=
  root.modify false (fun making entries => entries.insert making path key value) header .header

/-! ## Values -/

/-- A value under a dotted key. -/
structure Entry where
  path : List String
  key : String
  value : Value

/-- Reads a key, the equals sign and a value. -/
def readEntry (value : List Char → Reading Value) (s : List Char) : Reading Entry :=
  match readKey s with
  | some ((path, key), '=' :: s) =>
    (value (skipBlanks s)).map fun (value, rest) => (⟨path, key, value⟩, rest)
  | _ => none

/-- Reads the items of an array after its opening bracket. The first argument bounds their number.
-/
def readItems (value : List Char → Reading Value) : Nat → List Char → Reading (List Value)
  | 0, _ => none
  | bound + 1, s =>
    match skipSpace s with
    | ']' :: rest => some ([], rest)
    | s =>
      match value s with
      | none => none
      | some (item, s) =>
        match skipSpace s with
        | ']' :: rest => some ([item], rest)
        | ',' :: rest => (readItems value bound rest).map fun (items, rest) => (item :: items, rest)
        | _ => none

/-- Reads the entries of an inline table, of which there is at least one, up to its end. The first
argument bounds their number. -/
def readEntries (value : List Char → Reading Value) : Nat → Entries → List Char → Reading Entries
  | 0, _, _ => none
  | bound + 1, entries, s =>
    match readEntry value s with
    | none => none
    | some (entry, s) =>
      match entries.insert .header entry.path entry.key entry.value with
      | none => none
      | some entries =>
        match skipBlanks s with
        | '}' :: rest => some (entries, rest)
        | ',' :: rest => readEntries value bound entries rest
        | _ => none

/-- Reads an inline table after its opening bracket. -/
def readInlineTable (value : List Char → Reading Value) (s : List Char) : Reading Value :=
  match skipBlanks s with
  | '}' :: rest => some (.table [], rest)
  | s =>
    (readEntries value s.length [] s).map fun (entries, rest) =>
      (.table (Node.finishEntries entries), rest)

/-- Reads a value inside of which brackets may be nested as deep as the first argument says. -/
def readValue : Nat → List Char → Reading Value
  | depth, '[' :: s =>
    match depth with
    | 0 => none
    | depth + 1 =>
      (readItems (readValue depth) (s.length + 1) s).map fun (items, rest) => (.array items, rest)
  | depth, '{' :: s =>
    match depth with
    | 0 => none
    | depth + 1 => readInlineTable (readValue depth) s
  | _, s => readScalar s

/-- How deep brackets may be nested. -/
def greatestDepth : Nat := 79

/-! ## Lines -/

/-- A document of which some lines are read. -/
structure Draft where
  /-- The tables so far. -/
  root : Entries := []
  /-- The keys of the last header. -/
  header : List String := []

/-- Reads a header and the end of its line, after the first bracket. -/
def readHeader (draft : Draft) (s : List Char) : Reading Draft :=
  match s with
  | '[' :: s =>
    match readKey s with
    | some ((path, key), ']' :: ']' :: s) =>
      match draft.root.appendTable path key, readLineEnd s with
      | some root, some rest => some (⟨root, path ++ [key]⟩, rest)
      | _, _ => none
    | _ => none
  | s =>
    match readKey s with
    | some ((path, key), ']' :: s) =>
      match draft.root.openTable path key, readLineEnd s with
      | some root, some rest => some (⟨root, path ++ [key]⟩, rest)
      | _, _ => none
    | _ => none

/-- Reads an entry and the end of its line. -/
def readEntryLine (draft : Draft) (s : List Char) : Reading Draft :=
  match readEntry (readValue greatestDepth) s with
  | none => none
  | some (entry, s) =>
    match draft.root.insertAt draft.header entry.path entry.key entry.value, readLineEnd s with
    | some root, some rest => some ({ draft with root := root }, rest)
    | _, _ => none

/-- Reads the lines of a document. The first argument bounds the number of headers and entries. -/
def readLines : Nat → Draft → List Char → Option Draft
  | 0, _, _ => none
  | bound + 1, draft, s =>
    match skipSpace s with
    | [] => some draft
    | '[' :: s =>
      match readHeader draft s with
      | none => none
      | some (draft, rest) => readLines bound draft rest
    | s =>
      match readEntryLine draft s with
      | none => none
      | some (draft, rest) => readLines bound draft rest

/-- The text without a byte order mark at its front. -/
def skipMark : List Char → List Char
  | '\ufeff' :: s => s
  | s => s

/-- The entries of the document that a text holds. -/
def parse (source : String) : Option (List (String × Value)) :=
  let s := skipMark source.toList
  match readLines (s.length + 1) {} s with
  | none => none
  | some draft => documentEntries? (Node.finishEntries draft.root)

end StackMachine.Toml
