import StackMachine.Toml.Scalar

/-!
# Moments written as tables

A table whose first key is `momentKey` is no table: it stands for the date or time that its first
value writes, and its other entries do not count. A document in which such a value writes neither is
refused.
-/

namespace StackMachine.Toml

/-- The first key of a table that stands for a date or a time. -/
def momentKey : String := "$__toml_private_datetime"

/-- The date or time that a string writes from its front to its end. -/
def momentOf? : Value → Option Value
  | .string s =>
    match readMoment s.toList with
    | some (moment, []) => some moment
    | _ => none
  | _ => none

mutual

/-- The value with a date or a time for each table that stands for one. -/
def Value.withMoments? : Value → Option Value
  | .array items => (withMomentsInItems? items).map .array
  | .table [] => some (.table [])
  | .table ((key, value) :: entries) =>
    if key = momentKey then momentOf? value
    else
      match value.withMoments?, withMomentsInEntries? entries with
      | some value, some entries => some (.table ((key, value) :: entries))
      | _, _ => none
  | value => some value

/-- The items of an array with a date or a time for each table that stands for one. -/
def withMomentsInItems? : List Value → Option (List Value)
  | [] => some []
  | item :: items =>
    match item.withMoments?, withMomentsInItems? items with
    | some item, some items => some (item :: items)
    | _, _ => none

/-- The entries of a table with a date or a time for each table that stands for one. -/
def withMomentsInEntries? : List (String × Value) → Option (List (String × Value))
  | [] => some []
  | (key, value) :: entries =>
    match value.withMoments?, withMomentsInEntries? entries with
    | some value, some entries => some ((key, value) :: entries)
    | _, _ => none

end

/-- The entries of a document with a date or a time for each table that stands for one. The document
itself is a table and cannot stand for one. -/
def documentEntries? (entries : List (String × Value)) : Option (List (String × Value)) :=
  match (Value.table entries).withMoments? with
  | some (.table entries) => some entries
  | _ => none

end StackMachine.Toml
