import SourceGrade.Toml.Key

set_option autoImplicit false

/-!
# TOML: tables within tables

A path of names leads from a table to one within it. Tables that are missing on the way are made,
and a list of tables on the way stands for its last one.
-/

namespace SourceGrade.Toml

/-- The entries of a table. -/
abbrev Entries := List (String × Value)

/-- The entries with those at the end of a path replaced. `throughLists` says whether the path may
lead through lists. -/
def atPath? (throughLists : Bool) (replace : Entries → Option Entries) :
    List String → Entries → Option Entries
  | [], entries => replace entries
  | name :: path, entries =>
    match Value.find? entries name with
    | none =>
      (atPath? throughLists replace path []).map fun inner => Value.put name (.table inner) entries
    | some (.table inner) =>
      (atPath? throughLists replace path inner).map fun inner =>
        Value.put name (.table inner) entries
    | some (.list items) =>
      match throughLists, items.getLast? with
      | true, some (.table inner) =>
        (atPath? throughLists replace path inner).map fun inner =>
          Value.put name (.list (items.dropLast ++ [.table inner])) entries
      | _, _ => none
    | some _ => none

/-- The entries with a new one. -/
def insertNew? (name : String) (v : Value) (entries : Entries) : Option Entries :=
  match Value.find? entries name with
  | some _ => none
  | none => some (Value.put name v entries)

/-- The entries with an empty table at the end of a list, which is made if it is missing. -/
def addItem? (name : String) (entries : Entries) : Option Entries :=
  match Value.find? entries name with
  | none => some (Value.put name (.list [.table []]) entries)
  | some (.list items) => some (Value.put name (.list (items ++ [.table []])) entries)
  | some _ => none

/-- Whether one of the paths leads to the given one or to a table around it. -/
def reaches (paths : List (List String)) (path : List String) : Bool :=
  paths.any (·.isPrefixOf path)

/-- Whether a value is closed: nothing can be added to it from elsewhere in the document. -/
def isClosed : Value → Bool
  | .list _ => true
  | .table _ => true
  | _ => false

end SourceGrade.Toml
