import SourceGrade.Value.Basic

set_option autoImplicit false

/-!
# Layers of settings

Settings are written in sections. A document that is laid over another one replaces the entries it
has and leaves the others alone, within each section that both of them have.
-/

namespace SourceGrade.Config

/-- Sections of settings, or the entries of one section. -/
abbrev Entries := List (String × Value)

/-- The entries with those of another layer put over them. -/
def overlay (base upper : Entries) : Entries := upper.foldl (fun es e => Value.put e.1 e.2 es) base

/-- The sections with one section of another layer put over them. Two tables are laid over one
another, and anything else is replaced. -/
def mergeSection (base : Entries) (name : String) (v : Value) : Entries :=
  match Value.find? base name, v with
  | some (.table below), .table above => Value.put name (.table (overlay below above)) base
  | _, _ => Value.put name v base

/-- The sections with those of another document laid over them. -/
def merge (base upper : Entries) : Entries := upper.foldl (fun es e => mergeSection es e.1 e.2) base

end SourceGrade.Config
