import SourceGrade.Text.Lines
import SourceGrade.Toml.Value

set_option autoImplicit false

/-!
# TOML: documents

A document is a sequence of statements, one on a line: entries, and headers that say to which table
the entries after them belong. A table is declared at most once, by its header or by the dotted keys
of one table, and arrays and inline tables are closed once they are written.
-/

namespace SourceGrade.Toml

/-- A document as far as it has been read. -/
structure Draft where
  entries : Entries := []
  /-- The path of the table that entries go to. -/
  header : List String := []
  /-- The paths of the tables that no header may declare. -/
  declared : List (List String) := []
  /-- The paths of the closed values. -/
  closed : List (List String) := []
  /-- The paths of the tables that the dotted keys under the present header lead through. -/
  dotted : List (List String) := []

/-- A statement. -/
inductive Statement where
  | entry (key : Key) (v : Value)
  | table (key : Key)
  /-- The header of a table that is added to a list. -/
  | item (key : Key)

namespace Draft

/-- The draft with new entries, or a fault if there are none. -/
def withEntries (d : Draft) (entries : Option Entries) : Except ReadError Draft :=
  match entries with
  | some es => .ok { d with entries := es }
  | none => .error .malformed

/-- The draft after the present table. What its dotted keys lead through is declared now. -/
def endTable (d : Draft) : Draft := { d with declared := d.dotted ++ d.declared, dotted := [] }

/-- The draft after the header of a table. -/
def openTable (d : Draft) (key : Key) : Except ReadError Draft :=
  let d := d.endTable
  let path := key.path
  if d.declared.contains path || reaches d.closed path then .error .malformed
  else
    { d with header := path, declared := path :: d.declared }.withEntries
      (atPath? true some path d.entries)

/-- The draft after the header of a table that is added to a list. What was declared within the
table before it does not count any more. -/
def openItem (d : Draft) (key : Key) : Except ReadError Draft :=
  let d := d.endTable
  let path := key.path
  if reaches d.closed path then .error .malformed
  else
    let outside : List (List String) → List (List String) := fun ps =>
      ps.filter fun p => !path.isPrefixOf p
    { d with header := path, declared := path :: outside d.declared,
             closed := outside d.closed }.withEntries
      (atPath? true (addItem? key.last) key.parents d.entries)

/-- The draft after an entry. -/
def addEntry (d : Draft) (key : Key) (v : Value) : Except ReadError Draft :=
  let tables := key.tables.map (d.header ++ ·)
  let whole := key.under d.header
  if tables.any d.declared.contains || reaches d.closed whole.parents then .error .malformed
  else
    { d with dotted := tables ++ d.dotted,
             closed := if isClosed v then whole.path :: d.closed else d.closed }.withEntries
      (atPath? true (insertNew? key.last v) whole.parents d.entries)

/-- The draft after a statement. -/
def add (d : Draft) : Statement → Except ReadError Draft
  | .entry key v => d.addEntry key v
  | .table key => d.openTable key
  | .item key => d.openItem key

end Draft

/-- The statement at the beginning of a text. -/
def readStatement (t : List Char) : Step Statement :=
  match t with
  | '[' :: '[' :: rest =>
    match Key.read (skipWhite rest) with
    | .ok (key, ']' :: ']' :: rest) => .ok (.item key, rest)
    | _ => .error .malformed
  | '[' :: rest =>
    match Key.read (skipWhite rest) with
    | .ok (key, ']' :: rest) => .ok (.table key, rest)
    | _ => .error .malformed
  | _ =>
    match readKeyOfEntry t with
    | .error e => .error e
    | .ok (key, rest) => (readValue (2 * rest.length + 2) maxWeight rest).map fun (v, rest) =>
      (.entry key v, rest)

/-- The text after the comment and the end of a line. -/
def endLine (t : List Char) : Except ReadError (List Char) := do
  match ← skipComment (skipWhite t) with
  | [] => pure []
  | '\n' :: rest => pure rest
  | _ => .error .malformed

/-- The draft after the rest of a document. Each round reads one line or statement. -/
def readFrom : Nat → Draft → List Char → Except ReadError Draft
  | 0, _, _ => .error .malformed
  | fuel + 1, d, t =>
    match skipWhite t with
    | [] => .ok d
    | '\n' :: rest => readFrom fuel d rest
    | '#' :: rest => do readFrom fuel d (← endLine ('#' :: rest))
    | rest => do
      let (s, left) ← (readStatement rest : Except ReadError (Statement × List Char))
      let d ← d.add s
      readFrom fuel d (← endLine left)

/-- The table that a document holds. -/
def read (t : List Char) : Except ReadError Entries :=
  let t := Text.joinPairs t
  (readFrom (t.length + 1) {} t).map (·.entries)

end SourceGrade.Toml
