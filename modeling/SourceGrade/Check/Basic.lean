import SourceGrade.Text.WholeNumber
import SourceGrade.Value.Basic
import SourceGrade.Number.Total

set_option autoImplicit false

/-!
# Checked values

A value from a document is checked against what is expected of it. All complaints about a table are
collected, in the order of its fields, and each names the place of what is wrong.
-/

namespace SourceGrade

/-- What is wrong with a value. -/
inductive Fault where
  /-- It is not an integer, nor anything that stands for one. -/
  | notInteger
  /-- It is a text that does not write an integer. -/
  | unreadableInteger
  /-- It is a number that is too far from zero, or a text with too many digits. -/
  | longInteger
  /-- It is a number with a fraction. -/
  | fractional
  /-- It is an infinite or undefined number. -/
  | notFinite
  | notText
  /-- It is a text that holds half a pair of code units. -/
  | brokenText
  /-- It is a text that is too short. -/
  | tooShort
  /-- It is not a truth value, nor anything that stands for one. -/
  | notBool
  /-- It is a text or a number that stands for no truth value. -/
  | unreadableBool
  | notList
  | notTable
  /-- It is an integer that is not positive. -/
  | notPositive
  | missing
  /-- It is not a document at all. -/
  | malformed
  deriving DecidableEq, Repr

/-- A step from a value to a part of it. -/
inductive Step where
  /-- To the value at a key. -/
  | key (name : String)
  /-- To the item at a position. -/
  | index (n : Nat)
  deriving DecidableEq, Repr

/-- What is wrong, and where. -/
structure Complaint where
  /-- The steps to what is wrong. -/
  place : List Step
  fault : Fault
  deriving DecidableEq, Repr

/-- The name of a kind of fault. -/
def Fault.name : Fault → String
  | notInteger => "int_type"
  | unreadableInteger => "int_parsing"
  | longInteger => "int_parsing_size"
  | fractional => "int_from_float"
  | notFinite => "finite_number"
  | notText => "string_type"
  | brokenText => "string_unicode"
  | tooShort => "string_too_short"
  | notBool => "bool_type"
  | unreadableBool => "bool_parsing"
  | notList => "list_type"
  | notTable => "model_attributes_type"
  | notPositive => "value_error"
  | missing => "missing"
  | malformed => "json_invalid"

/-- A step as a value. -/
def Step.toValue : Step → Value
  | key k => .text k
  | index n => .int n

/-- A complaint as a table of its place and the kind of its fault. -/
def Complaint.toValue (c : Complaint) : Value :=
  .table [("loc", .list (c.place.map (·.toValue))), ("type", .text c.fault.name)]

/-- The result of a check, which is either good or has at least one complaint. -/
inductive Checked (α : Type) where
  /-- Nothing is wrong. -/
  | good (a : α)
  /-- These things are wrong. -/
  | bad (complaints : List Complaint)
  deriving Repr

namespace Checked

variable {α β : Type}

/-- The result of a check with its value replaced. -/
def map (f : α → β) : Checked α → Checked β
  | good a => good (f a)
  | bad cs => bad cs

/-- Two checks after one another. All complaints are kept. -/
def apply : Checked (α → β) → Checked α → Checked β
  | good f, good a => good (f a)
  | good _, bad cs => bad cs
  | bad cs, good _ => bad cs
  | bad cs, bad ds => bad (cs ++ ds)

instance : Functor Checked where
  map := map

/-- A check that fails with one complaint about the value itself. -/
def fail (f : Fault) : Checked α := bad [⟨[], f⟩]

/-- The complaints with a step put in front of their places. -/
def within (s : Step) : Checked α → Checked α
  | good a => good a
  | bad cs => bad (cs.map fun c => { c with place := s :: c.place })

/-- The value, or the complaints. -/
def toExcept : Checked α → Except (List Complaint) α
  | good a => .ok a
  | bad cs => .error cs

/-- The checks of items, of which the first has the given position. -/
def itemsFrom (check : β → Checked α) : Nat → List β → Checked (List α)
  | _, [] => good []
  | n, v :: vs =>
    (((check v).within (.index n)).map List.cons).apply (itemsFrom check (n + 1) vs)

end Checked

namespace Check

variable {α β : Type}

/-- A number with a point stands for an integer only if it is nearer to zero than this. -/
def wholeBound : Rat := (Number.power 2 63 : Rat)

/-- The integer that a number stands for. -/
def wholeNumber (x : Double) : Checked Int :=
  match x.toRat? with
  | some q =>
    if q.den ≠ 1 then .fail .fractional
    else if Number.magnitude q < wholeBound then .good q.num
    else .fail .longInteger
  | none => .fail .notFinite

/-- An integer, or what stands for one: a truth value, a number without a fraction, or a text that
writes an integer. -/
def integer : Value → Checked Int
  | .int n => .good n
  | .bool b => .good (if b then 1 else 0)
  | .float x => wholeNumber x
  | .text s =>
    match Text.WholeNumber.ofText s.toList with
    | .ok n => .good n
    | .error .malformed => .fail .unreadableInteger
    | .error .tooLong => .fail .longInteger
  | _ => .fail .notInteger

/-- An integer that is positive. -/
def positive (v : Value) : Checked Int :=
  match integer v with
  | .good n => if 0 < n then .good n else .fail .notPositive
  | .bad cs => .bad cs

/-- A text. -/
def string : Value → Checked String
  | .text s => .good s
  | _ => .fail .notText

/-- A list of what a check lets through. -/
def listOf (check : Value → Checked α) : Value → Checked (List α)
  | .list vs => Checked.itemsFrom check 0 vs
  | _ => .fail .notList

/-- The words for truth. -/
def trueWords : List String := ["1", "on", "t", "true", "y", "yes"]

/-- The words for falsehood. -/
def falseWords : List String := ["0", "off", "f", "false", "n", "no"]

/-- The truth value that a number stands for. -/
def boolOfNumber (q : Rat) : Checked Bool :=
  if q = 0 then .good false else if q = 1 then .good true else .fail .unreadableBool

/-- The integers that may stand for a truth value reach to these. -/
def isSmallInteger (n : Int) : Bool :=
  -(Number.power 2 63 : Int) ≤ n && n < (Number.power 2 63 : Int)

/-- A truth value, or what stands for one: zero and one, and the words for it in any case. -/
def boolean : Value → Checked Bool
  | .bool b => .good b
  | .int n => if isSmallInteger n then boolOfNumber n else .fail .notBool
  | .float x =>
    match wholeNumber x with
    | .good n => boolOfNumber n
    | .bad _ => .fail .notBool
  | .text s =>
    let word := String.ofList (s.toList.map Char.toLower)
    if trueWords.contains word then .good true
    else if falseWords.contains word then .good false
    else .fail .unreadableBool
  | _ => .fail .notBool

/-- A field of a table that has a default. -/
def field (entries : List (String × β)) (key : String) (check : β → Checked α)
    (default : α) : Checked α :=
  match Value.find? entries key with
  | some v => (check v).within (.key key)
  | none => .good default

/-- A field of a table that has to be there. -/
def required (entries : List (String × β)) (key : String) (check : β → Checked α) :
    Checked α :=
  match Value.find? entries key with
  | some v => (check v).within (.key key)
  | none => .bad [⟨[.key key], .missing⟩]

end Check

end SourceGrade
