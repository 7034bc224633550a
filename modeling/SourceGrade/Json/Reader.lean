import SourceGrade.Json.Document
import SourceGrade.Value.Basic

set_option autoImplicit false

/-!
# JSON, read

A reader of JSON that tells where a text stops being JSON. Positions are counted in code points from
the beginning. The reader also takes the names of the infinite and undefined numbers, keeps halves
of pairs within quotation marks, lets the last of several entries with one key count, and refuses
integers with very many digits. How deep documents may be nested is up to the caller.
-/

namespace SourceGrade.Json

open Number (isAsciiDigit digitsValue hexValue?)
open SourceGrade.Text

/-- Why a text cannot be read. -/
inductive ReadError where
  /-- It is not JSON from this position on. -/
  | malformed (position : Nat)
  /-- An integer has too many digits. -/
  | hugeInteger
  | tooDeep
  deriving DecidableEq, Repr

/-- The rest of a text, and its position. -/
structure Rest where
  points : WideText
  /-- The number of code points before them. -/
  position : Nat

/-- What was read, and what is left. -/
abbrev Step (α : Type) := Except ReadError (α × Rest)

namespace Rest

/-- The rest after `n` code points. -/
def skip (r : Rest) (n : Nat) : Rest := ⟨r.points.drop n, r.position + n⟩

/-- A blank of JSON. -/
def isSpace (c : Char) : Bool := c == ' ' || c == '\t' || c == '\n' || c == '\r'

/-- The rest after blanks. -/
def skipSpace (r : Rest) : Rest :=
  let n := (r.points.takeWhile fun p => p.char?.any isSpace).length
  r.skip n

/-- The first character, if the rest begins with one. -/
def first? (r : Rest) : Option Char := r.points.head?.bind CodePoint.char?

/-- Whether words and numbers may hold the character. -/
def isWordChar (c : Char) : Bool := c.isAlphanum || c == '+' || c == '-' || c == '.'

/-- The characters of a word or a number at the beginning of the rest. -/
def word (r : Rest) : List Char :=
  (r.points.takeWhile fun p => p.char?.any isWordChar).filterMap CodePoint.char?

end Rest

/-- The value of four hexadecimal digits. -/
def hexFour? : WideText → Option Nat
  | [.char a, .char b, .char c, .char d] => do
    let a ← hexValue? a
    let b ← hexValue? b
    let c ← hexValue? c
    let d ← hexValue? d
    pure (((a * 16 + b) * 16 + c) * 16 + d)
  | _ => none

/-- The character that an escape of one letter stands for. -/
def shortEscape? : Char → Option Char
  | '"' => some '"'
  | '\\' => some '\\'
  | '/' => some '/'
  | 'b' => some '\x08'
  | 'f' => some '\x0c'
  | 'n' => some '\n'
  | 'r' => some '\r'
  | 't' => some '\t'
  | _ => none

/-- The code point of an escape by code units whose digits begin at `r`, and the number of
characters that its digits and the second half of a pair take. A half without the other one stays
what it is. A further code point has to follow. -/
def unitEscape (r : Rest) : Except ReadError (CodePoint × Nat) :=
  let refused : Nat → Except ReadError (CodePoint × Nat) := fun p => .error (.malformed p)
  if (r.points.drop 4).isEmpty then refused (r.position - 1)
  else
    match hexFour? (r.points.take 4) with
    | none => refused (r.position - 1)
    | some high =>
      match r.points.drop 4 with
      | .char '\\' :: .char 'u' :: tail =>
        if CodeUnit.isHigh high && !(tail.drop 4).isEmpty then
          match hexFour? (tail.take 4) with
          | none => refused (r.position + 5)
          | some low =>
            if CodeUnit.isLow low then .ok (.char (CodeUnit.charOfPair high low), 10)
            else .ok (.ofNat high, 4)
        else .ok (.ofNat high, 4)
      | _ => .ok (.ofNat high, 4)

/-- Whether a code point is a control character, which has to be escaped. -/
def isControl (p : CodePoint) : Bool := p.char?.any (·.toNat ≤ 0x1F)

/-- The rest of a text within quotation marks that began at `start`. The first `skip` code points
belong to an escape that has been read, and `done` holds what was read, the last code point
first. -/
def stringFrom (start : Nat) : Nat → WideText → Nat → WideText → Step WideText
  | _, _, _, [] => .error (.malformed start)
  | skip + 1, done, position, _ :: rest => stringFrom start skip done (position + 1) rest
  | 0, done, position, p :: rest =>
    if p = .char '"' then .ok (done.reverse, ⟨rest, position + 1⟩)
    else if p = .char '\\' then
      match rest with
      | [] => .error (.malformed start)
      | escape :: digits =>
        if escape = .char 'u' then
          match unitEscape ⟨digits, position + 2⟩ with
          | .error e => .error e
          | .ok (d, n) => stringFrom start (n + 1) (d :: done) (position + 1) (escape :: digits)
        else
          match escape.char?.bind shortEscape? with
          | none => .error (.malformed position)
          | some d => stringFrom start 1 (.char d :: done) (position + 1) (escape :: digits)
    else if isControl p then .error (.malformed position)
    else stringFrom start 0 (p :: done) (position + 1) rest

/-- A text in quotation marks, of which the first one has been seen. -/
def readString (r : Rest) : Step WideText :=
  stringFrom r.position 0 [] (r.position + 1) (r.points.drop 1)

/-- The digits after a point at the beginning of the given characters. -/
def fractionOf : List Char → List Char
  | '.' :: rest => rest.takeWhile isAsciiDigit
  | _ => []

/-- The exponent at the beginning of the given characters with the number of characters it
takes. -/
def exponentOf? : List Char → Option (Int × Nat)
  | e :: rest =>
    if e == 'e' || e == 'E' then
      let (negative, signLength, digits) := match rest with
        | '-' :: ds => (true, 1, ds.takeWhile isAsciiDigit)
        | '+' :: ds => (false, 1, ds.takeWhile isAsciiDigit)
        | ds => (false, 0, ds.takeWhile isAsciiDigit)
      if digits.isEmpty then none
      else
        let n : Int := digitsValue digits
        some (if negative then -n else n, 1 + signLength + digits.length)
    else none
  | [] => none

/-- A number without its sign, at the beginning of the given characters, with the number of
characters it takes. -/
def magnitudeOf? (negative : Bool) (cs : List Char) : Option (Except ReadError (Document × Nat)) :=
  let whole := match cs with
    | '0' :: _ => ['0']
    | _ => cs.takeWhile isAsciiDigit
  if whole.isEmpty then none
  else
    let afterWhole := cs.drop whole.length
    let fraction := fractionOf afterWhole
    let fractionLength := if fraction.isEmpty then 0 else fraction.length + 1
    let exponent := exponentOf? (afterWhole.drop fractionLength)
    let length := whole.length + fractionLength + (exponent.map (·.2)).getD 0
    if fraction.isEmpty && exponent.isNone then
      if Number.maxDigits < whole.length then some (.error .hugeInteger)
      else
        let n : Int := digitsValue whole
        some (.ok (.int (if negative then -n else n), length))
    else
      let x := Double.ofDecimal (whole ++ fraction) fraction.length ((exponent.map (·.1)).getD 0)
      some (.ok (.float (if negative then x.negate else x), length))

/-- The words that are documents. -/
def literals : List (List Char × Document) := [
  ("null".toList, .null),
  ("true".toList, .bool true),
  ("false".toList, .bool false),
  ("NaN".toList, .float .undefined),
  ("Infinity".toList, .float (.infinite false)),
  ("-Infinity".toList, .float (.infinite true))]

/-- A word or a number. -/
def readScalar (r : Rest) : Step Document :=
  let word := r.word
  match literals.find? fun l => l.1.isPrefixOf word with
  | some l => .ok (l.2, r.skip l.1.length)
  | none =>
    let (negative, signLength) := match word with
      | '-' :: _ => (true, 1)
      | _ => (false, 0)
    match magnitudeOf? negative (word.drop signLength) with
    | none => .error (.malformed r.position)
    | some (.error e) => .error e
    | some (.ok (d, n)) => .ok (d, r.skip (signLength + n))

mutual

/-- A document at the beginning of the rest. It holds documents within documents up to the
depth. -/
def readDocument : Nat → Nat → Rest → Step Document
  | 0, _, r => .error (.malformed r.position)
  | fuel + 1, depth, r =>
    match r.first? with
    | some '"' =>
      match readString r with
      | .error e => .error e
      | .ok (t, r) => .ok (.text t, r)
    | some '[' =>
      let r := (r.skip 1).skipSpace
      match depth, r.first? with
      | 0, _ => .error .tooDeep
      | _, some ']' => .ok (.list [], r.skip 1)
      | depth + 1, _ => readItems fuel depth [] r
    | some '{' =>
      let r := (r.skip 1).skipSpace
      match depth, r.first? with
      | 0, _ => .error .tooDeep
      | _, some '}' => .ok (.table [], r.skip 1)
      | depth + 1, _ => readEntries fuel depth [] r
    | _ => readScalar r

/-- The items of a list from the next one on. `done` holds the ones before it, the last one
first. -/
def readItems : Nat → Nat → List Document → Rest → Step Document
  | 0, _, _, r => .error (.malformed r.position)
  | fuel + 1, depth, done, r =>
    match readDocument fuel depth r with
    | .error e => .error e
    | .ok (d, r) =>
      let r := r.skipSpace
      match r.first? with
      | some ']' => .ok (.list (d :: done).reverse, r.skip 1)
      | some ',' => readItems fuel depth (d :: done) (r.skip 1).skipSpace
      | _ => .error (.malformed r.position)

/-- The entries of a table from the next one on. `done` holds the ones before it. -/
def readEntries : Nat → Nat → List (WideText × Document) → Rest → Step Document
  | 0, _, _, r => .error (.malformed r.position)
  | fuel + 1, depth, done, r =>
    match r.first? with
    | some '"' =>
      match readString r with
      | .error e => .error e
      | .ok (key, r) =>
        let r := r.skipSpace
        match r.first? with
        | some ':' =>
          match readDocument fuel depth (r.skip 1).skipSpace with
          | .error e => .error e
          | .ok (d, r) =>
            let r := r.skipSpace
            let done := Value.put key d done
            match r.first? with
            | some '}' => .ok (.table done, r.skip 1)
            | some ',' => readEntries fuel depth done (r.skip 1).skipSpace
            | _ => .error (.malformed r.position)
        | _ => .error (.malformed r.position)
    | _ => .error (.malformed r.position)

end

/-- The document that a text writes, with documents within documents up to a depth. Nothing but
blanks may follow it. -/
def readWithin (depth : Nat) (t : WideText) : Except ReadError Document :=
  match readDocument (2 * t.length + 2) depth (Rest.mk t 0).skipSpace with
  | .error e => .error e
  | .ok (d, r) =>
    let r := r.skipSpace
    if r.points.isEmpty then .ok d else .error (.malformed r.position)

end SourceGrade.Json
