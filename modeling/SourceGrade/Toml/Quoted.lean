import SourceGrade.Toml.Basic

set_option autoImplicit false

/-!
# TOML: quoted texts

Texts stand between quotation marks, with escapes, or between apostrophes, without. Three marks in
place of one let a text go over several lines; a line feed right after the opening marks does not
count, and up to two marks may stand right before the closing ones.
-/

namespace SourceGrade.Toml

/-- The character that a hexadecimal code stands for, if it stands for one. -/
def charOfCode? (digits : List Char) : Option Char :=
  if digits.all fun c => (Number.hexValue? c).isSome then
    let n := Number.valueInBase 16 digits
    if n < 0xD800 || (0xE000 ≤ n && n < 0x110000) then some (Char.ofNat n) else none
  else none

/-- A character given by `count` hexadecimal digits at the beginning of a text. -/
def codeEscape? (count : Nat) (t : List Char) : Option (List Char × Nat) :=
  let digits := t.take count
  if digits.length = count then (charOfCode? digits).map fun c => ([c], count + 1) else none

/-- The line end that a backslash hides, with the white space and the empty lines after it. -/
def hiddenLineEnd? (t : List Char) : Option (List Char × Nat) :=
  let white := (t.takeWhile isWhite).length
  match t.drop white with
  | '\n' :: rest =>
    some ([], white + 1 + (rest.takeWhile fun c => isWhite c || c == '\n').length)
  | _ => none

/-- What the escape that begins after a backslash stands for, and the number of characters after
the backslash that it takes. -/
def escape? (multiline : Bool) (t : List Char) : Option (List Char × Nat) :=
  match t with
  | 'b' :: _ => some (['\x08'], 1)
  | 't' :: _ => some (['\t'], 1)
  | 'n' :: _ => some (['\n'], 1)
  | 'f' :: _ => some (['\x0c'], 1)
  | 'r' :: _ => some (['\r'], 1)
  | '"' :: _ => some (['"'], 1)
  | '\\' :: _ => some (['\\'], 1)
  | 'u' :: rest => codeEscape? 4 rest
  | 'U' :: rest => codeEscape? 8 rest
  | _ => if multiline then hiddenLineEnd? t else none

/-- The marks at the beginning of a text that still belong to the text that three marks have
closed, and what is left. -/
def trailingMarks (mark : Char) : List Char → List Char × List Char
  | a :: b :: rest =>
    if a = mark then
      if b = mark then ([mark, mark], rest) else ([mark], b :: rest)
    else ([], a :: b :: rest)
  | [a] => if a = mark then ([mark], []) else ([], [a])
  | [] => ([], [])

/-- The rest of a text in quotation marks. The first `skip` characters belong to an escape that
has been read, and `done` holds what was read, the last character first. -/
def quotedFrom (multiline : Bool) : Nat → List Char → List Char → Step String
  | _, _, [] => .error .malformed
  | skip + 1, done, _ :: rest => quotedFrom multiline skip done rest
  | 0, done, c :: rest =>
    if c = '"' then
      if !multiline then .ok (String.ofList done.reverse, rest)
      else
        match rest with
        | '"' :: '"' :: after =>
          let (more, left) := trailingMarks '"' after
          .ok (String.ofList (done.reverse ++ more), left)
        | _ => quotedFrom multiline 0 ('"' :: done) rest
    else if c = '\\' then
      match escape? multiline rest with
      | none => .error .malformed
      | some (cs, n) => quotedFrom multiline n (cs.reverse ++ done) rest
    else if if multiline then isForbiddenInLines c else isForbidden c then .error .malformed
    else quotedFrom multiline 0 (c :: done) rest

/-- The rest of a text in single apostrophes. -/
def readLiteral (t : List Char) : Step String :=
  let body := t.takeWhile (· != '\'')
  match t.drop body.length with
  | _ :: rest =>
    if body.any isForbidden then .error .malformed else .ok (String.ofList body, rest)
  | [] => .error .malformed

/-- The rest of a text in three apostrophes. `done` holds what was read, the last character
first. -/
def literalLinesFrom : List Char → List Char → Step String
  | _, [] => .error .malformed
  | done, '\'' :: '\'' :: '\'' :: rest =>
    let (more, left) := trailingMarks '\'' rest
    .ok (String.ofList (done.reverse ++ more), left)
  | done, c :: rest =>
    if isForbiddenInLines c then .error .malformed else literalLinesFrom (c :: done) rest

/-- The text after a line feed at its beginning. -/
def dropLineFeed : List Char → List Char
  | '\n' :: rest => rest
  | t => t

/-- A text within quotation marks or apostrophes at the beginning of the given characters, if
there is one. -/
def readQuoted? (t : List Char) : Option (Step String) :=
  match t with
  | '"' :: '"' :: '"' :: rest => some (quotedFrom true 0 [] (dropLineFeed rest))
  | '"' :: rest => some (quotedFrom false 0 [] rest)
  | '\'' :: '\'' :: '\'' :: rest => some (literalLinesFrom [] (dropLineFeed rest))
  | '\'' :: rest => some (readLiteral rest)
  | _ => none

end SourceGrade.Toml
