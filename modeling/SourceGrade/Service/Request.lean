import SourceGrade.Check.Document
import SourceGrade.Json.Reader
import SourceGrade.Text.Blank
import SourceGrade.Text.Encoding

set_option autoImplicit false

/-!
# Requests

A request names a method and a target and may carry headers and a body. The body is read as a
document if its type says that it is JSON, or if no type is given.
-/

namespace SourceGrade.Service

open Json (Document)
open SourceGrade.Text (WideText)

/-- A request. -/
structure Request where
  /-- The method, in capital letters. -/
  method : String
  /-- The path as it is written, with what follows it. -/
  target : String
  headers : List (String × String) := []
  body : List Char := []
  deriving DecidableEq, Repr

/-- What a body holds. -/
inductive Payload where
  | absent
  /-- The body is not meant to be a document. -/
  | unread
  | document (d : Document)

/-- Why a body that is meant to be JSON cannot be taken. -/
inductive BodyError where
  /-- Its text is not JSON from this position on. -/
  | malformed (position : Nat)
  /-- It is no text, or its values cannot be represented. -/
  | unreadable
  deriving DecidableEq, Repr

/-- Why a request cannot be sent. -/
inductive SendError where
  /-- Its target has a character of ASCII that is not printable, or is too long. -/
  | target
  /-- A header has a character that is not in ASCII. -/
  | header
  deriving DecidableEq, Repr

/-- Text in small letters of ASCII. -/
def smallLetters (s : String) : String := String.ofList (s.toList.map Char.toLower)

namespace Request

/-- The number of characters that a target may have. -/
def maxTarget : Nat := 65536

/-- Whether a target may have the character. -/
def targetMayHave (c : Char) : Bool := 32 ≤ c.toNat && c.toNat != 127

/-- Whether the request can be sent. -/
def checkSending (q : Request) : Except SendError Unit :=
  if maxTarget < q.target.length || !q.target.toList.all targetMayHave then .error .target
  else if q.headers.any fun h => !(h.1 ++ h.2).toList.all (·.toNat < 128) then .error .header
  else .ok ()

/-- The value of the first header with a name in letters of either case. -/
def header? (q : Request) (name : String) : Option String :=
  (q.headers.find? fun h => smallLetters h.1 = name).map (·.2)

/-- The bytes of a text in which a percent sign with two hexadecimal digits stands for a byte. -/
def unescape : List Char → List UInt8
  | [] => []
  | '%' :: a :: b :: rest =>
    match Number.hexValue? a, Number.hexValue? b with
    | some m, some n => UInt8.ofNat (16 * m + n) :: unescape rest
    | _, _ => Text.Utf8.encodeChar '%' ++ unescape (a :: b :: rest)
  | c :: rest => Text.Utf8.encodeChar c ++ unescape rest

/-- A written path without the host that may stand before it. -/
def withoutHost (t : List Char) : List Char :=
  let afterScheme :=
    match t.dropWhile Char.isAlpha with
    | ':' :: '/' :: '/' :: rest => '/' :: '/' :: rest
    | _ => t
  match afterScheme with
  | '/' :: '/' :: rest => rest.dropWhile (· != '/')
  | same => same

/-- The steps of a path after one more: a dot stays where it is, and two dots go back a step. -/
def takeStep (taken : List (List Char)) (step : List Char) : List (List Char) :=
  if step = ['.'] then taken
  else if step = ['.', '.'] then taken.dropLast
  else taken ++ [step]

/-- A written path from the top, with its dots taken as steps. -/
def fromTop (t : List Char) : List Char :=
  let steps := (t.dropWhile (· == '/')).splitOn '/'
  '/' :: ['/'].intercalate (steps.foldl takeStep [])

/-- The path of the target: what stands between the host, if it is named, and a question mark or a
number sign. Its dots are taken as steps before its escapes are read. -/
def path (q : Request) : String :=
  let written := q.target.toList.takeWhile fun c => c != '?' && c != '#'
  String.ofList (Text.Utf8.decode (unescape (fromTop (withoutHost written))))

/-- Whether a type of content is that of JSON. Parameters after it do not count. -/
def isJsonType (type : String) : Bool :=
  let essence := Text.trim ((smallLetters type).toList.takeWhile (· != ';'))
  match essence.splitOn '/' with
  | [main, sub] =>
    main == "application".toList && (sub == "json".toList || "+json".toList.isSuffixOf sub)
  | _ => false

/-- Whether the body is meant to be JSON. -/
def bodyIsJson (q : Request) : Bool :=
  match q.header? "content-type" with
  | none => true
  | some type => type.isEmpty || isJsonType type

/-- The mark that may stand in front of a text in UTF-8. -/
def byteOrderMark : Char := '\ufeff'

/-- A text without the mark in front of it. -/
def unmarked (t : List Char) : List Char :=
  match t with
  | c :: rest => if c = byteOrderMark then rest else c :: rest
  | [] => []

/-- The text that the body is meant to be, if it is one: the body itself, unless its bytes look like
those of another encoding. -/
def bodyText? (q : Request) : Option WideText :=
  let bytes := Text.Utf8.encode q.body
  match Text.Encoding.guess bytes with
  | .utf8 => some (.ofChars (unmarked q.body))
  | other => other.decode? bytes

/-- How deep the values of a body may be nested. -/
def maxDepth : Nat := 950

/-- What the body holds. -/
def payload (q : Request) : Except BodyError Payload :=
  if q.body.isEmpty then .ok .absent
  else if q.bodyIsJson then
    match q.bodyText? with
    | none => .error .unreadable
    | some t =>
      match Json.readWithin maxDepth t with
      | .ok d => .ok (.document d)
      | .error (.malformed n) => .error (.malformed n)
      | .error _ => .error .unreadable
  else .ok .unread

end Request

namespace Payload

/-- What a check makes of the entries of a body. Places begin at the body. -/
def check {α : Type} (p : Payload) (form : List (String × Document) → Checked α) : Checked α :=
  Checked.within (.key "body") (match p with
    | absent => .fail .missing
    | document (.table entries) => form (Document.named entries)
    | _ => .fail .notTable)

/-- Whether an answer can show the part of a body that a complaint is about. -/
def canShow (p : Payload) (c : Complaint) : Bool :=
  match p with
  | document d => (d.reach? (c.shownPlace.drop 1)).all Document.isWritable
  | _ => true

end Payload

end SourceGrade.Service
