set_option autoImplicit false

/-!
# UTF-8

Texts as bytes. Every text has an encoding, and every sequence of bytes is read as some text: each
maximal part that begins like the encoding of a character and does not go on like one is read as
the replacement character, and so is each byte that begins no character.
-/

namespace SourceGrade.Text.Utf8

/-- A byte that goes on with a character: six bits of it. -/
def tailByte (bits : Nat) : UInt8 := UInt8.ofNat (0x80 + bits % 0x40)

/-- The bytes of a character. -/
def encodeChar (c : Char) : List UInt8 :=
  let n := c.toNat
  if n < 0x80 then [UInt8.ofNat n]
  else if n < 0x800 then [UInt8.ofNat (0xC0 + n / 0x40), tailByte n]
  else if n < 0x10000 then
    [UInt8.ofNat (0xE0 + n / 0x1000), tailByte (n / 0x40), tailByte n]
  else
    [UInt8.ofNat (0xF0 + n / 0x40000), tailByte (n / 0x1000), tailByte (n / 0x40), tailByte n]

/-- The bytes of a text. -/
def encode (t : List Char) : List UInt8 := t.flatMap encodeChar

/-- The number of bytes of a character. -/
def charSize (c : Char) : Nat :=
  if c.toNat < 0x80 then 1 else if c.toNat < 0x800 then 2 else if c.toNat < 0x10000 then 3 else 4

/-- The number of bytes of a text. -/
def size (t : List Char) : Nat := t.foldl (fun n c => n + charSize c) 0

/-- The character that stands for bytes that are no text. -/
def replacement : Char := '\ufffd'

/-- A character of which some bytes have been read. -/
structure Opened where
  /-- The bits that have been read. -/
  bits : Nat
  /-- The number of bytes that are still to come after the next one. -/
  after : Nat
  /-- The least value of the next byte. -/
  least : Nat := 0x80
  /-- The greatest value of the next byte. -/
  greatest : Nat := 0xBF
  deriving DecidableEq, Repr

/-- What a byte that begins a character leads to: the characters that are read with it, and the
character that it opens. The bounds on the second byte rule out longer encodings than necessary,
the surrogates and what lies past the last code point. -/
def begin (b : UInt8) : List Char × Option Opened :=
  let n := b.toNat
  if n < 0x80 then ([Char.ofNat n], none)
  else if 0xC2 ≤ n ∧ n ≤ 0xDF then ([], some { bits := n - 0xC0, after := 0 })
  else if n = 0xE0 then ([], some { bits := 0, after := 1, least := 0xA0 })
  else if n = 0xED then ([], some { bits := 0xD, after := 1, greatest := 0x9F })
  else if 0xE1 ≤ n ∧ n ≤ 0xEF then ([], some { bits := n - 0xE0, after := 1 })
  else if n = 0xF0 then ([], some { bits := 0, after := 2, least := 0x90 })
  else if 0xF1 ≤ n ∧ n ≤ 0xF3 then ([], some { bits := n - 0xF0, after := 2 })
  else if n = 0xF4 then ([], some { bits := 4, after := 2, greatest := 0x8F })
  else ([replacement], none)

/-- What the next byte leads to. -/
def step (opened : Option Opened) (b : UInt8) : List Char × Option Opened :=
  match opened with
  | none => begin b
  | some o =>
    if o.least ≤ b.toNat ∧ b.toNat ≤ o.greatest then
      let bits := o.bits * 0x40 + (b.toNat - 0x80)
      match o.after with
      | 0 => ([Char.ofNat bits], none)
      | k + 1 => ([], some { bits, after := k })
    else
      let (cs, next) := begin b
      (replacement :: cs, next)

/-- The state of the reader after one more byte: what was read, the last character first, and the
character that is open. -/
def push (state : List Char × Option Opened) (b : UInt8) : List Char × Option Opened :=
  let (cs, next) := step state.2 b
  (cs.reverse ++ state.1, next)

/-- The text that bytes are read as. -/
def decode (bytes : List UInt8) : List Char :=
  match bytes.foldl push ([], none) with
  | (done, none) => done.reverse
  | (done, some _) => (replacement :: done).reverse

end SourceGrade.Text.Utf8
