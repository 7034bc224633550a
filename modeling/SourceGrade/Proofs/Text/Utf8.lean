import SourceGrade.Text.Utf8

set_option autoImplicit false

/-!
# Reading what was written in UTF-8

The lenient reader of UTF-8 gives every text back from its bytes: `decode_encode`. A character of
several bytes is opened by the first one, and each further byte adds six bits to it. The bounds on
the second byte never stand in the way, since a character is encoded as short as possible, is no
surrogate and does not lie past the last code point.
-/

namespace SourceGrade.Text.Utf8

/-! ## The number of bytes -/

theorem length_encodeChar (c : Char) : (encodeChar c).length = charSize c := by
  unfold encodeChar charSize
  dsimp only
  split
  · rfl
  · split
    · rfl
    · split <;> rfl

theorem encode_cons (c : Char) (t : List Char) : encode (c :: t) = encodeChar c ++ encode t :=
  List.flatMap_cons

/-- The size of a text is the number of its bytes. -/
theorem size_eq_length_encode (t : List Char) : size t = (encode t).length := by
  have hfold : ∀ n : Nat, t.foldl (fun n c => n + charSize c) n = n + (encode t).length := by
    induction t with
    | nil => exact fun n => rfl
    | cons c t ih =>
      intro n
      rw [List.foldl_cons, ih, encode_cons, List.length_append, length_encodeChar, Nat.add_assoc]
  exact (hfold 0).trans (Nat.zero_add _)

/-! ## The first byte of a character -/

theorem begin_one : ∀ n < 0x80, begin (UInt8.ofNat n) = ([Char.ofNat n], none) := by
  decide +kernel

theorem begin_two : ∀ k < 0x20, 2 ≤ k →
    begin (UInt8.ofNat (0xC0 + k)) = ([], some { bits := k, after := 0 }) := by
  decide +kernel

/-- What a first byte of three leaves open. -/
def openThree (k : Nat) : Opened where
  bits := k
  after := 1
  least := if k = 0 then 0xA0 else 0x80
  greatest := if k = 0xD then 0x9F else 0xBF

theorem begin_three : ∀ k < 0x10,
    begin (UInt8.ofNat (0xE0 + k)) = ([], some (openThree k)) := by
  decide +kernel

/-- What a first byte of four leaves open. -/
def openFour (k : Nat) : Opened where
  bits := k
  after := 2
  least := if k = 0 then 0x90 else 0x80
  greatest := if k = 4 then 0x8F else 0xBF

theorem begin_four : ∀ k < 5, begin (UInt8.ofNat (0xF0 + k)) = ([], some (openFour k)) := by
  decide +kernel

/-! ## The bytes after it -/

theorem toNat_tailByte (bits : Nat) : (tailByte bits).toNat = 0x80 + bits % 0x40 := by
  unfold tailByte
  rw [UInt8.toNat_ofNat']
  omega

/-- A byte that goes on with a character. -/
theorem step_tailByte {o : Opened} {bits : Nat} (hleast : o.least ≤ 0x80 + bits % 0x40)
    (hgreatest : 0x80 + bits % 0x40 ≤ o.greatest) :
    step (some o) (tailByte bits) =
      match o.after with
      | 0 => ([Char.ofNat (o.bits * 0x40 + bits % 0x40)], none)
      | k + 1 => ([], some { bits := o.bits * 0x40 + bits % 0x40, after := k }) := by
  have hbits : 0x80 + bits % 0x40 - 0x80 = bits % 0x40 := Nat.add_sub_cancel_left ..
  unfold step
  dsimp only
  rw [toNat_tailByte, if_pos ⟨hleast, hgreatest⟩]
  cases o.after with
  | zero =>
    dsimp only
    rw [hbits]
  | succ k =>
    dsimp only
    rw [hbits]

theorem push_begin {done cs : List Char} {o : Option Opened} {b : UInt8}
    (h : begin b = (cs, o)) : push (done, none) b = (cs.reverse ++ done, o) := by
  unfold push step
  rw [h]

/-- The last byte of a character. -/
theorem push_last (done : List Char) {o : Opened} {bits : Nat} (hafter : o.after = 0)
    (hleast : o.least ≤ 0x80 + bits % 0x40) (hgreatest : 0x80 + bits % 0x40 ≤ o.greatest) :
    push (done, some o) (tailByte bits) =
      (Char.ofNat (o.bits * 0x40 + bits % 0x40) :: done, none) := by
  unfold push
  rw [step_tailByte hleast hgreatest, hafter]
  rfl

/-- A byte with others after it. -/
theorem push_tail (done : List Char) {o : Opened} {bits k : Nat} (hafter : o.after = k + 1)
    (hleast : o.least ≤ 0x80 + bits % 0x40) (hgreatest : 0x80 + bits % 0x40 ≤ o.greatest) :
    push (done, some o) (tailByte bits) =
      (done, some { bits := o.bits * 0x40 + bits % 0x40, after := k }) := by
  unfold push
  rw [step_tailByte hleast hgreatest, hafter]
  rfl

/-! ## Characters of several bytes -/

theorem foldl_push_two (done : List Char) {n : Nat} (hleast : 0x80 ≤ n) (hlt : n < 0x800) :
    [UInt8.ofNat (0xC0 + n / 0x40), tailByte n].foldl push (done, none) =
      (Char.ofNat n :: done, none) := by
  have hbits : n / 0x40 * 0x40 + n % 0x40 = n := by omega
  rw [List.foldl_cons, push_begin (begin_two (n / 0x40) (by omega) (by omega)), List.foldl_cons,
    push_last _ rfl (by dsimp only; omega) (by dsimp only; omega), hbits]
  rfl

theorem foldl_push_three (done : List Char) {n : Nat} (hleast : 0x800 ≤ n) (hlt : n < 0x10000)
    (hsurrogate : n < 0xD800 ∨ 0xDFFF < n) :
    [UInt8.ofNat (0xE0 + n / 0x1000), tailByte (n / 0x40), tailByte n].foldl push (done, none) =
      (Char.ofNat n :: done, none) := by
  have hbits : (n / 0x1000 * 0x40 + n / 0x40 % 0x40) * 0x40 + n % 0x40 = n := by omega
  have hlow : (openThree (n / 0x1000)).least ≤ 0x80 + n / 0x40 % 0x40 := by
    show (if n / 0x1000 = 0 then 0xA0 else 0x80) ≤ _
    split <;> omega
  have hhigh : 0x80 + n / 0x40 % 0x40 ≤ (openThree (n / 0x1000)).greatest := by
    show _ ≤ (if n / 0x1000 = 0xD then 0x9F else 0xBF)
    split <;> omega
  rw [List.foldl_cons, push_begin (begin_three (n / 0x1000) (by omega)),
    List.foldl_cons, push_tail _ rfl hlow hhigh,
    List.foldl_cons, push_last _ rfl (by dsimp only; omega) (by dsimp only; omega)]
  show (Char.ofNat ((n / 0x1000 * 0x40 + n / 0x40 % 0x40) * 0x40 + n % 0x40) :: _, none) = _
  rw [hbits]
  rfl

theorem foldl_push_four (done : List Char) {n : Nat} (hleast : 0x10000 ≤ n) (hlt : n < 0x110000) :
    [UInt8.ofNat (0xF0 + n / 0x40000), tailByte (n / 0x1000), tailByte (n / 0x40),
      tailByte n].foldl push (done, none) = (Char.ofNat n :: done, none) := by
  have hbits : ((n / 0x40000 * 0x40 + n / 0x1000 % 0x40) * 0x40 + n / 0x40 % 0x40) * 0x40 +
      n % 0x40 = n := by omega
  have hlow : (openFour (n / 0x40000)).least ≤ 0x80 + n / 0x1000 % 0x40 := by
    show (if n / 0x40000 = 0 then 0x90 else 0x80) ≤ _
    split <;> omega
  have hhigh : 0x80 + n / 0x1000 % 0x40 ≤ (openFour (n / 0x40000)).greatest := by
    show _ ≤ (if n / 0x40000 = 4 then 0x8F else 0xBF)
    split <;> omega
  rw [List.foldl_cons, push_begin (begin_four (n / 0x40000) (by omega)),
    List.foldl_cons, push_tail _ rfl hlow hhigh,
    List.foldl_cons, push_tail _ rfl (by dsimp only; omega) (by dsimp only; omega),
    List.foldl_cons, push_last _ rfl (by dsimp only; omega) (by dsimp only; omega)]
  show (Char.ofNat (((n / 0x40000 * 0x40 + n / 0x1000 % 0x40) * 0x40 + n / 0x40 % 0x40) * 0x40 +
    n % 0x40) :: _, none) = _
  rw [hbits]
  rfl

/-! ## Characters and texts -/

/-- A character is no surrogate, and it does not lie past the last code point. -/
theorem toNat_bounds (c : Char) : c.toNat < 0xD800 ∨ 0xDFFF < c.toNat ∧ c.toNat < 0x110000 :=
  c.valid

/-- The bytes of a character are read as the character. -/
theorem foldl_push_encodeChar (done : List Char) (c : Char) :
    (encodeChar c).foldl push (done, none) = (c :: done, none) := by
  have hbounds := toNat_bounds c
  have hread : (encodeChar c).foldl push (done, none) = (Char.ofNat c.toNat :: done, none) := by
    unfold encodeChar
    dsimp only
    by_cases hone : c.toNat < 0x80
    · rw [if_pos hone, List.foldl_cons, push_begin (begin_one _ hone)]
      rfl
    by_cases htwo : c.toNat < 0x800
    · rw [if_neg hone, if_pos htwo]
      exact foldl_push_two done (by omega) htwo
    by_cases hthree : c.toNat < 0x10000
    · rw [if_neg hone, if_neg htwo, if_pos hthree]
      exact foldl_push_three done (by omega) hthree (by omega)
    · rw [if_neg hone, if_neg htwo, if_neg hthree]
      exact foldl_push_four done (by omega) (by omega)
  rw [hread, Char.ofNat_toNat]

/-- Every text is read back from its bytes. -/
theorem decode_encode (t : List Char) : decode (encode t) = t := by
  have hfold : ∀ done : List Char,
      (encode t).foldl push (done, none) = (t.reverse ++ done, none) := by
    induction t with
    | nil => exact fun done => rfl
    | cons c t ih =>
      intro done
      rw [encode_cons, List.foldl_append, foldl_push_encodeChar, ih, List.reverse_cons,
        List.append_assoc]
      rfl
  unfold decode
  rw [hfold, List.append_nil]
  exact List.reverse_reverse t

end SourceGrade.Text.Utf8
