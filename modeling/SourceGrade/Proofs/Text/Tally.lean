import SourceGrade.Number.Total
import SourceGrade.Text.Blank
import SourceGrade.Text.Word

set_option autoImplicit false

/-!
# Tallies over the places of a text

A tally adds up what each place of a text counts for, seen from the character before it and the
text from it on. Occurrences of a word and maximal runs of a character are counted in this way.
Where a weight looks at nothing beyond the ends of its line, the tally of a text is the sum of those
of its lines.
-/

namespace SourceGrade.Text

variable {weight : Option Char → List Char → Nat}

/-- The sum of what the places of a text count for. -/
def tally (weight : Option Char → List Char → Nat) (t : List Char) : Nat :=
  Number.total ((List.range t.length).map fun i => weight (t.take i).getLast? (t.drop i))

/-- The weight that counts the places with a property. -/
def counting (ok : Option Char → List Char → Bool) (before : Option Char) (rest : List Char) :
    Nat := (ok before rest).toNat

theorem counting_eq_zero {ok : Option Char → List Char → Bool} {before : Option Char}
    {rest : List Char} (h : ¬ok before rest = true) : counting ok before rest = 0 := by
  unfold counting
  rw [Bool.not_eq_true] at h
  rw [h]
  rfl

/-- The same sum for a text that a character may precede, place by place. -/
def tallyFrom (weight : Option Char → List Char → Nat) : Option Char → List Char → Nat
  | _, [] => 0
  | before, x :: rest => weight before (x :: rest) + tallyFrom weight (some x) rest

theorem tallyFrom_nil (before : Option Char) : tallyFrom weight before [] = 0 := rfl

theorem tallyFrom_cons (before : Option Char) (x : Char) (rest : List Char) :
    tallyFrom weight before (x :: rest) =
      weight before (x :: rest) + tallyFrom weight (some x) rest := rfl

/-- What comes last is found after the first character, or is that. -/
theorem getLast?_cons_or (x : Char) (piece : List Char) (before : Option Char) :
    (x :: piece).getLast?.or before = piece.getLast?.or (some x) := by
  rw [List.getLast?_cons]
  cases piece.getLast? <;> rfl

theorem tallyFrom_eq_total (before : Option Char) (t : List Char) :
    tallyFrom weight before t =
      Number.total ((List.range t.length).map fun i =>
        weight ((t.take i).getLast?.or before) (t.drop i)) := by
  induction t generalizing before with
  | nil => rfl
  | cons x t ih =>
    have hlater : ∀ i, ((x :: t).take (i + 1)).getLast?.or before =
        (t.take i).getLast?.or (some x) := fun i => by
      rw [List.take_succ_cons, getLast?_cons_or]
    rw [tallyFrom_cons, ih, List.length_cons, List.range_succ_eq_map, List.map_cons,
      Number.total_cons, List.map_map]
    simp only [Function.comp_def, Nat.succ_eq_add_one, hlater, List.drop_succ_cons]
    rfl

theorem tally_eq_tallyFrom (t : List Char) : tally weight t = tallyFrom weight none t := by
  rw [tallyFrom_eq_total]
  simp only [Option.or_none]
  rfl

/-! ## Pieces that do not count -/

/-- A piece does not count if none of its characters begins anything that counts. -/
theorem tallyFrom_append_of_begin {piece : List Char}
    (h : ∀ x ∈ piece, ∀ before rest, weight before (x :: rest) = 0) (before : Option Char)
    (rest : List Char) :
    tallyFrom weight before (piece ++ rest) =
      tallyFrom weight (piece.getLast?.or before) rest := by
  induction piece generalizing before with
  | nil => rfl
  | cons x piece ih =>
    rw [List.cons_append, tallyFrom_cons, h x List.mem_cons_self, Nat.zero_add, getLast?_cons_or,
      ih fun y hy => h y (List.mem_cons_of_mem x hy)]

/-- A piece does not count if nothing that counts begins after any of its characters or after the
one before it. -/
theorem tallyFrom_append_of_before {x : Char} {piece : List Char}
    (h : ∀ y ∈ x :: piece, ∀ rest, weight (some y) rest = 0) (rest : List Char) :
    tallyFrom weight (some x) (piece ++ rest) =
      tallyFrom weight (piece.getLast?.or (some x)) rest := by
  induction piece generalizing x with
  | nil => rfl
  | cons y piece ih =>
    rw [List.cons_append, tallyFrom_cons, h x List.mem_cons_self, Nat.zero_add, getLast?_cons_or,
      ih fun z hz => h z (List.mem_cons_of_mem x hz)]

/-! ## Lines -/

/-- What a place counts for does not depend on other lines. -/
structure StaysInLine (weight : Option Char → List Char → Nat) : Prop where
  /-- Nothing counts at the end of a text. -/
  nil : ∀ before, weight before [] = 0
  /-- A line ends where a text ends. -/
  cut : ∀ before line rest, weight before (line ++ '\n' :: rest) = weight before line
  /-- A line begins where a text begins. -/
  start : ∀ rest, weight (some '\n') rest = weight none rest

theorem StaysInLine.tallyFrom_append (h : StaysInLine weight) (before : Option Char)
    (s t : List Char) :
    tallyFrom weight before (s ++ '\n' :: t) =
      tallyFrom weight before s + tallyFrom weight none t := by
  induction s generalizing before with
  | nil =>
    have hfeed : weight before ('\n' :: t) = 0 := (h.cut before [] t).trans (h.nil before)
    have hstart : tallyFrom weight (some '\n') t = tallyFrom weight none t := by
      cases t with
      | nil => rfl
      | cons x t => rw [tallyFrom_cons, tallyFrom_cons, h.start]
    rw [List.nil_append, tallyFrom_cons, hfeed, hstart, tallyFrom_nil]
  | cons x s ih =>
    have hcut : weight before (x :: (s ++ '\n' :: t)) = weight before (x :: s) :=
      h.cut before (x :: s) t
    rw [List.cons_append, tallyFrom_cons, tallyFrom_cons, hcut, ih, Nat.add_assoc]

/-- The tally of two texts, one after the other with a line feed between, is the sum of theirs. -/
theorem StaysInLine.tally_append (h : StaysInLine weight) (s t : List Char) :
    tally weight (s ++ '\n' :: t) = tally weight s + tally weight t := by
  rw [tally_eq_tallyFrom, tally_eq_tallyFrom, tally_eq_tallyFrom, h.tallyFrom_append]

/-! ## What is counted -/

/-- The given characters stand at a place. -/
def standsAt (s : List Char) (_before : Option Char) (rest : List Char) : Bool := s.isPrefixOf rest

/-- The given characters stand at a place as a whole word. -/
def wordAt (w : List Char) (before : Option Char) (rest : List Char) : Bool :=
  w.isPrefixOf rest && !before.any isWord && !(rest.drop w.length).head?.any isWord

/-- Half the length of the maximal run of a character that begins at a place, rounded down. -/
def halfRun (c : Char) (before : Option Char) (rest : List Char) : Nat :=
  if before = some c then 0 else (rest.takeWhile (· == c)).length / 2

/-- A text that a line feed cuts begins with the same characters, as far as they hold no line
feed. -/
theorem isPrefixOf_append_lineFeed {s : List Char} (hs : '\n' ∉ s) (line rest : List Char) :
    s.isPrefixOf (line ++ '\n' :: rest) = s.isPrefixOf line := by
  induction s generalizing line with
  | nil => rw [List.isPrefixOf_nil_left, List.isPrefixOf_nil_left]
  | cons x s ih =>
    rw [List.mem_cons, not_or] at hs
    cases line with
    | nil =>
      have hx : (x == '\n') = false := beq_false_of_ne (Ne.symm hs.1)
      rw [List.nil_append, List.isPrefixOf_cons_cons, hx, Bool.false_and]
      rfl
    | cons y line =>
      rw [List.cons_append, List.isPrefixOf_cons_cons, List.isPrefixOf_cons_cons, ih hs.2]

theorem head?_append_lineFeed {ok : Char → Bool} (hok : ok '\n' = false) (line rest : List Char) :
    (line ++ '\n' :: rest).head?.any ok = line.head?.any ok := by
  cases line with
  | nil => exact hok
  | cons x line => rfl

theorem takeWhile_append_lineFeed {ok : Char → Bool} (hok : ok '\n' = false)
    (line rest : List Char) : (line ++ '\n' :: rest).takeWhile ok = line.takeWhile ok := by
  induction line with
  | nil => rw [List.nil_append, List.takeWhile_cons_of_neg (by simp [hok]), List.takeWhile_nil]
  | cons x line ih => rw [List.cons_append, List.takeWhile_cons, List.takeWhile_cons, ih]

theorem staysInLine_standsAt {s : List Char} (hs : '\n' ∉ s) (hne : s ≠ []) :
    StaysInLine (counting (standsAt s)) where
  nil before := by
    obtain ⟨x, s, rfl⟩ := List.exists_cons_of_ne_nil hne
    rfl
  cut before line rest := by
    unfold counting standsAt
    rw [isPrefixOf_append_lineFeed hs]
  start rest := rfl

theorem wordAt_append_lineFeed {w : List Char} (hw : '\n' ∉ w) (before : Option Char)
    (line rest : List Char) : wordAt w before (line ++ '\n' :: rest) = wordAt w before line := by
  unfold wordAt
  rw [isPrefixOf_append_lineFeed hw]
  cases hstands : w.isPrefixOf line with
  | false => rfl
  | true =>
    have hle : w.length ≤ line.length := (List.isPrefixOf_iff_prefix.mp hstands).length_le
    rw [List.drop_append_of_le_length hle, head?_append_lineFeed (by decide)]

theorem staysInLine_wordAt {w : List Char} (hw : '\n' ∉ w) (hne : w ≠ []) :
    StaysInLine (counting (wordAt w)) where
  nil before := by
    obtain ⟨x, w, rfl⟩ := List.exists_cons_of_ne_nil hne
    rfl
  cut before line rest := congrArg Bool.toNat (wordAt_append_lineFeed hw before line rest)
  start rest := rfl

theorem staysInLine_halfRun {c : Char} (hc : c ≠ '\n') : StaysInLine (halfRun c) where
  nil before := by
    unfold halfRun
    rw [List.takeWhile_nil]
    exact ite_self 0
  cut before line rest := by
    have hfeed : ('\n' == c) = false := beq_false_of_ne (Ne.symm hc)
    unfold halfRun
    rw [takeWhile_append_lineFeed hfeed]
  start rest := by
    have hfeed : some '\n' ≠ some c := fun h => hc (Option.some.inj h).symm
    unfold halfRun
    rw [if_neg hfeed, if_neg nofun]

/-! ## Words -/

/-- The blank characters, by their code points. -/
def blankCodes : List Nat :=
  List.range' 9 5 ++ List.range' 28 5 ++ [0x85, 0xA0, 0x1680] ++ List.range' 0x2000 11 ++
    [0x2028, 0x2029, 0x202F, 0x205F, 0x3000]

theorem isWord_blankCodes : ∀ n ∈ blankCodes, isWord (Char.ofNat n) = false := by
  decide +kernel

/-- A blank is no word character. -/
theorem isWord_of_isBlank {c : Char} (h : isBlank c = true) : isWord c = false := by
  have hmem : c.toNat ∈ blankCodes := by
    unfold isBlank at h
    simp only [Bool.or_eq_true, Bool.and_eq_true, decide_eq_true_eq, beq_iff_eq] at h
    simp only [blankCodes, List.mem_append, List.mem_range'_1, List.mem_cons, List.not_mem_nil,
      or_false]
    omega
  rw [← Char.ofNat_toNat c]
  exact isWord_blankCodes c.toNat hmem

theorem wordAt_append {w rest : List Char} {before : Option Char} :
    wordAt w before (w ++ rest) = (!before.any isWord && !rest.head?.any isWord) := by
  have hstands : w.isPrefixOf (w ++ rest) = true :=
    List.isPrefixOf_iff_prefix.mpr (List.prefix_append w rest)
  unfold wordAt
  rw [hstands, List.drop_left, Bool.true_and]

theorem wordAt_eq_true_iff {w t : List Char} {before : Option Char} :
    wordAt w before t = true ↔
      before.any isWord = false ∧ ∃ rest, t = w ++ rest ∧ rest.head?.any isWord = false := by
  constructor
  · intro h
    obtain ⟨rest, rfl⟩ : w <+: t := by
      unfold wordAt at h
      rw [Bool.and_eq_true, Bool.and_eq_true] at h
      exact List.isPrefixOf_iff_prefix.mp h.1.1
    rw [wordAt_append, Bool.and_eq_true, Bool.not_eq_true', Bool.not_eq_true'] at h
    exact ⟨h.1, rest, rfl, h.2⟩
  · rintro ⟨hbefore, rest, rfl, hrest⟩
    rw [wordAt_append, hbefore, hrest]
    rfl

/-- A word is counted once where it stands as a whole: none begins within it. -/
theorem tallyFrom_wordAt {w : List Char} (hne : w ≠ []) (hw : ∀ x ∈ w, isWord x = true)
    {before : Option Char} {rest : List Char} (h : wordAt w before (w ++ rest) = true) :
    tallyFrom (counting (wordAt w)) before (w ++ rest) =
      1 + tallyFrom (counting (wordAt w)) (w.getLast?.or before) rest := by
  obtain ⟨x, piece, hpiece⟩ := List.exists_cons_of_ne_nil hne
  have hinside : ∀ y ∈ x :: piece, ∀ rest, counting (wordAt w) (some y) rest = 0 :=
    fun y hy rest => by
      have hword : isWord y = true := hw y (hpiece ▸ hy)
      unfold counting wordAt
      rw [Option.any_some, hword, Bool.not_true, Bool.and_false, Bool.false_and]
      rfl
  have hlast : w.getLast?.or before = piece.getLast?.or (some x) := by
    rw [hpiece, getLast?_cons_or]
  have hone : counting (wordAt w) before (w ++ rest) = 1 := congrArg Bool.toNat h
  have hcons : w ++ rest = x :: (piece ++ rest) := by rw [hpiece, List.cons_append]
  rw [hlast, ← tallyFrom_append_of_before hinside, hcons, tallyFrom_cons, ← hcons, hone]

end SourceGrade.Text
