import SourceGrade.Pattern.Outcomes

set_option autoImplicit false

/-!
# The ends of a match

Which places `Pattern.outcomes` lists, pattern by pattern, as a statement about the characters that
are passed over. A match passes over a piece of the text and leaves the rest; `Cursor.past` is the
place where it ends.
-/

namespace SourceGrade

namespace Cursor

/-- The place after a piece that `rest` follows. -/
def past (c : Cursor) (piece rest : List Char) : Cursor :=
  ⟨piece.getLast?.or c.before, rest, c.offset + piece.length, c.marked⟩

/-- What is remembered of a match is the piece that it passes over. -/
theorem marking_past {c : Cursor} {piece rest : List Char} (h : c.rest = piece ++ rest) :
    (c.past piece rest).marking c = { c.past piece rest with marked := some piece } := by
  have hlength : c.offset + piece.length - c.offset = piece.length := Nat.add_sub_cancel_left _ _
  unfold marking past
  rw [h, hlength, List.take_left]

/-- Passing over a first character and then over others is passing over all of them. -/
theorem past_cons (c : Cursor) (x : Char) (piece rest : List Char) :
    past ⟨some x, piece ++ rest, c.offset + 1, c.marked⟩ piece rest = c.past (x :: piece) rest := by
  unfold past
  rw [List.getLast?_cons, List.length_cons, Nat.add_right_comm, ← Nat.add_assoc]
  cases piece.getLast? <;> rfl

/-- Passing over a piece and then over another one is passing over both. -/
theorem past_past (c : Cursor) (piece piece' rest rest' : List Char) :
    (c.past piece rest).past piece' rest' = c.past (piece ++ piece') rest' := by
  unfold past
  rw [List.getLast?_append, Option.or_assoc, List.length_append, Nat.add_assoc]

theorem isPrefixOf?_eq_some_iff {s t rest : List Char} :
    s.isPrefixOf? t = some rest ↔ t = s ++ rest := by
  induction s generalizing t with
  | nil =>
    show some t = some rest ↔ t = rest
    rw [Option.some.injEq]
  | cons x s ih =>
    cases t with
    | nil =>
      show none = some rest ↔ [] = x :: (s ++ rest)
      simp
    | cons y t =>
      show (if x == y then s.isPrefixOf? t else none) = some rest ↔ y :: t = x :: (s ++ rest)
      by_cases hxy : x = y
      · simp [hxy, ih]
      · simp [hxy, Ne.symm hxy]

/-- The next characters are passed over if they are the given ones. -/
theorem past?_eq_some_iff {c d : Cursor} {s : List Char} :
    c.past? s = some d ↔ ∃ rest, c.rest = s ++ rest ∧ d = c.past s rest := by
  unfold past?
  rw [Option.map_eq_some_iff]
  constructor
  · rintro ⟨rest, hrest, rfl⟩
    refine ⟨rest, isPrefixOf?_eq_some_iff.mp hrest, ?_⟩
    unfold past
    cases s.getLast? <;> rfl
  · rintro ⟨rest, hrest, rfl⟩
    refine ⟨rest, isPrefixOf?_eq_some_iff.mpr hrest, ?_⟩
    unfold past
    cases s.getLast? <;> rfl

/-! ## Runs -/

/-- The length of the longest run of a class, within a bound if there is one. -/
def runLength (ok : Char → Bool) : Option Nat → List Char → Nat
  | _, [] => 0
  | some 0, _ :: _ => 0
  | most, x :: rest => if ok x then runLength ok (most.map (· - 1)) rest + 1 else 0

/-- The place after so many of the next characters. -/
def advance (c : Cursor) (n : Nat) : Cursor := c.past (c.rest.take n) (c.rest.drop n)

theorem advance_succ {c : Cursor} {x : Char} {rest : List Char} (h : c.rest = x :: rest) (n : Nat) :
    c.advance (n + 1) = advance ⟨some x, rest, c.offset + 1, c.marked⟩ n := by
  unfold advance
  rw [h, List.take_succ_cons, List.drop_succ_cons, ← past_cons, List.take_append_drop]

/-- A run goes on where it may still grow and the next character is of the class. -/
theorem runStopsOnto_cons (ok : Char → Bool) (marked : Option (List Char)) (most : Option Nat)
    (before : Option Char) (x : Char) (rest : List Char) (offset : Nat) (nearer : List Cursor) :
    runStopsOnto ok marked most before (x :: rest) offset nearer =
      if most ≠ some 0 ∧ ok x then
        runStopsOnto ok marked (most.map (· - 1)) (some x) rest (offset + 1)
          (⟨before, x :: rest, offset, marked⟩ :: nearer)
      else ⟨before, x :: rest, offset, marked⟩ :: nearer := by
  match most with
  | some 0 => simp [runStopsOnto]
  | some (m + 1) => simp [runStopsOnto]
  | none => simp [runStopsOnto]

theorem runLength_cons (ok : Char → Bool) (most : Option Nat) (x : Char) (rest : List Char) :
    runLength ok most (x :: rest) =
      if most ≠ some 0 ∧ ok x then runLength ok (most.map (· - 1)) rest + 1 else 0 := by
  match most with
  | some 0 => simp [runLength]
  | some (m + 1) => simp [runLength]
  | none => simp [runLength]

/-- The stops of a run are the places after ever fewer characters of the longest one. -/
theorem runStopsOnto_eq (ok : Char → Bool) (most : Option Nat) (before : Option Char)
    (rest : List Char) (offset : Nat) (marked : Option (List Char)) (nearer : List Cursor) :
    runStopsOnto ok marked most before rest offset nearer =
      ((List.range (runLength ok most rest + 1)).map
        (advance ⟨before, rest, offset, marked⟩)).reverse ++ nearer := by
  induction rest generalizing before offset most nearer with
  | nil => rfl
  | cons x rest ih =>
    rw [runStopsOnto_cons, runLength_cons]
    split
    · have hshift : advance ⟨before, x :: rest, offset, marked⟩ ∘ Nat.succ =
          advance ⟨some x, rest, offset + 1, marked⟩ := funext fun n => advance_succ rfl n
      rw [ih, List.range_succ_eq_map (n := _ + 1), List.map_cons, List.map_map, hshift,
        List.reverse_cons, List.append_assoc]
      rfl
    · rfl

/-- A run stops after so many characters if they are of the class and as many as it may take. -/
theorem le_runLength_iff {ok : Char → Bool} {most : Option Nat} {rest : List Char} {n : Nat} :
    n ≤ runLength ok most rest ↔
      n ≤ rest.length ∧ (∀ x ∈ rest.take n, ok x = true) ∧ ∀ m, most = some m → n ≤ m := by
  induction rest generalizing most n with
  | nil =>
    have hzero : runLength ok most [] = 0 := rfl
    rw [hzero, List.length_nil]
    constructor
    · intro h
      obtain rfl := Nat.le_zero.mp h
      exact ⟨h, by simp, fun m _ => Nat.zero_le m⟩
    · exact fun h => h.1
  | cons x rest ih =>
    cases n with
    | zero => simp
    | succ n =>
      rw [runLength_cons, List.length_cons, List.take_succ_cons, List.forall_mem_cons]
      split
      · rename_i hgo
        have hmost : (∀ m, most.map (· - 1) = some m → n ≤ m) ↔
            ∀ m, most = some m → n + 1 ≤ m := by
          match most, hgo.1 with
          | none, _ => simp
          | some (m + 1), _ => simp
        rw [Nat.succ_le_succ_iff, ih, Nat.succ_le_succ_iff, hmost]
        simp only [hgo.2, true_and]
      · rename_i hstop
        refine iff_of_false (Nat.not_succ_le_zero n) ?_
        rintro ⟨-, ⟨hx, -⟩, hm⟩
        refine hstop ⟨fun hzero => ?_, hx⟩
        exact Nat.not_succ_le_zero n (hm 0 hzero)

theorem mem_drop_range {n k i : Nat} : i ∈ (List.range n).drop k ↔ k ≤ i ∧ i < n := by
  rw [List.mem_drop_iff_getElem]
  constructor
  · rintro ⟨j, hj, rfl⟩
    rw [List.length_range] at hj
    rw [List.getElem_range]
    omega
  · rintro ⟨hk, hi⟩
    exact ⟨i - k, by rw [List.length_range]; omega, by rw [List.getElem_range]; omega⟩

/-- The lengths of a run that is long enough. -/
theorem mem_longEnough {f : Nat → Cursor} {d : Cursor} {least longest : Nat} :
    d ∈ (((List.range (longest + 1)).map f).reverse).take (longest + 1 - least) ↔
      ∃ n, least ≤ n ∧ n ≤ longest ∧ f n = d := by
  rw [List.take_reverse, List.mem_reverse, List.length_map, List.length_range, ← List.map_drop,
    List.mem_map]
  constructor
  · rintro ⟨n, hn, rfl⟩
    rw [mem_drop_range] at hn
    exact ⟨n, by omega, by omega, rfl⟩
  · rintro ⟨n, hle, hn, rfl⟩
    exact ⟨n, mem_drop_range.mpr (by omega), rfl⟩

/-- A run that takes as much or as little as possible first may stop after any of its characters
but the first few. -/
theorem mem_runStops_iff {c d : Cursor} {ok : Char → Bool} {least : Nat} {most : Option Nat}
    {order : RunOrder} (horder : order ≠ .longestOnly) :
    d ∈ c.runStops ok least most order ↔
      ∃ piece rest, c.rest = piece ++ rest ∧ (∀ x ∈ piece, ok x = true) ∧
        least ≤ piece.length ∧ (∀ m, most = some m → piece.length ≤ m) ∧ d = c.past piece rest := by
  have hmem : d ∈ c.runStops ok least most order ↔
      ∃ n, least ≤ n ∧ n ≤ runLength ok most c.rest ∧ c.advance n = d := by
    rw [← mem_longEnough]
    unfold runStops
    rw [runStopsOnto_eq]
    simp only [List.append_nil, List.length_reverse, List.length_map, List.length_range]
    cases order with
    | longestFirst => rfl
    | shortestFirst => exact List.mem_reverse
    | longestOnly => exact absurd rfl horder
  rw [hmem]
  constructor
  · rintro ⟨n, hleast, hn, rfl⟩
    obtain ⟨hlen, hok, hm⟩ := le_runLength_iff.mp hn
    have htake : (c.rest.take n).length = n := by rw [List.length_take, Nat.min_eq_left hlen]
    refine ⟨c.rest.take n, c.rest.drop n, (List.take_append_drop n c.rest).symm, hok, ?_, ?_, rfl⟩
    · rwa [htake]
    · rwa [htake]
  · rintro ⟨piece, rest, hrest, hok, hleast, hm, rfl⟩
    have htake : c.rest.take piece.length = piece := by rw [hrest, List.take_left]
    have hdrop : c.rest.drop piece.length = rest := by rw [hrest, List.drop_left]
    refine ⟨piece.length, hleast, le_runLength_iff.mpr ⟨?_, ?_, hm⟩, ?_⟩
    · rw [hrest, List.length_append]
      exact Nat.le_add_right _ _
    · rwa [htake]
    · unfold advance
      rw [htake, hdrop]

end Cursor

/-! ## Patterns -/

namespace Pattern

variable {p q : Pattern} {c d : Cursor}

@[simp] theorem mem_outcomes_nothing : d ∈ outcomes .nothing c ↔ d = c := List.mem_singleton

@[simp] theorem mem_outcomes_text {s : List Char} :
    d ∈ outcomes (.text s) c ↔ ∃ rest, c.rest = s ++ rest ∧ d = c.past s rest := by
  unfold outcomes
  rw [Option.mem_toList, Cursor.past?_eq_some_iff]

@[simp] theorem mem_outcomes_seq :
    d ∈ outcomes (.seq p q) c ↔ ∃ e ∈ p.outcomes c, d ∈ q.outcomes e := List.mem_flatMap

/-- A sequence goes on from the only end of its first pattern. -/
theorem outcomes_seq_of_eq_singleton (h : p.outcomes c = [d]) :
    outcomes (.seq p q) c = q.outcomes d := by
  rw [outcomes, h, List.flatMap_singleton]

@[simp] theorem mem_outcomes_alt :
    d ∈ outcomes (.alt p q) c ↔ d ∈ p.outcomes c ∨ d ∈ q.outcomes c := List.mem_append

@[simp] theorem mem_outcomes_mark :
    d ∈ outcomes (.mark p) c ↔ ∃ e ∈ p.outcomes c, e.marking c = d := List.mem_map

@[simp] theorem mem_outcomes_wordEdge :
    d ∈ outcomes .wordEdge c ↔ c.atWordEdge = true ∧ d = c := by
  unfold outcomes
  split <;> simp_all

@[simp] theorem mem_outcomes_after {ok : Char → Bool} :
    d ∈ outcomes (.after ok) c ↔ c.before.any ok = true ∧ d = c := by
  unfold outcomes
  split <;> simp_all

@[simp] theorem mem_outcomes_notAfter {ok : Char → Bool} :
    d ∈ outcomes (.notAfter ok) c ↔ c.before.any ok = false ∧ d = c := by
  unfold outcomes
  split <;> simp_all

theorem isEmpty_outcomes (p : Pattern) (c : Cursor) :
    (p.outcomes c).isEmpty = !(p.search c some).isSome := by
  rw [search_eq_findSome?, findSome?_some_eq_head?]
  cases p.outcomes c <;> rfl

@[simp] theorem mem_outcomes_ahead :
    d ∈ outcomes (.ahead p) c ↔ (p.search c some).isSome = true ∧ d = c := by
  unfold outcomes
  rw [isEmpty_outcomes]
  cases (p.search c some).isSome <;> simp

@[simp] theorem mem_outcomes_notAhead :
    d ∈ outcomes (.notAhead p) c ↔ (p.search c some).isSome = false ∧ d = c := by
  unfold outcomes
  rw [isEmpty_outcomes]
  cases (p.search c some).isSome <;> simp

/-- One of the given patterns matches. -/
theorem mem_outcomes_anyOf {ps : List Pattern} :
    d ∈ outcomes (anyOf ps) c ↔ ∃ p ∈ ps, d ∈ p.outcomes c := by
  induction ps with
  | nil => simp [anyOf, outcomes]
  | cons p ps ih =>
    cases ps with
    | nil => simp [anyOf]
    | cons q ps =>
      rw [anyOf, mem_outcomes_alt, ih]
      simp only [List.mem_cons, exists_eq_or_imp]

/-- One of the given words is passed over. -/
theorem mem_outcomes_anyOf_word {words : List String} :
    d ∈ outcomes (anyOf (words.map word)) c ↔
      ∃ w ∈ words, ∃ rest, c.rest = w.toList ++ rest ∧ d = c.past w.toList rest := by
  rw [mem_outcomes_anyOf]
  constructor
  · rintro ⟨p, hp, hd⟩
    obtain ⟨w, hw, rfl⟩ := List.mem_map.mp hp
    exact ⟨w, hw, mem_outcomes_text.mp hd⟩
  · rintro ⟨w, hw, hrest⟩
    exact ⟨word w, List.mem_map_of_mem hw, mem_outcomes_text.mpr hrest⟩

/-- Any number of characters of a class is passed over. -/
theorem mem_outcomes_many {ok : Char → Bool} :
    d ∈ outcomes (many ok) c ↔
      ∃ piece rest, c.rest = piece ++ rest ∧ (∀ x ∈ piece, ok x = true) ∧ d = c.past piece rest := by
  unfold many outcomes
  rw [Cursor.mem_runStops_iff (by decide)]
  simp

end Pattern

end SourceGrade
