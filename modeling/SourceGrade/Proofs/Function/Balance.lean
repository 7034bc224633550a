import Mathlib.Data.List.TakeWhile
import SourceGrade.Function.Find
import SourceGrade.Proofs.Function.Body

set_option autoImplicit false

/-!
# Where a body ends

The depth of braces compares two counts, so the end of a body can be told without a depth: it is the
first closing brace in the window of the scan up to which a brace has been opened and as many have
been closed as opened. `Body.EndsAt` says this, and both ways to cut a body follow it. Where there
is no such brace they take a piece of the first line.

A closing brace before the first opening one makes the depth negative, and the scan goes on until it
is zero again. So a body is well nested if and only if it opens a brace before it closes one.
-/

namespace SourceGrade

theorem braceDepth_eq_count (t : List Char) :
    braceDepth t = (t.count '{' : Int) - t.count '}' := by
  induction t with
  | nil => rfl
  | cons c t ih =>
    rw [braceDepth_cons, ih, List.count_cons, List.count_cons]
    unfold braceStep
    split
    · rename_i hopen
      subst hopen
      simp
      omega
    · rename_i hopen
      split
      · rename_i hclose
        subst hclose
        simp
        omega
      · rename_i hclose
        simp [hopen, hclose]

namespace Body

variable {t : List Char} {start i : Nat} {limit : Int}

/-! ## The end of a body -/

/-- A closing brace up to which, from `start` on, a brace has been opened and as many have been
closed as opened. -/
structure Balances (t : List Char) (start i : Nat) : Prop where
  /-- It is a closing brace. -/
  brace : t[i]? = some '}'
  /-- A brace has been opened. -/
  opened : '{' ∈ slice t start (i + 1)
  /-- Both kinds of braces are equally many. -/
  even : (slice t start (i + 1)).count '{' = (slice t start (i + 1)).count '}'

/-- The first balance from `start` on within the window of a scan. -/
def EndsAt (t : List Char) (start : Nat) (limit : Int) (i : Nat) : Prop :=
  IsFirst (fun i => (i : Int) < min (t.length : Int) (start + limit + 1) ∧ Balances t start i)
    start i

theorem closes_iff_balances (h : start ≤ i) : Closes t start i ↔ Balances t start i := by
  have hlength : i + 1 - start + start = i + 1 := by omega
  have hopened : '{' ∈ slice t start (i + 1) ↔
      ∃ k, start ≤ k ∧ k < i + 1 ∧ t[k]? = some '{' := by
    unfold slice
    rw [mem_take_drop, hlength]
  have heven : (slice t start (i + 1)).count '{' = (slice t start (i + 1)).count '}' ↔
      braceDepth (t.take (i + 1)) = braceDepth (t.take start) := by
    have hdepth := braceDepth_take_drop t start (i + 1 - start)
    rw [hlength, braceDepth_eq_count] at hdepth
    unfold slice
    omega
  constructor
  · intro hcloses
    obtain ⟨k, hle, hlt, hk⟩ := hcloses.opened
    exact ⟨hcloses.brace, hopened.mpr ⟨k, hle, by omega, hk⟩, heven.mpr hcloses.level⟩
  · intro hbalances
    obtain ⟨k, hle, hlt, hk⟩ := hopened.mp hbalances.opened
    have hne : k ≠ i := by
      intro heq
      rw [heq, hbalances.brace] at hk
      simp at hk
    exact ⟨hbalances.brace, ⟨k, hle, by omega, hk⟩, heven.mp hbalances.even⟩

theorem lt_scanEnd_iff (h : start ≤ i) :
    i < scanEnd t.length start limit ↔ (i : Int) < min (t.length : Int) (start + limit + 1) := by
  unfold scanEnd
  omega

/-- The index of the braces finds the end of a body. -/
theorem closing?_eq_some_iff_endsAt :
    (BraceIndex.ofText t).closing? start (scanEnd t.length start limit) = some i ↔
      EndsAt t start limit i := by
  rw [(BraceIndex.describes_ofText t).closing?_eq_some_iff, ← isFirst_and_lt_iff]
  refine isFirst_congr fun j hj => ?_
  rw [closes_iff_balances hj, lt_scanEnd_iff hj, and_comm]

theorem closing?_eq_none_iff_endsAt :
    (BraceIndex.ofText t).closing? start (scanEnd t.length start limit) = none ↔
      ∀ i, ¬EndsAt t start limit i := by
  simp only [← closing?_eq_some_iff_endsAt, Option.eq_none_iff_forall_ne_some, ne_eq]

/-! ## Both ways to cut a body -/

theorem scan_of_endsAt (h : EndsAt t start limit i) :
    scan t start limit = slice t start (i + 1) := by
  have hclosed := closedLength?_slice t start (scanEnd t.length start limit)
  rw [closing?_eq_some_iff_endsAt.mpr h, Option.map_some] at hclosed
  unfold scan
  simp only [hclosed]
  rfl

theorem scan_of_not_endsAt (h : ∀ i, ¬EndsAt t start limit i) :
    scan t start limit = restOfLine t start limit (nextLineFeed? t start) := by
  have hclosed := closedLength?_slice t start (scanEnd t.length start limit)
  rw [closing?_eq_none_iff_endsAt.mpr h, Option.map_none] at hclosed
  unfold scan
  simp only [hclosed]

theorem lookUp_of_endsAt (h : EndsAt t start limit i) :
    lookUp t (.ofText t) (.ofText t) start limit = slice t start (i + 1) := by
  unfold lookUp
  rw [closing?_eq_some_iff_endsAt.mpr h]

theorem lookUp_of_not_endsAt (h : ∀ i, ¬EndsAt t start limit i) :
    lookUp t (.ofText t) (.ofText t) start limit =
      restOfLine t start limit (nextLineFeed? t start) := by
  unfold lookUp
  rw [closing?_eq_none_iff_endsAt.mpr h, lineEnd?_ofText]

/-! ## The rest of the line -/

theorem restOfLine_isPrefix (t : List Char) (start : Nat) (limit : Int) (lineEnd? : Option Nat) :
    restOfLine t start limit lineEnd? <+: t.drop start :=
  List.take_prefix _ _

/-- The rest of the line ends before the line does. -/
theorem lineFeed_notMem_restOfLine (t : List Char) (start : Nat) (limit : Int) :
    '\n' ∉ restOfLine t start limit (nextLineFeed? t start) := by
  intro hmem
  unfold restOfLine slice at hmem
  obtain ⟨k, hle, hlt, hk⟩ := mem_take_drop.mp hmem
  obtain ⟨j, hj, hfirst⟩ := IsFirst.exists_le (P := fun k => t[k]? = some '\n') hle hk
  rw [nextLineFeed?_eq_some_iff.mpr hfirst, Option.getD_some] at hlt
  have hstart := hfirst.le
  omega

theorem length_restOfLine_le (t : List Char) (start : Nat) (limit : Int) (lineEnd? : Option Nat) :
    ((restOfLine t start limit lineEnd?).length : Int) ≤ max limit fallbackLength := by
  have hlength : (restOfLine t start limit lineEnd?).length ≤ max limit.toNat fallbackLength := by
    unfold restOfLine slice
    rw [List.length_take]
    omega
  omega

/-! ## The end is the first balance -/

/-- More room for the scan leaves the end of a body where it is. -/
theorem EndsAt.of_le {larger : Int} (h : EndsAt t start limit i) (hle : limit ≤ larger) :
    EndsAt t start larger i := by
  refine ⟨h.le, ⟨?_, h.holds.2⟩, ?_⟩
  · have hwindow := h.holds.1
    omega
  · rintro j hj hlt ⟨-, hbalances⟩
    have hwindow := h.holds.1
    exact h.least j hj hlt ⟨by omega, hbalances⟩

/-- A way to cut the body that begins at `start`, given how far a scan may go, ends each body at the
first balance in the window. -/
structure CutsAtFirstBalance (t : List Char) (start : Nat) (cut : Int → List Char) : Prop where
  /-- The body ends with the first balance in the window. -/
  balanced : ∀ limit i, EndsAt t start limit i → cut limit = slice t start (i + 1)
  /-- Without a balance it is a piece of the first line of a bounded length. -/
  unbalanced : ∀ limit, (∀ i, ¬EndsAt t start limit i) →
    cut limit <+: t.drop start ∧ '\n' ∉ cut limit ∧
      ((cut limit).length : Int) ≤ max limit fallbackLength
  /-- More room for the scan does not change a body that ends with a balance. -/
  stable : ∀ limit larger i, limit ≤ larger → EndsAt t start limit i → cut larger = cut limit
  /-- A function whose body does not end with a balance takes one line. -/
  oneLine : ∀ limit (c : Candidate), (∀ i, ¬EndsAt t start limit i) →
    (FunctionInfo.ofBody c (cut limit)).lineCount = 1

/-- It is enough to know what is cut in both cases. -/
theorem CutsAtFirstBalance.of_cases {cut : Int → List Char}
    (hbalanced : ∀ limit i, EndsAt t start limit i → cut limit = slice t start (i + 1))
    (hrest : ∀ limit, (∀ i, ¬EndsAt t start limit i) →
      cut limit = restOfLine t start limit (nextLineFeed? t start)) :
    CutsAtFirstBalance t start cut where
  balanced := hbalanced
  unbalanced := by
    intro limit h
    rw [hrest limit h]
    exact ⟨restOfLine_isPrefix .., lineFeed_notMem_restOfLine t start limit,
      length_restOfLine_le ..⟩
  stable := by
    intro limit larger i hle h
    rw [hbalanced limit i h, hbalanced larger i (h.of_le hle)]
  oneLine := by
    intro limit c h
    have hnone : Text.lineFeeds (cut limit) = 0 := by
      rw [hrest limit h]
      exact List.count_eq_zero.mpr (lineFeed_notMem_restOfLine t start limit)
    unfold FunctionInfo.ofBody
    rw [hnone]
    rfl

/-- Whether it is read forward or looked up, a body ends at the first balance in the window of the
scan, and is a piece of the first line where there is none. -/
theorem cuts_at_first_balance (t : List Char) (start : Nat) :
    CutsAtFirstBalance t start (scan t start) ∧
      CutsAtFirstBalance t start (lookUp t (.ofText t) (.ofText t) start) :=
  ⟨.of_cases (fun _ _ => scan_of_endsAt) fun _ => scan_of_not_endsAt,
    .of_cases (fun _ _ => lookUp_of_endsAt) fun _ => lookUp_of_not_endsAt⟩

/-! ## Nesting -/

/-- No prefix closes more braces than it opens, and the whole closes as many as it opens. -/
structure WellNested (s : List Char) : Prop where
  /-- A prefix opens at least as many braces as it closes. -/
  prefixes : ∀ p, p <+: s → p.count '}' ≤ p.count '{'
  /-- All that is opened is closed. -/
  even : s.count '{' = s.count '}'

/-- Once a brace has been opened, the depth does not fall below zero before the scan ends. -/
theorem depth_nonneg_of_opened {cs : List Char} {depth : Int} {n : Nat} (hdepth : 0 < depth)
    (h : closedLength? depth true cs = some n) (m : Nat) (hm : m ≤ n) :
    0 ≤ depth + braceDepth (cs.take m) := by
  induction cs generalizing depth n m with
  | nil => simp [closedLength?] at h
  | cons c cs ih =>
    cases m with
    | zero =>
      simp
      omega
    | succ m =>
      rw [List.take_succ_cons, braceDepth_cons, ← Int.add_assoc]
      unfold closedLength? at h
      dsimp only at h
      split at h
      · rename_i hends
        simp only [Bool.and_eq_true, beq_iff_eq] at hends
        obtain rfl : n = 1 := (Option.some.inj h).symm
        obtain rfl : m = 0 := by omega
        simp [hends.2]
      · rename_i hgoes
        obtain ⟨k, hk, rfl⟩ := Option.map_eq_some_iff.mp h
        have hpos : 0 < depth + braceStep c := by
          unfold braceStep at hgoes ⊢
          by_cases hclose : c = '}'
          · subst hclose
            simp at hgoes ⊢
            omega
          · split <;> omega
        exact ih hpos hk m (by omega)

/-- If a brace is opened before one is closed, the depth does not fall below zero before the scan
ends. -/
theorem depth_nonneg_of_opens_first {cs : List Char} {n : Nat}
    (h : closedLength? 0 false cs = some n) (hfirst : '}' ∉ (cs.take n).takeWhile (· ≠ '{'))
    (m : Nat) (hm : m ≤ n) : 0 ≤ braceDepth (cs.take m) := by
  induction cs generalizing n m with
  | nil => simp [closedLength?] at h
  | cons c cs ih =>
    cases m with
    | zero => simp
    | succ m =>
      rw [List.take_succ_cons, braceDepth_cons]
      obtain ⟨k, rfl⟩ : ∃ k, n = k + 1 := ⟨n - 1, by omega⟩
      rw [List.take_succ_cons] at hfirst
      by_cases hopen : c = '{'
      · subst hopen
        have hrest : closedLength? 1 true cs = some k := by
          simpa [closedLength?, braceStep] using h
        exact depth_nonneg_of_opened (by omega) hrest m (by omega)
      · have hclose : c ≠ '}' := by
          rintro rfl
          simp at hfirst
        have hkept : (c == '{') = false := by simpa using hopen
        have hrest : closedLength? 0 false cs = some k := by
          simpa [closedLength?, braceStep, hkept, hopen, hclose] using h
        have hfirst' : '}' ∉ (cs.take k).takeWhile (· ≠ '{') := by
          simpa [hopen, hclose, Ne.symm hclose] using hfirst
        have hstep : braceStep c = 0 := by simp [braceStep, hopen, hclose]
        rw [hstep, Int.zero_add]
        exact ih hrest hfirst' m (by omega)

theorem wellNested_take_of_opens_first {cs : List Char} {n : Nat}
    (h : closedLength? 0 false cs = some n) (hfirst : '}' ∉ (cs.take n).takeWhile (· ≠ '{'))
    (heven : (cs.take n).count '{' = (cs.take n).count '}') : WellNested (cs.take n) where
  prefixes := by
    intro p hp
    have hlength : p.length ≤ n := Nat.le_trans hp.length_le (List.length_take_le n cs)
    have htake : p = cs.take p.length :=
      List.prefix_iff_eq_take.mp (hp.trans (List.take_prefix n cs))
    have hdepth := depth_nonneg_of_opens_first h hfirst p.length hlength
    rw [← htake, braceDepth_eq_count] at hdepth
    omega
  even := heven

/-- A well nested piece opens a brace before it closes one. -/
theorem WellNested.opens_first {s : List Char} (h : WellNested s) :
    '}' ∉ s.takeWhile (· ≠ '{') := by
  intro hclose
  have hprefix := h.prefixes _ (List.takeWhile_prefix (· ≠ '{'))
  have hnone : (s.takeWhile (· ≠ '{')).count '{' = 0 := by
    refine List.count_eq_zero.mpr fun hopen => ?_
    simpa using List.mem_takeWhile_imp hopen
  have hsome : 0 < (s.takeWhile (· ≠ '{')).count '}' := List.count_pos_iff.mpr hclose
  omega

/-- Whether a scan finds the end of a body, so that the rest of the line need not stand for it. -/
def findsEnd (t : List Char) (start : Nat) (limit : Int) : Bool :=
  (closedLength? 0 false (slice t start (scanEnd t.length start limit))).isSome

theorem findsEnd_iff : findsEnd t start limit = true ↔ ∃ i, EndsAt t start limit i := by
  unfold findsEnd
  rw [closedLength?_slice, Option.isSome_map, Option.isSome_iff_exists]
  simp only [closing?_eq_some_iff_endsAt]

/-- A body that ends with a balance closes as many braces as it opens. It is well nested if and only
if it opens a brace before it closes one. -/
theorem wellNested_iff_opens_first (h : findsEnd t start limit = true) {body : List Char}
    (hbody : body = scan t start limit ∨
      body = lookUp t (.ofText t) (.ofText t) start limit) :
    body.count '{' = body.count '}' ∧ (WellNested body ↔ '}' ∉ body.takeWhile (· ≠ '{')) := by
  obtain ⟨i, hi⟩ := findsEnd_iff.mp h
  have hslice : body = slice t start (i + 1) := by
    rcases hbody with rfl | rfl
    · exact scan_of_endsAt hi
    · exact lookUp_of_endsAt hi
  have hclosed := closedLength?_slice t start (scanEnd t.length start limit)
  rw [closing?_eq_some_iff_endsAt.mpr hi, Option.map_some] at hclosed
  have htake : slice t start (i + 1) =
      (slice t start (scanEnd t.length start limit)).take (i + 1 - start) := by
    have hwindow := (lt_scanEnd_iff hi.le).mpr hi.holds.1
    rw [take_slice t (by have hle := hi.le; omega)]
    rfl
  have heven := hi.holds.2.even
  subst hslice
  refine ⟨heven, WellNested.opens_first, fun hfirst => ?_⟩
  rw [htake] at hfirst heven ⊢
  exact wellNested_take_of_opens_first hclosed hfirst heven

/-- A function with a block in its body, and more text. -/
def blockInBody : List Char := "function f() \x7b if (x) \x7b g(); \x7d \x7d\nh();".toList

theorem wellNested_iff_opens_first_blockInBody :
    findsEnd blockInBody 0 defaultLimit = true ∧
      (scan blockInBody 0 defaultLimit).count '{' = (scan blockInBody 0 defaultLimit).count '}' ∧
      WellNested (scan blockInBody 0 defaultLimit) :=
  have h := wellNested_iff_opens_first (by decide : findsEnd blockInBody 0 defaultLimit = true)
    (.inl rfl)
  ⟨by decide, h.1, h.2.mpr (by decide)⟩

/-- A signature without a body at the end of one type, and a function in the next. -/
def signatureAtEnd : List Char := "int f();\n\x7d\nclass B \x7b int g() \x7b \x7d \x7d".toList

/-- The braces of a body may be closed before they are opened. -/
theorem scan_closes_first :
    ¬∀ t start limit, findsEnd t start limit = true → WellNested (scan t start limit) := by
  intro hall
  exact absurd (hall signatureAtEnd 0 defaultLimit (by decide)).opens_first (by decide)

end Body

end SourceGrade
