import SourceGrade.Function.Body
import SourceGrade.Proofs.Function.BraceDepth

set_option autoImplicit false

/-!
# Two ways to find a body

`Body.scan` counts braces from zero at the signature, inside a window. `Body.lookUp` takes depths of
the whole text out of an index. Both stop at the first brace that closes what was opened from the
signature on, so they agree: `Body.lookUp_ofText`.
-/

namespace SourceGrade.Body

/-! ## The forward scan -/

/-- A closing brace at which the depth is back at zero after an opening brace. `depth` and `opened`
describe the characters before the given ones. -/
structure ClosesFrom (depth : Int) (opened : Bool) (cs : List Char) (i : Nat) : Prop where
  /-- It is a closing brace. -/
  brace : cs[i]? = some '}'
  /-- A brace has been opened. -/
  opened : opened = true ∨ '{' ∈ cs.take i
  /-- The depth is zero. -/
  level : depth + braceDepth (cs.take (i + 1)) = 0

theorem closesFrom_cons_zero {depth : Int} {opened : Bool} {c : Char} {cs : List Char} :
    ClosesFrom depth opened (c :: cs) 0 ↔
      (c == '}' && (opened || c == '{') && depth + braceStep c == 0) = true := by
  constructor
  · intro h
    have hc : c = '}' := by simpa using h.brace
    have ho : opened = true := by simpa using h.opened
    have hl : depth + braceStep c = 0 := by simpa [braceDepth_cons] using h.level
    simp [hc, ho, ← hl]
  · intro h
    simp only [Bool.and_eq_true, Bool.or_eq_true, beq_iff_eq] at h
    obtain ⟨⟨rfl, ho⟩, hl⟩ := h
    exact ⟨rfl, .inl (by simpa using ho), by simpa [braceDepth_cons] using hl⟩

theorem closesFrom_cons_succ {depth : Int} {opened : Bool} {c : Char} {cs : List Char} {i : Nat} :
    ClosesFrom depth opened (c :: cs) (i + 1) ↔
      ClosesFrom (depth + braceStep c) (opened || c == '{') cs i := by
  constructor
  · intro h
    refine ⟨by simpa using h.brace, ?_, ?_⟩
    · rcases h.opened with ho | hmem
      · simp [ho]
      · rcases List.mem_cons.mp hmem with rfl | hmem
        · simp
        · exact .inr hmem
    · rw [Int.add_assoc]
      exact h.level
  · intro h
    refine ⟨by simpa using h.brace, ?_, ?_⟩
    · rcases h.opened with ho | hmem
      · simp only [Bool.or_eq_true, beq_iff_eq] at ho
        rcases ho with ho | rfl
        · exact .inl ho
        · exact .inr (by simp)
      · exact .inr (List.mem_cons_of_mem c hmem)
    · have hl := h.level
      rw [Int.add_assoc] at hl
      exact hl

/-- The scan ends just after the first brace that closes. -/
theorem closedLength?_eq_some_iff (cs : List Char) (depth : Int) (opened : Bool) (n : Nat) :
    closedLength? depth opened cs = some n ↔
      ∃ i, IsFirst (ClosesFrom depth opened cs) 0 i ∧ n = i + 1 := by
  induction cs generalizing depth opened n with
  | nil =>
    refine iff_of_false (by simp [closedLength?]) ?_
    rintro ⟨i, hi, -⟩
    simpa using hi.holds.brace
  | cons c cs ih =>
    unfold closedLength?
    by_cases hzero : ClosesFrom depth opened (c :: cs) 0
    · have hfirst : IsFirst (ClosesFrom depth opened (c :: cs)) 0 0 :=
        ⟨Nat.le_refl 0, hzero, fun j _ hj => absurd hj (Nat.not_lt_zero j)⟩
      simp only [closesFrom_cons_zero.mp hzero, if_true, Option.some.injEq]
      constructor
      · rintro rfl
        exact ⟨0, hfirst, rfl⟩
      · rintro ⟨i, hi, rfl⟩
        rw [hi.unique hfirst]
    · have hshift : ∀ i, IsFirst (ClosesFrom depth opened (c :: cs)) 0 (i + 1) ↔
          IsFirst (ClosesFrom (depth + braceStep c) (opened || c == '{') cs) 0 i := fun i => by
        rw [isFirst_succ_iff hzero, isFirst_add_iff 1]
        simp only [closesFrom_cons_succ]
      rw [if_neg (mt closesFrom_cons_zero.mpr hzero), Option.map_eq_some_iff]
      simp only [ih]
      constructor
      · rintro ⟨m, ⟨i, hi, rfl⟩, rfl⟩
        exact ⟨i + 1, (hshift i).mpr hi, rfl⟩
      · rintro ⟨i, hi, rfl⟩
        cases i with
        | zero => exact absurd hi.holds hzero
        | succ i => exact ⟨i + 1, ⟨i, (hshift i).mp hi, rfl⟩, rfl⟩

/-! ## The window of the scan -/

theorem getElem?_slice (t : List Char) (start stop i : Nat) :
    (slice t start stop)[i]? = if i + start < stop then t[i + start]? else none := by
  unfold slice
  rw [List.getElem?_take, List.getElem?_drop, Nat.add_comm start i]
  by_cases h : i + start < stop
  · rw [if_pos h, if_pos (by omega)]
  · rw [if_neg h, if_neg (by omega)]

theorem take_slice {start stop i : Nat} (t : List Char) (h : i + start ≤ stop) :
    (slice t start stop).take i = (t.drop start).take i := by
  unfold slice
  rw [List.take_take, Nat.min_eq_left (by omega)]

/-- The depth that the scan has counted is the change of the depth of the text. -/
theorem braceDepth_take_drop (t : List Char) (start i : Nat) :
    braceDepth ((t.drop start).take i) =
      braceDepth (t.take (i + start)) - braceDepth (t.take start) := by
  rw [Nat.add_comm, List.take_add, braceDepth_append]
  omega

theorem mem_take_drop {t : List Char} {c : Char} {start i : Nat} :
    c ∈ (t.drop start).take i ↔ ∃ k, start ≤ k ∧ k < i + start ∧ t[k]? = some c := by
  rw [List.mem_iff_getElem?]
  constructor
  · rintro ⟨m, hm⟩
    rw [List.getElem?_take] at hm
    split at hm
    · rw [List.getElem?_drop] at hm
      exact ⟨start + m, by omega, by omega, hm⟩
    · exact absurd hm (by simp)
  · rintro ⟨k, hle, hlt, hk⟩
    refine ⟨k - start, ?_⟩
    rw [List.getElem?_take, if_pos (by omega), List.getElem?_drop, Nat.add_sub_cancel' hle, hk]

/-- What closes in the window closes in the text. -/
theorem closesFrom_slice_iff (t : List Char) (start stop i : Nat) :
    ClosesFrom 0 false (slice t start stop) i ↔ Closes t start (i + start) ∧ i + start < stop := by
  constructor
  · intro h
    have hbrace := h.brace
    rw [getElem?_slice] at hbrace
    split at hbrace
    · rename_i hlt
      have hopened := h.opened
      have hlevel := h.level
      rw [take_slice t (by omega)] at hopened hlevel
      rw [braceDepth_take_drop, Nat.add_right_comm] at hlevel
      refine ⟨⟨hbrace, mem_take_drop.mp (by simpa using hopened), by omega⟩, hlt⟩
    · exact absurd hbrace (by simp)
  · rintro ⟨h, hlt⟩
    refine ⟨by rw [getElem?_slice, if_pos hlt, h.brace], .inr ?_, ?_⟩
    · rw [take_slice t (by omega)]
      exact mem_take_drop.mpr h.opened
    · rw [take_slice t (by omega), braceDepth_take_drop, Nat.add_right_comm, h.level]
      omega

/-- The scan of a window finds the brace that the index finds. -/
theorem closedLength?_slice (t : List Char) (start stop : Nat) :
    closedLength? 0 false (slice t start stop) =
      ((BraceIndex.ofText t).closing? start stop).map (· + 1 - start) := by
  have hwindow : ∀ i, IsFirst (ClosesFrom 0 false (slice t start stop)) 0 i ↔
      (BraceIndex.ofText t).closing? start stop = some (i + start) := fun i => by
    have hshift : IsFirst (fun j => Closes t start j ∧ j < stop) (0 + start) (i + start) ↔
        IsFirst (fun i => Closes t start (i + start) ∧ i + start < stop) 0 i :=
      isFirst_add_iff start
    rw [Nat.zero_add] at hshift
    rw [(BraceIndex.describes_ofText t).closing?_eq_some_iff, ← isFirst_and_lt_iff, hshift]
    simp only [← closesFrom_slice_iff]
  refine Option.ext fun n => ?_
  simp only [closedLength?_eq_some_iff, hwindow, Option.map_eq_some_iff]
  constructor
  · rintro ⟨i, hi, rfl⟩
    exact ⟨i + start, hi, by omega⟩
  · rintro ⟨j, hj, rfl⟩
    have hle : start ≤ j :=
      (((BraceIndex.describes_ofText t).closing?_eq_some_iff start stop j).mp hj).1.le
    refine ⟨j - start, by rwa [Nat.sub_add_cancel hle], by omega⟩

/-! ## The rest of the line -/

theorem nextLineFeed?_eq_some_iff {t : List Char} {start i : Nat} :
    nextLineFeed? t start = some i ↔ IsFirst (fun j => t[j]? = some '\n') start i := by
  unfold nextLineFeed?
  rw [Option.map_eq_some_iff]
  constructor
  · rintro ⟨k, hk, rfl⟩
    obtain ⟨hlt, hfeed, hleast⟩ := List.findIdx?_eq_some_iff_getElem.mp hk
    refine ⟨Nat.le_add_right start k, ?_, fun j hle hj hP => ?_⟩
    · rw [← List.getElem?_drop, List.getElem?_eq_getElem hlt, eq_of_beq hfeed]
    · refine hleast (j - start) (by omega) ?_
      have hget : (t.drop start)[j - start]? = some '\n' := by
        rw [List.getElem?_drop, Nat.add_sub_cancel' hle, hP]
      rw [(List.getElem?_eq_some_iff.mp hget).2]
      rfl
  · intro hi
    have hget : (t.drop start)[i - start]? = some '\n' := by
      rw [List.getElem?_drop, Nat.add_sub_cancel' hi.le, hi.holds]
    obtain ⟨hlt, hfeed⟩ := List.getElem?_eq_some_iff.mp hget
    refine ⟨i - start, List.findIdx?_eq_some_iff_getElem.mpr ⟨hlt, ?_, fun j hj => ?_⟩, ?_⟩
    · rw [hfeed]
      rfl
    · intro hfeed'
      refine hi.least (start + j) (Nat.le_add_right start j) (by omega) ?_
      rw [← List.getElem?_drop, List.getElem?_eq_getElem (by omega), eq_of_beq hfeed']
    · exact Nat.add_sub_cancel' hi.le

/-- The index of the lines gives the line feed that a walk over the text finds. -/
theorem lineEnd?_ofText (t : List Char) (start : Nat) :
    (Text.LineIndex.ofText t).lineEnd? start = nextLineFeed? t start :=
  Option.ext fun i => by
    rw [Text.LineIndex.lineEnd?_ofText_eq_some_iff, nextLineFeed?_eq_some_iff]

/-! ## Agreement -/

/-- A body that is looked up in the indexes of its text is the one that a scan of the text finds,
wherever the signature begins and however far the scan may go. -/
theorem lookUp_ofText (t : List Char) (start : Nat) (limit : Int) :
    lookUp t (BraceIndex.ofText t) (Text.LineIndex.ofText t) start limit = scan t start limit := by
  unfold lookUp scan
  simp only [closedLength?_slice]
  cases (BraceIndex.ofText t).closing? start (scanEnd t.length start limit) with
  | none => simp only [Option.map_none, lineEnd?_ofText]
  | some closer => rfl

end SourceGrade.Body
