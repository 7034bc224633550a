import SourceGrade.Function.BraceIndex
import SourceGrade.Number.Total
import SourceGrade.Proofs.Text.Offsets

set_option autoImplicit false

/-!
# The depth of braces

`braceDepth` is the depth at the end of a text. `BraceIndex.Describes` says what the arrays of an
index hold in terms of it; the pass that builds the index keeps this from each character to the
next. Nothing later looks at the arrays: the two questions that an index answers, the depth before
an offset and the brace that closes a body, are answered here for the text itself.
-/

namespace SourceGrade

open Text (offsetsWhere endsIn)

/-- The depth at the end of a text that begins at depth zero. -/
def braceDepth (t : List Char) : Int := Number.signedTotal (t.map braceStep)

@[simp] theorem braceDepth_nil : braceDepth [] = 0 := rfl

theorem braceDepth_cons (c : Char) (t : List Char) :
    braceDepth (c :: t) = braceStep c + braceDepth t := rfl

theorem braceDepth_append (s t : List Char) :
    braceDepth (s ++ t) = braceDepth s + braceDepth t := by
  induction s with
  | nil => simp
  | cons c s ih => rw [List.cons_append, braceDepth_cons, braceDepth_cons, ih, Int.add_assoc]

theorem braceDepth_concat (t : List Char) (c : Char) :
    braceDepth (t ++ [c]) = braceDepth t + braceStep c := by
  rw [braceDepth_append, braceDepth_cons, braceDepth_nil, Int.add_zero]

/-- A closing brace that brings the depth back to its value at `start`, after an opening brace
from there on. -/
structure Closes (t : List Char) (start j : Nat) : Prop where
  /-- It is a closing brace. -/
  brace : t[j]? = some '}'
  /-- A brace has been opened. -/
  opened : ∃ k, start ≤ k ∧ k < j ∧ t[k]? = some '{'
  /-- The depth is what it was. -/
  level : braceDepth (t.take (j + 1)) = braceDepth (t.take start)

/-- After the first opening brace, a body is closed by any closing brace of its depth. -/
theorem closes_iff {t : List Char} {start k j : Nat}
    (hk : IsFirst (fun k => t[k]? = some '{') start k) :
    Closes t start j ↔
      k + 1 ≤ j ∧ t[j]? = some '}' ∧ braceDepth (t.take (j + 1)) = braceDepth (t.take start) := by
  constructor
  · intro h
    obtain ⟨k', hk', hlt, hopen⟩ := h.opened
    have hfirst : k ≤ k' := Nat.le_of_not_lt fun hlt' => hk.least k' hk' hlt' hopen
    exact ⟨Nat.lt_of_le_of_lt hfirst hlt, h.brace, h.level⟩
  · rintro ⟨hlt, hbrace, hlevel⟩
    exact ⟨hbrace, ⟨k, hk.le, hlt, hk.holds⟩, hlevel⟩

namespace BraceIndex

/-- Whether a piece ends in a brace. -/
def endsInBrace (piece : List Char) : Bool := endsIn '{' piece || endsIn '}' piece

/-- Whether a piece ends in a closing brace that brings the depth to a value. -/
def closesTo (depth : Int) (piece : List Char) : Bool :=
  endsIn '}' piece && braceDepth piece == depth

/-- The arrays of an index hold the braces of a text. -/
structure Describes (ix : BraceIndex) (t : List Char) : Prop where
  /-- All braces are listed. -/
  offsets : ix.offsets.toList = offsetsWhere endsInBrace t
  /-- Each of them is listed with the depth after it. -/
  depths : ix.depths.toList =
    (offsetsWhere endsInBrace t).map fun i => braceDepth (t.take (i + 1))
  /-- The opening braces are listed. -/
  openers : ix.openers.toList = offsetsWhere (endsIn '{') t
  /-- The closing braces are listed by the depth after them. -/
  closers : ∀ d, (ix.closers.getD d #[]).toList = offsetsWhere (closesTo d) t
  /-- The depth after all of them is kept. -/
  depth : ix.depth = braceDepth t

/-! ## The pass that builds the index -/

/-- The depths of a longer text at the earlier offsets are those of the text. -/
theorem map_braceDepth_concat (ok : List Char → Bool) (t : List Char) (c : Char) :
    (offsetsWhere ok t).map (fun i => braceDepth ((t ++ [c]).take (i + 1))) =
      (offsetsWhere ok t).map fun i => braceDepth (t.take (i + 1)) := by
  refine List.map_congr_left fun i hi => ?_
  have hlt : i < t.length := (Text.mem_offsetsWhere.mp hi).1
  rw [List.take_append_of_le_length hlt]

theorem describes_nil : Describes {} [] where
  offsets := rfl
  depths := rfl
  openers := rfl
  closers := fun d => by simp [offsetsWhere]
  depth := rfl

/-- An opening brace is added to the offsets, the depths and the openers. -/
theorem Describes.addOpener {ix : BraceIndex} {t : List Char} (h : ix.Describes t) :
    (ix.addOpener t.length).Describes (t ++ ['{']) where
  offsets := by
    rw [Text.offsetsWhere_concat, ← h.offsets]
    simp [BraceIndex.addOpener, endsInBrace]
  depths := by
    have hwhole : (t ++ ['{']).take (t.length + 1) = t ++ ['{'] := List.take_of_length_le (by simp)
    rw [Text.offsetsWhere_concat, List.map_append, map_braceDepth_concat, ← h.depths]
    simp [BraceIndex.addOpener, endsInBrace, hwhole, braceDepth_concat, h.depth, braceStep]
  openers := by
    rw [Text.offsetsWhere_concat, ← h.openers]
    simp [BraceIndex.addOpener]
  closers := fun d => by
    rw [Text.offsetsWhere_concat, ← h.closers]
    simp [BraceIndex.addOpener, closesTo]
  depth := by
    rw [braceDepth_concat, ← h.depth]
    rfl

/-- A closing brace is added to the offsets, the depths and the closers of its depth. -/
theorem Describes.addCloser {ix : BraceIndex} {t : List Char} (h : ix.Describes t) :
    (ix.addCloser t.length).Describes (t ++ ['}']) where
  offsets := by
    rw [Text.offsetsWhere_concat, ← h.offsets]
    simp [BraceIndex.addCloser, endsInBrace]
  depths := by
    have hwhole : (t ++ ['}']).take (t.length + 1) = t ++ ['}'] := List.take_of_length_le (by simp)
    rw [Text.offsetsWhere_concat, List.map_append, map_braceDepth_concat, ← h.depths]
    simp [BraceIndex.addCloser, endsInBrace, hwhole, braceDepth_concat, h.depth, braceStep]
    rfl
  openers := by
    rw [Text.offsetsWhere_concat, ← h.openers]
    simp [BraceIndex.addCloser]
  closers := fun d => by
    have hdepth : braceDepth (t ++ ['}']) = ix.depth - 1 := by
      rw [braceDepth_concat, ← h.depth]
      rfl
    rw [Text.offsetsWhere_concat, ← h.closers]
    by_cases hd : ix.depth - 1 = d
    · subst hd
      simp [BraceIndex.addCloser, closesTo, hdepth]
    · simp [BraceIndex.addCloser, closesTo, hdepth, Std.HashMap.getD_insert, hd]
  depth := by
    rw [braceDepth_concat, ← h.depth]
    rfl

/-- Any other character changes nothing. -/
theorem Describes.addOther {ix : BraceIndex} {t : List Char} {c : Char} (h : ix.Describes t)
    (hopen : c ≠ '{') (hclose : c ≠ '}') : ix.Describes (t ++ [c]) where
  offsets := by
    rw [Text.offsetsWhere_concat, ← h.offsets]
    simp [endsInBrace, hopen, hclose]
  depths := by
    rw [Text.offsetsWhere_concat, List.map_append, map_braceDepth_concat, ← h.depths]
    simp [endsInBrace, hopen, hclose]
  openers := by
    rw [Text.offsetsWhere_concat, ← h.openers]
    simp [hopen]
  closers := fun d => by
    rw [Text.offsetsWhere_concat, ← h.closers]
    simp [closesTo, hclose]
  depth := by
    rw [braceDepth_concat, ← h.depth]
    simp [braceStep, hopen, hclose]

/-- One more character keeps the index true to the text. -/
theorem Describes.add {ix : BraceIndex} {t : List Char} (h : ix.Describes t) (c : Char) :
    (ix.add (c, t.length)).Describes (t ++ [c]) := by
  unfold BraceIndex.add
  by_cases hopen : c = '{'
  · subst hopen
    exact h.addOpener
  · by_cases hclose : c = '}'
    · subst hclose
      exact h.addCloser
    · simpa [hopen, hclose] using h.addOther hopen hclose

theorem describes_ofText (t : List Char) : (ofText t).Describes t := by
  unfold ofText
  induction t using List.reverseRecOn with
  | nil => exact describes_nil
  | append_singleton t c ih =>
    rw [List.zipIdx_append, List.foldl_append]
    simpa using ih.add c

/-! ## The depth before an offset -/

/-- The depth at the end of a text is the depth after its last brace. -/
theorem depth_after_last (t : List Char) :
    ((offsetsWhere endsInBrace t).getLast?.elim 0 fun i => braceDepth (t.take (i + 1))) =
      braceDepth t := by
  induction t using List.reverseRecOn with
  | nil => rfl
  | append_singleton t c ih =>
    have hwhole : (t ++ [c]).take (t.length + 1) = t ++ [c] := List.take_of_length_le (by simp)
    rw [Text.offsetsWhere_concat]
    split
    · simp [hwhole]
    · rename_i hbrace
      have hstep : braceStep c = 0 := by
        simp only [endsInBrace, Text.endsIn_concat, Bool.or_eq_true, beq_iff_eq, not_or] at hbrace
        simp [braceStep, hbrace]
      rw [List.append_nil, braceDepth_concat, hstep, Int.add_zero, ← ih]
      cases hlast : (offsetsWhere endsInBrace t).getLast? with
      | none => rfl
      | some i =>
        have hlt : i < t.length := (Text.mem_offsetsWhere.mp (List.mem_of_getLast? hlast)).1
        rw [Option.elim_some, Option.elim_some, List.take_append_of_le_length hlt]

/-- The depth that the index gives is that of the text before the offset. -/
theorem Describes.depthBefore_eq {ix : BraceIndex} {t : List Char} (h : ix.Describes t)
    (offset : Nat) : ix.depthBefore offset = braceDepth (t.take offset) := by
  have hcount : Sorted.lowerBound ix.offsets offset =
      (offsetsWhere endsInBrace (t.take offset)).length := by
    rw [Sorted.lowerBound_eq_countP (Text.ascending_of_toList_eq h.offsets), h.offsets,
      Text.countP_offsetsWhere]
  rw [← depth_after_last (t.take offset)]
  unfold depthBefore
  rw [hcount]
  rcases List.eq_nil_or_concat (offsetsWhere endsInBrace (t.take offset)) with hnil | ⟨l, i, hl⟩
  · rw [hnil]
    rfl
  · have hmem : i ∈ offsetsWhere endsInBrace (t.take offset) := by simp [hl]
    have hi : i < (t.take offset).length := (Text.mem_offsetsWhere.mp hmem).1
    have hcut : (t.take offset).take (i + 1) = t.take (i + 1) := by
      rw [List.take_take, Nat.min_eq_left]
      rw [List.length_take] at hi
      omega
    obtain ⟨later, hlater⟩ :=
      Text.offsetsWhere_append endsInBrace (t.take offset) (t.drop offset)
    rw [List.take_append_drop, hl] at hlater
    have hdepth : ix.depths[l.length]? = some (braceDepth (t.take (i + 1))) := by
      rw [← Array.getElem?_toList, h.depths, hlater]
      simp
    simp [hl, hcut, hdepth]

/-! ## The brace that closes a body -/

theorem mem_closers {ix : BraceIndex} {t : List Char} (h : ix.Describes t) {d : Int} {j : Nat} :
    j ∈ ix.closers.getD d #[] ↔ t[j]? = some '}' ∧ braceDepth (t.take (j + 1)) = d := by
  rw [← Array.mem_toList_iff, h.closers, Text.mem_offsetsWhere, ← Text.mem_offsetsWhere_endsIn,
    Text.mem_offsetsWhere, closesTo, Bool.and_eq_true, beq_iff_eq, and_assoc]

theorem mem_openers {ix : BraceIndex} {t : List Char} (h : ix.Describes t) {k : Nat} :
    k ∈ ix.openers ↔ t[k]? = some '{' := by
  rw [← Array.mem_toList_iff, h.openers, Text.mem_offsetsWhere_endsIn]

/-- A search for an offset among the opening braces finds the first one from there on. -/
theorem Describes.opener_eq_some_iff {ix : BraceIndex} {t : List Char} (h : ix.Describes t)
    (start k : Nat) :
    ix.openers[Sorted.lowerBound ix.openers start]? = some k ↔
      IsFirst (fun k => t[k]? = some '{') start k := by
  have hsorted : Sorted.Ascending ix.openers := Text.ascending_of_toList_eq h.openers
  simp only [Sorted.getElem?_lowerBound_eq_some_iff hsorted, mem_openers h]

/-- A search for an opening brace among the closing ones of a depth finds the first one after it. -/
theorem Describes.closer_eq_some_iff {ix : BraceIndex} {t : List Char} (h : ix.Describes t)
    (d : Int) (k j : Nat) :
    (ix.closers.getD d #[])[Sorted.upperBound (ix.closers.getD d #[]) k]? = some j ↔
      IsFirst (fun j => t[j]? = some '}' ∧ braceDepth (t.take (j + 1)) = d) (k + 1) j := by
  have hsorted : Sorted.Ascending (ix.closers.getD d #[]) :=
    Text.ascending_of_toList_eq (h.closers d)
  unfold Sorted.upperBound
  simp only [Sorted.getElem?_lowerBound_eq_some_iff hsorted, mem_closers h]

/-- The brace that closes a body is the first one after the opening brace that brings the depth
back. -/
theorem isFirst_closes_iff {t : List Char} {start k j : Nat}
    (hfirst : IsFirst (fun k => t[k]? = some '{') start k) :
    IsFirst (Closes t start) start j ↔
      IsFirst (fun j => t[j]? = some '}' ∧
        braceDepth (t.take (j + 1)) = braceDepth (t.take start)) (k + 1) j := by
  have hcloses : Closes t start = fun j => k + 1 ≤ j ∧ t[j]? = some '}' ∧
      braceDepth (t.take (j + 1)) = braceDepth (t.take start) :=
    funext fun j => propext (closes_iff hfirst)
  rw [hcloses]
  exact isFirst_and_le_iff (Nat.le_succ_of_le hfirst.le)

/-- The index finds the first brace that closes what is opened from `start` on, if that brace lies
before `stop`. -/
theorem Describes.closing?_eq_some_iff {ix : BraceIndex} {t : List Char} (h : ix.Describes t)
    (start stop j : Nat) :
    ix.closing? start stop = some j ↔ IsFirst (Closes t start) start j ∧ j < stop := by
  unfold closing?
  cases hk : ix.openers[Sorted.lowerBound ix.openers start]? with
  | none =>
    -- Without an opening brace nothing is closed.
    refine iff_of_false (by simp) fun hj => ?_
    obtain ⟨k, hle, -, hopen⟩ := hj.1.holds.opened
    obtain ⟨k', -, hfirst⟩ := IsFirst.exists_le (P := fun k => t[k]? = some '{') hle hopen
    rw [(h.opener_eq_some_iff start k').mpr hfirst] at hk
    exact Option.some_ne_none _ hk
  | some k =>
    have hfirst := (h.opener_eq_some_iff start k).mp hk
    rw [isFirst_closes_iff hfirst, ← h.closer_eq_some_iff, ← h.depthBefore_eq]
    by_cases hstop : k < stop
    · simp only [hstop, if_true]
      cases hj : (ix.closers.getD (ix.depthBefore start) #[])[Sorted.upperBound
        (ix.closers.getD (ix.depthBefore start) #[]) k]? with
      | none => simp
      | some j' =>
        by_cases hj' : j' < stop
        · simp only [hj', if_true, Option.some.injEq]
          exact ⟨fun heq => ⟨heq, heq ▸ hj'⟩, fun hand => hand.1⟩
        · simp only [hj', if_false, Option.some.injEq]
          exact iff_of_false (by simp) fun hand => hj' (hand.1 ▸ hand.2)
    · refine iff_of_false (by simp [hstop]) fun hj => ?_
      have hlt : k + 1 ≤ j := ((h.closer_eq_some_iff _ k j).mp hj.1).le
      omega

end BraceIndex

end SourceGrade
