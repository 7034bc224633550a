import Mathlib.Data.List.TakeWhile
import SourceGrade.Proofs.Pattern.Outcomes

set_option autoImplicit false

/-!
# The stops of a run, character by character

`Cursor.runStops` collects the stops of a run on its way. Seen from its first character, a run that
takes as much as possible first has the stops of the run after that character, and then the place
where it begins.
-/

namespace SourceGrade.Cursor

variable {ok : Char → Bool} {least : Nat} {most : Option Nat} {c d : Cursor}

/-- The place where a run begins, if the run may be empty. -/
def ownStop (c : Cursor) (least : Nat) : List Cursor := if least = 0 then [c] else []

theorem mem_ownStop : d ∈ c.ownStop least ↔ least = 0 ∧ d = c := by
  unfold ownStop
  split <;> simp_all

/-- A run stops where it begins if the text ends there. -/
theorem runStops_nil (before : Option Char) (offset : Nat) (marked : Option (List Char)) :
    runStops ⟨before, [], offset, marked⟩ ok least most .longestFirst =
      ownStop ⟨before, [], offset, marked⟩ least := by
  unfold runStops ownStop
  simp only [runStopsOnto]
  cases least <;> simp

/-- Of the stops those are left out that are too few characters away. -/
theorem take_concat_ownStop (stops : List Cursor) (c : Cursor) (least : Nat) :
    (stops ++ [c]).take (stops.length + 1 - least) =
      stops.take (stops.length - (least - 1)) ++ c.ownStop least := by
  unfold ownStop
  cases least with
  | zero =>
    rw [if_pos rfl, List.take_of_length_le (by simp), List.take_of_length_le (by simp)]
  | succ n =>
    rw [Nat.add_sub_add_right, List.take_append_of_le_length (Nat.sub_le _ _),
      if_neg (Nat.succ_ne_zero n), List.append_nil, Nat.add_sub_cancel]

/-- A run goes on after a character of its class, unless it is complete. -/
theorem runStops_cons (before : Option Char) (x : Char) (rest : List Char) (offset : Nat)
    (marked : Option (List Char)) :
    runStops ⟨before, x :: rest, offset, marked⟩ ok least most .longestFirst =
      (if most ≠ some 0 ∧ ok x then
        runStops ⟨some x, rest, offset + 1, marked⟩ ok (least - 1) (most.map (· - 1)) .longestFirst
      else []) ++ ownStop ⟨before, x :: rest, offset, marked⟩ least := by
  unfold runStops
  simp only
  rw [runStopsOnto_cons]
  split
  · rw [runStopsOnto_eq, runStopsOnto_eq, List.append_nil, List.length_append,
      List.length_singleton, take_concat_ownStop]
  · have hnone := take_concat_ownStop [] ⟨before, x :: rest, offset, marked⟩ least
    rwa [List.take_nil] at hnone

/-- A run that may be empty may stop where it begins. -/
theorem self_mem_runStops (c : Cursor) (ok : Char → Bool) (most : Option Nat) :
    c ∈ c.runStops ok 0 most .longestFirst :=
  (mem_runStops_iff (by decide)).mpr
    ⟨[], c.rest, rfl, nofun, Nat.zero_le _, fun m _ => Nat.zero_le m, rfl⟩

/-- The other orders try stops of the same run. -/
theorem runStops_shortestFirst (c : Cursor) (ok : Char → Bool) (least : Nat) (most : Option Nat) :
    c.runStops ok least most .shortestFirst =
      (c.runStops ok least most .longestFirst).reverse := rfl

theorem runStops_longestOnly (c : Cursor) (ok : Char → Bool) (least : Nat) (most : Option Nat) :
    c.runStops ok least most .longestOnly = (c.runStops ok least most .longestFirst).take 1 := rfl

/-- Whatever the order is, a run stops after characters of its class. -/
theorem exists_of_mem_runStops {order : RunOrder} (h : d ∈ c.runStops ok least most order) :
    ∃ piece rest, c.rest = piece ++ rest ∧ (∀ x ∈ piece, ok x = true) ∧ d = c.past piece rest := by
  have hlongest : d ∈ c.runStops ok least most .longestFirst := by
    cases order with
    | longestFirst => exact h
    | shortestFirst =>
      rw [runStops_shortestFirst] at h
      exact List.mem_reverse.mp h
    | longestOnly =>
      rw [runStops_longestOnly] at h
      exact List.mem_of_mem_take h
  obtain ⟨piece, rest, hrest, hok, -, -, hd⟩ := (mem_runStops_iff (by decide)).mp hlongest
  exact ⟨piece, rest, hrest, hok, hd⟩

/-- A run is empty before a character of another class. -/
theorem runStops_of_head (h : ∀ x rest, c.rest = x :: rest → ok x = false) (order : RunOrder) :
    c.runStops ok least most order = c.ownStop least := by
  have hlongest : c.runStops ok least most .longestFirst = c.ownStop least := by
    obtain ⟨before, rest, offset, marked⟩ := c
    cases rest with
    | nil => exact runStops_nil before offset marked
    | cons x rest =>
      rw [runStops_cons, if_neg (by simp [h x rest rfl]), List.nil_append]
  cases order with
  | longestFirst => exact hlongest
  | shortestFirst =>
    rw [runStops_shortestFirst, hlongest]
    unfold ownStop
    split <;> rfl
  | longestOnly =>
    rw [runStops_longestOnly, hlongest]
    unfold ownStop
    split <;> rfl

/-- A run that only takes as much as possible stops at most once. -/
theorem runStops_longestOnly_eq (c : Cursor) (ok : Char → Bool) (least : Nat) (most : Option Nat) :
    c.runStops ok least most .longestOnly =
      if least ≤ runLength ok most c.rest then [c.advance (runLength ok most c.rest)] else [] := by
  have hrange : ∀ n : Nat, (List.range (n + 1)).reverse = n :: (List.range n).reverse := fun n => by
    rw [List.range_succ, List.reverse_append, List.reverse_singleton, List.singleton_append]
  unfold runStops
  rw [runStopsOnto_eq, List.append_nil, ← List.map_reverse, hrange, List.map_cons]
  simp only [List.length_cons, List.length_map, List.length_reverse, List.length_range]
  split
  · rename_i hle
    rw [Nat.succ_sub hle, List.take_succ_cons, List.take_succ_cons, List.take_zero]
  · rename_i hgt
    have hnone : runLength ok most c.rest + 1 - least = 0 := by omega
    rw [hnone, List.take_zero, List.take_nil]

/-- The length of a run is that of its characters, up to the bound. -/
theorem runLength_some (ok : Char → Bool) (m : Nat) (rest : List Char) :
    runLength ok (some m) rest = min m (rest.takeWhile ok).length := by
  induction rest generalizing m with
  | nil => simp [runLength]
  | cons x rest ih =>
    rw [runLength_cons]
    by_cases hx : ok x = true
    · cases m with
      | zero => simp
      | succ m =>
        rw [if_pos ⟨by simp, hx⟩, List.takeWhile_cons_of_pos hx, List.length_cons]
        have hrest := ih m
        simp only [Option.map_some, Nat.add_sub_cancel]
        omega
    · rw [if_neg (fun h => hx h.2), List.takeWhile_cons_of_neg hx, List.length_nil, Nat.min_zero]

/-- A text is cut in two after the characters of a class with which it begins. -/
theorem exists_cut (ok : Char → Bool) (t : List Char) :
    ∃ piece rest, t = piece ++ rest ∧ (∀ x ∈ piece, ok x = true) ∧
      ∀ x rest', rest = x :: rest' → ok x = false := by
  refine ⟨_, _, (List.takeWhile_append_dropWhile (p := ok)).symm,
    fun x hx => List.mem_takeWhile_imp hx, fun x rest' hx => ?_⟩
  have hhead := List.head?_dropWhile_not ok t
  rw [hx] at hhead
  exact hhead

variable {piece rest : List Char} {k : Cursor → Option Cursor} {m : Nat}

theorem takeWhile_eq (hpiece : ∀ x ∈ piece, ok x = true)
    (hrest : ∀ x rest', rest = x :: rest' → ok x = false) :
    (piece ++ rest).takeWhile ok = piece := by
  rw [List.takeWhile_append_of_pos hpiece]
  cases rest with
  | nil => rw [List.takeWhile_nil, List.append_nil]
  | cons x rest =>
    rw [List.takeWhile_cons_of_neg (by simp [hrest x rest rfl]), List.append_nil]

/-- A run that only takes as much as possible stops after the characters of its class, if they are
not too many. -/
theorem runStops_longestOnly_of_le (h : c.rest = piece ++ rest)
    (hpiece : ∀ x ∈ piece, ok x = true) (hrest : ∀ x rest', rest = x :: rest' → ok x = false)
    (hm : piece.length ≤ m) :
    c.runStops ok least (some m) .longestOnly =
      if least ≤ piece.length then [c.past piece rest] else [] := by
  have hadvance : c.advance piece.length = c.past piece rest := by
    unfold advance
    rw [h, List.take_left, List.drop_left]
  rw [runStops_longestOnly_eq, runLength_some, h, takeWhile_eq hpiece hrest, Nat.min_eq_right hm,
    hadvance]

/-- A run that only takes as much as possible gets nowhere if it has to stop before a character of
its class, or at the end of the text, and its continuation does not accept that. -/
theorem findSome?_longestOnly_of_lt
    (hk : ∀ d ∈ c.runStops ok least (some m) .longestOnly,
      (∀ x ∈ d.rest.head?, ok x = true) → k d = none)
    (h : m < (c.rest.takeWhile ok).length ∨ ∀ x ∈ c.rest, ok x = true) :
    (c.runStops ok least (some m) .longestOnly).findSome? k = none := by
  rw [runStops_longestOnly_eq, runLength_some] at hk ⊢
  split
  · rename_i hle
    rw [if_pos hle] at hk
    rw [List.findSome?_singleton]
    refine hk _ (List.mem_singleton_self _) fun x hx => ?_
    have hget : c.rest[min m (c.rest.takeWhile ok).length]? = some x := by
      rw [← List.head?_drop]
      exact hx
    rcases h with hlt | hall
    · rw [Nat.min_eq_left (Nat.le_of_lt hlt)] at hget
      have hpiece : (c.rest.takeWhile ok)[m]? = some x := by
        rw [← hget]
        conv => rhs; rw [← List.takeWhile_append_dropWhile (p := ok) (l := c.rest)]
        exact (List.getElem?_append_left hlt).symm
      exact List.mem_takeWhile_imp (List.mem_of_getElem? hpiece)
    · exact hall x (List.mem_of_getElem? hget)
  · rfl

end SourceGrade.Cursor
