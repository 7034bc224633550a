import SourceGrade.Proofs.Pattern.Count
import SourceGrade.Proofs.Pattern.Scan

set_option autoImplicit false

/-!
# Texts with something put in front of the hits

The search goes through a text from left to right, and so does what puts characters in front of its
hits. Both are followed here a piece at a time: a hit, or a character at which nothing is found.
A run of a character is taken as one piece, since a pattern that begins with such a run goes as far
into it as the rest of the pattern lets it.
-/

namespace SourceGrade

/-! ## Texts as sequences of runs -/

/-- A text is nothing, or begins with another character than the given one, or with a run of it. -/
@[elab_as_elim]
theorem run_induction (c : Char) {motive : List Char → Prop} (nil : motive [])
    (other : ∀ x rest, x ≠ c → motive rest → motive (x :: rest))
    (run : ∀ n rest, rest.head? ≠ some c → motive rest →
      motive (List.replicate (n + 1) c ++ rest)) (t : List Char) : motive t := by
  generalize hn : t.length = n
  induction n using Nat.strongRecOn generalizing t with
  | ind n ih =>
    subst hn
    obtain ⟨k, rest, rfl, hrest⟩ := Pattern.exists_run c t
    cases k with
    | zero =>
      cases rest with
      | nil => exact nil
      | cons x rest =>
        exact other x rest (fun h => hrest (congrArg some h)) (ih _ (Nat.lt_succ_self _) _ rfl)
    | succ k =>
      refine run k rest hrest (ih _ ?_ _ rfl)
      rw [List.length_append, List.length_replicate]
      omega

namespace Cursor

variable {x : Char} {rest : List Char} {c d : Cursor} {k : Cursor → Option Cursor}

/-- What is accepted farther on in a run is preferred to what comes before. -/
theorem findSome?_runStops_past {n : Nat} (hrest : c.rest = List.replicate n x ++ rest)
    (h : ((c.past (List.replicate n x) rest).runStops (· == x) 0 none .longestFirst).findSome? k =
      some d) :
    (c.runStops (· == x) 0 none .longestFirst).findSome? k = some d := by
  induction n generalizing c with
  | zero =>
    have hself : c.past [] rest = c := by
      rw [List.replicate_zero, List.nil_append] at hrest
      unfold past
      rw [← hrest]
      rfl
    rwa [List.replicate_zero, hself] at h
  | succ n ih =>
    obtain ⟨before, all, offset, marked⟩ := c
    obtain rfl : all = x :: (List.replicate n x ++ rest) := hrest
    rw [List.replicate_succ,
      ← past_cons ⟨before, x :: (List.replicate n x ++ rest), offset, marked⟩] at h
    have hlater := ih rfl h
    rw [runStops_cons, if_pos ⟨nofun, beq_self_eq_true x⟩, List.findSome?_append]
    exact congrArg (Option.or · _) hlater

theorem past_replicate (c : Cursor) (x : Char) (n : Nat) (rest : List Char) :
    c.past (List.replicate (n + 1) x) rest = ⟨some x, rest, c.offset + (n + 1), c.marked⟩ := by
  unfold past
  rw [List.getLast?_replicate, if_neg (Nat.succ_ne_zero n), Option.some_or, List.length_replicate]

/-- A run that has to have a character goes on after it as a run that need not have any. -/
theorem findSome?_runStops_of_past {n : Nat} (hrest : c.rest = List.replicate (n + 1) x ++ rest)
    (h : (runStops ⟨some x, rest, c.offset + (n + 1), c.marked⟩ (· == x) 0 none
      .longestFirst).findSome? k = some d) :
    (c.runStops (· == x) 1 none .longestFirst).findSome? k = some d := by
  rw [← past_replicate] at h
  obtain ⟨before, all, offset, marked⟩ := c
  obtain rfl : all = x :: (List.replicate n x ++ rest) := hrest
  rw [List.replicate_succ,
    ← past_cons ⟨before, x :: (List.replicate n x ++ rest), offset, marked⟩] at h
  rw [runStops_cons, if_pos ⟨nofun, beq_self_eq_true x⟩, List.findSome?_append]
  exact congrArg (Option.or · _) (findSome?_runStops_past rfl h)

variable {n : Nat}

/-- The end of a run is preferred if it is accepted. -/
theorem findSome?_run_eq (hhead : rest.head? ≠ some x)
    (hrest : c.rest = List.replicate (n + 1) x ++ rest)
    (hk : k ⟨some x, rest, c.offset + (n + 1), c.marked⟩ = some d) :
    (c.runStops (· == x) 1 none .longestFirst).findSome? k = some d := by
  have hother : ∀ y later, rest = y :: later → (y == x) = false := by
    rintro y later rfl
    exact beq_false_of_ne fun h => hhead (congrArg some h)
  refine findSome?_runStops_of_past hrest ?_
  rw [runStops_of_head hother]
  unfold ownStop
  rwa [if_pos rfl, List.findSome?_singleton]

/-- Failing its end, the place before the last character of a run is. -/
theorem findSome?_run_eq_of_none (hhead : rest.head? ≠ some x)
    (hrest : c.rest = List.replicate (n + 2) x ++ rest)
    (hnone : k ⟨some x, rest, c.offset + (n + 2), c.marked⟩ = none)
    (hk : k ⟨some x, x :: rest, c.offset + (n + 1), c.marked⟩ = some d) :
    (c.runStops (· == x) 1 none .longestFirst).findSome? k = some d := by
  have hother : ∀ y later, rest = y :: later → (y == x) = false := by
    rintro y later rfl
    exact beq_false_of_ne fun h => hhead (congrArg some h)
  have hrest' : c.rest = List.replicate (n + 1) x ++ x :: rest := by
    rw [hrest, List.replicate_succ', List.append_assoc]
    rfl
  refine findSome?_runStops_of_past hrest' ?_
  rw [runStops_cons, if_pos ⟨nofun, beq_self_eq_true x⟩, runStops_of_head hother,
    List.findSome?_append]
  unfold ownStop
  rw [if_pos rfl, if_pos rfl, List.findSome?_singleton, List.findSome?_singleton, hk]
  exact congrArg (Option.or · _) hnone

end Cursor

namespace Pattern

variable {p : Pattern} {s done piece rest : List Char} {c : Char} {d : Cursor}

/-! ## One piece after the other -/

/-- The rest of a text with the given characters put in front of the hits in it. -/
def putFrom (p : Pattern) (s done rest : List Char) : List Char :=
  putAt s ((p.hitsFrom done.getLast? done.length 0 rest).map (·.start)) done.length rest

theorem putBefore_eq_putFrom (p : Pattern) (s t : List Char) :
    p.putBefore s t = p.putFrom s [] t := rfl

theorem putFrom_nil (p : Pattern) (s done : List Char) : p.putFrom s done [] = [] := by
  unfold putFrom
  rw [putAt]

theorem putAt_nil (s : List Char) (offset : Nat) (t : List Char) : putAt s [] offset t = t := by
  cases t <;> rfl

/-- A character before the first of the places stays as it is. -/
theorem putAt_cons_of_lt {starts : List Nat} {offset : Nat} (h : ∀ i ∈ starts, offset < i) :
    putAt s starts offset (c :: rest) = c :: putAt s starts (offset + 1) rest := by
  cases starts with
  | nil => rw [putAt_nil, putAt_nil]
  | cons start starts =>
    have hne : start ≠ offset := Nat.ne_of_gt (h start List.mem_cons_self)
    rw [putAt, if_neg hne]

/-- And so does a piece. -/
theorem putAt_append_of_le {starts : List Nat} {offset : Nat}
    (h : ∀ i ∈ starts, offset + piece.length ≤ i) :
    putAt s starts offset (piece ++ rest) =
      piece ++ putAt s starts (offset + piece.length) rest := by
  induction piece generalizing offset with
  | nil => rfl
  | cons c piece ih =>
    have hlength : offset + (c :: piece).length = offset + 1 + piece.length := by
      rw [List.length_cons, Nat.add_assoc, Nat.add_comm 1]
    have hlt : ∀ i ∈ starts, offset < i := by
      intro i hi
      have hle := h i hi
      omega
    rw [hlength] at h ⊢
    rw [List.cons_append, putAt_cons_of_lt hlt, ih h, List.cons_append]

theorem putAt_self {starts : List Nat} {offset : Nat} (hne : rest ≠ [])
    (h : ∀ i ∈ starts, offset < i) :
    putAt s (offset :: starts) offset rest = s ++ putAt s starts offset rest := by
  obtain ⟨c, rest, rfl⟩ := List.exists_cons_of_ne_nil hne
  rw [putAt, if_pos rfl, putAt_cons_of_lt h]

theorem le_of_mem_starts {i : Nat}
    (h : i ∈ (p.hitsFrom done.getLast? done.length 0 rest).map (·.start)) : done.length ≤ i := by
  obtain ⟨hit, hmem, rfl⟩ := List.mem_map.mp h
  exact le_start_of_mem_hitsFrom rest done 0 hmem

/-- A character at which nothing is found stays as it is. -/
theorem putFrom_cons_of_missed (h : ∀ d, ¬p.FindsAt (done ++ c :: rest) done.length d) :
    p.putFrom s done (c :: rest) = c :: p.putFrom s (done ++ [c]) rest := by
  have hlength : (done ++ [c]).length = done.length + 1 := List.length_append
  unfold putFrom
  rw [hitsFrom_of_not_findsAt h, hlength]
  refine putAt_cons_of_lt fun i hi => ?_
  rw [← hlength] at hi
  have hle := le_of_mem_starts hi
  omega

/-- A piece stays as it is if nothing is ever found at one of its characters. -/
theorem putFrom_append_of_missed
    (h : ∀ c ∈ piece, ∀ done rest d, ¬p.FindsAt (done ++ c :: rest) done.length d) :
    p.putFrom s done (piece ++ rest) = piece ++ p.putFrom s (done ++ piece) rest := by
  induction piece generalizing done with
  | nil => rw [List.append_nil, List.nil_append, List.nil_append]
  | cons c piece ih =>
    have hlater : p.putFrom s (done ++ [c]) (piece ++ rest) =
        piece ++ p.putFrom s (done ++ [c] ++ piece) rest :=
      ih fun x hx => h x (List.mem_cons_of_mem c hx)
    rw [List.cons_append, putFrom_cons_of_missed (h c List.mem_cons_self done _), hlater,
      List.append_assoc, List.singleton_append, List.cons_append]

/-- The characters are put in front of what is found. -/
theorem putFrom_append_of_found (h : p.FindsAt (done ++ (piece ++ rest)) done.length d)
    (hstop : d.offset = (done ++ piece).length) :
    p.putFrom s done (piece ++ rest) = s ++ (piece ++ p.putFrom s (done ++ piece) rest) := by
  have hlength : done.length + piece.length = (done ++ piece).length := List.length_append.symm
  have hne : piece ≠ [] := by
    rintro rfl
    have hlt := h.lt
    rw [hstop, List.append_nil] at hlt
    exact absurd hlt (Nat.lt_irrefl _)
  have hstarts : ∀ i ∈ (p.hitsFrom (done ++ piece).getLast? (done ++ piece).length 0 rest).map
      (·.start), done.length + piece.length ≤ i := by
    intro i hi
    rw [hlength]
    exact le_of_mem_starts hi
  have hlater : ∀ i ∈ (p.hitsFrom (done ++ piece).getLast? (done ++ piece).length 0 rest).map
      (·.start), done.length < i := by
    intro i hi
    have hpos := List.length_pos_iff.mpr hne
    have hle := hstarts i hi
    omega
  have happend : putAt s ((p.hitsFrom (done ++ piece).getLast? (done ++ piece).length 0 rest).map
      (·.start)) done.length (piece ++ rest) = piece ++ p.putFrom s (done ++ piece) rest := by
    unfold putFrom
    rw [putAt_append_of_le hstarts, hlength]
  rw [← happend]
  unfold putFrom
  rw [hitsFrom_append_of_findsAt h hne (Nat.le_of_eq hstop.symm), hstop, Nat.sub_self,
    List.map_cons]
  exact putAt_self (List.append_ne_nil_of_left_ne_nil hne rest) hlater

/-- The characters are put in front of a run that is found. -/
theorem putFrom_run_of_found {n : Nat} (h : p.firstOutcome? (.between done
      (List.replicate (n + 1) c ++ rest)) = some ⟨some c, rest, done.length + (n + 1), none⟩) :
    p.putFrom s done (List.replicate (n + 1) c ++ rest) =
      s ++ (List.replicate (n + 1) c ++ p.putFrom s (done ++ List.replicate (n + 1) c) rest) := by
  have hfound : p.FindsAt (done ++ (List.replicate (n + 1) c ++ rest)) done.length
      ⟨some c, rest, done.length + (n + 1), none⟩ := by
    refine ⟨?_, Nat.lt_add_of_pos_right (Nat.succ_pos n), ?_⟩
    · rw [Cursor.atOffset_length]
      exact h
    · rw [List.length_append, List.length_append, List.length_replicate]
      omega
  refine putFrom_append_of_found hfound ?_
  rw [List.length_append, List.length_replicate]

end Pattern

end SourceGrade
