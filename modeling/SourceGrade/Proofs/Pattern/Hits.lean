import SourceGrade.Pattern.Hits

set_option autoImplicit false

/-!
# The hits of a pattern in a text

Every hit is the match that the pattern prefers at its offset, and every offset from which the
pattern matches a piece that is not empty lies in a hit. The search carries what it has passed, so
both are proved for a text that is split at the place of the search.
-/

namespace SourceGrade

/-- The place at an offset of a text. -/
def Cursor.atOffset (t : List Char) (i : Nat) : Cursor := ⟨(t.take i).getLast?, t.drop i, i, none⟩

theorem Cursor.atOffset_length (done rest : List Char) :
    atOffset (done ++ rest) done.length = ⟨done.getLast?, rest, done.length, none⟩ := by
  unfold atOffset
  rw [List.take_left, List.drop_left]

namespace Pattern

/-- A pattern finds a piece that is not empty at an offset. -/
structure FindsAt (p : Pattern) (t : List Char) (i : Nat) (d : Cursor) : Prop where
  /-- This is where the preferred match ends. -/
  found : p.firstOutcome? (.atOffset t i) = some d
  /-- It passes over something. -/
  lt : i < d.offset
  /-- The offset lies in the text. -/
  lt_length : i < t.length

/-- The hit that is found at an offset. -/
def hitOf (i : Nat) (d : Cursor) : Hit := ⟨i, d.offset, d.marked⟩

/-- The search takes what it finds and goes on after it. -/
theorem hitsFrom_of_findsAt {p : Pattern} {done rest : List Char} {c : Char} {d : Cursor}
    (h : p.FindsAt (done ++ c :: rest) done.length d) :
    p.hitsFrom done.getLast? done.length 0 (c :: rest) = hitOf done.length d ::
      p.hitsFrom (done ++ [c]).getLast? (done ++ [c]).length
        (d.offset - (done ++ [c]).length) rest := by
  have hfound := h.found
  rw [Cursor.atOffset_length] at hfound
  have hlt := h.lt
  rw [hitsFrom, hfound]
  simp [hlt, hitOf, Nat.sub_sub]

/-- The search goes on at the next character where it finds nothing. -/
theorem hitsFrom_of_not_findsAt {p : Pattern} {done rest : List Char} {c : Char}
    (h : ∀ d, ¬ p.FindsAt (done ++ c :: rest) done.length d) :
    p.hitsFrom done.getLast? done.length 0 (c :: rest) =
      p.hitsFrom (done ++ [c]).getLast? (done ++ [c]).length 0 rest := by
  rw [hitsFrom, List.getLast?_concat, List.length_append, List.length_singleton]
  cases hd : p.firstOutcome? ⟨done.getLast?, c :: rest, done.length, none⟩ with
  | none => rfl
  | some d =>
    have hlt : ¬ done.length < d.offset := fun hlt =>
      h d ⟨by rw [Cursor.atOffset_length, hd], hlt, by simp⟩
    simp [hlt]

/-- The search passes over the characters that belong to the last hit. -/
theorem hitsFrom_skip (p : Pattern) (done rest : List Char) (c : Char) (skip : Nat) :
    p.hitsFrom done.getLast? done.length (skip + 1) (c :: rest) =
      p.hitsFrom (done ++ [c]).getLast? (done ++ [c]).length skip rest := by
  rw [hitsFrom, List.getLast?_concat, List.length_append, List.length_singleton]

/-! The same steps for a piece in place of a character. -/

theorem hitsFrom_skip_append (p : Pattern) (done piece rest : List Char) (skip : Nat) :
    p.hitsFrom done.getLast? done.length (piece.length + skip) (piece ++ rest) =
      p.hitsFrom (done ++ piece).getLast? (done ++ piece).length skip rest := by
  induction piece generalizing done with
  | nil => rw [List.length_nil, Nat.zero_add, List.append_nil, List.nil_append]
  | cons c piece ih =>
    rw [List.length_cons, Nat.add_right_comm, List.cons_append, hitsFrom_skip, ih,
      ← List.append_cons]

theorem hitsFrom_append_of_findsAt {p : Pattern} {done piece rest : List Char} {d : Cursor}
    (h : p.FindsAt (done ++ (piece ++ rest)) done.length d) (hne : piece ≠ [])
    (hle : (done ++ piece).length ≤ d.offset) :
    p.hitsFrom done.getLast? done.length 0 (piece ++ rest) = hitOf done.length d ::
      p.hitsFrom (done ++ piece).getLast? (done ++ piece).length
        (d.offset - (done ++ piece).length) rest := by
  obtain ⟨c, piece, rfl⟩ := List.exists_cons_of_ne_nil hne
  have hskip : d.offset - (done ++ [c]).length =
      piece.length + (d.offset - (done ++ c :: piece).length) := by
    simp only [List.length_append, List.length_cons, List.length_nil] at hle ⊢
    omega
  rw [List.cons_append] at h ⊢
  rw [hitsFrom_of_findsAt h, hskip, hitsFrom_skip_append, ← List.append_cons]

theorem hitsFrom_append_of_not_findsAt {p : Pattern} {done piece rest : List Char}
    (h : ∀ n, n < piece.length → ∀ d,
      ¬ p.FindsAt (done ++ (piece ++ rest)) (done.length + n) d) :
    p.hitsFrom done.getLast? done.length 0 (piece ++ rest) =
      p.hitsFrom (done ++ piece).getLast? (done ++ piece).length 0 rest := by
  induction piece generalizing done with
  | nil => rw [List.append_nil, List.nil_append]
  | cons c piece ih =>
    have hrest : ∀ n, n < piece.length → ∀ d,
        ¬ p.FindsAt (done ++ [c] ++ (piece ++ rest)) ((done ++ [c]).length + n) d := by
      intro n hn d hd
      rw [List.length_append, List.length_singleton, Nat.add_assoc, Nat.add_comm 1 n,
        ← List.append_cons] at hd
      exact h (n + 1) (Nat.succ_lt_succ hn) d hd
    have hnone := h 0 (Nat.succ_pos _)
    rw [List.cons_append] at hnone ⊢
    rw [hitsFrom_of_not_findsAt hnone, ih hrest, ← List.append_cons]

/-- A pattern that matches the whole of a text has no other hit in it. -/
theorem hits_eq_singleton {p : Pattern} {t : List Char} {d : Cursor} (hne : t ≠ [])
    (hfound : p.firstOutcome? (.ofText t) = some d) (hall : d.offset = t.length) :
    p.hits t = [hitOf 0 d] := by
  have hlength : 0 < t.length := List.length_pos_iff.mpr hne
  have hfinds : p.FindsAt ([] ++ (t ++ [])) ([] : List Char).length d := by
    rw [List.append_nil]
    exact ⟨hfound, by rw [hall]; exact hlength, hlength⟩
  have hhits := hitsFrom_append_of_findsAt hfinds hne (Nat.le_of_eq hall.symm)
  rw [List.append_nil] at hhits
  exact hhits

/-- Every hit of the search is found at its offset. -/
theorem findsAt_of_mem_hitsFrom {p : Pattern} {h : Hit} (rest : List Char) :
    ∀ (done : List Char) (skip : Nat), h ∈ p.hitsFrom done.getLast? done.length skip rest →
      ∃ i d, p.FindsAt (done ++ rest) i d ∧ h = hitOf i d := by
  induction rest with
  | nil =>
    intro done skip hmem
    simp [hitsFrom] at hmem
  | cons c rest ih =>
    intro done skip hmem
    have hsplit : done ++ c :: rest = done ++ [c] ++ rest := by simp
    cases skip with
    | succ skip =>
      rw [hitsFrom_skip] at hmem
      rw [hsplit]
      exact ih _ _ hmem
    | zero =>
      by_cases hfinds : ∃ d, p.FindsAt (done ++ c :: rest) done.length d
      · obtain ⟨d, hd⟩ := hfinds
        rw [hitsFrom_of_findsAt hd] at hmem
        rcases List.mem_cons.mp hmem with rfl | hmem
        · exact ⟨done.length, d, hd, rfl⟩
        · rw [hsplit]
          exact ih _ _ hmem
      · rw [hitsFrom_of_not_findsAt (not_exists.mp hfinds)] at hmem
        rw [hsplit]
        exact ih _ _ hmem

/-- The search leaves no offset out that it has not passed over. -/
theorem exists_mem_hitsFrom {p : Pattern} {i : Nat} {d : Cursor} (rest : List Char) :
    ∀ (done : List Char) (skip : Nat), p.FindsAt (done ++ rest) i d → done.length + skip ≤ i →
      ∃ h ∈ p.hitsFrom done.getLast? done.length skip rest, h.start ≤ i ∧ i < h.stop := by
  induction rest with
  | nil =>
    intro done skip hi hle
    have hlt := hi.lt_length
    rw [List.append_nil] at hlt
    omega
  | cons c rest ih =>
    intro done skip hi hle
    have hsplit : done ++ c :: rest = done ++ [c] ++ rest := by simp
    have hlength : (done ++ [c]).length = done.length + 1 := by simp
    cases skip with
    | succ skip =>
      rw [hitsFrom_skip]
      rw [hsplit] at hi
      exact ih _ _ hi (by omega)
    | zero =>
      by_cases hfinds : ∃ d, p.FindsAt (done ++ c :: rest) done.length d
      · obtain ⟨e, he⟩ := hfinds
        rw [hitsFrom_of_findsAt he]
        by_cases hin : i < e.offset
        · exact ⟨hitOf done.length e, List.mem_cons_self, hle, hin⟩
        · rw [hsplit] at hi
          obtain ⟨h, hmem, hh⟩ := ih _ (e.offset - (done ++ [c]).length) hi (by have := he.lt; omega)
          exact ⟨h, List.mem_cons_of_mem _ hmem, hh⟩
      · rw [hitsFrom_of_not_findsAt (not_exists.mp hfinds)]
        have hne : i ≠ done.length := fun heq => hfinds ⟨d, heq ▸ hi⟩
        rw [hsplit] at hi
        exact ih _ _ hi (by omega)

/-- Every hit is found at its offset. -/
theorem findsAt_of_mem_hits {p : Pattern} {t : List Char} {h : Hit} (hmem : h ∈ p.hits t) :
    ∃ i d, p.FindsAt t i d ∧ h = hitOf i d := by
  have hfound := findsAt_of_mem_hitsFrom t [] 0 hmem
  rwa [List.nil_append] at hfound

/-- Every offset at which something is found lies in a hit. -/
theorem exists_mem_hits {p : Pattern} {t : List Char} {i : Nat} {d : Cursor}
    (hi : p.FindsAt t i d) : ∃ h ∈ p.hits t, h.start ≤ i ∧ i < h.stop :=
  exists_mem_hitsFrom t [] 0 hi (Nat.zero_le i)

end Pattern

end SourceGrade
