set_option autoImplicit false

/-!
# Look-ups among entries

Where no two entries have the same key, looking a key up finds its entry.
-/

namespace SourceGrade

section

variable {α β : Type} [BEq α] [LawfulBEq α]

theorem lookup_cons_self (key : α) (b : β) (entries : List (α × β)) :
    ((key, b) :: entries).lookup key = some b := by
  rw [List.lookup_cons, beq_self_eq_true]

theorem lookup_cons_of_ne {key other : α} (h : key ≠ other) (b : β) (entries : List (α × β)) :
    ((other, b) :: entries).lookup key = entries.lookup key := by
  rw [List.lookup_cons, beq_eq_false_iff_ne.mpr h]

/-- What is found is the value of an entry with the key. -/
theorem mem_of_lookup {entries : List (α × β)} {key : α} {b : β}
    (h : entries.lookup key = some b) : (key, b) ∈ entries := by
  obtain ⟨before, after, rfl, -⟩ := List.lookup_eq_some_iff.mp h
  exact List.mem_append_right before List.mem_cons_self

/-- Nothing is found where no entry has the key. -/
theorem lookup_eq_none_iff_notMem {entries : List (α × β)} {key : α} :
    entries.lookup key = none ↔ key ∉ entries.map (·.1) := by
  rw [List.lookup_eq_none_iff, List.mem_map]
  constructor
  · rintro h ⟨e, he, rfl⟩
    exact absurd (h e he) (by simp)
  · intro h e he
    rw [bne_iff_ne]
    rintro rfl
    exact h ⟨e, he, rfl⟩

/-- Entries with different keys are all found. -/
theorem lookup_eq_some_iff_mem {entries : List (α × β)} (h : (entries.map (·.1)).Nodup)
    {key : α} {b : β} : entries.lookup key = some b ↔ (key, b) ∈ entries := by
  refine ⟨mem_of_lookup, fun hmem => ?_⟩
  induction entries with
  | nil => exact absurd hmem List.not_mem_nil
  | cons e entries ih =>
    obtain ⟨other, b'⟩ := e
    rw [List.map_cons, List.nodup_cons] at h
    rcases List.mem_cons.mp hmem with heq | hlater
    · obtain ⟨rfl, rfl⟩ := Prod.mk.inj heq
      exact lookup_cons_self key b entries
    · have hne : key ≠ other := by
        rintro rfl
        exact h.1 (List.mem_map.mpr ⟨_, hlater, rfl⟩)
      rw [lookup_cons_of_ne hne]
      exact ih h.2 hlater

end

end SourceGrade
