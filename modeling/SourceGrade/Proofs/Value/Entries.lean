import Mathlib.Data.List.Nodup
import SourceGrade.Proofs.Lookup
import SourceGrade.Value.Basic

set_option autoImplicit false

/-!
# Entries of tables

A value that is put at a key is found there, nothing else changes, and no key comes twice.
-/

namespace SourceGrade.Value

variable {key key' : String} {v : Value} {entries : List (String × Value)}

theorem find?_cons_self (key : String) (v : Value) (entries : List (String × Value)) :
    find? ((key, v) :: entries) key = some v := lookup_cons_self key v entries

theorem find?_cons_of_ne (h : key ≠ key') (v : Value) (entries : List (String × Value)) :
    find? ((key', v) :: entries) key = find? entries key := lookup_cons_of_ne h v entries

theorem find?_put_self (key : String) (v : Value) (entries : List (String × Value)) :
    find? (put key v entries) key = some v := by
  induction entries with
  | nil => exact find?_cons_self key v []
  | cons e entries ih =>
    obtain ⟨other, w⟩ := e
    unfold put
    by_cases h : other = key
    · rw [if_pos h]
      exact find?_cons_self key v entries
    · rw [if_neg h, find?_cons_of_ne (Ne.symm h), ih]

theorem find?_put_of_ne (h : key' ≠ key) (v : Value) (entries : List (String × Value)) :
    find? (put key v entries) key' = find? entries key' := by
  induction entries with
  | nil => exact find?_cons_of_ne h v []
  | cons e entries ih =>
    obtain ⟨other, w⟩ := e
    unfold put
    by_cases hother : other = key
    · rw [if_pos hother, find?_cons_of_ne h, hother, find?_cons_of_ne h]
    · rw [if_neg hother]
      by_cases hkey : key' = other
      · rw [hkey, find?_cons_self, find?_cons_self]
      · rw [find?_cons_of_ne hkey, find?_cons_of_ne hkey, ih]

/-- To put a value where it is changes nothing. -/
theorem put_eq_self (h : find? entries key = some v) : put key v entries = entries := by
  induction entries with
  | nil => cases h
  | cons e entries ih =>
    obtain ⟨other, w⟩ := e
    unfold put
    by_cases hother : other = key
    · subst hother
      rw [find?_cons_self] at h
      rw [if_pos rfl, Option.some.inj h]
    · rw [find?_cons_of_ne (Ne.symm hother)] at h
      rw [if_neg hother, ih h]

theorem mem_put {e : String × Value} (h : e ∈ put key v entries) : e = (key, v) ∨ e ∈ entries := by
  induction entries with
  | nil => exact .inl (List.mem_singleton.mp h)
  | cons first entries ih =>
    unfold put at h
    split at h
    · rcases List.mem_cons.mp h with h | h
      · exact .inl h
      · exact .inr (List.mem_cons_of_mem _ h)
    · rcases List.mem_cons.mp h with h | h
      · exact .inr (h ▸ List.mem_cons_self)
      · exact (ih h).imp_right (List.mem_cons_of_mem _)

/-- The entries have different keys. -/
def HasDistinctKeys (entries : List (String × Value)) : Prop := (entries.map (·.1)).Nodup

instance (entries : List (String × Value)) : Decidable (HasDistinctKeys entries) :=
  inferInstanceAs (Decidable (entries.map (·.1)).Nodup)

theorem hasDistinctKeys_nil : HasDistinctKeys [] := List.nodup_nil

theorem HasDistinctKeys.put (h : HasDistinctKeys entries) (key : String) (v : Value) :
    HasDistinctKeys (put key v entries) := by
  induction entries with
  | nil => exact List.nodup_singleton key
  | cons e entries ih =>
    obtain ⟨hfirst, hrest⟩ := List.nodup_cons.mp h
    unfold Value.put
    by_cases hkey : e.1 = key
    · rw [if_pos hkey]
      exact List.nodup_cons.mpr ⟨hkey ▸ hfirst, hrest⟩
    · rw [if_neg hkey]
      refine List.nodup_cons.mpr ⟨fun hmem => ?_, ih hrest⟩
      obtain ⟨e', he', hsame⟩ := List.mem_map.mp hmem
      rcases mem_put he' with rfl | he'
      · exact hkey hsame.symm
      · exact hfirst (List.mem_map.mpr ⟨e', he', hsame⟩)

end SourceGrade.Value
