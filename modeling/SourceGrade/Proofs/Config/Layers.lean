import SourceGrade.Config.Layers
import SourceGrade.Proofs.Value.Entries

set_option autoImplicit false

/-!
# Layers laid over one another

Settings are looked up by the name of a section and a key. Where sections are tables, a document
that is laid over another one gives the settings that it has, and the one below gives the others:
`raw?_merge`.
-/

namespace SourceGrade.Config

open Value (find? put HasDistinctKeys)

variable {name name' key : String} {v : Value}

/-! ## Settings in sections -/

/-- The section is missing, or it is a table. -/
def IsSection (sections : Entries) (name : String) : Prop :=
  ∀ v, find? sections name = some v → ∃ entries, v = .table entries

/-- The entries of a section. A section that is missing has none. -/
def entriesOf (sections : Entries) (name : String) : Entries :=
  match find? sections name with
  | some (.table entries) => entries
  | _ => []

/-- The value at a key of a section. -/
def raw? (sections : Entries) (name key : String) : Option Value :=
  find? (entriesOf sections name) key

section

variable {sections sections' : Entries}

theorem entriesOf_of_find? {entries : Entries} (h : find? sections name = some (.table entries)) :
    entriesOf sections name = entries := by
  unfold entriesOf
  rw [h]

theorem entriesOf_of_find?_none (h : find? sections name = none) :
    entriesOf sections name = [] := by
  unfold entriesOf
  rw [h]

theorem raw?_of_find? {entries : Entries} (h : find? sections name = some (.table entries))
    (key : String) : raw? sections name key = find? entries key := by
  rw [raw?, entriesOf_of_find? h]

theorem raw?_of_find?_none (h : find? sections name = none) (key : String) :
    raw? sections name key = none := by
  rw [raw?, entriesOf_of_find?_none h]
  rfl

theorem raw?_congr (h : find? sections' name = find? sections name) (key : String) :
    raw? sections' name key = raw? sections name key := by
  unfold raw? entriesOf
  rw [h]

theorem isSection_of_find?_none (h : find? sections name = none) : IsSection sections name :=
  fun _ hv => absurd (h.symm.trans hv) nofun

theorem isSection_of_find? {entries : Entries} (h : find? sections name = some (.table entries)) :
    IsSection sections name := by
  intro v hv
  rw [h] at hv
  exact ⟨entries, (Option.some.inj hv).symm⟩

theorem IsSection.cases (h : IsSection sections name) :
    find? sections name = none ∨ find? sections name = some (.table (entriesOf sections name)) := by
  cases hfind : find? sections name with
  | none => exact .inl rfl
  | some v =>
    obtain ⟨entries, rfl⟩ := h v hfind
    rw [entriesOf_of_find? hfind]
    exact .inr rfl

theorem IsSection.congr (h : IsSection sections name)
    (hsame : find? sections' name = find? sections name) : IsSection sections' name :=
  fun v hv => h v (hsame.symm.trans hv)

end

/-! ## Tables over tables -/

theorem find?_overlay {below above : Entries} (h : HasDistinctKeys above) (key : String) :
    find? (overlay below above) key = (find? above key).or (find? below key) := by
  induction above generalizing below with
  | nil => rfl
  | cons e above ih =>
    obtain ⟨other, v⟩ := e
    obtain ⟨hother, habove⟩ := List.nodup_cons.mp h
    have hstep : overlay below ((other, v) :: above) = overlay (put other v below) above := rfl
    rw [hstep, ih habove]
    by_cases hkey : key = other
    · have hnone : find? above other = none := lookup_eq_none_iff_notMem.mpr hother
      rw [hkey, hnone, Value.find?_put_self, Value.find?_cons_self]
      rfl
    · rw [Value.find?_put_of_ne hkey, Value.find?_cons_of_ne hkey]

/-! ## Sections over sections -/

section

variable {base upper : Entries}

theorem find?_mergeSection_of_ne (h : name' ≠ name) (v : Value) :
    find? (mergeSection base name v) name' = find? base name' := by
  unfold mergeSection
  split <;> exact Value.find?_put_of_ne h _ _

theorem find?_mergeSection_self (h : IsSection base name) {above : Entries}
    (habove : HasDistinctKeys above) :
    ∃ entries, find? (mergeSection base name (.table above)) name = some (.table entries) ∧
      ∀ key, find? entries key = (find? above key).or (raw? base name key) := by
  rcases h.cases with hnone | hsome
  · refine ⟨above, ?_, fun key => ?_⟩
    · unfold mergeSection
      rw [hnone]
      exact Value.find?_put_self name _ base
    · rw [raw?_of_find?_none hnone, Option.or_none]
  · refine ⟨overlay (entriesOf base name) above, ?_, find?_overlay habove⟩
    unfold mergeSection
    rw [hsome]
    exact Value.find?_put_self name _ base

/-- Where a section is a table in two documents, it is one in the document that is made of both, and
each of its settings comes from the upper one if that has it. -/
theorem merge_section (hkeys : HasDistinctKeys upper)
    (hsections : ∀ above, find? upper name = some (.table above) → HasDistinctKeys above)
    (hbase : IsSection base name) (hupper : IsSection upper name) :
    IsSection (merge base upper) name ∧
      ∀ key, raw? (merge base upper) name key = (raw? upper name key).or (raw? base name key) := by
  -- The first section of the upper document is laid over `base`; the others have other names.
  induction upper generalizing base with
  | nil => exact ⟨hbase, fun key => rfl⟩
  | cons e upper ih =>
    obtain ⟨other, v⟩ := e
    obtain ⟨hother, hrest⟩ := List.nodup_cons.mp hkeys
    have hstep : merge base ((other, v) :: upper) = merge (mergeSection base other v) upper := rfl
    rw [hstep]
    by_cases hname : name = other
    · subst hname
      have hhere := Value.find?_cons_self name v upper
      have hnone : find? upper name = none := lookup_eq_none_iff_notMem.mpr hother
      obtain ⟨above, rfl⟩ := hupper v hhere
      obtain ⟨entries, hmerged, hentries⟩ := find?_mergeSection_self hbase (hsections above hhere)
      obtain ⟨hsection, hraw⟩ := ih hrest (fun above h => absurd (hnone.symm.trans h) nofun)
        (isSection_of_find? hmerged) (isSection_of_find?_none hnone)
      refine ⟨hsection, fun key => ?_⟩
      rw [hraw, raw?_of_find?_none hnone, raw?_of_find? hmerged, hentries, raw?_of_find? hhere]
      rfl
    · have hlater := Value.find?_cons_of_ne hname v upper
      have hbelow : find? (mergeSection base other v) name = find? base name :=
        find?_mergeSection_of_ne hname v
      rw [hlater] at hsections
      obtain ⟨hsection, hraw⟩ := ih hrest hsections (hbase.congr hbelow) (hupper.congr hlater.symm)
      refine ⟨hsection, fun key => ?_⟩
      rw [hraw, raw?_congr hbelow, raw?_congr hlater]

end

end SourceGrade.Config
