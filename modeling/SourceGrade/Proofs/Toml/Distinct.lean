import SourceGrade.Proofs.Attempts
import SourceGrade.Proofs.Value.Entries
import SourceGrade.Toml.Document

set_option autoImplicit false

/-!
# Documents have different keys

No table of a document has two entries with the same key, whatever the statements that its entries
come from. `hasDistinctSections_read` says so of the document and of its sections, which is as far
as the layers of settings are laid over one another.
-/

namespace SourceGrade.Toml

open Value (HasDistinctKeys)

/-- If the value is a table, its keys are different. -/
def IsDistinct : Value → Prop
  | .table entries => HasDistinctKeys entries
  | _ => True

/-- The keys are different, and so are those of each table among the values. -/
structure HasDistinctSections (entries : Entries) : Prop where
  keys : HasDistinctKeys entries
  sections : ∀ e ∈ entries, IsDistinct e.2

theorem hasDistinctSections_nil : HasDistinctSections [] :=
  ⟨Value.hasDistinctKeys_nil, fun _ he => absurd he List.not_mem_nil⟩

theorem HasDistinctSections.put {entries : Entries} (h : HasDistinctSections entries)
    (key : String) {v : Value} (hv : IsDistinct v) :
    HasDistinctSections (Value.put key v entries) where
  keys := h.keys.put key v
  sections e he := by
    rcases Value.mem_put he with rfl | he
    · exact hv
    · exact h.sections e he

theorem HasDistinctSections.of_find? {entries : Entries} {key : String} {v : Value}
    (h : HasDistinctSections entries) (hfind : Value.find? entries key = some v) : IsDistinct v :=
  h.sections _ (mem_of_lookup hfind)

/-! ## Entries at the end of a path -/

section

variable {throughLists : Bool} {replace : Entries → Option Entries} {path : List String}
  {entries entries' : Entries}

/-- What is replaced at the end of a path is put at its first name, in a table or in a list. -/
theorem atPath?_cons {name : String} (h : atPath? throughLists replace (name :: path) entries =
    some entries') :
    (∃ inner inner', (inner = [] ∨ Value.find? entries name = some (.table inner)) ∧
      atPath? throughLists replace path inner = some inner' ∧
      entries' = Value.put name (.table inner') entries) ∨
    ∃ items, entries' = Value.put name (.list items) entries := by
  unfold atPath? at h
  split at h
  · obtain ⟨inner', hinner, rfl⟩ := Option.map_eq_some_iff.mp h
    exact .inl ⟨[], inner', .inl rfl, hinner, rfl⟩
  · rename_i inner hfind
    obtain ⟨inner', hinner, rfl⟩ := Option.map_eq_some_iff.mp h
    exact .inl ⟨inner, inner', .inr hfind, hinner, rfl⟩
  · split at h
    · obtain ⟨inner', -, rfl⟩ := Option.map_eq_some_iff.mp h
      exact .inr ⟨_, rfl⟩
    · cases h
  · cases h

theorem hasDistinctKeys_atPath?
    (hreplace : ∀ es es', HasDistinctKeys es → replace es = some es' → HasDistinctKeys es')
    (hentries : HasDistinctKeys entries)
    (h : atPath? throughLists replace path entries = some entries') :
    HasDistinctKeys entries' := by
  cases path with
  | nil => exact hreplace _ _ hentries h
  | cons name path =>
    rcases atPath?_cons h with ⟨_, _, _, _, rfl⟩ | ⟨_, rfl⟩
    · exact hentries.put _ _
    · exact hentries.put _ _

theorem hasDistinctSections_atPath?
    (hreplace : ∀ es es', HasDistinctKeys es → replace es = some es' → HasDistinctKeys es')
    (hsections : ∀ es es', HasDistinctSections es → replace es = some es' →
      HasDistinctSections es')
    (hentries : HasDistinctSections entries)
    (h : atPath? throughLists replace path entries = some entries') :
    HasDistinctSections entries' := by
  -- Below the first name only the keys of its table matter, so no induction is needed.
  cases path with
  | nil => exact hsections _ _ hentries h
  | cons name path =>
    rcases atPath?_cons h with ⟨inner, inner', hinner, hreplaced, rfl⟩ | ⟨_, rfl⟩
    · have hkeys : HasDistinctKeys inner := by
        rcases hinner with rfl | hfind
        · exact Value.hasDistinctKeys_nil
        · exact hentries.of_find? hfind
      exact hentries.put name (hasDistinctKeys_atPath? hreplace hkeys hreplaced)
    · exact hentries.put name trivial

theorem insertNew?_eq_some {name : String} {v : Value}
    (h : insertNew? name v entries = some entries') : entries' = Value.put name v entries := by
  unfold insertNew? at h
  split at h
  · cases h
  · exact (Option.some.inj h).symm

theorem addItem?_eq_some {name : String} (h : addItem? name entries = some entries') :
    ∃ items, entries' = Value.put name (.list items) entries := by
  unfold addItem? at h
  split at h
  · exact ⟨_, (Option.some.inj h).symm⟩
  · exact ⟨_, (Option.some.inj h).symm⟩
  · cases h

theorem hasDistinctKeys_insertNew? {name : String} {v : Value} (hentries : HasDistinctKeys entries)
    (h : insertNew? name v entries = some entries') : HasDistinctKeys entries' :=
  insertNew?_eq_some h ▸ hentries.put name v

end

/-! ## Values -/

theorem isDistinct_readMoment? {t rest : List Char} {v : Value}
    (h : readMoment? t = some (.ok (v, rest))) : IsDistinct v := by
  unfold readMoment? at h
  split at h
  · split at h
    · cases h
    · split at h
      · cases h
        trivial
      · cases h
        trivial
  · obtain ⟨p, -, hp⟩ := Option.map_eq_some_iff.mp h
    cases hp
    trivial

theorem isDistinct_decimal? {t rest : List Char} {v : Value}
    (h : decimal? t = some (.ok (v, rest))) : IsDistinct v := by
  unfold decimal? at h
  obtain ⟨p, -, hp⟩ := Option.map_eq_some_iff.mp h
  dsimp only at hp
  split at hp
  · split at hp
    · cases hp
    · cases hp
      trivial
  · cases hp
    trivial

theorem isDistinct_special? {t rest : List Char} {v : Value}
    (h : special? t = some (v, rest)) : IsDistinct v := by
  unfold special? at h
  dsimp only at h
  split at h
  · cases h
    trivial
  · cases h
    trivial
  · cases h

theorem isDistinct_readNumber? {t rest : List Char} {v : Value}
    (h : readNumber? t = some (.ok (v, rest))) : IsDistinct v := by
  unfold readNumber? at h
  split at h
  · cases h
    trivial
  · split at h
    · rename_i step hstep
      exact isDistinct_decimal? (hstep.trans h)
    · obtain ⟨p, hp, heq⟩ := Option.map_eq_some_iff.mp h
      cases heq
      exact isDistinct_special? hp

theorem isDistinct_readScalar {t rest : List Char} {v : Value}
    (h : readScalar t = .ok (v, rest)) : IsDistinct v := by
  unfold readScalar at h
  split at h
  · cases h
    trivial
  · cases h
    trivial
  · split at h
    · rename_i step hstep
      exact isDistinct_readMoment? (h ▸ hstep)
    · cases hnumber : readNumber? _ with
      | none => rw [hnumber] at h; cases h
      | some step =>
        rw [hnumber] at h
        exact isDistinct_readNumber? (hnumber.trans (congrArg some h))

theorem isDistinct_readItems {fuel room : Nat} {done : List Value} {t rest : List Char} {v : Value}
    (h : readItems fuel room done t = .ok (v, rest)) : IsDistinct v := by
  induction fuel generalizing done t with
  | zero =>
    unfold readItems at h
    cases h
  | succ fuel ih =>
    unfold readItems at h
    split at h
    · cases h
    · cases h
      trivial
    · split at h
      · cases h
      · split at h
        · cases h
        · cases h
          trivial
        · exact ih h
        · cases h

theorem hasDistinctKeys_addInline {closed : List (List String)} {key : Key} {v : Value}
    {entries entries' : Entries} (hentries : HasDistinctKeys entries)
    (h : addInline closed key v entries = .ok entries') : HasDistinctKeys entries' := by
  unfold addInline at h
  split at h
  · cases h
  · split at h
    · rename_i hpath
      cases h
      exact hasDistinctKeys_atPath? (fun _ _ => hasDistinctKeys_insertNew?) hentries hpath
    · cases h

theorem isDistinct_readEntries {fuel room : Nat} {closed : List (List String)} {entries : Entries}
    {t rest : List Char} {v : Value} (hentries : HasDistinctKeys entries)
    (h : readEntries fuel room closed entries t = .ok (v, rest)) : IsDistinct v := by
  induction fuel generalizing closed entries t with
  | zero =>
    unfold readEntries at h
    cases h
  | succ fuel ih =>
    unfold readEntries at h
    split at h
    · cases h
    · split at h
      · cases h
      · split at h
        · cases h
        · rename_i hadded
          have hentries' := hasDistinctKeys_addInline hentries hadded
          split at h
          · cases h
            exact hentries'
          · exact ih hentries' h
          · cases h

/-- The keys of a value that is an inline table are different. -/
theorem isDistinct_readValue {fuel room : Nat} {t rest : List Char} {v : Value}
    (h : readValue fuel room t = .ok (v, rest)) : IsDistinct v := by
  cases fuel with
  | zero =>
    unfold readValue at h
    cases h
  | succ fuel =>
    unfold readValue at h
    split at h
    · rename_i step _
      cases step with
      | error e => cases h
      | ok p =>
        cases h
        trivial
    · split at h
      · split at h
        · cases h
        · exact isDistinct_readItems h
      · split at h
        · cases h
        · split at h
          · cases h
            exact Value.hasDistinctKeys_nil
          · exact isDistinct_readEntries Value.hasDistinctKeys_nil h
      · exact isDistinct_readScalar h

/-! ## Statements and documents -/

theorem Draft.withEntries_eq_ok {d d' : Draft} {entries : Option Entries}
    (h : d.withEntries entries = .ok d') : entries = some d'.entries := by
  unfold withEntries at h
  split at h
  · cases h
    rfl
  · cases h

/-- What is added to a document is distinct if it is an entry. -/
def Statement.IsDistinct : Statement → Prop
  | .entry _ v => Toml.IsDistinct v
  | _ => True

/-- A statement leaves keys different. -/
theorem Draft.hasDistinctSections_add {d d' : Draft} {s : Statement} (hs : s.IsDistinct)
    (hd : HasDistinctSections d.entries) (h : d.add s = .ok d') :
    HasDistinctSections d'.entries := by
  cases s with
  | entry key v =>
    unfold add addEntry at h
    dsimp only at h
    split at h
    · cases h
    · refine hasDistinctSections_atPath? (fun _ _ => hasDistinctKeys_insertNew?) ?_ hd
        (withEntries_eq_ok h)
      intro es es' hes hinsert
      exact insertNew?_eq_some hinsert ▸ hes.put key.last hs
  | table key =>
    unfold add openTable at h
    dsimp only at h
    split at h
    · cases h
    · refine hasDistinctSections_atPath? ?_ ?_ hd (withEntries_eq_ok h)
      · intro es es' hes hsome
        exact Option.some.inj hsome ▸ hes
      · intro es es' hes hsome
        exact Option.some.inj hsome ▸ hes
  | item key =>
    unfold add openItem at h
    dsimp only at h
    split at h
    · cases h
    · refine hasDistinctSections_atPath? ?_ ?_ hd (withEntries_eq_ok h)
      · intro es es' hes hadd
        obtain ⟨items, rfl⟩ := addItem?_eq_some hadd
        exact hes.put _ _
      · intro es es' hes hadd
        obtain ⟨items, rfl⟩ := addItem?_eq_some hadd
        exact hes.put _ trivial

theorem isDistinct_readStatement {t rest : List Char} {s : Statement}
    (h : readStatement t = .ok (s, rest)) : s.IsDistinct := by
  unfold readStatement at h
  split at h
  · split at h
    · cases h
      trivial
    · cases h
  · split at h
    · cases h
      trivial
    · cases h
  · split at h
    · cases h
    · cases hvalue : readValue _ _ _ with
      | error e => rw [hvalue] at h; cases h
      | ok p =>
        rw [hvalue] at h
        cases h
        exact isDistinct_readValue hvalue

theorem hasDistinctSections_readFrom {fuel : Nat} {d d' : Draft} {t : List Char}
    (hd : HasDistinctSections d.entries) (h : readFrom fuel d t = .ok d') :
    HasDistinctSections d'.entries := by
  induction fuel generalizing d t with
  | zero =>
    unfold readFrom at h
    cases h
  | succ fuel ih =>
    unfold readFrom at h
    split at h
    · cases h
      exact hd
    · exact ih hd h
    · obtain ⟨rest, -, hrest⟩ := bind_eq_ok_iff.mp h
      exact ih hd hrest
    · obtain ⟨⟨statement, left⟩, hstatement, h⟩ := bind_eq_ok_iff.mp h
      obtain ⟨d₁, hadd, h⟩ := bind_eq_ok_iff.mp h
      obtain ⟨rest, -, hrest⟩ := bind_eq_ok_iff.mp h
      exact ih (d.hasDistinctSections_add (isDistinct_readStatement hstatement) hd hadd) hrest

/-- No table of a document has two entries with one key. -/
theorem hasDistinctSections_read {t : List Char} {entries : Entries} (h : read t = .ok entries) :
    HasDistinctSections entries := by
  unfold read at h
  dsimp only at h
  cases hdraft : readFrom _ _ _ with
  | error e => rw [hdraft] at h; cases h
  | ok d =>
    rw [hdraft] at h
    cases h
    exact hasDistinctSections_readFrom hasDistinctSections_nil hdraft

end SourceGrade.Toml
