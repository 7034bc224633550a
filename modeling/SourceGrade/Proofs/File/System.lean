import Mathlib.Data.List.Induction
import Mathlib.Data.List.Nodup
import SourceGrade.File.System
import SourceGrade.Proofs.File.Path
import SourceGrade.Proofs.Lookup

set_option autoImplicit false

/-!
# Trees of directories

A file system as it can be: every place has one entry, and every entry has a name and lies in a
directory. What is found at or below a directory depends on nothing outside it:
`look_eq_of_agreeWithin`.
-/

namespace SourceGrade.FileSystem

/-! ## Trees -/

/-- The entries form a tree of directories below the top. -/
structure IsTree (fs : FileSystem) : Prop where
  /-- A place has one entry. -/
  distinct : (fs.entries.map (·.1)).Nodup
  /-- The top is no entry. -/
  proper : ∀ e ∈ fs.entries, e.1 ≠ []
  /-- Entries have names. -/
  plain : ∀ e ∈ fs.entries, Path.IsPlain e.1
  /-- Entries lie in directories. -/
  nested : ∀ e ∈ fs.entries, fs.get? e.1.dropLast = some .directory

variable {fs fs' : FileSystem} {directory place found : Path} {node : Node}

theorem get?_of_ne_nil (h : place ≠ []) : fs.get? place = fs.entries.lookup place := by
  unfold get?
  rw [List.isEmpty_eq_false_iff.mpr h]
  rfl

namespace IsTree

theorem mem_entries_iff (htree : fs.IsTree) :
    (place, node) ∈ fs.entries ↔ place ≠ [] ∧ fs.get? place = some node := by
  constructor
  · intro h
    have hne := htree.proper _ h
    rw [get?_of_ne_nil hne, lookup_eq_some_iff_mem htree.distinct]
    exact ⟨hne, h⟩
  · rintro ⟨hne, h⟩
    rwa [get?_of_ne_nil hne, lookup_eq_some_iff_mem htree.distinct] at h

/-- What is there has names on the way to it. -/
theorem isPlain (htree : fs.IsTree) (h : fs.get? place = some node) : place.IsPlain := by
  by_cases hne : place = []
  · subst hne
    exact fun name hname => absurd hname List.not_mem_nil
  · exact htree.plain _ (htree.mem_entries_iff.mpr ⟨hne, h⟩)

/-- There are directories on the way to what is there. -/
theorem directory_of_append (htree : fs.IsTree) {rest : Path} (hne : rest ≠ [])
    (h : fs.get? (place ++ rest) = some node) : fs.get? place = some .directory := by
  induction rest using List.reverseRecOn generalizing node with
  | nil => exact absurd rfl hne
  | append_singleton rest name ih =>
    have hmem : (place ++ (rest ++ [name]), node) ∈ fs.entries :=
      htree.mem_entries_iff.mpr ⟨by simp, h⟩
    have hparent := htree.nested _ hmem
    rw [← List.append_assoc, List.dropLast_concat] at hparent
    by_cases hrest : rest = []
    · rwa [hrest, List.append_nil] at hparent
    · exact ih hrest hparent

/-! ## What lies below a directory -/

theorem mem_below_iff (htree : fs.IsTree) :
    (place, node) ∈ fs.below directory ↔
      place ≠ [] ∧ fs.get? (directory ++ place) = some node := by
  unfold below
  rw [List.mem_map]
  constructor
  · rintro ⟨⟨whole, node'⟩, hmem, heq⟩
    obtain ⟨rfl, rfl⟩ := Prod.mk.inj heq
    rw [List.mem_filter, Bool.and_eq_true, Path.isWithin_iff, bne_iff_ne] at hmem
    obtain ⟨hmem, ⟨rest, hwhole⟩, hne⟩ := hmem
    dsimp only at hwhole hne ⊢
    rw [← hwhole] at hne ⊢
    rw [Path.relativeTo_append, hwhole]
    refine ⟨?_, (htree.mem_entries_iff.mp hmem).2⟩
    rintro rfl
    exact hne (List.append_nil directory)
  · rintro ⟨hne, h⟩
    refine ⟨(directory ++ place, node), ?_, by rw [Path.relativeTo_append]⟩
    rw [List.mem_filter, Bool.and_eq_true, Path.isWithin_iff, bne_iff_ne]
    refine ⟨htree.mem_entries_iff.mpr ⟨by simp [hne], h⟩, List.prefix_append _ _, ?_⟩
    simpa using hne

theorem nodup_below (htree : fs.IsTree) (directory : Path) :
    ((fs.below directory).map (·.1)).Nodup := by
  unfold below
  rw [List.map_map]
  have hkept := (List.filter_sublist (p := fun e => directory.isWithin e.1 && e.1 != directory)
    (l := fs.entries)).map (·.1)
  have hnodup := hkept.nodup htree.distinct
  rw [List.Nodup, List.pairwise_map] at hnodup ⊢
  refine hnodup.imp_of_mem fun {a b} ha hb hne heq => hne ?_
  rw [List.mem_filter, Bool.and_eq_true, Path.isWithin_iff] at ha hb
  obtain ⟨resta, hresta⟩ := ha.2.1
  obtain ⟨restb, hrestb⟩ := hb.2.1
  have hrest : Path.relativeTo directory a.1 = Path.relativeTo directory b.1 := heq
  rw [← hresta, ← hrestb, Path.relativeTo_append, Path.relativeTo_append] at hrest
  rw [← hresta, ← hrestb, hrest]

end IsTree

/-! ## The order of the entries -/

theorem IsTree.get?_of_perm (htree : fs.IsTree) (hperm : fs.entries.Perm fs'.entries)
    (place : Path) : fs'.get? place = fs.get? place := by
  by_cases hplace : place = []
  · rw [hplace]
    rfl
  · have hdistinct' : (fs'.entries.map (·.1)).Nodup := (hperm.map _).nodup_iff.mp htree.distinct
    rw [get?_of_ne_nil hplace, get?_of_ne_nil hplace]
    refine Option.ext fun node => ?_
    rw [lookup_eq_some_iff_mem hdistinct', lookup_eq_some_iff_mem htree.distinct, hperm.mem_iff]

/-- In whichever order its entries are listed, a tree is a tree. -/
theorem IsTree.of_perm (htree : fs.IsTree) (hperm : fs.entries.Perm fs'.entries) :
    fs'.IsTree where
  distinct := (hperm.map _).nodup_iff.mp htree.distinct
  proper := fun e he => htree.proper e (hperm.mem_iff.mpr he)
  plain := fun e he => htree.plain e (hperm.mem_iff.mpr he)
  nested := fun e he => by
    rw [htree.get?_of_perm hperm]
    exact htree.nested e (hperm.mem_iff.mpr he)

/-! ## Looking places up -/

/-- Names are followed as long as they lead to directories. -/
theorem walk_eq_ok {names : List String} (hnames : PathText.upward ∉ names)
    (h : fs.walk place names = .ok found) : found = place ++ names := by
  induction names generalizing place with
  | nil =>
    unfold walk at h
    split at h
    · rw [List.append_nil]
      exact (Except.ok.inj h).symm
    · cases h
  | cons name names ih =>
    rw [List.mem_cons, not_or] at hnames
    unfold walk at h
    split at h
    · cases h
    · cases h
    · split at h
      · cases h
      · rw [ih hnames.2 h, PathText.step, if_neg (Ne.symm hnames.1), List.append_assoc]
        rfl

/-- Names are followed in the same way where the same lies on their way. -/
theorem walk_congr {names : List String} (hnames : PathText.upward ∉ names)
    (h : ∀ passed, passed <+: names → fs.get? (place ++ passed) = fs'.get? (place ++ passed)) :
    fs.walk place names = fs'.walk place names := by
  have hhere : fs.get? place = fs'.get? place := by
    have hnil := h [] List.nil_prefix
    rwa [List.append_nil] at hnil
  induction names generalizing place with
  | nil => unfold walk; rw [hhere]
  | cons name names ih =>
    rw [List.mem_cons, not_or] at hnames
    have hstep : PathText.step place name = place ++ [name] := if_neg (Ne.symm hnames.1)
    have hrest : ∀ passed, passed <+: names →
        fs.get? (place ++ [name] ++ passed) = fs'.get? (place ++ [name] ++ passed) := by
      intro passed hpassed
      rw [List.append_assoc]
      exact h _ ((List.prefix_cons_inj name).mpr hpassed)
    have hnext := ih hnames.2 hrest (by
      have hone := hrest [] List.nil_prefix
      rwa [List.append_nil] at hone)
    unfold walk
    rw [hhere, hstep, hnext]

/-- Two file systems have the same at and below a directory. -/
def AgreeWithin (directory : Path) (fs fs' : FileSystem) : Prop :=
  ∀ rest, fs.get? (directory ++ rest) = fs'.get? (directory ++ rest)

theorem AgreeWithin.of_prefix (hagree : AgreeWithin directory fs fs') (h : directory <+: place) :
    AgreeWithin place fs fs' := by
  obtain ⟨passed, rfl⟩ := h
  intro rest
  rw [List.append_assoc]
  exact hagree (passed ++ rest)

/-- There are directories on the way to a directory. -/
theorem IsTree.get?_of_prefix (htree : fs.IsTree) (hdirectory : fs.get? directory = some .directory)
    (h : place <+: directory) : fs.get? place = some .directory := by
  obtain ⟨rest, rfl⟩ := h
  by_cases hne : rest = []
  · rwa [hne, List.append_nil] at hdirectory
  · exact htree.directory_of_append hne hdirectory

/-- What lies outside a directory has no influence on what is found within it. -/
theorem look_eq_of_agreeWithin (htree : fs.IsTree) (htree' : fs'.IsTree)
    (hdirectory : fs.get? directory = some .directory)
    (hdirectory' : fs'.get? directory = some .directory) (hagree : AgreeWithin directory fs fs')
    (hwithin : directory <+: place) (hplace : PathText.upward ∉ place) :
    fs.look place = fs'.look place := by
  obtain ⟨rest, rfl⟩ := hwithin
  have hpassed : ∀ passed, passed <+: directory ++ rest →
      fs.get? ([] ++ passed) = fs'.get? ([] ++ passed) := by
    intro passed h
    rw [List.nil_append]
    rcases List.prefix_or_prefix_of_prefix h (List.prefix_append directory rest) with h | h
    · rw [htree.get?_of_prefix hdirectory h, htree'.get?_of_prefix hdirectory' h]
    · obtain ⟨more, rfl⟩ := h
      exact hagree more
  unfold look
  rw [walk_congr hplace hpassed]
  cases hwalk : fs'.walk [] (directory ++ rest) with
  | ok found =>
    rw [walk_eq_ok hplace hwalk, List.nil_append]
    dsimp only
    rw [hagree rest]
  | error e => cases e <;> rfl

end SourceGrade.FileSystem
