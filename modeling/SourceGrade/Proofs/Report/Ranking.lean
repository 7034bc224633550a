import Mathlib.Data.List.Nodup
import SourceGrade.Report.Summary

set_option autoImplicit false

/-!
# The ranking of reports

Reports are ranked by score and then by file name, which is a linear order on reports of different
files. So the ranking of a project, and everything that is computed from it, does not depend on the
order in which the reports were handed over.
-/

namespace SourceGrade

/-! ## Sorting -/

section

variable {α : Type} {before : α → α → Bool}

/-- Two lists of the same entries are sorted alike where no two entries are tied. -/
theorem mergeSort_eq_of_perm (htrans : ∀ a b c, before a b → before b c → before a c)
    (htotal : ∀ a b, before a b || before b a) {l l' : List α}
    (hties : ∀ a ∈ l, ∀ b ∈ l, before a b → before b a → a = b) (h : l.Perm l') :
    l.mergeSort before = l'.mergeSort before := by
  have hsorted := List.pairwise_mergeSort htrans htotal l
  have hsorted' := List.pairwise_mergeSort htrans htotal l'
  have hperm : (l.mergeSort before).Perm (l'.mergeSort before) :=
    (List.mergeSort_perm l before).trans (h.trans (List.mergeSort_perm l' before).symm)
  refine hperm.eq_of_pairwise (fun a b ha hb hab hba => ?_) hsorted hsorted'
  have hb' : b ∈ l := h.mem_iff.mpr (List.mem_mergeSort.mp hb)
  exact hties a (List.mem_mergeSort.mp ha) b hb' hab hba

end

/-- Whether a name comes no later than another one. -/
def nameBefore (a b : String) : Bool := !(b < a)

theorem nameBefore_iff {a b : String} : nameBefore a b = true ↔ a ≤ b := by
  unfold nameBefore
  rw [Bool.not_eq_true', decide_eq_false_iff_not, String.not_lt]

theorem nameBefore_trans (a b c : String) (hab : nameBefore a b = true)
    (hbc : nameBefore b c = true) : nameBefore a c = true :=
  nameBefore_iff.mpr (String.le_trans (nameBefore_iff.mp hab) (nameBefore_iff.mp hbc))

theorem nameBefore_total (a b : String) : (nameBefore a b || nameBefore b a) = true := by
  rw [Bool.or_eq_true, nameBefore_iff, nameBefore_iff]
  exact String.le_total a b

theorem nameBefore_antisymm {a b : String} (hab : nameBefore a b = true)
    (hba : nameBefore b a = true) : a = b :=
  String.le_antisymm (nameBefore_iff.mp hab) (nameBefore_iff.mp hba)

namespace Summary

/-! ## The order of reports -/

theorem ranksBefore_iff {a b : Report} :
    ranksBefore a b = true ↔ a.score < b.score ∨ a.score = b.score ∧ a.filename ≤ b.filename := by
  have hname : (!decide (b.filename < a.filename)) = true ↔ a.filename ≤ b.filename :=
    nameBefore_iff
  unfold ranksBefore
  rw [Bool.or_eq_true, Bool.and_eq_true, decide_eq_true_eq, beq_iff_eq, hname]

theorem ranksBefore_trans (a b c : Report) (hab : ranksBefore a b = true)
    (hbc : ranksBefore b c = true) : ranksBefore a c = true := by
  rw [ranksBefore_iff] at hab hbc ⊢
  rcases hab with hab | ⟨hab, hnames⟩
  · rcases hbc with hbc | ⟨hbc, -⟩
    · exact .inl (Int.lt_trans hab hbc)
    · exact .inl (hbc ▸ hab)
  · rcases hbc with hbc | ⟨hbc, hnames'⟩
    · exact .inl (hab ▸ hbc)
    · exact .inr ⟨hab.trans hbc, String.le_trans hnames hnames'⟩

theorem ranksBefore_total (a b : Report) : (ranksBefore a b || ranksBefore b a) = true := by
  rw [Bool.or_eq_true, ranksBefore_iff, ranksBefore_iff]
  rcases Int.lt_trichotomy a.score b.score with h | h | h
  · exact .inl (.inl h)
  · rcases String.le_total a.filename b.filename with hname | hname
    · exact .inl (.inr ⟨h, hname⟩)
    · exact .inr (.inr ⟨h.symm, hname⟩)
  · exact .inr (.inl h)

/-- Only reports of the same file are tied. -/
theorem filename_eq_of_ranksBefore {a b : Report} (hab : ranksBefore a b = true)
    (hba : ranksBefore b a = true) : a.filename = b.filename := by
  rw [ranksBefore_iff] at hab hba
  rcases hab with hab | ⟨heq, hname⟩
  · rcases hba with hba | ⟨hba, -⟩
    · exact absurd (Int.lt_trans hab hba) (Int.lt_irrefl _)
    · exact absurd (hba ▸ hab) (Int.lt_irrefl _)
  · rcases hba with hba | ⟨-, hname'⟩
    · exact absurd (heq ▸ hba) (Int.lt_irrefl _)
    · exact String.le_antisymm hname hname'

/-- A report is worse than another one, or as bad and of an earlier file. -/
def Below (a b : Report) : Prop :=
  a.score < b.score ∨ a.score = b.score ∧ a.filename < b.filename

theorem below_of_ranksBefore {a b : Report} (h : ranksBefore a b = true)
    (hne : a.filename ≠ b.filename) : Below a b := by
  rcases ranksBefore_iff.mp h with hscore | ⟨hscore, hname⟩
  · exact .inl hscore
  · refine .inr ⟨hscore, ?_⟩
    refine Decidable.byContradiction fun hnot => hne ?_
    exact String.le_antisymm hname (String.not_lt.mp hnot)

/-! ## The ranking -/

theorem ranking_perm (reports : List Report) : (ranking reports).Perm reports :=
  List.mergeSort_perm reports ranksBefore

/-- Reports of different files are ranked strictly. -/
theorem pairwise_ranking {reports : List Report} (hfiles : (reports.map (·.filename)).Nodup) :
    (ranking reports).Pairwise Below := by
  have hsorted : (ranking reports).Pairwise fun a b => ranksBefore a b = true :=
    List.pairwise_mergeSort ranksBefore_trans ranksBefore_total reports
  have hnodup : ((ranking reports).map (·.filename)).Nodup :=
    ((ranking_perm reports).map _).nodup_iff.mpr hfiles
  have hdistinct : (ranking reports).Pairwise fun a b => a.filename ≠ b.filename :=
    List.pairwise_map.mp hnodup
  exact (hsorted.and hdistinct).imp fun h => below_of_ranksBefore h.1 h.2

theorem ranking_eq_of_perm {reports reports' : List Report}
    (hfiles : (reports.map (·.filename)).Nodup) (h : reports.Perm reports') :
    ranking reports = ranking reports' := by
  refine mergeSort_eq_of_perm ranksBefore_trans ranksBefore_total (fun a ha b hb hab hba => ?_) h
  exact List.inj_on_of_nodup_map hfiles ha hb (filename_eq_of_ranksBefore hab hba)

/-- Nothing in a summary depends on the order in which the reports arrived. -/
theorem ofGraded_eq_of_perm {reports reports' : List Report}
    (hfiles : (reports.map (·.filename)).Nodup) (h : reports.Perm reports') :
    ofGraded reports = ofGraded reports' := by
  unfold ofGraded
  rw [ranking_eq_of_perm hfiles h, h.isEmpty_eq]

/-- The reports of a summary are the ranking of those it was made from. -/
theorem reports_ofGraded (reports : List Report) :
    (ofGraded reports).reports = ranking reports := by
  unfold ofGraded
  cases reports with
  | nil => exact List.mergeSort_nil.symm
  | cons r reports => rfl

/-- The languages of a summary are counted among its reports. -/
theorem languages_ofGraded (reports : List Report) :
    (ofGraded reports).languages = countLanguages (ofGraded reports).reports := by
  unfold ofGraded
  cases reports with
  | nil => rfl
  | cons r reports => rfl

end Summary

end SourceGrade
