import SourceGrade.Metric.Naming
import SourceGrade.Proofs.Attempts
import SourceGrade.Proofs.Function.Find
import SourceGrade.Proofs.Sublist

set_option autoImplicit false

/-!
# Judging names

Only the empty name is refused, and no function of a text has it, so the names in a text can always
be judged. Where more names of one letter are customary, some of the issues are left out.
-/

namespace SourceGrade.NamingIssue

/-- The issue with a name, if there is one and the name can be judged. -/
def issue? (convention : Option NamingConvention) (f : FunctionInfo) : Option NamingIssue :=
  match ofFunction convention f with
  | .ok o => o
  | .error _ => none

theorem ofFunction_eq_ok_iff {convention : Option NamingConvention} (f : FunctionInfo)
    (o : Option NamingIssue) :
    ofFunction convention f = .ok o ↔ f.name.toList ≠ [] ∧ issue? convention f = o := by
  unfold issue? ofFunction
  cases f.name.toList with
  | nil => simp
  | cons first rest =>
    cases convention with
    | none => simp
    | some c =>
      dsimp only
      split <;> simp

/-- The issues with the names of functions and variables. -/
def listed (language : Language) (fs : List FunctionInfo) (allowed : List String)
    (t : List Char) : List NamingIssue :=
  fs.filterMap (issue? (some language.convention)) ++ ofVariables allowed t

theorem ofText_eq_ok {language : Language} {fs : List FunctionInfo} (allowed : List String)
    (t : List Char) (hnamed : ∀ f ∈ fs, f.name.toList ≠ []) :
    ofText language fs allowed t = .ok (listed language fs allowed t) := by
  have hall : ofFunctions (some language.convention) fs =
      .ok (fs.filterMap (issue? (some language.convention))) :=
    (findings_eq_ok_iff ofFunction_eq_ok_iff).mpr ⟨hnamed, rfl⟩
  unfold ofText
  rw [hall]
  rfl

/-- The names in a text can be judged, whatever the text. -/
theorem ofText_find (language : Language) (limit : Int) (allowed : List String) (t : List Char) :
    ofText language (FunctionInfo.find language t limit) allowed t =
      .ok (listed language (FunctionInfo.find language t limit) allowed t) :=
  ofText_eq_ok allowed t fun _ => FunctionInfo.name_ne_nil_of_mem_find

/-- The name of a function is asked to follow the convention. -/
theorem expected_of_issue? {c : NamingConvention} {f : FunctionInfo} {issue : NamingIssue}
    (h : issue? (some c) f = some issue) : issue.expected = c.name := by
  unfold issue? at h
  cases hf : ofFunction (some c) f with
  | error e =>
    rw [hf] at h
    cases h
  | ok o =>
    rw [hf] at h
    subst h
    unfold ofFunction at hf
    repeat' split at hf
    all_goals cases hf
    rename_i heq _
    rw [Option.some.inj heq]

/-- What is asked of a name is said on one line. -/
theorem lineFeed_notMem_expected {language : Language} {fs : List FunctionInfo}
    {allowed : List String} {t : List Char} {issue : NamingIssue}
    (h : issue ∈ listed language fs allowed t) : '\n' ∉ issue.expected.toList := by
  have hconvention : ∀ c : NamingConvention, '\n' ∉ c.name.toList := by
    intro c
    cases c <;> decide
  unfold listed at h
  rcases List.mem_append.mp h with h | h
  · obtain ⟨f, -, hissue⟩ := List.mem_filterMap.mp h
    rw [expected_of_issue? hissue]
    exact hconvention language.convention
  · unfold ofVariables at h
    obtain ⟨hit, -, h⟩ := List.mem_filterMap.mp h
    dsimp only at h
    split at h
    · cases h
    · obtain rfl := Option.some.inj h
      have hname : '\n' ∉ descriptiveName.toList := by decide
      exact hname

/-- Where more names are allowed, some of the issues are left out and none is added. -/
theorem listed_sublist {allowed allowed' : List String} (h : allowed ⊆ allowed')
    (language : Language) (fs : List FunctionInfo) (t : List Char) :
    (listed language fs allowed' t).Sublist (listed language fs allowed t) := by
  unfold listed
  refine List.Sublist.append (List.Sublist.refl _) ?_
  unfold ofVariables
  refine filterMap_sublist_filterMap (fun hit issue hsome => ?_) _
  dsimp only at hsome ⊢
  split at hsome
  · cases hsome
  · rename_i hnot
    rw [if_neg fun hin => hnot (contains_of_subset h hin)]
    exact hsome

end SourceGrade.NamingIssue
