import Mathlib.Data.List.Nodup
import SourceGrade.Config.Environment
import SourceGrade.Proofs.Attempts
import SourceGrade.Proofs.Config.Layers

set_option autoImplicit false

/-!
# The environment over the documents

Each override has a variable and a setting of its own. So the overrides can be applied in any order,
each of them decides its setting if its variable gives a value, and to apply them once more changes
nothing.
-/

namespace SourceGrade.Config

open Value (find? put)

variable {env env' : Environment} {sections sections' : Entries} {name key : String}
  {o : Override} {os : List Override}

namespace Override

/-- The section and the key of the setting that an override decides. -/
def target (o : Override) : String × String := (o.sectionName, o.key)

theorem target_eq_iff : o.target = (name, key) ↔ o.sectionName = name ∧ o.key = key :=
  Prod.ext_iff

/-- The variable of an override is not set, is empty, or does not hold what is expected of it. -/
def IsIdle (o : Override) (env : Environment) : Prop :=
  ∀ s, env.lookup o.variableName = some s → s = "" ∨ o.cast s.toList = none

theorem value?_eq_none_iff : o.value? env = none ↔ o.IsIdle env := by
  unfold value? IsIdle
  cases env.lookup o.variableName with
  | none => exact ⟨fun _ _ h => absurd h nofun, fun _ => rfl⟩
  | some s =>
    dsimp only
    constructor
    · rintro h s' hs
      obtain rfl := Option.some.inj hs
      split at h
      · rename_i hempty
        exact .inl (String.isEmpty_iff.mp hempty)
      · exact .inr h
    · intro h
      rcases h s rfl with rfl | hcast
      · rfl
      · rw [hcast, ite_self]

end Override

/-- The override of a setting. -/
def overrideOf? (os : List Override) (name key : String) : Option Override :=
  (os.map fun o => (o.target, o)).lookup (name, key)

/-- The value that the environment gives to a setting. -/
def fromEnvironment? (os : List Override) (env : Environment) (name key : String) : Option Value :=
  (overrideOf? os name key).bind (·.value? env)

/-- The overrides decide different settings. -/
def HaveDistinctTargets (os : List Override) : Prop := (os.map (·.target)).Nodup

instance (os : List Override) : Decidable (HaveDistinctTargets os) :=
  inferInstanceAs (Decidable (os.map (·.target)).Nodup)

theorem haveDistinctTargets_overrides : HaveDistinctTargets overrides := by decide

theorem map_fst_pair (os : List Override) :
    (os.map fun o => (o.target, o)).map (·.1) = os.map (·.target) := by
  rw [List.map_map]
  rfl

theorem overrideOf?_eq_some_iff (h : HaveDistinctTargets os) :
    overrideOf? os name key = some o ↔ o ∈ os ∧ o.target = (name, key) := by
  unfold overrideOf?
  rw [lookup_eq_some_iff_mem (by rw [map_fst_pair]; exact h), List.mem_map]
  constructor
  · rintro ⟨o', hmem, heq⟩
    obtain ⟨htarget, rfl⟩ := Prod.mk.inj heq
    exact ⟨hmem, htarget⟩
  · rintro ⟨hmem, htarget⟩
    exact ⟨o, hmem, by rw [htarget]⟩

/-- The order of the overrides does not matter for what they give. -/
theorem fromEnvironment?_perm {os' : List Override} (hperm : os'.Perm os)
    (h : HaveDistinctTargets os) (env : Environment) (name key : String) :
    fromEnvironment? os' env name key = fromEnvironment? os env name key := by
  have h' : HaveDistinctTargets os' := (hperm.map _).nodup_iff.mpr h
  have hsame : overrideOf? os' name key = overrideOf? os name key := by
    refine Option.ext fun o => ?_
    rw [overrideOf?_eq_some_iff h', overrideOf?_eq_some_iff h, hperm.mem_iff]
  unfold fromEnvironment?
  rw [hsame]

/-! ## One override -/

theorem set_section (h : IsSection sections name) (key : String) (v : Value) :
    ∃ entries, Override.set sections name key v =
        .ok (put name (.table entries) sections) ∧
      ∀ key', find? entries key' = if key' = key then some v else raw? sections name key' := by
  rcases h.cases with hnone | hsome
  · refine ⟨[(key, v)], ?_, fun key' => ?_⟩
    · unfold Override.set
      rw [hnone]
    · rw [raw?_of_find?_none hnone]
      split
      · rename_i hkey
        rw [hkey, Value.find?_cons_self]
      · rename_i hkey
        rw [Value.find?_cons_of_ne hkey]
        rfl
  · refine ⟨put key v (entriesOf sections name), ?_, fun key' => ?_⟩
    · unfold Override.set
      rw [hsome]
    · split
      · rename_i hkey
        rw [hkey, Value.find?_put_self]
      · rename_i hkey
        rw [Value.find?_put_of_ne hkey, raw?]

/-- An override decides its setting if it gives a value, and no other; sections stay sections. -/
theorem apply_section (h : IsSection sections o.sectionName) (env : Environment) :
    ∃ sections', Override.apply env sections o = .ok sections' ∧
      (∀ name key, raw? sections' name key =
        (if o.target = (name, key) then o.value? env else none).or (raw? sections name key)) ∧
      ∀ name, IsSection sections name → IsSection sections' name := by
  unfold Override.apply
  cases hvalue : o.value? env with
  | none =>
    refine ⟨sections, rfl, fun name key => ?_, fun name hname => hname⟩
    rw [ite_self]
    rfl
  | some v =>
    obtain ⟨entries, hset, hentries⟩ := set_section h o.key v
    have hhere := Value.find?_put_self o.sectionName (.table entries) sections
    refine ⟨_, hset, fun name key => ?_, fun name hname => ?_⟩
    · by_cases hname : name = o.sectionName
      · subst hname
        rw [raw?_of_find? hhere, hentries]
        by_cases hkey : key = o.key
        · rw [if_pos hkey, if_pos (Override.target_eq_iff.mpr ⟨rfl, hkey.symm⟩)]
          rfl
        · have htarget : ¬ o.target = (o.sectionName, key) := fun htarget =>
            hkey (Override.target_eq_iff.mp htarget).2.symm
          rw [if_neg hkey, if_neg htarget]
          rfl
      · have htarget : ¬ o.target = (name, key) := fun htarget =>
          hname (Override.target_eq_iff.mp htarget).1.symm
        rw [if_neg htarget, raw?_congr (Value.find?_put_of_ne hname _ _)]
        rfl
    · by_cases hsame : name = o.sectionName
      · rw [hsame]
        exact isSection_of_find? hhere
      · exact hname.congr (Value.find?_put_of_ne hsame _ _)

/-! ## All overrides -/

theorem applyAll_cons (env : Environment) (o : Override) (os : List Override)
    (sections : Entries) :
    applyAll env (o :: os) sections =
      Override.apply env sections o >>= applyAll env os := List.foldlM_cons ..

/-- Over sections, each override decides its own setting. -/
theorem applyAll_sections (hdistinct : HaveDistinctTargets os)
    (h : ∀ o ∈ os, IsSection sections o.sectionName) (env : Environment) :
    ∃ sections', applyAll env os sections = .ok sections' ∧
      (∀ name key, raw? sections' name key =
        (fromEnvironment? os env name key).or (raw? sections name key)) ∧
      ∀ name, IsSection sections name → IsSection sections' name := by
  induction os generalizing sections with
  | nil => exact ⟨sections, rfl, fun name key => rfl, fun name hname => hname⟩
  | cons o os ih =>
    obtain ⟨hother, hrest⟩ := List.nodup_cons.mp hdistinct
    obtain ⟨sections₁, happly, hraw₁, hsection₁⟩ := apply_section (h o List.mem_cons_self) env
    obtain ⟨sections₂, hall, hraw₂, hsection₂⟩ :=
      ih hrest fun o' ho' => hsection₁ _ (h o' (List.mem_cons_of_mem o ho'))
    refine ⟨sections₂, ?_, fun name key => ?_, fun name hname => hsection₂ _ (hsection₁ _ hname)⟩
    · rw [applyAll_cons, happly]
      exact hall
    · rw [hraw₂, hraw₁]
      by_cases htarget : o.target = (name, key)
      -- No later override decides the same setting, so the value of the first one stays.
      · have hnone : overrideOf? os name key = none := by
          unfold overrideOf?
          rw [lookup_eq_none_iff_notMem, map_fst_pair, ← htarget]
          exact hother
        have hsome : overrideOf? (o :: os) name key = some o := by
          unfold overrideOf?
          rw [List.map_cons, htarget, lookup_cons_self]
        rw [if_pos htarget, fromEnvironment?, fromEnvironment?, hnone, hsome]
        rfl
      · have hsame : overrideOf? (o :: os) name key = overrideOf? os name key := by
          unfold overrideOf?
          rw [List.map_cons, lookup_cons_of_ne (Ne.symm htarget)]
        rw [if_neg htarget, fromEnvironment?, fromEnvironment?, hsame]
        rfl

/-- Only the values of the variables count. -/
theorem applyAll_congr (h : ∀ o ∈ os, o.value? env = o.value? env') (sections : Entries) :
    applyAll env os sections = applyAll env' os sections := by
  induction os generalizing sections with
  | nil => rfl
  | cons o os ih =>
    have hfirst : Override.apply env sections o = Override.apply env' sections o := by
      unfold Override.apply
      rw [h o List.mem_cons_self]
    rw [applyAll_cons, applyAll_cons, hfirst]
    exact bind_congr fun sections' => ih (fun o' ho' => h o' (List.mem_cons_of_mem o ho')) sections'

/-- To put a setting where it is changes nothing. -/
theorem set_eq_self {v : Value} (h : raw? sections name key = some v) :
    Override.set sections name key v = .ok sections := by
  unfold raw? at h
  unfold Override.set
  cases hfind : find? sections name with
  | none =>
    rw [entriesOf_of_find?_none hfind] at h
    cases h
  | some w =>
    cases w with
    | table entries =>
      rw [entriesOf_of_find? hfind] at h
      dsimp only
      rw [Value.put_eq_self h, Value.put_eq_self hfind]
    | _ =>
      unfold entriesOf at h
      rw [hfind] at h
      cases h

/-- Overrides whose values are there already change nothing. -/
theorem applyAll_eq_self
    (h : ∀ o ∈ os, ∀ v, o.value? env = some v → raw? sections o.sectionName o.key = some v) :
    applyAll env os sections = .ok sections := by
  induction os with
  | nil => rfl
  | cons o os ih =>
    have hfirst : Override.apply env sections o = .ok sections := by
      unfold Override.apply
      cases hvalue : o.value? env with
      | none => rfl
      | some v => exact set_eq_self (h o List.mem_cons_self v hvalue)
    rw [applyAll_cons, hfirst]
    exact ih fun o' ho' => h o' (List.mem_cons_of_mem o ho')

/-! ## Variables without effect -/

/-- The environment without a variable. -/
def without (env : Environment) (variableName : String) : Environment :=
  env.filter fun e => e.1 != variableName

theorem lookup_without_self (env : Environment) (variableName : String) :
    (without env variableName).lookup variableName = none := by
  rw [lookup_eq_none_iff_notMem, List.mem_map]
  rintro ⟨e, he, rfl⟩
  have hne := (List.mem_filter.mp he).2
  rw [bne_self_eq_false] at hne
  cases hne

theorem lookup_without_of_ne {variableName other : String} (h : other ≠ variableName)
    (env : Environment) : (without env variableName).lookup other = env.lookup other := by
  induction env with
  | nil => rfl
  | cons e env ih =>
    obtain ⟨first, s⟩ := e
    unfold without
    by_cases hfirst : first = variableName
    · rw [List.filter_cons_of_neg (by rw [bne_iff_ne]; exact not_not.mpr hfirst),
        lookup_cons_of_ne (hfirst ▸ h)]
      exact ih
    · rw [List.filter_cons_of_pos (by rw [bne_iff_ne]; exact hfirst)]
      by_cases hother : other = first
      · rw [hother, lookup_cons_self, lookup_cons_self]
      · rw [lookup_cons_of_ne hother, lookup_cons_of_ne hother]
        exact ih

/-- A variable that is not set, is empty or does not hold what is expected of it has no effect. -/
theorem withEnvironment_without (ho : o ∈ overrides) (hidle : o.IsIdle env) (sections : Entries) :
    withEnvironment (without env o.variableName) sections = withEnvironment env sections := by
  have hdistinct : (overrides.map (·.variableName)).Nodup := by decide
  refine applyAll_congr (fun o' ho' => ?_) sections
  by_cases hname : o'.variableName = o.variableName
  · obtain rfl := List.inj_on_of_nodup_map hdistinct ho' ho hname
    rw [Override.value?_eq_none_iff.mpr hidle]
    unfold Override.value?
    rw [lookup_without_self]
  · unfold Override.value?
    rw [lookup_without_of_ne hname]

end SourceGrade.Config
