import SourceGrade.File.Path

set_option autoImplicit false

/-!
# Places and how they are written

A name of a file is not empty, holds no slash and is none of the names that stand for a directory
itself and for the one above it. Places of such names are told apart by what they look like with
slashes between the names, and the order of places is linear. What a path means can be told from
what stands between its slashes: `PathText.foldl_step_namesOf`.
-/

namespace SourceGrade

namespace Path

/-! ## Names -/

/-- A name that a directory can give to an entry. -/
structure IsName (name : String) : Prop where
  ne_empty : name ≠ ""
  ne_dot : name ≠ "."
  ne_upward : name ≠ PathText.upward
  /-- Names end at a slash. -/
  no_slash : '/' ∉ name.toList

instance (name : String) : Decidable (IsName name) :=
  decidable_of_iff
    (name ≠ "" ∧ name ≠ "." ∧ name ≠ PathText.upward ∧ '/' ∉ name.toList)
    ⟨fun ⟨h₁, h₂, h₃, h₄⟩ => ⟨h₁, h₂, h₃, h₄⟩, fun ⟨h₁, h₂, h₃, h₄⟩ => ⟨h₁, h₂, h₃, h₄⟩⟩

/-- All names on the way to a place are names of entries. -/
def IsPlain (p : Path) : Prop := ∀ name ∈ p, IsName name

instance (p : Path) : Decidable (IsPlain p) :=
  inferInstanceAs (Decidable (∀ name ∈ p, IsName name))

theorem IsPlain.of_append_right {p q : Path} (h : IsPlain (p ++ q)) : IsPlain q :=
  fun name hname => h name (List.mem_append_right p hname)

theorem IsPlain.upward_notMem {p : Path} (h : IsPlain p) : PathText.upward ∉ p :=
  fun hmem => (h _ hmem).ne_upward rfl

/-- A place of names is read back from how it is written. -/
theorem splitOn_slashed {p : Path} (hp : IsPlain p) (hne : p ≠ []) :
    (slashed p).toList.splitOn '/' = p.map String.toList := by
  unfold slashed
  rw [String.toList_intercalate]
  refine List.splitOn_intercalate '/' ?_ (by simpa using hne)
  intro name hname
  obtain ⟨s, hs, rfl⟩ := List.mem_map.mp hname
  exact (hp s hs).no_slash

/-- Different places are written differently. -/
theorem slashed_injective {p q : Path} (hp : IsPlain p) (hq : IsPlain q) (hpne : p ≠ [])
    (hqne : q ≠ []) (h : slashed p = slashed q) : p = q := by
  have hsplit := splitOn_slashed hp hpne
  rw [h, splitOn_slashed hq hqne] at hsplit
  exact (List.map_inj_right fun _ _ => String.toList_injective).mp hsplit.symm

/-! ## Directories around a place -/

theorem isWithin_iff {directory place : Path} :
    directory.isWithin place = true ↔ directory <+: place := List.isPrefixOf_iff_prefix

theorem relativeTo_append (directory place : Path) :
    relativeTo directory (directory ++ place) = place := List.drop_left

/-! ## The order of places -/

theorem le_cons_iff {a b : String} {p q : Path} :
    le (a :: p) (b :: q) = true ↔ a < b ∨ a = b ∧ le p q = true := by
  rw [le, Bool.or_eq_true, Bool.and_eq_true, decide_eq_true_eq, beq_iff_eq]

theorem name_trichotomy (a b : String) : a < b ∨ a = b ∨ b < a := by
  by_cases hab : a < b
  · exact .inl hab
  · by_cases hba : b < a
    · exact .inr (.inr hba)
    · exact .inr (.inl (String.le_antisymm (String.not_lt.mp hba) (String.not_lt.mp hab)))

theorem le_total (p q : Path) : (le p q || le q p) = true := by
  induction p generalizing q with
  | nil => rfl
  | cons a p ih =>
    cases q with
    | nil => rfl
    | cons b q =>
      rw [Bool.or_eq_true, le_cons_iff, le_cons_iff]
      rcases name_trichotomy a b with h | rfl | h
      · exact .inl (.inl h)
      · rcases Bool.or_eq_true_iff.mp (ih q) with h | h
        · exact .inl (.inr ⟨rfl, h⟩)
        · exact .inr (.inr ⟨rfl, h⟩)
      · exact .inr (.inl h)

theorem le_trans (p q r : Path) (hpq : le p q = true) (hqr : le q r = true) : le p r = true := by
  induction p generalizing q r with
  | nil => rfl
  | cons a p ih =>
    cases q with
    | nil => cases hpq
    | cons b q =>
      cases r with
      | nil => cases hqr
      | cons c r =>
        rw [le_cons_iff] at hpq hqr ⊢
        rcases hpq with hab | ⟨rfl, hpq⟩
        · rcases hqr with hbc | ⟨rfl, -⟩
          · exact .inl (String.lt_trans hab hbc)
          · exact .inl hab
        · rcases hqr with hbc | ⟨rfl, hqr⟩
          · exact .inl hbc
          · exact .inr ⟨rfl, ih q r hpq hqr⟩

theorem le_antisymm {p q : Path} (hpq : le p q = true) (hqp : le q p = true) : p = q := by
  induction p generalizing q with
  | nil =>
    cases q with
    | nil => rfl
    | cons b q => cases hqp
  | cons a p ih =>
    cases q with
    | nil => cases hpq
    | cons b q =>
      rw [le_cons_iff] at hpq hqp
      rcases hpq with hab | ⟨rfl, hpq⟩
      · rcases hqp with hba | ⟨rfl, -⟩
        · exact absurd (String.lt_trans hab hba) (String.lt_irrefl a)
        · exact absurd hab (String.lt_irrefl _)
      · rcases hqp with hba | ⟨-, hqp⟩
        · exact absurd hba (String.lt_irrefl a)
        · rw [ih hpq hqp]

/-- Of two different places the one that comes no later comes first in the order of names. -/
theorem lex_of_le {p q : Path} (h : le p q = true) (hne : p ≠ q) : List.Lex (· < ·) p q := by
  induction p generalizing q with
  | nil =>
    cases q with
    | nil => exact absurd rfl hne
    | cons b q => exact .nil
  | cons a p ih =>
    cases q with
    | nil => cases h
    | cons b q =>
      rcases le_cons_iff.mp h with hab | ⟨rfl, hpq⟩
      · exact .rel hab
      · exact .cons (ih hpq fun heq => hne (congrArg (a :: ·) heq))

end Path

namespace PathText

/-! ## What a path means -/

/-- The name for the directory above is used up where a path is followed. -/
theorem upward_notMem_foldl {place : Path} (h : upward ∉ place) (names : List String) :
    upward ∉ names.foldl step place := by
  induction names generalizing place with
  | nil => exact h
  | cons name names ih =>
    refine ih ?_
    unfold step
    split
    · exact fun hmem => h (List.dropLast_subset place hmem)
    · rename_i hne
      rw [List.mem_append, not_or]
      exact ⟨h, fun hmem => hne (List.mem_singleton.mp hmem).symm⟩

theorem upward_notMem_resolve {workingDirectory : Path} (h : upward ∉ workingDirectory)
    (p : PathText) : upward ∉ p.resolve workingDirectory := by
  refine upward_notMem_foldl ?_ p.names
  unfold start
  split
  · exact h
  · exact List.not_mem_nil

/-! ## What stands between slashes -/

/-- Whether what stands between two slashes changes nothing. -/
def isStill (part : List Char) : Bool := part == [] || part == ['.']

/-- The place after what stands between two slashes. Two dots take back the name before them. -/
def enter (place : Path) (part : List Char) : Path :=
  if isStill part then place
  else if part = ['.', '.'] then place.dropLast
  else place ++ [String.ofList part]

/-- The names of a path among what stands between its slashes. -/
def namesOf (parts : List (List Char)) : List String :=
  (parts.filter fun part => !isStill part).map String.ofList

theorem namesOf_cons {part : List Char} (h : isStill part = false) (parts : List (List Char)) :
    namesOf (part :: parts) = String.ofList part :: namesOf parts := by
  unfold namesOf
  rw [List.filter_cons_of_pos (by rw [h]; rfl), List.map_cons]

theorem namesOf_cons_of_still {part : List Char} (h : isStill part = true)
    (parts : List (List Char)) : namesOf (part :: parts) = namesOf parts := by
  unfold namesOf
  rw [List.filter_cons_of_neg (by rw [h]; exact nofun)]

theorem names_ofText (s : String) : (ofText s).names = namesOf (s.toList.splitOn '/') := by
  unfold ofText namesOf isStill
  simp only [Bool.not_or, bne]

theorem step_ofList (place : Path) (part : List Char) (h : isStill part = false) :
    step place (String.ofList part) = enter place part := by
  have hupward : String.ofList part = upward ↔ part = ['.', '.'] := by
    rw [← String.toList_inj, String.toList_ofList]
    rfl
  unfold step enter
  rw [h, if_neg Bool.false_ne_true]
  by_cases hpart : part = ['.', '.']
  · rw [if_pos hpart, if_pos (hupward.mpr hpart)]
  · rw [if_neg hpart, if_neg (mt hupward.mp hpart)]

theorem foldl_step_namesOf (place : Path) (parts : List (List Char)) :
    (namesOf parts).foldl step place = parts.foldl enter place := by
  induction parts generalizing place with
  | nil => rfl
  | cons part parts ih =>
    rw [List.foldl_cons, ← ih]
    cases h : isStill part with
    | true =>
      have henter : enter place part = place := if_pos h
      rw [namesOf_cons_of_still h, henter]
    | false => rw [namesOf_cons h, List.foldl_cons, step_ofList place part h]

/-- The names begin with the first part that changes something. -/
theorem namesOf_dropWhile (parts : List (List Char)) :
    namesOf (parts.dropWhile isStill) = namesOf parts := by
  induction parts with
  | nil => rfl
  | cons part parts ih =>
    cases h : isStill part with
    | true =>
      rw [List.dropWhile_cons_of_pos h, ih, namesOf_cons_of_still h]
    | false => rw [List.dropWhile_cons_of_neg (by rw [h]; exact nofun)]

theorem leadingSlashes_eq_zero_iff (t : List Char) :
    leadingSlashes t = 0 ↔ t.head? ≠ some '/' := by
  unfold leadingSlashes
  cases t with
  | nil => exact ⟨fun _ => nofun, fun _ => rfl⟩
  | cons c cs =>
    rw [List.head?_cons, ne_eq, Option.some.injEq]
    by_cases hc : c = '/'
    · rw [List.takeWhile_cons, if_pos (beq_iff_eq.mpr hc), List.length_cons]
      dsimp only
      refine ⟨fun h => ?_, fun h => absurd hc h⟩
      split at h <;> omega
    · rw [List.takeWhile_cons, if_neg (mt beq_iff_eq.mp hc)]
      exact ⟨fun _ => hc, fun _ => rfl⟩

theorem slashes_ofText_eq_zero_iff (s : String) :
    (ofText s).slashes = 0 ↔ s.toList.head? ≠ some '/' := leadingSlashes_eq_zero_iff s.toList

/-- The place of a text is found by what stands between its slashes, from the top if it begins with
a slash. -/
theorem resolve_ofText (s : String) (workingDirectory : Path) :
    (ofText s).resolve workingDirectory =
      (s.toList.splitOn '/').foldl enter
        (if s.toList.head? = some '/' then [] else workingDirectory) := by
  have hslashes := slashes_ofText_eq_zero_iff s
  rw [resolve, start, names_ofText, foldl_step_namesOf]
  by_cases habsolute : s.toList.head? = some '/'
  · rw [if_pos habsolute, if_neg fun hzero => hslashes.mp hzero habsolute]
  · rw [if_neg habsolute, if_pos (hslashes.mpr habsolute)]

end PathText

end SourceGrade
