import SourceGrade.Metric.Smell
import SourceGrade.Number.Total
import SourceGrade.Proofs.Attempts
import SourceGrade.Proofs.Metric.Operand
import SourceGrade.Proofs.Sublist
import SourceGrade.Proofs.Text.Lines

set_option autoImplicit false

/-!
# Listing smells

The smells of a text can be listed unless it has an operand of more digits than a number is read
from. Limits that are more lenient leave out some of them and add none.
-/

namespace SourceGrade.Smell

/-! ## When smells can be listed -/

/-- Every number of a text can be read. -/
def Readable (t : List Char) : Prop :=
  ∀ start digits, OperandAt t start digits → digits.length ≤ Number.maxDigits

/-- The report of a hit of a number that is not allowed. -/
def unexplained? (allowed : List Int) (lines : Text.LineIndex) (h : Hit) : Option Smell :=
  if allowed.contains (numberOf (h.marked.getD []) : Int) then none
  else some ((Finding.magicNumber (h.marked.getD [])).onLine (lines.lineOf h.start))

theorem ofLiteral_eq_ok_iff {allowed : List Int} {lines : Text.LineIndex} (h : Hit)
    (o : Option Smell) :
    ofLiteral allowed (h.marked.getD []) (lines.lineOf h.start) = .ok o ↔
      (h.marked.getD []).length ≤ Number.maxDigits ∧ unexplained? allowed lines h = o := by
  unfold ofLiteral unexplained?
  split
  · rename_i hmany
    exact iff_of_false (by simp) fun hle => Nat.not_le_of_lt hmany hle.1
  · rename_i hfew
    have hle : (h.marked.getD []).length ≤ Number.maxDigits := Nat.le_of_not_lt hfew
    split <;> simp [hle]

theorem ofLiteral_eq_error_iff {allowed : List Int} {literal : List Char} {line : Nat}
    {e : SmellError} :
    ofLiteral allowed literal line = .error e ↔
      Number.maxDigits < literal.length ∧ e = .tooManyDigits literal.length := by
  unfold ofLiteral
  split
  · rename_i hmany
    rw [Except.error.injEq]
    exact ⟨fun h => ⟨hmany, h.symm⟩, fun h => h.2.symm⟩
  · rename_i hfew
    split <;> simp [hfew]

/-- A hit of a number marks the digits of an operand. -/
theorem exists_marked {t : List Char} {h : Hit} (hmem : h ∈ operand.hits t) :
    ∃ digits, h.marked = some digits ∧ OperandAt t h.start digits := by
  obtain ⟨i, d, hd, heq⟩ := Pattern.findsAt_of_mem_hits hmem
  obtain ⟨op, gap, digits, rest, hbegins, rfl⟩ := findsAt_operand.mp hd
  subst heq
  exact ⟨digits, rfl, op, gap, rest, hbegins⟩

theorem readable_iff {t : List Char} :
    Readable t ↔ ∀ h ∈ operand.hits t, (h.marked.getD []).length ≤ Number.maxDigits := by
  constructor
  · intro hread h hmem
    obtain ⟨digits, hmarked, hat⟩ := exists_marked hmem
    rw [hmarked]
    exact hread h.start digits hat
  · intro hall start digits hat
    obtain ⟨h, hmem, -, hmarked⟩ := exists_hit_iff_operandAt.mpr hat
    have hle := hall h hmem
    rw [hmarked] at hle
    exact hle

/-- A text that is no longer than a number may be has none that is too long. -/
theorem readable_of_length_le {t : List Char} (h : t.length ≤ Number.maxDigits) : Readable t := by
  rintro start digits ⟨op, gap, rest, hbegins⟩
  have hlength := congrArg List.length hbegins.text
  simp only [List.length_drop, List.length_append] at hlength
  omega

/-- The unexplained numbers can be listed when every number can be read. -/
theorem magicNumbers_eq_ok_iff {allowed : List Int} {t : List Char} {lines : Text.LineIndex}
    {found : List Smell} :
    magicNumbers allowed t lines = .ok found ↔
      Readable t ∧ (operand.hits t).filterMap (unexplained? allowed lines) = found := by
  rw [readable_iff]
  exact findings_eq_ok_iff ofLiteral_eq_ok_iff

/-- An error names the number of digits of an operand that has too many. -/
theorem exists_of_magicNumbers_eq_error {allowed : List Int} {t : List Char}
    {lines : Text.LineIndex} {e : SmellError} (h : magicNumbers allowed t lines = .error e) :
    ∃ start digits, OperandAt t start digits ∧ Number.maxDigits < digits.length ∧
      e = .tooManyDigits digits.length := by
  obtain ⟨hit, hmem, hfail⟩ := exists_of_findings_eq_error h
  obtain ⟨digits, hmarked, hat⟩ := exists_marked hmem
  obtain ⟨hmany, rfl⟩ := ofLiteral_eq_error_iff.mp hfail
  rw [hmarked] at hmany ⊢
  exact ⟨hit.start, digits, hat, hmany, rfl⟩

/-- The smells of a text all of whose numbers can be read. -/
def listed (maxLineLength maxNestingDepth : Int) (allowedNumbers : List Int) (t : List Char) :
    List Smell :=
  let lines := Text.lines t
  let index := Text.LineIndex.ofText t
  longLines maxLineLength lines ++ todos t index ++ deepNesting maxNestingDepth lines ++
    debugOutput t index ++ (operand.hits t).filterMap (unexplained? allowedNumbers index) ++
    emptyCatches t index

theorem ofText_eq_ok_iff {maxLineLength maxNestingDepth : Int} {allowedNumbers : List Int}
    {t : List Char} {found : List Smell} :
    ofText maxLineLength maxNestingDepth allowedNumbers t = .ok found ↔
      Readable t ∧ listed maxLineLength maxNestingDepth allowedNumbers t = found := by
  unfold ofText
  rw [map_eq_ok_iff]
  constructor
  · rintro ⟨numbers, hnumbers, rfl⟩
    obtain ⟨hread, rfl⟩ := magicNumbers_eq_ok_iff.mp hnumbers
    exact ⟨hread, rfl⟩
  · rintro ⟨hread, rfl⟩
    exact ⟨_, magicNumbers_eq_ok_iff.mpr ⟨hread, rfl⟩, rfl⟩

theorem exists_of_ofText_eq_error {maxLineLength maxNestingDepth : Int}
    {allowedNumbers : List Int} {t : List Char} {e : SmellError}
    (h : ofText maxLineLength maxNestingDepth allowedNumbers t = .error e) :
    ∃ start digits, OperandAt t start digits ∧ Number.maxDigits < digits.length ∧
      e = .tooManyDigits digits.length :=
  exists_of_magicNumbers_eq_error (map_eq_error_iff.mp h)

/-! ## What is listed -/

/-- A finding of a text and the number of its line. Lines that are long or nested are numbered as
they are cut, and what a pattern finds is on the line on which its hit begins. -/
inductive FoundOn (t : List Char) : Finding → Nat → Prop where
  | longLine {i : Nat} (h : i < (Text.lines t).length) (length : Nat) :
      FoundOn t (.longLine length) (i + 1)
  | todo {hit : Hit} (h : hit ∈ todoComment.hits t) :
      FoundOn t (.todo (hit.marked.getD [])) (Text.lineAt t hit.start)
  | deepNesting {i : Nat} (h : i < (Text.lines t).length) (depth : Int) :
      FoundOn t (.deepNesting depth) (i + 1)
  | debugOutput {call : Pattern × String} (hcall : call ∈ debugCalls) {hit : Hit}
      (h : hit ∈ call.1.hits t) :
      FoundOn t (.debugOutput call.2) (Text.lineAt t hit.start)
  | magicNumber {hit : Hit} (h : hit ∈ operand.hits t) :
      FoundOn t (.magicNumber (hit.marked.getD [])) (Text.lineAt t hit.start)
  | emptyCatch {hit : Hit} (h : hit ∈ swallowedError.hits t) :
      FoundOn t .emptyCatch (Text.lineAt t hit.start)

/-- The lines that are too long are numbered as they are cut. -/
theorem exists_of_mem_longLines {allowed : Int} {ls : List (List Char)} {s : Smell}
    (h : s ∈ longLines allowed ls) :
    ∃ i length, i < ls.length ∧ s = (Finding.longLine length).onLine (i + 1) := by
  unfold longLines at h
  obtain ⟨⟨line, number⟩, hmem, hs⟩ := List.mem_filterMap.mp h
  obtain ⟨hle, hlt, -⟩ := List.mem_zipIdx hmem
  split at hs
  · obtain rfl := Option.some.inj hs
    refine ⟨number - 1, line.length, by omega, ?_⟩
    rw [Nat.sub_add_cancel hle]
  · cases hs

/-- The depth of braces at the end of lines that begin at depth zero. -/
def depthOf (ls : List (List Char)) : Int := Number.signedTotal (ls.map lineDepth)

theorem depthOf_cons (line : List Char) (ls : List (List Char)) :
    depthOf (line :: ls) = lineDepth line + depthOf ls := rfl

/-- The lines that are reported are those at whose end the depth is too great. They are numbered
from the given number on. -/
theorem mem_nestedFrom_iff {allowed : Int} {s : Smell} {ls : List (List Char)} {depth : Int}
    {number : Nat} :
    s ∈ nestedFrom allowed depth number ls ↔
      ∃ i, i < ls.length ∧ allowed < depth + depthOf (ls.take (i + 1)) ∧
        s = (Finding.deepNesting (depth + depthOf (ls.take (i + 1)))).onLine (i + number) := by
  induction ls generalizing depth number with
  | nil => exact iff_of_false List.not_mem_nil fun ⟨i, hi, _⟩ => Nat.not_lt_zero i hi
  | cons line ls ih =>
    have hfirst : depth + depthOf ((line :: ls).take (0 + 1)) = depth + lineDepth line := by
      rw [List.take_succ_cons, depthOf_cons, List.take_zero]
      exact congrArg (depth + ·) (Int.add_zero _)
    have hnext : ∀ i, depth + depthOf ((line :: ls).take (i + 1 + 1)) =
        depth + lineDepth line + depthOf (ls.take (i + 1)) := by
      intro i
      rw [List.take_succ_cons, depthOf_cons, Int.add_assoc]
    have hnumber : ∀ i, i + 1 + number = i + (number + 1) := by
      intro i
      omega
    rw [← Nat.or_exists_add_one]
    simp only [hfirst, hnext, hnumber, List.length_cons, Nat.succ_lt_succ_iff, Nat.zero_lt_succ,
      true_and, Nat.zero_add, ← ih]
    rw [nestedFrom]
    split
    · rename_i hdeep
      simp only [List.mem_cons, hdeep, true_and]
    · rename_i hnot
      simp only [hnot, false_and, false_or]

/-- What is reported of a hit that a pattern finds is on the line of the hit. -/
theorem FoundOn.of_lineOf {t : List Char} {f : Finding} {start : Nat}
    (h : FoundOn t f (Text.lineAt t start)) :
    ∃ g number, FoundOn t g number ∧
      f.onLine ((Text.LineIndex.ofText t).lineOf start) = g.onLine number :=
  ⟨f, _, h, by rw [Text.LineIndex.lineOf_ofText]⟩

/-- Whatever is listed is a finding on its line. -/
theorem exists_foundOn_of_mem_listed {maxLineLength maxNestingDepth : Int}
    {allowedNumbers : List Int} {t : List Char} {s : Smell}
    (h : s ∈ listed maxLineLength maxNestingDepth allowedNumbers t) :
    ∃ f number, FoundOn t f number ∧ s = f.onLine number := by
  unfold listed at h
  simp only [List.mem_append, or_assoc] at h
  rcases h with hlong | htodo | hdeep | hdebug | hnumber | hcatch
  · obtain ⟨i, length, hi, rfl⟩ := exists_of_mem_longLines hlong
    exact ⟨_, _, .longLine hi length, rfl⟩
  · obtain ⟨hit, hmem, rfl⟩ := List.mem_map.mp htodo
    exact (FoundOn.todo hmem).of_lineOf
  · obtain ⟨i, hi, -, rfl⟩ := mem_nestedFrom_iff.mp hdeep
    exact ⟨_, _, .deepNesting hi _, rfl⟩
  · obtain ⟨call, hcall, hdebug⟩ := List.mem_flatMap.mp hdebug
    obtain ⟨hit, hmem, rfl⟩ := List.mem_map.mp hdebug
    exact (FoundOn.debugOutput hcall hmem).of_lineOf
  · obtain ⟨hit, hmem, hsome⟩ := List.mem_filterMap.mp hnumber
    unfold unexplained? at hsome
    split at hsome
    · cases hsome
    · obtain rfl := Option.some.inj hsome
      exact (FoundOn.magicNumber hmem).of_lineOf
  · obtain ⟨hit, hmem, rfl⟩ := List.mem_map.mp hcatch
    exact (FoundOn.emptyCatch hmem).of_lineOf

/-! ## Fewer smells under more lenient limits -/

theorem longLines_sublist {strict lenient : Int} (h : strict ≤ lenient)
    (lines : List (List Char)) : (longLines lenient lines).Sublist (longLines strict lines) := by
  unfold longLines
  refine filterMap_sublist_filterMap (fun p smell hp => ?_) _
  split at hp
  · rename_i hlong
    rw [if_pos (Int.lt_of_le_of_lt h hlong)]
    exact hp
  · cases hp

theorem nestedFrom_sublist {strict lenient : Int} (h : strict ≤ lenient)
    (lines : List (List Char)) (depth : Int) (number : Nat) :
    (nestedFrom lenient depth number lines).Sublist (nestedFrom strict depth number lines) := by
  induction lines generalizing depth number with
  | nil => exact List.Sublist.refl []
  | cons line rest ih =>
    have hlater := ih (depth + lineDepth line) (number + 1)
    unfold nestedFrom
    dsimp only
    by_cases hdeep : lenient < depth + lineDepth line
    · rw [if_pos hdeep, if_pos (Int.lt_of_le_of_lt h hdeep)]
      exact hlater.cons_cons _
    · rw [if_neg hdeep]
      split
      · exact hlater.cons _
      · exact hlater

theorem unexplained?_of_subset {strict lenient : List Int} (h : strict ⊆ lenient)
    {lines : Text.LineIndex} {hit : Hit} {smell : Smell}
    (hsome : unexplained? lenient lines hit = some smell) :
    unexplained? strict lines hit = some smell := by
  unfold unexplained? at hsome ⊢
  split at hsome
  · cases hsome
  · rename_i hnot
    rw [if_neg fun hin => hnot (contains_of_subset h hin)]
    exact hsome

/-- More lenient limits leave out some of the smells and add none. -/
theorem listed_sublist {length depth length' depth' : Int} {numbers numbers' : List Int}
    (hlength : length ≤ length') (hdepth : depth ≤ depth') (hnumbers : numbers ⊆ numbers')
    (t : List Char) :
    (listed length' depth' numbers' t).Sublist (listed length depth numbers t) := by
  unfold listed
  dsimp only
  refine .append (.append (.append (.append (.append ?_ ?_) ?_) ?_) ?_) ?_
  · exact longLines_sublist hlength _
  · exact List.Sublist.refl _
  · exact nestedFrom_sublist hdepth _ 0 1
  · exact List.Sublist.refl _
  · exact filterMap_sublist_filterMap (fun _ _ => unexplained?_of_subset hnumbers) _
  · exact List.Sublist.refl _

end SourceGrade.Smell
