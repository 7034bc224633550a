import SourceGrade.Proofs.File.Scan
import SourceGrade.Proofs.Language.Extension

set_option autoImplicit false

/-!
# The files of a scan and their languages

A scan looks at the last name on the way to a file and takes what follows its last dot. The language
of a file is told from all that is written of its place. Both find the same extension, since the
last dot of the whole is the one of the last name. So every file that a scan finds has a language
that owns its extension, however many dots there are on the way to it.
-/

namespace SourceGrade

namespace Path

/-- A name has an extension, in small letters and with its dot: there is something before its last
dot and something after it. -/
def NameHasExtension (name extension : String) : Prop :=
  ∃ stem tail, name.toList = stem ++ '.' :: tail ∧ stem ≠ [] ∧ tail ≠ [] ∧ '.' ∉ tail ∧
    extension = String.ofList (Text.lower ('.' :: tail))

/-- The last name on the way to a place has an extension. -/
def HasExtension (place : Path) (extension : String) : Prop :=
  ∃ name, place.getLast? = some name ∧ NameHasExtension name extension

/-- What is written of a place ends with its last name. -/
theorem exists_slashed_eq {place : Path} {name : String} (h : place.getLast? = some name) :
    ∃ front, (slashed place).toList = front ++ name.toList := by
  obtain ⟨parent, rfl⟩ := List.getLast?_eq_some_iff.mp h
  unfold slashed
  rw [String.toList_intercalate]
  clear h
  induction parent with
  | nil => exact ⟨[], by simp⟩
  | cons first parent ih =>
    obtain ⟨front, hfront⟩ := ih
    obtain ⟨second, rest, hrest⟩ := List.exists_cons_of_ne_nil
      (List.append_ne_nil_of_right_ne_nil parent (List.cons_ne_nil name []))
    rw [hrest] at hfront
    refine ⟨first.toList ++ "/".toList ++ front, ?_⟩
    rw [List.cons_append, hrest, List.map_cons, List.map_cons, List.intercalate_cons_cons,
      ← List.map_cons, hfront, List.append_assoc _ front]

/-- The extension of all that is written of a place is that of its last name. -/
theorem HasExtension.extensionOf_slashed {place : Path} {extension : String}
    (h : place.HasExtension extension) : Language.extensionOf (slashed place) = extension := by
  obtain ⟨name, hlast, stem, tail, hname, -, -, htail, rfl⟩ := h
  obtain ⟨front, hfront⟩ := exists_slashed_eq hlast
  rw [hname, ← List.append_assoc] at hfront
  exact Language.extensionOf_eq hfront htail

end Path

namespace Scan

open SourceGrade.Path (HasExtension NameHasExtension)

variable {fs fs' : FileSystem} {directory place : Path} {bytes : List UInt8} {maxSize : Int}

/-! ## Names of source files -/

theorem suffix_of_notMem {name : String} (h : '.' ∉ name.toList) : suffix name = "" := by
  unfold suffix
  simp [Text.reverse_takeWhile_of_notMem h]

/-- A dot that comes first or last is not the beginning of a suffix. -/
theorem suffix_eq {name : String} {stem tail : List Char}
    (hname : name.toList = stem ++ '.' :: tail) (htail : '.' ∉ tail) :
    suffix name = if stem = [] ∨ tail = [] then "" else String.ofList ('.' :: tail) := by
  have hlength : (stem ++ '.' :: tail).length - tail.length - 1 = stem.length := by
    rw [List.length_append, List.length_cons]
    omega
  have hne : tail.length ≠ (stem ++ '.' :: tail).length := by
    rw [List.length_append, List.length_cons]
    omega
  unfold suffix
  simp only [hname, Text.reverse_takeWhile_dot htail, hlength, hne]
  by_cases hstem : stem = []
  · simp [hstem]
  · by_cases hnil : tail = []
    · simp [hnil]
    · simp [hstem, hnil]

theorem isSourceName_iff {name : String} :
    isSourceName name = true ↔ ∃ e ∈ Language.allExtensions, NameHasExtension name e := by
  have hnone : String.ofList (Text.lower "".toList) ∉ Language.allExtensions := by decide
  unfold isSourceName
  rw [List.contains_iff_mem]
  by_cases hdot : '.' ∈ name.toList
  · obtain ⟨stem, tail, hname, htail⟩ := Text.exists_last_dot hdot
    have hunique : ∀ e, NameHasExtension name e →
        stem ≠ [] ∧ tail ≠ [] ∧ e = String.ofList (Text.lower ('.' :: tail)) := by
      rintro e ⟨stem', tail', hname', hstem', htail', hdot', rfl⟩
      have hlast : ((stem' ++ '.' :: tail').reverse.takeWhile (· != '.')).reverse = tail' :=
        Text.reverse_takeWhile_dot hdot'
      have heq : tail' = tail := by
        rw [← hlast, ← hname', hname, Text.reverse_takeWhile_dot htail]
      subst heq
      have hstem : stem = stem' := List.append_cancel_right (hname.symm.trans hname')
      exact ⟨hstem ▸ hstem', htail', rfl⟩
    rw [suffix_eq hname htail]
    by_cases hends : stem = [] ∨ tail = []
    · rw [if_pos hends]
      refine iff_of_false hnone ?_
      rintro ⟨e, -, he⟩
      obtain ⟨hstem, htail, -⟩ := hunique e he
      exact hends.elim hstem htail
    · rw [if_neg hends, String.toList_ofList]
      rw [not_or] at hends
      constructor
      · exact fun h => ⟨_, h, stem, tail, hname, hends.1, hends.2, htail, rfl⟩
      · rintro ⟨e, hmem, he⟩
        exact (hunique e he).2.2 ▸ hmem
  · rw [suffix_of_notMem hdot]
    refine iff_of_false hnone ?_
    rintro ⟨e, -, stem, tail, hname, -⟩
    exact hdot (by simp [hname])

/-- A place is that of a source file if no name on the way to it is ignored and its extension is
that of a registered language. -/
theorem isSourcePlace_iff :
    isSourcePlace place = true ↔ (∀ name ∈ place, name ∉ ignoredNames) ∧
      ∃ e ∈ Language.allExtensions, place.HasExtension e := by
  have hnames : (!place.any ignoredNames.contains) = true ↔
      ∀ name ∈ place, name ∉ ignoredNames := by simp
  unfold isSourcePlace
  rw [Bool.and_eq_true, hnames]
  refine and_congr_right fun _ => ?_
  cases hlast : place.getLast? with
  | none => simp [HasExtension, hlast]
  | some name => simp [HasExtension, hlast, isSourceName_iff]

/-! ## What is found -/

/-- What a scan is to find below a directory. -/
structure Collects (fs : FileSystem) (maxSize : Int) (directory : Path)
    (found : List (Path × List UInt8)) : Prop where
  /-- Places come in the strict order of their names, compared one by one by code points. -/
  increasing : found.Pairwise fun a b => List.Lex (· < ·) a.1 b.1
  /-- The files are those that are not too large, lie in no ignored directory and have a registered
  extension. -/
  mem_iff : ∀ place bytes, (place, bytes) ∈ found ↔
    fs.get? (directory ++ place) = some (.file bytes) ∧ (bytes.length : Int) ≤ maxSize ∧
      (∀ name ∈ place, name ∉ ignoredNames) ∧
        ∃ e ∈ Language.allExtensions, place.HasExtension e
  /-- The language of a file is the one that owns its extension, and not only assumed. -/
  language : ∀ place bytes, (place, bytes) ∈ found → ∃ language ∈ Language.registry,
    ∃ e ∈ language.extensions, place.HasExtension e ∧
      (∀ other ∈ Language.registry, e ∈ other.extensions → other = language) ∧
      Language.ofExtension? (Language.extensionOf (Path.slashed place)) = some language ∧
      Language.ofFilename (Path.slashed place) = language

theorem increasing_collect (htree : fs.IsTree) (maxSize : Int) (directory : Path) :
    (collect fs maxSize directory).Pairwise fun a b => List.Lex (· < ·) a.1 b.1 := by
  have hdistinct := nodup_collect htree maxSize directory
  rw [List.Nodup, List.pairwise_map] at hdistinct
  refine ((pairwise_collect fs maxSize directory).and hdistinct).imp ?_
  rintro a b ⟨hle, hne⟩
  exact Path.lex_of_le hle hne

/-- The language of a registered extension is found for every place with this extension. -/
theorem exists_language_of_hasExtension {e : String} (he : e ∈ Language.allExtensions)
    (h : place.HasExtension e) : ∃ language ∈ Language.registry,
      ∃ e ∈ language.extensions, place.HasExtension e ∧
      (∀ other ∈ Language.registry, e ∈ other.extensions → other = language) ∧
      Language.ofExtension? (Language.extensionOf (Path.slashed place)) = some language ∧
      Language.ofFilename (Path.slashed place) = language := by
  obtain ⟨language, hlanguage, hmem⟩ := List.mem_flatMap.mp he
  have hfound : Language.ofExtension? (Language.extensionOf (Path.slashed place)) =
      some language := by
    rw [h.extensionOf_slashed, Language.ofExtension?_eq_some_iff]
    exact ⟨hlanguage, hmem⟩
  refine ⟨language, hlanguage, e, hmem, h, fun other hother hshared => ?_, hfound, ?_⟩
  · exact Language.eq_of_mem_extensions hlanguage hother hmem hshared
  · unfold Language.ofFilename
    rw [hfound, Option.getD_some]

theorem collects_collect (htree : fs.IsTree) (maxSize : Int) (directory : Path) :
    Collects fs maxSize directory (collect fs maxSize directory) where
  increasing := increasing_collect htree maxSize directory
  mem_iff := fun place bytes => by
    rw [mem_collect_iff htree, isSourcePlace_iff]
    tauto
  language := fun place bytes h => by
    obtain ⟨-, e, he, hextension⟩ := isSourcePlace_iff.mp ((mem_collect_iff htree).mp h).2.1
    exact exists_language_of_hasExtension he hextension

/-- A scan finds what it is to find, in whichever order the entries are listed. -/
theorem collect_of_tree (htree : fs.IsTree) (maxSize : Int) (directory : Path) :
    Collects fs maxSize directory (collect fs maxSize directory) ∧
      ∀ fs' : FileSystem, fs.entries.Perm fs'.entries →
        collect fs' maxSize directory = collect fs maxSize directory := by
  refine ⟨collects_collect htree maxSize directory, fun fs' hperm => ?_⟩
  exact collect_eq_of_agreeWithin (htree.of_perm hperm) htree fun rest =>
    htree.get?_of_perm hperm (directory ++ rest)

/-- A directory with dots in its name that holds a hidden file, beside one that is ignored. -/
def dottedFiles : FileSystem := ⟨[
  (["w"], .directory), (["w", "src.v2"], .directory),
  (["w", "src.v2", ".Main.test.JS"], .file [59]),
  (["w", "bin"], .directory), (["w", "bin", "a.go"], .file [59])]⟩

theorem isTree_dottedFiles : dottedFiles.IsTree where
  distinct := by decide
  proper := by decide
  plain := by decide
  nested := by decide

/-- The hidden file is found for what follows its last dot. -/
theorem collect_dottedFiles :
    dottedFiles.IsTree ∧ Collects dottedFiles 1 ["w"] (collect dottedFiles 1 ["w"]) ∧
      (["src.v2", ".Main.test.JS"], [59]) ∈ collect dottedFiles 1 ["w"] ∧
      (["bin", "a.go"], [59]) ∉ collect dottedFiles 1 ["w"] ∧
      dottedFiles.entries.Perm dottedFiles.entries.reverse ∧
      collect ⟨dottedFiles.entries.reverse⟩ 1 ["w"] = collect dottedFiles 1 ["w"] := by
  obtain ⟨hcollects, horder⟩ := collect_of_tree isTree_dottedFiles 1 ["w"]
  have hperm : dottedFiles.entries.Perm dottedFiles.entries.reverse :=
    (List.reverse_perm _).symm
  refine ⟨isTree_dottedFiles, hcollects, (hcollects.mem_iff _ _).mpr ?_, ?_, hperm,
    horder ⟨dottedFiles.entries.reverse⟩ hperm⟩
  · refine ⟨by decide, by decide, by decide, ".js", by decide, ".Main.test.JS", by decide,
      ".Main.test".toList, "JS".toList, ?_⟩
    decide
  · rw [hcollects.mem_iff]
    rintro ⟨-, -, hignored, -⟩
    exact hignored "bin" (by decide) (by decide)

end Scan

end SourceGrade
