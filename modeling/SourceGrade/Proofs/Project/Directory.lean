import SourceGrade.Proofs.File.Scan
import SourceGrade.Proofs.Project.Pool
import SourceGrade.Proofs.Service.Upload

set_option autoImplicit false

/-!
# A directory and the same texts sent for analysis

The texts of a project may be read from a directory or be sent with their names. Where the files of
the directory are those texts, both ways lead to the same summary, and the same texts are too large
for either.
-/

namespace SourceGrade

/-- The files below a directory are source files that hold the given texts at their places. -/
structure Scan.Holds (fs : FileSystem) (directory : Path) (maxSize : Int)
    (texts : List (Path × List Char)) : Prop where
  /-- There are no files but those of the texts. -/
  files : ∀ place bytes, fs.get? (directory ++ place) = some (.file bytes) ↔
    ∃ t, (place, t) ∈ texts ∧ Text.Utf8.encode t = bytes
  /-- A place has one text. -/
  distinct : (texts.map (·.1)).Nodup
  /-- Lines end in a line feed alone. -/
  lineEnds : ∀ e ∈ texts, '\r' ∉ e.2
  source : ∀ e ∈ texts, Scan.isSourcePlace e.1 = true
  fits : ∀ e ∈ texts, ((Text.Utf8.encode e.2).length : Int) ≤ maxSize

namespace Project

variable {settings : AnalysisSettings} {fs : FileSystem} {directory : Path}
  {texts : List (Path × List Char)} {maxSize : Int}

/-- Texts at places below a directory, as they are sent: by the names that they have there. -/
def uploads (texts : List (Path × List Char)) : List SourceFile :=
  texts.map fun e => ⟨Path.slashed e.1, e.2⟩

/-- The files that are found are those that hold the texts. -/
theorem collect_perm (htree : fs.IsTree) (h : Scan.Holds fs directory maxSize texts) :
    (Scan.collect fs maxSize directory).Perm
      (texts.map fun e => (e.1, Text.Utf8.encode e.2)) := by
  have hplaces : ((texts.map fun e => (e.1, Text.Utf8.encode e.2)).map (·.1)).Nodup := by
    rw [List.map_map]
    exact h.distinct
  refine (List.perm_ext_iff_of_nodup (Scan.nodup_collect htree maxSize directory).of_map
    hplaces.of_map).mpr ?_
  rintro ⟨place, bytes⟩
  rw [Scan.mem_collect_iff htree, h.files, List.mem_map]
  constructor
  · rintro ⟨⟨t, ht, rfl⟩, -⟩
    exact ⟨_, ht, rfl⟩
  · rintro ⟨⟨place', t⟩, ht, heq⟩
    obtain ⟨rfl, rfl⟩ := Prod.mk.inj heq
    exact ⟨⟨t, ht, rfl⟩, h.source _ ht, h.fits _ ht⟩

/-- The texts that are read from the directory are those that are sent. -/
theorem sourceFiles_perm (htree : fs.IsTree) (h : Scan.Holds fs directory maxSize texts) :
    (Scan.sourceFiles fs maxSize directory).Perm (uploads texts) := by
  have hread := (collect_perm htree h).map fun f =>
    (⟨Path.slashed f.1, Scan.textOf f.2⟩ : SourceFile)
  rw [List.map_map] at hread
  have hsame : (texts.map ((fun f => (⟨Path.slashed f.1, Scan.textOf f.2⟩ : SourceFile)) ∘
      fun e => (e.1, Text.Utf8.encode e.2))) = uploads texts := by
    refine List.map_congr_left fun e he => ?_
    rw [Function.comp_apply, Scan.textOf_encode (h.lineEnds e he)]
  rwa [hsame] at hread

theorem nodup_uploads (htree : fs.IsTree) (h : Scan.Holds fs directory maxSize texts) :
    ((uploads texts).map (·.name)).Nodup :=
  ((sourceFiles_perm htree h).map _).nodup_iff.mp (Scan.nodup_sourceFiles htree maxSize directory)

/-- A directory has the summary of its texts. -/
theorem ofDirectory_eq_ofFiles (htree : fs.IsTree)
    (h : Scan.Holds fs directory settings.maxFileSize texts) :
    ofDirectory settings fs directory = ofFiles settings (uploads texts) :=
  ofArrivals_eq_ofFiles (nodup_uploads htree h) ((sourceFiles_perm htree h).map _)

open Service (Upload.accept Upload.isTooLarge)

/-- The texts of a directory are accepted by the service. -/
theorem accept_uploads {texts : List (Path × List Char)} {maxSize : Int} (htree : fs.IsTree)
    (h : Scan.Holds fs directory maxSize texts) (hne : texts ≠ []) :
    Upload.accept maxSize ((uploads texts).map .ofFile) = .ok (uploads texts) := by
  have hsmall : ∀ file ∈ uploads texts,
      ((Text.Utf8.encode file.text).length : Int) ≤ maxSize := by
    intro file hfile
    obtain ⟨e, he, rfl⟩ := List.mem_map.mp hfile
    exact h.fits e he
  exact Service.Upload.accept_of_fine (mt List.map_eq_nil_iff.mp hne)
    ⟨nodup_uploads htree h, hsmall⟩

/-- A file is left out of a scan for its size where its text is refused by the service. -/
theorem isTooLarge_iff_notMem_collect (htree : fs.IsTree) {place : Path} {t : List Char}
    (hfile : fs.get? (directory ++ place) = some (.file (Text.Utf8.encode t)))
    (hsource : Scan.isSourcePlace place = true) (name : String) (maxSize : Int) :
    Upload.isTooLarge maxSize ⟨name, t⟩ = true ↔
      place ∉ (Scan.collect fs maxSize directory).map (·.1) := by
  rw [Service.Upload.isTooLarge_eq_true_iff, List.mem_map, ← Int.not_le, not_iff_not]
  constructor
  · exact fun hsize => ⟨_, (Scan.mem_collect_iff htree).mpr ⟨hfile, hsource, hsize⟩, rfl⟩
  · rintro ⟨⟨place', bytes⟩, hmem, rfl⟩
    obtain ⟨hfile', -, hsize⟩ := (Scan.mem_collect_iff htree).mp hmem
    rw [hfile, Option.some.injEq, Node.file.injEq] at hfile'
    rwa [hfile']

/-- A directory has the summary that its texts have where they are sent, however the workers of
either pool take turns. A text is refused for its size where a scan leaves its file out. -/
theorem directory_as_uploaded (settings : AnalysisSettings) {fs : FileSystem} (htree : fs.IsTree)
    (directory : Path) :
    (∀ workingDirectory path texts,
      Scan.directoryAt fs workingDirectory path = .ok directory →
      Scan.Holds fs directory settings.maxFileSize texts →
        (Scan.directoryAt fs workingDirectory path).map (ofDirectory settings fs) =
          .ok (ofFiles settings (uploads texts)) ∧
        (texts ≠ [] →
          Upload.accept settings.maxFileSize ((uploads texts).map .ofFile) =
            .ok (uploads texts)) ∧
        ∀ ms ms' p q,
          Pool.run settings (Scan.sourceFiles fs settings.maxFileSize directory) ms = some p →
          p.IsDone → Pool.run settings (uploads texts) ms' = some q → q.IsDone →
            Project.ofArrivals p.arrivals = Project.ofArrivals q.arrivals) ∧
    ∀ place t name maxSize,
      fs.get? (directory ++ place) = some (.file (Text.Utf8.encode t)) →
      Scan.isSourcePlace place = true →
        (Upload.isTooLarge maxSize ⟨name, t⟩ = true ↔
          place ∉ (Scan.collect fs maxSize directory).map (·.1)) := by
  refine ⟨fun workingDirectory path texts hpath h => ?_, fun place t name maxSize hfile hsource =>
    isTooLarge_iff_notMem_collect htree hfile hsource name maxSize⟩
  have hsame := ofDirectory_eq_ofFiles htree h
  refine ⟨?_, accept_uploads htree h, fun ms ms' p q hp hdone hq hdone' => ?_⟩
  · rw [hpath, ← hsame]
    rfl
  · rw [ofArrivals_eq_ofFiles (Scan.nodup_sourceFiles htree _ _) (Pool.arrivals_perm hp hdone),
      ofArrivals_eq_ofFiles (nodup_uploads htree h) (Pool.arrivals_perm hq hdone')]
    exact hsame

/-- Two texts at their places. -/
def placedTexts : List (Path × List Char) :=
  [(["src", "é.js"], "let s = '\u20ac';\n".toList), (["b.go"], "func f() \x7b\x7d".toList)]

/-- A directory that holds them. -/
def placedFiles : FileSystem := ⟨[
  (["w"], .directory), (["w", "b.go"], .file (Text.Utf8.encode "func f() \x7b\x7d".toList)),
  (["w", "src"], .directory),
  (["w", "src", "é.js"], .file (Text.Utf8.encode "let s = '\u20ac';\n".toList))]⟩

theorem isTree_placedFiles : placedFiles.IsTree where
  distinct := by decide
  proper := by decide
  plain := by decide
  nested := by decide

theorem holds_placedTexts : Scan.Holds placedFiles ["w"] 15 placedTexts where
  files place bytes := by
    constructor
    · intro h
      have hmem : (["w"] ++ place, Node.file bytes) ∈ placedFiles.entries :=
        isTree_placedFiles.mem_entries_iff.mpr ⟨by simp, h⟩
      simp only [placedFiles, List.mem_cons, List.not_mem_nil, Prod.mk.injEq, Node.file.injEq,
        List.singleton_append, List.cons.injEq, reduceCtorEq, and_false, false_or, or_false,
        true_and] at hmem
      rcases hmem with ⟨rfl, rfl⟩ | ⟨rfl, rfl⟩
      · exact ⟨_, List.mem_cons_of_mem _ List.mem_cons_self, rfl⟩
      · exact ⟨_, List.mem_cons_self, rfl⟩
    · rintro ⟨t, ht, rfl⟩
      simp only [placedTexts, List.mem_cons, List.not_mem_nil, Prod.mk.injEq, or_false] at ht
      rcases ht with ⟨rfl, rfl⟩ | ⟨rfl, rfl⟩ <;> rfl
  distinct := by decide
  lineEnds := by decide
  source := by decide
  fits := by decide

/-- The larger text has as many bytes as are allowed, and is refused if one less is. -/
theorem placedFiles_as_uploaded :
    placedFiles.IsTree ∧ Scan.directoryAt placedFiles ["w", "src"] ".." = .ok ["w"] ∧
    Scan.Holds placedFiles ["w"] 15 placedTexts ∧
    (Scan.directoryAt placedFiles ["w", "src"] "..").map
        (ofDirectory { maxFileSize := 15 } placedFiles) =
      .ok (ofFiles { maxFileSize := 15 } (uploads placedTexts)) ∧
    Upload.accept 15 ((uploads placedTexts).map .ofFile) = .ok (uploads placedTexts) ∧
    (Upload.isTooLarge 14 ⟨"src/é.js", "let s = '\u20ac';\n".toList⟩ = true ∧
      ["src", "é.js"] ∉ (Scan.collect placedFiles 14 ["w"]).map (·.1)) := by
  have hpath : Scan.directoryAt placedFiles ["w", "src"] ".." = .ok ["w"] := by decide
  have hlarge : Upload.isTooLarge 14 ⟨"src/é.js", "let s = '\u20ac';\n".toList⟩ = true := by decide
  obtain ⟨hsame, hsize⟩ := directory_as_uploaded { maxFileSize := 15 } isTree_placedFiles ["w"]
  obtain ⟨hsummary, haccept, -⟩ := hsame _ _ _ hpath holds_placedTexts
  exact ⟨isTree_placedFiles, hpath, holds_placedTexts, hsummary, haccept (by decide), hlarge,
    (hsize ["src", "é.js"] _ _ 14 rfl (by decide)).mp hlarge⟩

end Project

end SourceGrade
