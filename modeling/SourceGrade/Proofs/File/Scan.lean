import SourceGrade.File.Scan
import SourceGrade.Proofs.File.System
import SourceGrade.Proofs.Report.Ranking
import SourceGrade.Proofs.Text.Lines
import SourceGrade.Proofs.Text.Utf8

set_option autoImplicit false

/-!
# What a scan finds

The files that a scan finds are the source files that are not too large, each once, in the order of
their places. So what it finds depends on nothing outside the scanned directory, nor on the order in
which a file system lists its entries.
-/

namespace SourceGrade.Scan

open FileSystem (IsTree AgreeWithin)

variable {fs fs' : FileSystem} {directory place : Path} {bytes : List UInt8} {maxSize : Int}

/-! ## The files that are found -/

theorem sourceBytes?_eq_some_iff {entry : Path × Node} :
    sourceBytes? maxSize entry = some (place, bytes) ↔
      entry = (place, .file bytes) ∧ isSourcePlace place = true ∧
        (bytes.length : Int) ≤ maxSize := by
  obtain ⟨place', node⟩ := entry
  unfold sourceBytes?
  cases node with
  | directory => simp
  | file bytes' =>
    dsimp only
    split
    · rename_i h
      rw [Bool.and_eq_true, decide_eq_true_eq] at h
      rw [Option.some.injEq, Prod.mk.injEq, Prod.mk.injEq, Node.file.injEq]
      constructor
      · rintro ⟨rfl, rfl⟩
        exact ⟨⟨rfl, rfl⟩, h⟩
      · exact fun h => h.1
    · rename_i h
      rw [Bool.and_eq_true, decide_eq_true_eq] at h
      refine iff_of_false (by simp) ?_
      rintro ⟨heq, hsource⟩
      obtain ⟨rfl, hnode⟩ := Prod.mk.inj heq
      obtain rfl := Node.file.inj hnode
      exact h hsource

/-- The top of the scanned directory is not that of a source file. -/
theorem ne_nil_of_isSourcePlace (h : isSourcePlace place = true) : place ≠ [] := by
  rintro rfl
  cases h

theorem mem_collect_iff (htree : fs.IsTree) :
    (place, bytes) ∈ collect fs maxSize directory ↔
      fs.get? (directory ++ place) = some (.file bytes) ∧ isSourcePlace place = true ∧
        (bytes.length : Int) ≤ maxSize := by
  unfold collect
  rw [List.mem_mergeSort, List.mem_filterMap]
  constructor
  · rintro ⟨entry, hmem, h⟩
    obtain ⟨rfl, hsource⟩ := sourceBytes?_eq_some_iff.mp h
    exact ⟨(htree.mem_below_iff.mp hmem).2, hsource⟩
  · rintro ⟨hfile, hsource⟩
    have hmem : (place, Node.file bytes) ∈ fs.below directory :=
      htree.mem_below_iff.mpr ⟨ne_nil_of_isSourcePlace hsource.1, hfile⟩
    exact ⟨_, hmem, sourceBytes?_eq_some_iff.mpr ⟨rfl, hsource⟩⟩

/-- Every file is found once. -/
theorem nodup_collect (htree : fs.IsTree) (maxSize : Int) (directory : Path) :
    ((collect fs maxSize directory).map (·.1)).Nodup := by
  have hsorted : ((collect fs maxSize directory).map (·.1)).Perm
      (((fs.below directory).filterMap (sourceBytes? maxSize)).map (·.1)) :=
    (List.mergeSort_perm _ _).map _
  rw [hsorted.nodup_iff]
  have hbelow := htree.nodup_below directory
  rw [List.Nodup, List.pairwise_map] at hbelow ⊢
  refine List.Pairwise.filterMap _ ?_ hbelow
  rintro a b hne ⟨placea, bytesa⟩ ha ⟨placeb, bytesb⟩ hb heq
  obtain ⟨rfl, -⟩ := sourceBytes?_eq_some_iff.mp ha
  obtain ⟨rfl, -⟩ := sourceBytes?_eq_some_iff.mp hb
  exact hne heq

theorem pairwise_collect (fs : FileSystem) (maxSize : Int) (directory : Path) :
    (collect fs maxSize directory).Pairwise fun a b => Path.le a.1 b.1 = true :=
  List.pairwise_mergeSort (fun a b c => Path.le_trans a.1 b.1 c.1)
    (fun a b => Path.le_total a.1 b.1) _

/-- What lies outside the scanned directory has no influence on what is found, and neither has the
order in which entries are listed. -/
theorem collect_eq_of_agreeWithin (htree : fs.IsTree) (htree' : fs'.IsTree)
    (hagree : AgreeWithin directory fs fs') :
    collect fs maxSize directory = collect fs' maxSize directory := by
  have hnodup := nodup_collect htree maxSize directory
  have hperm : (collect fs maxSize directory).Perm (collect fs' maxSize directory) := by
    refine (List.perm_ext_iff_of_nodup hnodup.of_map
      (nodup_collect htree' maxSize directory).of_map).mpr ?_
    rintro ⟨place, bytes⟩
    rw [mem_collect_iff htree, mem_collect_iff htree', hagree place]
  refine hperm.eq_of_pairwise (fun a b ha hb hab hba => ?_)
    (pairwise_collect fs maxSize directory) (pairwise_collect fs' maxSize directory)
  exact List.inj_on_of_nodup_map hnodup ha (hperm.mem_iff.mpr hb) (Path.le_antisymm hab hba)

/-! ## Their texts -/

/-- A text without carriage returns is read back from the file that holds it. -/
theorem textOf_encode {t : List Char} (h : '\r' ∉ t) : textOf (Text.Utf8.encode t) = t := by
  unfold textOf
  rw [Text.Utf8.decode_encode, Text.unifyLineEnds_of_notMem h]

theorem isPlain_of_mem_collect (htree : fs.IsTree)
    (h : (place, bytes) ∈ collect fs maxSize directory) : place.IsPlain :=
  (htree.isPlain ((mem_collect_iff htree).mp h).1).of_append_right

/-- The files that are found have different names. -/
theorem nodup_sourceFiles (htree : fs.IsTree) (maxSize : Int) (directory : Path) :
    ((sourceFiles fs maxSize directory).map (·.name)).Nodup := by
  have hnodup := nodup_collect htree maxSize directory
  unfold sourceFiles
  rw [List.map_map, List.Nodup, List.pairwise_map]
  rw [List.Nodup, List.pairwise_map] at hnodup
  refine hnodup.imp_of_mem fun {a b} ha hb hne heq => hne ?_
  have hsource : ∀ c ∈ collect fs maxSize directory, c.1 ≠ [] := fun c hc =>
    ne_nil_of_isSourcePlace ((mem_collect_iff htree).mp hc).2.1
  exact Path.slashed_injective (isPlain_of_mem_collect htree ha) (isPlain_of_mem_collect htree hb)
    (hsource a ha) (hsource b hb) heq

theorem sourceFiles_eq_of_agreeWithin (htree : fs.IsTree) (htree' : fs'.IsTree)
    (hagree : AgreeWithin directory fs fs') :
    sourceFiles fs maxSize directory = sourceFiles fs' maxSize directory := by
  unfold sourceFiles
  rw [collect_eq_of_agreeWithin htree htree' hagree]

end SourceGrade.Scan
