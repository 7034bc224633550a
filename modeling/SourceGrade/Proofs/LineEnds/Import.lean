import SourceGrade.Proofs.LineEnds.Hits
import SourceGrade.Metric.Declarations

set_option autoImplicit false

/-!
# Imports and line ends

The names that an import lists are described by characters other than a line feed, and a carriage
return is one of them. So in a text whose lines end in two characters an import may take the end of
a line for the list of names. It does so only where nothing but a line end stands between the words
of the import, which is what `brokenImport` looks for.
-/

namespace SourceGrade

open Text (crlf crlfOffset IsTail lineFeeds)

namespace Language

open Pattern (word inOrder KeepsPlaces)
open Text (isBlank)

/-- An import that has only blanks with a line end among them where names should be. -/
def brokenImport : Pattern :=
  inOrder [word "import", someBlanks, .text ['\n'], blanks, word "from"]

/-- What stands between the names of an import and its module. -/
def fromModule : Pattern := inOrder [someBlanks, word "from", someBlanks, quotedModule]

/-- The names that an import lists. -/
def importedNames : Pattern := .run (except ['\n']) 1 (some 300) .shortestFirst

variable {t tail : List Char} {c d : Cursor}

theorem search_importFrom (c : Cursor) :
    importFrom.firstOutcome? c = Pattern.search (.seq (word "import") someBlanks) c fun e =>
      Pattern.search (.seq importedNames fromModule) e some := rfl

theorem fromModule_twin (htail : IsTail tail) (hc : c.Within t) :
    fromModule.firstOutcome? (c.twin t tail) =
      (fromModule.firstOutcome? c).map (·.twin t tail) :=
  Pattern.firstOutcome?_twin htail (by decide) (Pattern.hasRoom_of_boundsInLine (by decide) c) hc

/-- What follows the blanks in front of the module of an import. -/
def moduleClause : Pattern := inOrder [word "from", someBlanks, quotedModule]

theorem fromModule_isSome_iff :
    (fromModule.search c some).isSome ↔
      ∃ e ∈ c.runStops isBlank 1 none .longestFirst, (moduleClause.search e some).isSome :=
  List.findSome?_isSome_iff

theorem mem_runStops_zero {ok : Char → Bool} {least : Nat} {most : Option Nat}
    (h : d ∈ c.runStops ok least most .longestFirst) :
    d ∈ c.runStops ok 0 most .longestFirst := by
  obtain ⟨piece, rest, hrest, hok, -, hmost, hd⟩ := (Cursor.mem_runStops_iff (by decide)).mp h
  exact (Cursor.mem_runStops_iff (by decide)).mpr
    ⟨piece, rest, hrest, hok, Nat.zero_le _, hmost, hd⟩

/-- The module of an import is found from a gap only if it is found from the line end. -/
theorem fromModule_of_gap (hend : c.AtLineEnd tail)
    (h : (fromModule.search (c.gap t tail (c.marked.map crlf)) some).isSome) :
    (fromModule.search (c.twin t tail) some).isSome := by
  rw [fromModule_isSome_iff] at h ⊢
  obtain ⟨e, he, hfound⟩ := h
  refine ⟨e, ?_, hfound⟩
  rw [Pattern.runStops_twin_atLineEnd hend, if_pos ⟨nofun, by decide⟩]
  exact List.mem_append_left _ (mem_runStops_zero he)

/-- If the module of an import is found from the gap after the word for it and blanks, the import is
broken. -/
theorem brokenImport_of_gap (htail : IsTail tail) {rest : List Char} (hrest : d.rest = '\n' :: rest)
    (hd : d ∈ Pattern.outcomes (.seq (word "import") someBlanks) c) (hwithin : d.Within t)
    (h : (fromModule.search (d.gap t tail (d.marked.map crlf)) some).isSome) :
    ∃ e, e ∈ brokenImport.outcomes c := by
  obtain ⟨before, rest', offset, marked⟩ := d
  obtain rfl : rest' = '\n' :: rest := hrest
  obtain ⟨g, hg, hfound⟩ := fromModule_isSome_iff.mp h
  have hg' := mem_runStops_zero hg
  rw [Pattern.runStops_gap_over (by decide) hwithin] at hg'
  rcases List.mem_append.mp hg' with hg' | hgap
  · -- The blanks go on over the line end, so the module is found after it.
    have hsome : (Pattern.firstOutcome? (.seq blanks moduleClause)
        (Cursor.twin t tail ⟨some '\n', rest, offset + 1, marked⟩)).isSome :=
      List.findSome?_isSome_iff.mpr ⟨g, hg', hfound⟩
    rw [Pattern.firstOutcome?_twin htail (by decide)
      (Pattern.hasRoom_of_boundsInLine (by decide) _) hwithin.cons.1, Option.isSome_map] at hsome
    obtain ⟨f, hf⟩ := Option.isSome_iff_exists.mp hsome
    obtain ⟨a, ha, hf⟩ := Pattern.mem_outcomes_seq.mp (Pattern.mem_outcomes_of_firstOutcome? hf)
    obtain ⟨e, he, -⟩ := Pattern.mem_outcomes_seq.mp hf
    obtain ⟨f, hf, hd⟩ := Pattern.mem_outcomes_seq.mp hd
    have hfeed : (⟨some '\n', rest, offset + 1, marked⟩ : Cursor) ∈
        Pattern.outcomes (.text ['\n']) ⟨before, '\n' :: rest, offset, marked⟩ :=
      Pattern.mem_outcomes_text.mpr ⟨rest, rfl, rfl⟩
    exact ⟨e, Pattern.mem_outcomes_seq.mpr ⟨f, hf, Pattern.mem_outcomes_seq.mpr ⟨_, hd,
      Pattern.mem_outcomes_seq.mpr ⟨_, hfeed, Pattern.mem_outcomes_seq.mpr ⟨a, ha, he⟩⟩⟩⟩⟩
  · rw [List.mem_singleton.mp hgap] at hfound
    have hnone : moduleClause.search (Cursor.gap t tail ⟨before, '\n' :: rest, offset, marked⟩
        (marked.map crlf)) some = none :=
      (Pattern.manner_search moduleClause Manner.of_unknown).refuses (by decide) _ _ hwithin
        (.inl ⟨rest, rfl⟩)
    rw [hnone] at hfound
    cases hfound

/-- Where no import is broken none begins. -/
theorem not_mem_outcomes_brokenImport (h : brokenImport.hits t = []) {i : Nat} (hi : i ≤ t.length) :
    d ∉ brokenImport.outcomes (.atOffset t i) := by
  intro hd
  obtain ⟨e, he⟩ : ∃ e, brokenImport.firstOutcome? (.atOffset t i) = some e := by
    rw [Pattern.firstOutcome?_eq_head?, ← Option.isSome_iff_exists, List.isSome_head?]
    exact List.ne_nil_of_mem hd
  have hmem := Pattern.mem_outcomes_of_firstOutcome? he
  obtain ⟨a, ha, hrest⟩ := Pattern.mem_outcomes_seq.mp hmem
  obtain ⟨rest, -, rfl⟩ := Pattern.mem_outcomes_text.mp ha
  obtain ⟨piece, -, hoffset⟩ := Pattern.reaches_of_mem_outcomes hrest
  have hlt : i < e.offset := by
    have hword : (Cursor.past (.atOffset t i) "import".toList rest).offset = i + 6 := rfl
    omega
  have hle := ((Pattern.within_atOffset hi).of_reaches (Pattern.reaches_of_mem_outcomes hmem)).le
  obtain ⟨hit, hhit, -⟩ := Pattern.exists_mem_hits ⟨he, hlt, Nat.lt_of_lt_of_le hlt hle⟩
  rw [h] at hhit
  exact absurd hhit List.not_mem_nil

/-- The places of an import are kept where none is broken. -/
theorem keepsPlaces_importFrom (h : brokenImport.hits t = []) :
    KeepsPlaces t [] importFrom := by
  have htail : IsTail [] := .inl rfl
  constructor
  · intro i hi
    rw [search_importFrom, search_importFrom]
    refine Pattern.search_twin htail (by decide) (Pattern.manner_search _ Manner.of_unknown)
      (Pattern.hasRoom_of_boundsInLine (by decide) _) (Pattern.within_atOffset hi) fun e he => ?_
    have hwithin : e.Within t :=
      (Pattern.within_atOffset hi).of_reaches (Pattern.reaches_of_mem_outcomes he)
    refine Pattern.findSome?_runStops_twin_of_shorter htail (by decide) (Nat.le_refl 1) hwithin
      (fun d hd => ?_) (fun d hend => fromModule_of_gap hend) fun hend => ?_
    · obtain ⟨piece, rest, hrest, -, rfl⟩ := Cursor.exists_of_mem_runStops hd
      exact fromModule_twin htail (hwithin.of_reaches (Cursor.reaches_past hrest))
    · rcases hend with ⟨rest, hrest⟩ | ⟨-, hnil⟩
      · refine Option.not_isSome_iff_eq_none.mp fun hsome => ?_
        obtain ⟨f, hf⟩ := brokenImport_of_gap htail hrest he hwithin hsome
        exact not_mem_outcomes_brokenImport h hi hf
      · cases hnil
  · intro i hi
    exact Pattern.firstOutcome?_gap (by decide) hi

end Language

end SourceGrade
