import SourceGrade.Proofs.Pattern.Pieces

set_option autoImplicit false

/-!
# What stands before a mark

A signature pattern is a sequence of patterns of which one marks the name. A match of it passes over
what the patterns before that one match, then over the name, and then over the rest, so the name
lies in the hit, after what leads to it.
-/

namespace SourceGrade.Pattern

variable {p : Pattern} {c d : Cursor}

/-! ## Sequences -/

theorem mem_outcomes_inOrder_cons {ps : List Pattern} :
    d ∈ (inOrder (p :: ps)).outcomes c ↔ ∃ e ∈ p.outcomes c, d ∈ (inOrder ps).outcomes e := by
  cases ps with
  | nil => simp [inOrder]
  | cons q ps => exact mem_outcomes_seq

theorem mem_outcomes_inOrder_append {ps qs : List Pattern} :
    d ∈ (inOrder (ps ++ qs)).outcomes c ↔
      ∃ e ∈ (inOrder ps).outcomes c, d ∈ (inOrder qs).outcomes e := by
  induction ps generalizing c with
  | nil => simp [inOrder]
  | cons p ps ih =>
    rw [List.cons_append, mem_outcomes_inOrder_cons]
    simp only [mem_outcomes_inOrder_cons, ih]
    constructor
    · rintro ⟨e, he, e', he', hd⟩
      exact ⟨e', ⟨e, he, he'⟩, hd⟩
    · rintro ⟨e', ⟨e, he, he'⟩, hd⟩
      exact ⟨e, he, e', he', hd⟩

/-! ## Patterns without marks -/

/-- Whether a pattern leaves what is remembered as it is. -/
def marksNothing : Pattern → Bool
  | .seq p q => p.marksNothing && q.marksNothing
  | .alt p q => p.marksNothing && q.marksNothing
  | .mark _ => false
  | _ => true

theorem marked_of_marksNothing (hp : p.marksNothing = true) (h : d ∈ p.outcomes c) :
    d.marked = c.marked := by
  induction p generalizing c d with
  | nothing => exact congrArg Cursor.marked (mem_outcomes_nothing.mp h)
  | text s =>
    obtain ⟨rest, -, rfl⟩ := mem_outcomes_text.mp h
    rfl
  | run ok least most order =>
    obtain ⟨piece, rest, -, -, rfl⟩ := Cursor.exists_of_mem_runStops h
    rfl
  | seq p q ihp ihq =>
    unfold marksNothing at hp
    rw [Bool.and_eq_true] at hp
    obtain ⟨e, he, hd⟩ := mem_outcomes_seq.mp h
    exact (ihq hp.2 hd).trans (ihp hp.1 he)
  | alt p q ihp ihq =>
    unfold marksNothing at hp
    rw [Bool.and_eq_true] at hp
    rcases mem_outcomes_alt.mp h with h | h
    · exact ihp hp.1 h
    · exact ihq hp.2 h
  | mark p _ => cases hp
  | wordEdge => exact congrArg Cursor.marked (mem_outcomes_wordEdge.mp h).2
  | after ok => exact congrArg Cursor.marked (mem_outcomes_after.mp h).2
  | notAfter ok => exact congrArg Cursor.marked (mem_outcomes_notAfter.mp h).2
  | ahead p _ => exact congrArg Cursor.marked (mem_outcomes_ahead.mp h).2
  | notAhead p _ => exact congrArg Cursor.marked (mem_outcomes_notAhead.mp h).2

theorem marked_of_inOrder {ps : List Pattern} (hps : ps.all marksNothing = true)
    (h : d ∈ (inOrder ps).outcomes c) : d.marked = c.marked := by
  induction ps generalizing c with
  | nil => exact congrArg Cursor.marked (mem_outcomes_nothing.mp h)
  | cons p ps ih =>
    rw [List.all_cons, Bool.and_eq_true] at hps
    obtain ⟨e, he, hd⟩ := mem_outcomes_inOrder_cons.mp h
    exact (ih hps.2 hd).trans (marked_of_marksNothing hps.1 he)

/-! ## The mark of a sequence -/

/-- A pattern marks a piece after a sequence of patterns that leads to it, and nothing later. -/
def MarksAfter (lead : List Pattern) (p : Pattern) : Prop :=
  ∃ q tail, p = inOrder (lead ++ .mark q :: tail) ∧ tail.all marksNothing = true

/-- What is marked lies in the match, after what leads to it. -/
theorem MarksAfter.exists_lead {lead : List Pattern} (hp : p.MarksAfter lead)
    (h : d ∈ p.outcomes c) :
    ∃ e ∈ (inOrder lead).outcomes c, ∃ piece rest, d.marked = some piece ∧
      e.rest = piece ++ rest ∧ e.offset + piece.length ≤ d.offset := by
  obtain ⟨q, tail, rfl, htail⟩ := hp
  obtain ⟨e, he, hd⟩ := mem_outcomes_inOrder_append.mp h
  obtain ⟨f, hf, hd⟩ := mem_outcomes_inOrder_cons.mp hd
  obtain ⟨g, hg, rfl⟩ := mem_outcomes_mark.mp hf
  obtain ⟨piece, hpiece, hoffset⟩ := reaches_of_mem_outcomes hg
  obtain ⟨later, -, hlater⟩ := reaches_of_mem_outcomes hd
  have hstop : (g.marking e).offset = g.offset := rfl
  refine ⟨e, he, piece, g.rest, ?_, hpiece, by omega⟩
  rw [marked_of_inOrder htail hd, Cursor.marked_marking hpiece hoffset]

/-- What is marked stands in the hit, after what leads to it. -/
theorem MarksAfter.exists_place {lead : List Pattern} (hp : p.MarksAfter lead) {t : List Char}
    {h : Hit} (hmem : h ∈ p.hits t) {piece : List Char} (hmarked : h.marked = some piece) :
    ∃ e ∈ (inOrder lead).outcomes (.atOffset t h.start), h.start ≤ e.offset ∧
      piece <+: t.drop e.offset ∧ e.offset + piece.length ≤ h.stop := by
  obtain ⟨i, d, hfinds, rfl⟩ := findsAt_of_mem_hits hmem
  obtain ⟨e, he, found, rest, hfound, hrest, hstop⟩ :=
    hp.exists_lead (mem_outcomes_of_firstOutcome? hfinds.found)
  obtain rfl : found = piece := Option.some.inj (hfound.symm.trans hmarked)
  obtain ⟨passed, hpassed, hoffset⟩ := reaches_of_mem_outcomes he
  have hdrop : t.drop i = passed ++ e.rest := hpassed
  have hstart : e.offset = i + passed.length := hoffset
  have hle : i ≤ e.offset := by omega
  refine ⟨e, he, hle, ⟨rest, ?_⟩, hstop⟩
  rw [hstart, ← List.drop_drop, hdrop, List.drop_left, hrest]

end SourceGrade.Pattern
