import SourceGrade.Proofs.Pattern.Hits
import SourceGrade.Proofs.Pattern.Runs

set_option autoImplicit false

/-!
# The piece that a match passes over

Every match passes over a piece of the text, and what it remembers is a part of that piece. Two
tests on patterns tell when there is no line feed in them.
-/

namespace SourceGrade

namespace Cursor

variable {c d : Cursor}

/-- A place is reached from another one by passing over a piece. -/
def Reaches (c d : Cursor) : Prop :=
  ∃ piece, c.rest = piece ++ d.rest ∧ d.offset = c.offset + piece.length

theorem Reaches.refl (c : Cursor) : c.Reaches c := ⟨[], rfl, rfl⟩

theorem Reaches.trans {e : Cursor} (h : c.Reaches d) (h' : d.Reaches e) : c.Reaches e := by
  obtain ⟨piece, hrest, hoffset⟩ := h
  obtain ⟨piece', hrest', hoffset'⟩ := h'
  refine ⟨piece ++ piece', by rw [hrest, hrest', List.append_assoc], ?_⟩
  rw [hoffset', hoffset, List.length_append, Nat.add_assoc]

theorem reaches_past {piece rest : List Char} (h : c.rest = piece ++ rest) :
    c.Reaches (c.past piece rest) := ⟨piece, h, rfl⟩

/-- What is remembered of a match is the piece that it passes over. -/
theorem marked_marking {piece : List Char} (hpiece : c.rest = piece ++ d.rest)
    (hoffset : d.offset = c.offset + piece.length) : (d.marking c).marked = some piece := by
  unfold marking
  rw [hpiece, hoffset, Nat.add_sub_cancel_left, List.take_left]

end Cursor

namespace Pattern

variable {p : Pattern} {c d : Cursor}

/-- Every match passes over a piece. -/
theorem reaches_of_mem_outcomes {p : Pattern} (h : d ∈ p.outcomes c) : c.Reaches d := by
  induction p generalizing c d with
  | nothing =>
    rw [mem_outcomes_nothing.mp h]
    exact .refl c
  | text s =>
    obtain ⟨rest, hrest, rfl⟩ := mem_outcomes_text.mp h
    exact Cursor.reaches_past hrest
  | run ok least most order =>
    obtain ⟨piece, rest, hrest, -, rfl⟩ := Cursor.exists_of_mem_runStops h
    exact Cursor.reaches_past hrest
  | seq p q ihp ihq =>
    obtain ⟨e, he, hd⟩ := mem_outcomes_seq.mp h
    exact (ihp he).trans (ihq hd)
  | alt p q ihp ihq =>
    rcases mem_outcomes_alt.mp h with h | h
    · exact ihp h
    · exact ihq h
  | mark p ih =>
    obtain ⟨e, he, rfl⟩ := mem_outcomes_mark.mp h
    have hreaches : c.Reaches e := ih he
    exact hreaches
  | wordEdge => exact (mem_outcomes_wordEdge.mp h).2 ▸ .refl c
  | after ok => exact (mem_outcomes_after.mp h).2 ▸ .refl c
  | notAfter ok => exact (mem_outcomes_notAfter.mp h).2 ▸ .refl c
  | ahead p _ => exact (mem_outcomes_ahead.mp h).2 ▸ .refl c
  | notAhead p _ => exact (mem_outcomes_notAhead.mp h).2 ▸ .refl c

theorem mem_outcomes_of_firstOutcome? (h : p.firstOutcome? c = some d) : d ∈ p.outcomes c := by
  rw [firstOutcome?_eq_head?] at h
  exact List.mem_of_mem_head? h

/-- What is found ends in the text. -/
theorem FindsAt.offset_le_length {t : List Char} {i : Nat} (h : p.FindsAt t i d) :
    d.offset ≤ t.length := by
  obtain ⟨piece, hrest, hoffset⟩ :=
    reaches_of_mem_outcomes (mem_outcomes_of_firstOutcome? h.found)
  have hdrop : t.drop i = piece ++ d.rest := hrest
  have hstart : d.offset = i + piece.length := hoffset
  have hlength := congrArg List.length hdrop
  rw [List.length_drop, List.length_append] at hlength
  have hlt := h.lt_length
  omega

/-- Whether all that a pattern passes over lies on one line. -/
def staysInLine : Pattern → Bool
  | .text s => !s.contains '\n'
  | .run ok _ _ _ => !ok '\n'
  | .seq p q => p.staysInLine && q.staysInLine
  | .alt p q => p.staysInLine && q.staysInLine
  | .mark p => p.staysInLine
  | _ => true

/-- Whether all that a pattern marks lies on one line. -/
def marksInLine : Pattern → Bool
  | .seq p q => p.marksInLine && q.marksInLine
  | .alt p q => p.marksInLine && q.marksInLine
  | .mark p => p.staysInLine
  | _ => true

/-- A match that stays in its place passes over nothing. -/
theorem notMem_of_eq {c d : Cursor} (h : d = c) {piece : List Char}
    (hpiece : c.rest = piece ++ d.rest) (x : Char) : x ∉ piece := by
  rw [h] at hpiece
  rw [List.self_eq_append_left.mp hpiece]
  exact List.not_mem_nil

theorem notMem_of_staysInLine (hp : p.staysInLine = true) (h : d ∈ p.outcomes c)
    {piece : List Char} (hpiece : c.rest = piece ++ d.rest) : '\n' ∉ piece := by
  induction p generalizing c d piece with
  | nothing => exact notMem_of_eq (mem_outcomes_nothing.mp h) hpiece _
  | text s =>
    obtain ⟨rest, hrest, rfl⟩ := mem_outcomes_text.mp h
    rw [hrest] at hpiece
    rw [← List.append_cancel_right hpiece]
    simpa [staysInLine] using hp
  | run ok least most order =>
    obtain ⟨piece', rest, hrest, hok, rfl⟩ := Cursor.exists_of_mem_runStops h
    rw [hrest] at hpiece
    rw [← List.append_cancel_right hpiece]
    intro hmem
    have hfeed : ok '\n' = false := by simpa [staysInLine] using hp
    rw [hok _ hmem] at hfeed
    exact Bool.noConfusion hfeed
  | seq p q ihp ihq =>
    unfold staysInLine at hp
    rw [Bool.and_eq_true] at hp
    obtain ⟨e, he, hd⟩ := mem_outcomes_seq.mp h
    obtain ⟨first, hfirst, -⟩ := reaches_of_mem_outcomes he
    obtain ⟨second, hsecond, -⟩ := reaches_of_mem_outcomes hd
    rw [hfirst, hsecond, ← List.append_assoc] at hpiece
    rw [← List.append_cancel_right hpiece, List.mem_append, not_or]
    exact ⟨ihp hp.1 he hfirst, ihq hp.2 hd hsecond⟩
  | alt p q ihp ihq =>
    unfold staysInLine at hp
    rw [Bool.and_eq_true] at hp
    rcases mem_outcomes_alt.mp h with h | h
    · exact ihp hp.1 h hpiece
    · exact ihq hp.2 h hpiece
  | mark p ih =>
    obtain ⟨e, he, rfl⟩ := mem_outcomes_mark.mp h
    exact ih hp he hpiece
  | wordEdge => exact notMem_of_eq (mem_outcomes_wordEdge.mp h).2 hpiece _
  | after ok => exact notMem_of_eq (mem_outcomes_after.mp h).2 hpiece _
  | notAfter ok => exact notMem_of_eq (mem_outcomes_notAfter.mp h).2 hpiece _
  | ahead p _ => exact notMem_of_eq (mem_outcomes_ahead.mp h).2 hpiece _
  | notAhead p _ => exact notMem_of_eq (mem_outcomes_notAhead.mp h).2 hpiece _

/-- What a match remembers is a part of the text, without line feeds if the marks lie on one
line. -/
theorem marked_of_mem_outcomes (h : d ∈ p.outcomes c) :
    d.marked = c.marked ∨ ∃ piece, d.marked = some piece ∧ piece ⊆ c.rest ∧
      (p.marksInLine = true → '\n' ∉ piece) := by
  induction p generalizing c d with
  | nothing => exact .inl (congrArg Cursor.marked (mem_outcomes_nothing.mp h))
  | text s =>
    obtain ⟨rest, -, rfl⟩ := mem_outcomes_text.mp h
    exact .inl rfl
  | run ok least most order =>
    obtain ⟨piece, rest, -, -, rfl⟩ := Cursor.exists_of_mem_runStops h
    exact .inl rfl
  | seq p q ihp ihq =>
    obtain ⟨e, he, hd⟩ := mem_outcomes_seq.mp h
    unfold marksInLine
    rw [Bool.and_eq_true]
    rcases ihq hd with hmarked | ⟨piece, hmarked, hsub, hline⟩
    · rw [hmarked]
      rcases ihp he with hmarked | ⟨piece, hmarked, hsub, hline⟩
      · exact .inl hmarked
      · exact .inr ⟨piece, hmarked, hsub, fun hpq => hline hpq.1⟩
    · obtain ⟨first, hfirst, -⟩ := reaches_of_mem_outcomes he
      refine .inr ⟨piece, hmarked, fun x hx => ?_, fun hpq => hline hpq.2⟩
      rw [hfirst]
      exact List.mem_append_right first (hsub hx)
  | alt p q ihp ihq =>
    unfold marksInLine
    rw [Bool.and_eq_true]
    rcases mem_outcomes_alt.mp h with h | h
    · exact (ihp h).imp_right fun ⟨piece, hmarked, hsub, hline⟩ =>
        ⟨piece, hmarked, hsub, fun hpq => hline hpq.1⟩
    · exact (ihq h).imp_right fun ⟨piece, hmarked, hsub, hline⟩ =>
        ⟨piece, hmarked, hsub, fun hpq => hline hpq.2⟩
  | mark p _ =>
    obtain ⟨e, he, rfl⟩ := mem_outcomes_mark.mp h
    obtain ⟨piece, hpiece, hoffset⟩ := reaches_of_mem_outcomes he
    refine .inr ⟨piece, Cursor.marked_marking hpiece hoffset, fun x hx => ?_,
      fun hp => notMem_of_staysInLine hp he hpiece⟩
    rw [hpiece]
    exact List.mem_append_left _ hx
  | wordEdge => exact .inl (congrArg Cursor.marked (mem_outcomes_wordEdge.mp h).2)
  | after ok => exact .inl (congrArg Cursor.marked (mem_outcomes_after.mp h).2)
  | notAfter ok => exact .inl (congrArg Cursor.marked (mem_outcomes_notAfter.mp h).2)
  | ahead p _ => exact .inl (congrArg Cursor.marked (mem_outcomes_ahead.mp h).2)
  | notAhead p _ => exact .inl (congrArg Cursor.marked (mem_outcomes_notAhead.mp h).2)

/-- What a hit marks is a part of the text, without line feeds if the marks lie on one line. -/
theorem marked_of_mem_hits {t : List Char} {h : Hit} (hmem : h ∈ p.hits t) {piece : List Char}
    (hmarked : h.marked = some piece) :
    piece ⊆ t ∧ (p.marksInLine = true → '\n' ∉ piece) := by
  obtain ⟨i, d, hfinds, rfl⟩ := findsAt_of_mem_hits hmem
  have hd : d.marked = some piece := hmarked
  have hmem := mem_outcomes_of_firstOutcome? hfinds.found
  rcases marked_of_mem_outcomes hmem with hnone | ⟨_, hsome, hsub, hline⟩
  · rw [hd] at hnone
    cases hnone
  · rw [hd] at hsome
    obtain rfl := Option.some.inj hsome
    exact ⟨fun x hx => List.mem_of_mem_drop (hsub hx), hline⟩

end Pattern

end SourceGrade
