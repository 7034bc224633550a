import SourceGrade.Proofs.LineEnds.Run

set_option autoImplicit false

/-!
# Matches and line ends

`Pattern.sound` is a test on patterns under which a search ends at the twin of the place where it
ended before: `Pattern.search_twin`. It goes by what is known of the continuation.
-/

namespace SourceGrade

open Text (crlf crlfOffset IsTail lineFeeds)

namespace Pattern

open Manner (Refuses Crosses OnlyBefore)

variable {t tail : List Char} {c d : Cursor} {k k' : Cursor → Option Cursor}

/-- A run stops at the twin of its stop, if `m` is known of what follows. -/
def soundRun (ok : Char → Bool) (least : Nat) (most : Option Nat) (order : RunOrder)
    (m : Manner) : Bool :=
  if ok '\n' then
    ok '\r' && least ≤ 1 && match most, order with
      | none, .longestFirst => m.crosses
      | some _, .longestOnly => m.first.any (!ok ·)
      | _, _ => false
  else !ok '\r' || (order ≠ .longestOnly && m.refuses)

/-- A match of a pattern that is followed by something of which `m` is known ends at the twin of
the place where it ends. -/
def sound : Pattern → Manner → Bool
  | .nothing, _ => true
  | .text s, _ => !s.contains '\r' && !s.contains '\n'
  | .run ok least most order, m => soundRun ok least most order m
  | .seq p q, m => p.sound (q.manner m) && q.sound m
  | .alt p q, m => p.sound m && q.sound m
  | .mark p, m => p.sound ⟨m.refuses, m.refuses, m.first⟩
  | .wordEdge, _ => true
  | .after _, _ => true
  | .notAfter _, _ => true
  | .ahead p, _ => p.sound .unknown
  | .notAhead p, _ => p.sound .unknown

/-- Every bounded run that a match may come to from a place has room there. -/
def hasRoom : Pattern → Cursor → Bool
  | .run ok _ (some most) _, c => c.hasRoom ok most
  | .seq p q, c => p.hasRoom c && (p.outcomes c).all q.hasRoom
  | .alt p q, c => p.hasRoom c && q.hasRoom c
  | .mark p, c => p.hasRoom c
  | .ahead p, c => p.hasRoom c
  | .notAhead p, c => p.hasRoom c
  | _, _ => true

/-- Whether the characters of every bounded run lie on one line. -/
def boundsInLine : Pattern → Bool
  | .run ok _ (some _) _ => !ok '\n'
  | .seq p q => p.boundsInLine && q.boundsInLine
  | .alt p q => p.boundsInLine && q.boundsInLine
  | .mark p => p.boundsInLine
  | .ahead p => p.boundsInLine
  | .notAhead p => p.boundsInLine
  | _ => true

/-- There is always room for a run on one line. -/
theorem hasRoom_of_feed {ok : Char → Bool} (h : ok '\n' = false) (c : Cursor) (most : Nat) :
    c.hasRoom ok most = true := by
  have hnone : lineFeeds (c.rest.takeWhile ok) = 0 := by
    refine List.count_eq_zero.mpr fun hmem => ?_
    rw [List.mem_takeWhile_imp hmem] at h
    exact Bool.noConfusion h
  unfold Cursor.hasRoom
  simp only [hnone, Bool.or_eq_true, decide_eq_true_eq]
  omega

theorem hasRoom_of_boundsInLine {p : Pattern} (h : p.boundsInLine = true) (c : Cursor) :
    p.hasRoom c = true := by
  induction p generalizing c with
  | run ok least most order =>
    cases most with
    | none => rfl
    | some m =>
      have hfeed : ok '\n' = false := by simpa [boundsInLine] using h
      exact hasRoom_of_feed hfeed c m
  | seq p q ihp ihq =>
    unfold boundsInLine at h
    unfold hasRoom
    rw [Bool.and_eq_true] at h ⊢
    exact ⟨ihp h.1 c, List.all_eq_true.mpr fun d _ => ihq h.2 d⟩
  | alt p q ihp ihq =>
    unfold boundsInLine at h
    unfold hasRoom
    rw [Bool.and_eq_true] at h ⊢
    exact ⟨ihp h.1 c, ihq h.2 c⟩
  | mark p ih => exact ih h c
  | ahead p ih => exact ih h c
  | notAhead p ih => exact ih h c
  | nothing => rfl
  | text s => rfl
  | wordEdge => rfl
  | after ok => rfl
  | notAfter ok => rfl

theorem findSome?_runStops_twin (htail : IsTail tail) {m : Manner} (hm : m.Of t tail k')
    {ok : Char → Bool} {least : Nat} {most : Option Nat} {order : RunOrder}
    (hsound : soundRun ok least most order m = true)
    (hroom : hasRoom (.run ok least most order) c = true) (hc : c.Within t)
    (hk : ∀ d ∈ c.runStops ok least most order, k' (d.twin t tail) = (k d).map (·.twin t tail)) :
    ((c.twin t tail).runStops ok least most order).findSome? k' =
      ((c.runStops ok least most order).findSome? k).map (·.twin t tail) := by
  unfold soundRun at hsound
  split at hsound
  · rename_i hfeed
    rw [Bool.and_eq_true, Bool.and_eq_true, decide_eq_true_eq] at hsound
    obtain ⟨⟨hreturn, hleast⟩, hrun⟩ := hsound
    split at hrun
    · exact findSome?_runStops_twin_of_both htail hreturn hfeed (hm.crosses hrun) hleast hc hk
    · obtain ⟨x, hfirst, hx⟩ := (Option.any_eq_true ..).mp hrun
      rw [Bool.not_eq_true'] at hx
      exact findSome?_runStops_twin_of_room htail hreturn hfeed hx (hm.first x hfirst) hleast hroom
        hc hk
    · exact Bool.noConfusion hrun
  · rename_i hfeed
    rw [Bool.not_eq_true] at hfeed
    rw [Bool.or_eq_true, Bool.not_eq_true', Bool.and_eq_true, decide_eq_true_eq] at hsound
    rcases hsound with hreturn | ⟨horder, hrefuses⟩
    · rw [runStops_twin_of_neither htail hreturn hfeed hc]
      exact findSome?_map_twin hk
    · exact findSome?_runStops_twin_of_return htail hfeed (hm.refuses hrefuses) horder hc hk

theorem exists_eq_append_of_twin (htail : IsTail tail) {s : List Char} (hreturn : '\r' ∉ s)
    {rest rest' : List Char} (h : crlf rest ++ tail = s ++ rest') :
    ∃ rest'', rest = s ++ rest'' := by
  induction s generalizing rest with
  | nil => exact ⟨rest, rfl⟩
  | cons x s ih =>
    rw [List.mem_cons, not_or] at hreturn
    cases rest with
    | nil =>
      rcases htail with rfl | rfl
      · cases h
      · exact absurd (List.cons.inj h).1 hreturn.1
    | cons y rest =>
      by_cases hy : y = '\n'
      · subst hy
        exact absurd (List.cons.inj h).1 hreturn.1
      · rw [Text.crlf_cons_of_ne hy] at h
        obtain ⟨rest'', hrest⟩ := ih hreturn.2 (List.cons.inj h).2
        exact ⟨rest'', by rw [(List.cons.inj h).1, hrest]; rfl⟩

/-- Characters that end no line are passed over in the twin where they are passed over. -/
theorem past?_twin (htail : IsTail tail) {s : List Char} (hreturn : '\r' ∉ s) (hfeed : '\n' ∉ s)
    (hc : c.Within t) : (c.twin t tail).past? s = (c.past? s).map (·.twin t tail) := by
  cases hd : c.past? s with
  | some d =>
    obtain ⟨rest, hrest, rfl⟩ := Cursor.past?_eq_some_iff.mp hd
    rw [Option.map_some, Cursor.past?_eq_some_iff, Cursor.twin_past hc hrest,
      Text.crlf_of_notMem hfeed]
    refine ⟨crlf rest ++ tail, ?_, rfl⟩
    show crlf c.rest ++ tail = _
    rw [hrest, Text.crlf_append, Text.crlf_of_notMem hfeed, List.append_assoc]
  | none =>
    rw [Option.map_none, Option.eq_none_iff_forall_ne_some]
    intro d hd'
    obtain ⟨rest', hrest', -⟩ := Cursor.past?_eq_some_iff.mp hd'
    obtain ⟨rest, hrest⟩ := exists_eq_append_of_twin htail hreturn hrest'
    rw [Cursor.past?_eq_some_iff.mpr ⟨rest, hrest, rfl⟩] at hd
    cases hd

/-- A place lies at the edge of a word if its twin does. -/
theorem atWordEdge_twin (htail : IsTail tail) (c : Cursor) :
    (c.twin t tail).atWordEdge = c.atWordEdge := by
  have hreturn : Text.isWord '\r' = false := by decide
  have hfeed : Text.isWord '\n' = false := by decide
  have hhead : (c.twin t tail).rest.head?.any Text.isWord = c.rest.head?.any Text.isWord := by
    show (crlf c.rest ++ tail).head?.any Text.isWord = _
    cases c.rest with
    | nil =>
      rcases htail with rfl | rfl
      · rfl
      · exact hreturn
    | cons x rest =>
      by_cases hx : x = '\n'
      · subst hx
        exact hreturn.trans hfeed.symm
      · rw [Text.crlf_cons_of_ne hx]
        rfl
  unfold Cursor.atWordEdge
  rw [hhead]
  rfl

/-- A search of a sound pattern ends at the twin of the place where it ends. -/
theorem search_twin (htail : IsTail tail) {p : Pattern} {m : Manner} (hsound : p.sound m = true)
    (hm : m.Of t tail k') (hroom : p.hasRoom c = true) (hc : c.Within t)
    (hk : ∀ d ∈ p.outcomes c, k' (d.twin t tail) = (k d).map (·.twin t tail)) :
    p.search (c.twin t tail) k' = (p.search c k).map (·.twin t tail) := by
  induction p generalizing m c k k' with
  | nothing => exact hk c (mem_outcomes_nothing.mpr rfl)
  | text s =>
    unfold sound at hsound
    rw [Bool.and_eq_true, Bool.not_eq_true', Bool.not_eq_true'] at hsound
    have hs : '\r' ∉ s ∧ '\n' ∉ s := by simpa using hsound
    rw [search, search, past?_twin htail hs.1 hs.2 hc]
    cases hd : c.past? s with
    | none => rfl
    | some d => exact hk d (by unfold outcomes; rw [hd]; exact List.mem_singleton_self d)
  | run ok least most order => exact findSome?_runStops_twin htail hm hsound hroom hc hk
  | seq p q ihp ihq =>
    unfold sound at hsound
    unfold hasRoom at hroom
    rw [Bool.and_eq_true] at hsound hroom
    rw [List.all_eq_true] at hroom
    refine ihp hsound.1 (manner_search q hm) hroom.1 hc fun d hd => ?_
    exact ihq hsound.2 hm (hroom.2 d hd) (hc.of_reaches (reaches_of_mem_outcomes hd)) fun e he =>
      hk e (mem_outcomes_seq.mpr ⟨d, hd, he⟩)
  | alt p q ihp ihq =>
    unfold sound at hsound
    unfold hasRoom at hroom
    rw [Bool.and_eq_true] at hsound hroom
    have hp := ihp hsound.1 hm hroom.1 hc fun d hd => hk d (mem_outcomes_alt.mpr (.inl hd))
    have hq := ihq hsound.2 hm hroom.2 hc fun d hd => hk d (mem_outcomes_alt.mpr (.inr hd))
    rw [search, search, hp, hq]
    cases p.search c k <;> rfl
  | mark p ih =>
    rw [search, search]
    refine ih hsound (hm.marking _) hroom hc fun d hd => ?_
    rw [Cursor.marking_twin hc (reaches_of_mem_outcomes hd)]
    exact hk (d.marking c) (mem_outcomes_mark.mpr ⟨d, hd, rfl⟩)
  | wordEdge =>
    have hedge := atWordEdge_twin (t := t) htail c
    rw [search, search, hedge]
    split
    · rename_i h
      exact hk c (mem_outcomes_wordEdge.mpr ⟨h, rfl⟩)
    · rfl
  | after ok =>
    show (if c.before.any ok then k' (c.twin t tail) else none) = _
    rw [search]
    split
    · rename_i h
      exact hk c (mem_outcomes_after.mpr ⟨h, rfl⟩)
    · rfl
  | notAfter ok =>
    show (if c.before.any ok then none else k' (c.twin t tail)) = _
    rw [search]
    split
    · rfl
    · rename_i h
      exact hk c (mem_outcomes_notAfter.mpr ⟨Bool.eq_false_iff.mpr h, rfl⟩)
  | ahead p ih =>
    have hfound : p.search (c.twin t tail) some = (p.search c some).map (·.twin t tail) :=
      ih hsound Manner.of_unknown hroom hc fun d _ => rfl
    rw [search, search, hfound, Option.isSome_map]
    split
    · rename_i h
      exact hk c (mem_outcomes_ahead.mpr ⟨h, rfl⟩)
    · rfl
  | notAhead p ih =>
    have hfound : p.search (c.twin t tail) some = (p.search c some).map (·.twin t tail) :=
      ih hsound Manner.of_unknown hroom hc fun d _ => rfl
    rw [search, search, hfound, Option.isSome_map]
    split
    · rfl
    · rename_i h
      exact hk c (mem_outcomes_notAhead.mpr ⟨Bool.eq_false_iff.mpr h, rfl⟩)

/-- The preferred match of a sound pattern ends at the twin of the place where it ends. -/
theorem firstOutcome?_twin (htail : IsTail tail) {p : Pattern} (hp : p.sound .unknown = true)
    (hroom : p.hasRoom c = true) (hc : c.Within t) :
    p.firstOutcome? (c.twin t tail) = (p.firstOutcome? c).map (·.twin t tail) :=
  search_twin htail hp Manner.of_unknown hroom hc fun _ _ => rfl

end Pattern

end SourceGrade
