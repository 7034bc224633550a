import SourceGrade.Proofs.LineEnds.Text
import SourceGrade.Proofs.Pattern.Pieces

set_option autoImplicit false

/-!
# Gaps in line ends

A pattern that is matched against a text whose lines end in two characters meets more places than
in the text with line feeds alone: besides the twins of the old places there is a gap inside each
line end. A search tries a continuation at every place that a pattern leads to, so what matters is
how a continuation takes the gaps: `Manner` says what is known of one, and `Pattern.manner` what
follows for a pattern in front of it.

The text may be followed by a carriage return of its own. It stands for the first half of a line
end that is cut in two.
-/

namespace SourceGrade

open Text (crlf crlfOffset IsTail lineFeeds)

/-! ## Places -/

namespace Cursor

/-- A place at which the rest of a text begins. -/
structure Within (t : List Char) (c : Cursor) : Prop where
  le : c.offset ≤ t.length
  rest : c.rest = t.drop c.offset

/-- The same place after the lines of the text have got ends of two characters. -/
def twin (t tail : List Char) (c : Cursor) : Cursor :=
  ⟨c.before, crlf c.rest ++ tail, crlfOffset t c.offset, c.marked.map crlf⟩

/-- The place after the carriage return that the twin of a place has in front of it. -/
def gap (t tail : List Char) (c : Cursor) (marked : Option (List Char)) : Cursor :=
  ⟨some '\r', (crlf c.rest ++ tail).tail, crlfOffset t c.offset + 1, marked⟩

/-- A place has room for a run if the run, where it has no more characters than are allowed, has
no more of them after its lines have got ends of two characters. -/
def hasRoom (c : Cursor) (ok : Char → Bool) (most : Nat) : Bool :=
  let piece := c.rest.takeWhile ok
  most < piece.length || piece.length + lineFeeds piece ≤ most

/-- The twin of a place has a carriage return in front of it. -/
def AtLineEnd (tail : List Char) (c : Cursor) : Prop :=
  (∃ rest, c.rest = '\n' :: rest) ∨ (c.rest = [] ∧ tail = ['\r'])

variable {t tail : List Char} {c d : Cursor}

theorem Within.cons {before : Option Char} {x : Char} {rest : List Char} {offset : Nat}
    {marked : Option (List Char)} (h : Within t ⟨before, x :: rest, offset, marked⟩) :
    Within t ⟨some x, rest, offset + 1, marked⟩ ∧ t[offset]? = some x := by
  have hrest : x :: rest = t.drop offset := h.rest
  have hlt : offset < t.length := by
    refine Nat.lt_of_not_le fun hle => ?_
    rw [List.drop_of_length_le hle] at hrest
    exact List.cons_ne_nil x rest hrest
  rw [List.drop_eq_getElem_cons hlt, List.cons.injEq] at hrest
  exact ⟨⟨hlt, hrest.2⟩, by rw [List.getElem?_eq_getElem hlt, hrest.1]⟩

theorem Within.crlfOffset_succ {before : Option Char} {x : Char} {rest : List Char} {offset : Nat}
    {marked : Option (List Char)} (h : Within t ⟨before, x :: rest, offset, marked⟩) :
    crlfOffset t (offset + 1) = crlfOffset t offset + (crlf [x]).length := by
  rw [Text.crlfOffset_add, ← h.rest, Text.length_crlf]
  rfl

theorem Within.of_reaches (h : c.Within t) (hd : c.Reaches d) : d.Within t := by
  obtain ⟨piece, hrest, hoffset⟩ := hd
  have hdrop : t.drop (c.offset + piece.length) = d.rest := by
    rw [← List.drop_drop, ← h.rest, hrest, List.drop_left]
  have hlength := congrArg List.length h.rest
  rw [hrest, List.length_append, List.length_drop] at hlength
  have hle := h.le
  exact ⟨by omega, by rw [hoffset, hdrop]⟩

/-- The twin of the place after a piece lies after what becomes of the piece. -/
theorem twin_past (h : c.Within t) {piece rest : List Char} (hrest : c.rest = piece ++ rest) :
    (c.past piece rest).twin t tail =
      (c.twin t tail).past (crlf piece) (crlf rest ++ tail) := by
  have htake : (t.drop c.offset).take piece.length = piece := by
    rw [← h.rest, hrest, List.take_left]
  unfold twin past
  rw [Text.getLast?_crlf, Text.crlfOffset_add, htake, Text.length_crlf]

/-- What is remembered of a match becomes what its piece becomes. -/
theorem marking_twin (hc : c.Within t) (hd : c.Reaches d) :
    (d.twin t tail).marking (c.twin t tail) = (d.marking c).twin t tail := by
  obtain ⟨piece, hrest, hoffset⟩ := hd
  have htake : (t.drop c.offset).take piece.length = piece := by
    rw [← hc.rest, hrest, List.take_left]
  have hlength : crlfOffset t (c.offset + piece.length) - crlfOffset t c.offset =
      (crlf piece).length := by
    rw [Text.crlfOffset_add, htake, Text.length_crlf]
    omega
  unfold marking twin
  simp only [hoffset, hlength, hrest, Text.crlf_append, List.append_assoc, List.take_left,
    Nat.add_sub_cancel_left, Option.map_some]

/-- The first character that a gap leaves is a line feed, if there is one. -/
theorem eq_of_gap_rest {x : Char} {rest : List Char} {marked : Option (List Char)}
    (hc : c.AtLineEnd tail) (h : (c.gap t tail marked).rest = x :: rest) : x = '\n' := by
  unfold Cursor.gap at h
  rcases hc with ⟨rest', hrest⟩ | ⟨hrest, htail⟩
  · rw [hrest] at h
    exact (List.cons.inj h).1.symm
  · rw [hrest, htail] at h
    exact absurd h.symm (List.cons_ne_nil x rest)

/-- The twin of a place has the same character in front of it or a carriage return. -/
theorem eq_or_mem_head?_twin (htail : IsTail tail) {x : Char}
    (h : x ∈ (c.twin t tail).rest.head?) : x = '\r' ∨ x ∈ c.rest.head? := by
  unfold twin at h
  cases hrest : c.rest with
  | nil =>
    rw [hrest] at h
    rcases htail with rfl | rfl
    · cases h
    · exact .inl (Option.some.inj h).symm
  | cons y rest =>
    rw [hrest] at h
    by_cases hy : y = '\n'
    · subst hy
      exact .inl (Option.some.inj h).symm
    · rw [Text.crlf_cons_of_ne hy] at h
      exact .inr h

end Cursor

/-! ## What is known of a continuation -/

/-- What is known of a continuation of a search. -/
structure Manner where
  /-- It refuses every gap. -/
  refuses : Bool
  /-- If it accepts a gap it also accepts the place after the line end. -/
  crosses : Bool
  /-- The character before which alone it accepts a place. -/
  first : Option Char

namespace Manner

/-- Nothing is known. -/
def unknown : Manner := ⟨false, false, none⟩

/-- A continuation refuses every gap. -/
def Refuses (t tail : List Char) (k : Cursor → Option Cursor) : Prop :=
  ∀ (c : Cursor) (marked : Option (List Char)), c.Within t → c.AtLineEnd tail →
    k (c.gap t tail marked) = none

/-- A continuation that accepts a gap also accepts the place after the line end, so that the gap
need not be tried after that place. -/
structure Crosses (t tail : List Char) (k : Cursor → Option Cursor) : Prop where
  inside : ∀ before rest offset marked, Cursor.Within t ⟨before, '\n' :: rest, offset, marked⟩ →
    (k (Cursor.gap t tail ⟨before, '\n' :: rest, offset, marked⟩ (marked.map crlf))).isSome →
      (k (Cursor.twin t tail ⟨some '\n', rest, offset + 1, marked⟩)).isSome
  atEnd : ∀ c : Cursor, c.Within t → c.rest = [] → tail = ['\r'] →
    k (c.gap t tail (c.marked.map crlf)) = none

/-- A continuation only accepts places before the given character. -/
def OnlyBefore (x : Char) (k : Cursor → Option Cursor) : Prop :=
  ∀ c, (k c).isSome → ∃ rest, c.rest = x :: rest

/-- What is known of a continuation is true. -/
structure Of (t tail : List Char) (m : Manner) (k : Cursor → Option Cursor) : Prop where
  refuses : m.refuses = true → Refuses t tail k
  crosses : m.crosses = true → Crosses t tail k
  first : ∀ x, m.first = some x → OnlyBefore x k

variable {t tail : List Char} {k : Cursor → Option Cursor}

theorem of_unknown : unknown.Of t tail k :=
  ⟨nofun, nofun, nofun⟩

theorem Refuses.crosses (h : Refuses t tail k) : Crosses t tail k where
  inside before rest offset marked hc hsome := by
    rw [h _ _ hc (.inl ⟨rest, rfl⟩)] at hsome
    exact Bool.noConfusion hsome
  atEnd c hc hrest htail := h c _ hc (.inr ⟨hrest, htail⟩)

/-- What refuses every gap is known to do no more than that. -/
theorem Of.of_refuses {refuses : Bool} (h : refuses = true → Refuses t tail k) :
    Of t tail ⟨refuses, refuses, none⟩ k :=
  ⟨h, fun hr => (h hr).crosses, nofun⟩

/-- What is known of a continuation once a match is remembered. At a gap another piece is remembered
than after the line end, so what crosses line ends is only known to do so if it refuses gaps. -/
theorem Of.marking {m : Manner} (h : m.Of t tail k) (c : Cursor) :
    Of t tail ⟨m.refuses, m.refuses, m.first⟩ fun d => k (d.marking c) where
  refuses hr e _ he hend := h.refuses hr e _ he hend
  crosses hr := Refuses.crosses fun e _ he hend => h.refuses hr e _ he hend
  first x hx e hsome := h.first x hx (e.marking c) hsome

end Manner

namespace Pattern

open Manner (Refuses Crosses OnlyBefore)

variable {t tail : List Char} {c d : Cursor} {k k' : Cursor → Option Cursor}

/-- What is known of a pattern that is followed by something of which `m` is known. -/
def manner : Pattern → Manner → Manner
  | .nothing, m => m
  | .text s, _ => ⟨s.head?.any (· != '\n'), s.head?.any (· != '\n'), s.head?⟩
  | .run ok least most order, m =>
    if ok '\n' then
      match least, most, order with
      | 0, none, .longestFirst => ⟨false, m.crosses, none⟩
      | _, _, _ => .unknown
    else ⟨0 < least || m.refuses, 0 < least || m.refuses, none⟩
  | .seq p q, m => p.manner (q.manner m)
  | .alt p q, m =>
    ⟨(p.manner m).refuses && (q.manner m).refuses, (p.manner m).crosses && (q.manner m).crosses,
      none⟩
  | .mark p, m =>
    let inner := p.manner ⟨m.refuses, m.refuses, m.first⟩
    ⟨inner.refuses, inner.refuses, inner.first⟩
  | .wordEdge, _ => ⟨true, true, none⟩
  | .after ok, m => ⟨!ok '\r' || m.refuses, !ok '\r' || m.refuses, none⟩
  | .notAfter ok, m => ⟨ok '\r' || m.refuses, ok '\r' || m.refuses, none⟩
  | .ahead p, m =>
    ⟨(p.manner .unknown).refuses || m.refuses, (p.manner .unknown).refuses || m.refuses, none⟩
  | .notAhead _, m => ⟨m.refuses, m.refuses, none⟩

theorem search_alt_isSome (p q : Pattern) (c : Cursor) (k : Cursor → Option Cursor) :
    (search (.alt p q) c k).isSome = ((p.search c k).isSome || (q.search c k).isSome) := by
  rw [search]
  cases p.search c k <;> rfl

/-- No run of a class without the line feed goes on from a gap. -/
theorem runStops_gap {ok : Char → Bool} (hok : ok '\n' = false) (hc : c.AtLineEnd tail)
    (marked : Option (List Char)) (least : Nat) (most : Option Nat) (order : RunOrder) :
    (c.gap t tail marked).runStops ok least most order = (c.gap t tail marked).ownStop least :=
  Cursor.runStops_of_head (fun x rest h => by rw [Cursor.eq_of_gap_rest hc h, hok]) order

/-- A run of any length that takes in line feeds goes on from a gap to the place after the line
end. -/
theorem runStops_gap_over {ok : Char → Bool} (hok : ok '\n' = true) {before : Option Char}
    {rest : List Char} {offset : Nat} {marked : Option (List Char)}
    (hc : Cursor.Within t ⟨before, '\n' :: rest, offset, marked⟩) :
    (Cursor.gap t tail ⟨before, '\n' :: rest, offset, marked⟩ (marked.map crlf)).runStops ok 0
      none .longestFirst =
    (Cursor.twin t tail ⟨some '\n', rest, offset + 1, marked⟩).runStops ok 0 none .longestFirst ++
      [Cursor.gap t tail ⟨before, '\n' :: rest, offset, marked⟩ (marked.map crlf)] := by
  have hoffset : crlfOffset t (offset + 1) = crlfOffset t offset + 2 := hc.crlfOffset_succ
  unfold Cursor.gap Cursor.twin
  simp only [Text.crlf_cons_lineFeed, List.cons_append, List.tail_cons]
  rw [Cursor.runStops_cons, if_pos ⟨by simp, hok⟩, hoffset]
  rfl

/-- A run of any length that takes in line feeds lets its continuation cross them. -/
theorem crosses_run {ok : Char → Bool} (hok : ok '\n' = true) (hk : Crosses t tail k) :
    Crosses t tail fun c => search (.run ok 0 none .longestFirst) c k where
  inside before rest offset marked hc h := by
    have hover := hk.inside before rest offset marked hc
    rw [search, runStops_gap_over hok hc, List.findSome?_append, Option.isSome_or,
      Bool.or_eq_true] at h
    rcases h with h | h
    · exact h
    · rw [search, List.findSome?_isSome_iff]
      rw [List.findSome?_singleton] at h
      exact ⟨_, Cursor.self_mem_runStops _ ok none, hover h⟩
  atEnd c hc hrest htail := by
    have hgap : (c.gap t tail (c.marked.map crlf)).rest = [] := by
      unfold Cursor.gap
      rw [hrest, htail]
      rfl
    rw [search, Cursor.runStops_of_head (fun x rest h => ?_)]
    · exact (List.findSome?_singleton ..).trans (hk.atEnd c hc hrest htail)
    · rw [hgap] at h
      exact absurd h.symm (List.cons_ne_nil x rest)

/-- A text is only passed over before its first character. -/
theorem onlyBefore_text (x : Char) (s : List Char) (k : Cursor → Option Cursor) :
    OnlyBefore x fun c => search (.text (x :: s)) c k := by
  intro c h
  obtain ⟨e, he⟩ := Option.isSome_iff_exists.mp h
  obtain ⟨d, hd, -⟩ := Option.bind_eq_some_iff.mp he
  obtain ⟨rest, hrest, -⟩ := Cursor.past?_eq_some_iff.mp hd
  exact ⟨s ++ rest, hrest⟩

theorem eq_none_of_onlyBefore {x : Char} (h : OnlyBefore x k) (hc : ∀ rest, c.rest ≠ x :: rest) :
    k c = none :=
  Option.not_isSome_iff_eq_none.mp fun hsome => (h c hsome).elim hc

/-- What accepts places before one character only, which is no line feed, refuses every gap. -/
theorem refuses_of_onlyBefore {x : Char} (hx : x ≠ '\n') (h : OnlyBefore x k) :
    Refuses t tail k :=
  fun _ _ _ hend => eq_none_of_onlyBefore h fun _ hrest => hx (Cursor.eq_of_gap_rest hend hrest)

/-- A run of a class without the line feed refuses every gap if it may not be empty or if what
follows does. -/
theorem refuses_run {ok : Char → Bool} (hok : ok '\n' = false) {least : Nat}
    (hleast : 0 < least ∨ Refuses t tail k) (most : Option Nat) (order : RunOrder) :
    Refuses t tail fun c => search (.run ok least most order) c k := by
  intro c marked hc hend
  dsimp only
  rw [search, runStops_gap hok hend]
  unfold Cursor.ownStop
  split
  · rename_i hzero
    rcases hleast with hpos | hk
    · omega
    · exact (List.findSome?_singleton ..).trans (hk c marked hc hend)
  · rfl

/-- There is no edge of a word in a gap. -/
theorem refuses_wordEdge : Refuses t tail fun c => search .wordEdge c k := by
  intro c marked _ hend
  have hhead : (c.gap t tail marked).rest.head?.any Text.isWord = false := by
    cases hrest : (c.gap t tail marked).rest with
    | nil => rfl
    | cons x rest =>
      rw [Cursor.eq_of_gap_rest hend hrest]
      show Text.isWord '\n' = false
      decide
  have hbefore : (c.gap t tail marked).before.any Text.isWord = false := by
    show Text.isWord '\r' = false
    decide
  have hedge : (c.gap t tail marked).atWordEdge = false := by
    unfold Cursor.atWordEdge
    rw [hhead, hbefore]
    rfl
  dsimp only
  rw [search, hedge]
  rfl

theorem refuses_alt {p q : Pattern} (hp : Refuses t tail fun c => p.search c k)
    (hq : Refuses t tail fun c => q.search c k) :
    Refuses t tail fun c => search (.alt p q) c k := by
  intro c marked hc hend
  have hpnone : p.search (c.gap t tail marked) k = none := hp c marked hc hend
  dsimp only
  rw [search, hpnone]
  exact hq c marked hc hend

theorem crosses_alt {p q : Pattern} (hp : Crosses t tail fun c => p.search c k)
    (hq : Crosses t tail fun c => q.search c k) :
    Crosses t tail fun c => search (.alt p q) c k where
  inside before rest offset marked hc h := by
    rw [search_alt_isSome, Bool.or_eq_true] at h ⊢
    exact h.imp (hp.inside _ _ _ _ hc) (hq.inside _ _ _ _ hc)
  atEnd c hc hrest htail := by
    rw [search, show p.search _ k = none from hp.atEnd c hc hrest htail]
    exact hq.atEnd c hc hrest htail

/-- What is known of a pattern that something follows is true. -/
theorem manner_search (p : Pattern) {m : Manner} {k : Cursor → Option Cursor}
    (h : m.Of t tail k) : (p.manner m).Of t tail fun c => p.search c k := by
  induction p generalizing m k with
  | nothing => exact h
  | text s =>
    cases s with
    | nil => exact Manner.of_unknown
    | cons x s =>
      have honly := onlyBefore_text x s k
      have href : (x != '\n') = true → Refuses t tail fun c => search (.text (x :: s)) c k :=
        fun hx => refuses_of_onlyBefore (by simpa using hx) honly
      refine ⟨href, fun hx => (href hx).crosses, fun y hy => ?_⟩
      obtain rfl := Option.some.inj hy
      exact honly
  | run ok least most order =>
    unfold manner
    split
    · rename_i hok
      split
      · exact ⟨nofun, fun hm => crosses_run hok (h.crosses hm), nofun⟩
      · exact Manner.of_unknown
    · rename_i hok
      refine Manner.Of.of_refuses fun hr => ?_
      rw [Bool.or_eq_true, decide_eq_true_eq] at hr
      exact refuses_run (by simpa using hok) (hr.imp_right h.refuses) most order
  | seq p q ihp ihq => exact ihp (ihq h)
  | alt p q ihp ihq =>
    have hp := ihp h
    have hq := ihq h
    exact ⟨fun hr => refuses_alt (hp.refuses (Bool.and_eq_true_iff.mp hr).1)
      (hq.refuses (Bool.and_eq_true_iff.mp hr).2), fun hx =>
      crosses_alt (hp.crosses (Bool.and_eq_true_iff.mp hx).1)
        (hq.crosses (Bool.and_eq_true_iff.mp hx).2), nofun⟩
  | mark p ih =>
    have hinner := fun c => ih (h.marking c)
    have href : (p.manner ⟨m.refuses, m.refuses, m.first⟩).refuses = true →
        Refuses t tail fun c => search (.mark p) c k :=
      fun hr c marked hc hend => (hinner _).refuses hr c marked hc hend
    exact ⟨href, fun hr => (href hr).crosses, fun x hx c hc => (hinner c).first x hx c hc⟩
  | wordEdge => exact Manner.Of.of_refuses fun _ => refuses_wordEdge
  | after ok =>
    refine Manner.Of.of_refuses fun hr c marked hc hend => ?_
    rw [Bool.or_eq_true, Bool.not_eq_true'] at hr
    show (if ok '\r' then k (c.gap t tail marked) else none) = none
    rcases hr with hok | hm
    · rw [hok]; rfl
    · rw [h.refuses hm c marked hc hend, ite_self]
  | notAfter ok =>
    refine Manner.Of.of_refuses fun hr c marked hc hend => ?_
    rw [Bool.or_eq_true] at hr
    show (if ok '\r' then none else k (c.gap t tail marked)) = none
    rcases hr with hok | hm
    · rw [hok]; rfl
    · rw [h.refuses hm c marked hc hend, ite_self]
  | ahead p ih =>
    refine Manner.Of.of_refuses fun hr c marked hc hend => ?_
    rw [Bool.or_eq_true] at hr
    show (if (p.search (c.gap t tail marked) some).isSome then k (c.gap t tail marked) else none) =
      none
    rcases hr with hp | hm
    · have hnone : p.search (c.gap t tail marked) some = none :=
        (ih Manner.of_unknown).refuses hp c marked hc hend
      rw [hnone]; rfl
    · rw [h.refuses hm c marked hc hend, ite_self]
  | notAhead p ih =>
    refine Manner.Of.of_refuses fun hm c marked hc hend => ?_
    show (if (p.search (c.gap t tail marked) some).isSome then none else k (c.gap t tail marked)) =
      none
    rw [h.refuses hm c marked hc hend, ite_self]

end Pattern

end SourceGrade
