import SourceGrade.Proofs.Pattern.Pieces
import SourceGrade.Proofs.Pattern.Scan

set_option autoImplicit false

/-!
# The end of a text and one more line feed

A pattern that ends with a character other than a line feed has the same hits in a text whether or
not a line feed follows it: `Pattern.hits_concat_lineFeed`. What comes before that character may run
into the line feed, as blanks do, but then nothing is left for the character to match.
-/

namespace SourceGrade

namespace Cursor

variable {c d : Cursor}

/-- The same place in the text with one more line feed. -/
def fed (c : Cursor) : Cursor := { c with rest := c.rest ++ ['\n'] }

theorem past_fed (c : Cursor) (piece rest : List Char) :
    c.fed.past piece (rest ++ ['\n']) = (c.past piece rest).fed := rfl

theorem ownStop_fed (c : Cursor) (least : Nat) :
    c.fed.ownStop least = (c.ownStop least).map fed := by
  unfold ownStop
  split <;> rfl

/-- A line feed is no part of a word, and neither is the end of a text. -/
theorem atWordEdge_fed (c : Cursor) : c.fed.atWordEdge = c.atWordEdge := by
  have hfeed : Text.isWord '\n' = false := by decide
  unfold atWordEdge fed
  cases c.rest with
  | nil => simp [hfeed]
  | cons x rest => rfl

/-- What is remembered of a match does not reach into the line feed. -/
theorem marking_fed (h : c.Reaches d) : d.fed.marking c.fed = (d.marking c).fed := by
  obtain ⟨piece, hrest, hoffset⟩ := h
  have hlength : d.offset - c.offset ≤ c.rest.length := by
    rw [hrest, hoffset, List.length_append]
    omega
  unfold marking fed
  dsimp only
  rw [List.take_append_of_le_length hlength]

/-! ## Where texts and runs stop -/

/-- The next characters are the given ones also if a line feed follows. Otherwise it may only be the
last one of them. -/
theorem past?_fed (c : Cursor) (s : List Char) :
    c.fed.past? s = (c.past? s).map fed ∨
      c.past? s = none ∧ ∀ g, c.fed.past? s = some g → g.rest = [] ∧ '\n' ∈ s := by
  cases hpast : c.past? s with
  | some d =>
    obtain ⟨rest, hrest, rfl⟩ := past?_eq_some_iff.mp hpast
    refine .inl (past?_eq_some_iff.mpr ⟨rest ++ ['\n'], ?_, past_fed c s rest⟩)
    show c.rest ++ ['\n'] = _
    rw [hrest, List.append_assoc]
  | none =>
    refine .inr ⟨rfl, fun g hg => ?_⟩
    obtain ⟨rest, hrest, rfl⟩ := past?_eq_some_iff.mp hg
    have hsplit : c.rest ++ ['\n'] = s ++ rest := hrest
    rcases List.eq_nil_or_concat rest with rfl | ⟨rest, x, rfl⟩
    · rw [List.append_nil] at hsplit
      exact ⟨rfl, hsplit ▸ List.mem_append_right c.rest (List.mem_singleton_self '\n')⟩
    · rw [List.concat_eq_append, ← List.append_assoc] at hsplit
      have hsome := past?_eq_some_iff.mpr ⟨rest, (List.append_inj' hsplit rfl).1, rfl⟩
      rw [hpast] at hsome
      cases hsome

variable {ok : Char → Bool}

/-- A run stops where it did, and it may also run into the line feed if it has got that far. -/
theorem runStops_fed (c : Cursor) (ok : Char → Bool) (least : Nat) (most : Option Nat) :
    ∃ behind, c.fed.runStops ok least most .longestFirst =
        behind ++ (c.runStops ok least most .longestFirst).map fed ∧
      (∀ d ∈ behind, d.rest = [] ∧ ok '\n' = true) ∧
      (behind = [] ∨ ∀ d ∈ (c.runStops ok least most .longestFirst).head?, d.rest = []) := by
  obtain ⟨before, rest, offset, marked⟩ := c
  induction rest generalizing before offset least most with
  | nil =>
    have hstops := @runStops_cons ok least most before '\n' [] offset marked
    rw [runStops_nil]
    refine ⟨_, hstops.trans (congrArg _ (ownStop_fed ⟨before, [], offset, marked⟩ least)),
      fun d hd => ?_, .inr fun d hd => ?_⟩
    · split at hd
      · rename_i hgo
        rw [runStops_nil, mem_ownStop] at hd
        rw [hd.2]
        exact ⟨rfl, hgo.2⟩
      · exact absurd hd List.not_mem_nil
    · rw [(mem_ownStop.mp (List.mem_of_mem_head? hd)).2]
  | cons x rest ih =>
    have hstops := @runStops_cons ok least most before x (rest ++ ['\n']) offset marked
    have hown := ownStop_fed ⟨before, x :: rest, offset, marked⟩ least
    obtain ⟨behind, hnext, hbehind, hfirst⟩ :=
      ih (least - 1) (most.map (· - 1)) (some x) (offset + 1)
    rw [runStops_cons]
    split at hstops
    · rename_i hgo
      rw [if_pos hgo]
      refine ⟨behind, ?_, hbehind, hfirst.imp_right fun hends => ?_⟩
      · rw [List.map_append, ← List.append_assoc, ← hown, ← hnext]
        exact hstops
      · cases hlater : runStops ⟨some x, rest, offset + 1, marked⟩ ok (least - 1)
            (most.map (· - 1)) .longestFirst with
        | cons d stops =>
          rw [hlater] at hends
          exact hends
        | nil =>
          -- A run that may be empty would stop at once, so none is complete here.
          have hleast : least ≠ 0 := by
            rintro rfl
            have hself := self_mem_runStops ⟨some x, rest, offset + 1, marked⟩ ok
              (most.map (· - 1))
            rw [hlater] at hself
            exact List.not_mem_nil hself
          unfold ownStop
          rw [if_neg hleast]
          exact nofun
    · rename_i hstop
      rw [if_neg hstop]
      exact ⟨[], hstops.trans (congrArg _ hown), nofun, .inl rfl⟩

/-- A run does not get into the line feed if its class is without it. -/
theorem runStops_fed_of_not_ok (hfeed : ok '\n' = false) (c : Cursor) (least : Nat)
    (most : Option Nat) (order : RunOrder) :
    c.fed.runStops ok least most order = (c.runStops ok least most order).map fed := by
  obtain ⟨behind, hstops, hbehind, -⟩ := runStops_fed c ok least most
  have hnone : behind = [] := by
    refine List.eq_nil_iff_forall_not_mem.mpr fun d hd => ?_
    rw [(hbehind d hd).2] at hfeed
    exact Bool.noConfusion hfeed
  rw [hnone, List.nil_append] at hstops
  cases order with
  | longestFirst => exact hstops
  | shortestFirst =>
    rw [runStops_shortestFirst, runStops_shortestFirst, hstops, List.map_reverse]
  | longestOnly => rw [runStops_longestOnly, runStops_longestOnly, hstops, List.map_take]

end Cursor

namespace Pattern

open Cursor (fed)

variable {p q : Pattern} {c : Cursor} {k k' : Cursor → Option Cursor}

/-- A continuation accepts the places after a place with one more line feed as the other one does
without it. -/
def Follows (c : Cursor) (k k' : Cursor → Option Cursor) : Prop :=
  ∀ d, c.Reaches d → k' d.fed = (k d).map fed

/-- A continuation does not accept the end of a text. -/
def GoesOn (k : Cursor → Option Cursor) : Prop := ∀ d : Cursor, d.rest = [] → k d = none

theorem Follows.of_reaches {d : Cursor} (h : Follows c k k') (hd : c.Reaches d) :
    Follows d k k' :=
  fun e he => h e (hd.trans he)

theorem Follows.self (h : Follows c k k') : k' c.fed = (k c).map fed := h c (.refl c)

/-- What follows a pattern is reached before the end of a text as well. -/
theorem GoesOn.search (h : GoesOn k) (p : Pattern) : GoesOn fun d => p.search d k := by
  intro d hd
  show p.search d k = none
  rw [search_eq_findSome?, List.findSome?_eq_none_iff]
  intro e he
  obtain ⟨piece, hrest, -⟩ := reaches_of_mem_outcomes he
  rw [hd] at hrest
  exact h e (List.append_eq_nil_iff.mp hrest.symm).2

theorem findSome?_map_fed {stops : List Cursor} (h : ∀ d ∈ stops, k' d.fed = (k d).map fed) :
    (stops.map fed).findSome? k' = (stops.findSome? k).map fed := by
  induction stops with
  | nil => rfl
  | cons d stops ih =>
    rw [List.map_cons, List.findSome?_cons, List.findSome?_cons, h d List.mem_cons_self,
      ih fun e he => h e (List.mem_cons_of_mem d he)]
    cases k d <;> rfl

/-- A run that gets into the line feed is of no use to a continuation that does not accept the end
of a text. -/
theorem findSome?_runStops_fed (h : Follows c k k') (hk : GoesOn k) (hk' : GoesOn k')
    (ok : Char → Bool) (least : Nat) (most : Option Nat) (order : RunOrder) :
    (c.fed.runStops ok least most order).findSome? k' =
      ((c.runStops ok least most order).findSome? k).map fed := by
  obtain ⟨behind, hstops, hbehind, hfirst⟩ := Cursor.runStops_fed c ok least most
  have hnone : ∀ d ∈ behind, k' d = none := fun d hd => hk' d (hbehind d hd).1
  have hmap : ∀ {stops : List Cursor}, stops ⊆ c.runStops ok least most .longestFirst →
      (stops.map fed).findSome? k' = (stops.findSome? k).map fed := by
    intro stops hsub
    exact findSome?_map_fed fun d hd =>
      h d (reaches_of_mem_outcomes (p := .run ok least most .longestFirst) (hsub hd))
  cases order with
  | longestFirst =>
    rw [hstops, List.findSome?_append, List.findSome?_eq_none_iff.mpr hnone, Option.none_or]
    exact hmap (List.Subset.refl _)
  | shortestFirst =>
    have hnone' : behind.reverse.findSome? k' = none :=
      List.findSome?_eq_none_iff.mpr fun d hd => hnone d (List.mem_reverse.mp hd)
    rw [Cursor.runStops_shortestFirst, Cursor.runStops_shortestFirst, hstops, List.reverse_append,
      List.findSome?_append, hnone', Option.or_none, ← List.map_reverse]
    exact hmap fun d hd => List.mem_reverse.mp hd
  | longestOnly =>
    rw [Cursor.runStops_longestOnly, Cursor.runStops_longestOnly, hstops]
    cases behind with
    | nil =>
      rw [List.nil_append, ← List.map_take]
      exact hmap (List.take_subset 1 _)
    | cons d behind =>
      -- The longest run gets into the line feed, and without it to the end of the text.
      have hends := hfirst.resolve_left (List.cons_ne_nil d behind)
      have hlongest : ∀ e ∈ (c.runStops ok least most .longestFirst).take 1, k e = none := by
        intro e he
        refine hk e (hends e ?_)
        rw [List.take_one] at he
        exact Option.mem_toList.mp he
      rw [List.findSome?_eq_none_iff.mpr hlongest, Option.map_none, List.cons_append,
        List.take_succ_cons, List.take_zero, List.findSome?_singleton]
      exact hnone d List.mem_cons_self

/-- Characters that include a line feed are of no use to such a continuation either, if they are the
last ones. -/
theorem bind_past?_fed (h : Follows c k k') {s : List Char} (hk' : GoesOn k' ∨ '\n' ∉ s) :
    (c.fed.past? s).bind k' = ((c.past? s).bind k).map fed := by
  rcases Cursor.past?_fed c s with hpast | ⟨hpast, hends⟩
  · rw [hpast]
    cases hd : c.past? s with
    | none => rfl
    | some d =>
      obtain ⟨rest, hrest, rfl⟩ := Cursor.past?_eq_some_iff.mp hd
      exact h _ (Cursor.reaches_past hrest)
  · rw [hpast]
    cases hg : c.fed.past? s with
    | none => rfl
    | some g =>
      obtain ⟨hrest, hmem⟩ := hends g hg
      rcases hk' with hk' | hfeed
      · exact hk' g hrest
      · exact absurd hmem hfeed

/-! ## Patterns -/

/-- Whether a pattern looks at nothing but what it passes over and the characters beside that. -/
def looksNear : Pattern → Bool
  | .seq p q => p.looksNear && q.looksNear
  | .alt p q => p.looksNear && q.looksNear
  | .mark p => p.looksNear
  | .ahead _ => false
  | .notAhead _ => false
  | _ => true

/-- Whether a match ends with a character other than a line feed that is asked for. -/
def endsInInk : Pattern → Bool
  | .text s => !s.isEmpty && !s.contains '\n'
  | .run ok least _ _ => 0 < least && !ok '\n'
  | .seq p q => p.looksNear && q.endsInInk
  | _ => false

/-- A match that has to go on goes on as it does without the line feed. -/
theorem search_fed (hp : p.looksNear = true) (h : Follows c k k') (hk : GoesOn k)
    (hk' : GoesOn k') : p.search c.fed k' = (p.search c k).map fed := by
  induction p generalizing c k k' with
  | nothing => exact h.self
  | text s => exact bind_past?_fed h (.inl hk')
  | run ok least most order => exact findSome?_runStops_fed h hk hk' ok least most order
  | seq p q ihp ihq =>
    unfold looksNear at hp
    rw [Bool.and_eq_true] at hp
    exact ihp hp.1 (fun d hd => ihq hp.2 (h.of_reaches hd) hk hk') (hk.search q) (hk'.search q)
  | alt p q ihp ihq =>
    unfold looksNear at hp
    rw [Bool.and_eq_true] at hp
    unfold search
    rw [ihp hp.1 h hk hk', ihq hp.2 h hk hk']
    cases p.search c k <;> rfl
  | mark p ih =>
    refine ih hp (fun d hd => ?_) (fun d hd => hk _ hd) (fun d hd => hk' _ hd)
    rw [Cursor.marking_fed hd]
    exact h (d.marking c) hd
  | wordEdge =>
    unfold search
    rw [Cursor.atWordEdge_fed, h.self]
    split <;> rfl
  | after ok =>
    have hbefore : c.fed.before = c.before := rfl
    unfold search
    rw [hbefore, h.self]
    split <;> rfl
  | notAfter ok =>
    have hbefore : c.fed.before = c.before := rfl
    unfold search
    rw [hbefore, h.self]
    split <;> rfl
  | ahead p _ => cases hp
  | notAhead p _ => cases hp

/-- Nothing is matched at the end of a text where a character is asked for. -/
theorem goesOn_search_of_endsInInk (hp : p.endsInInk = true) (k : Cursor → Option Cursor) :
    GoesOn fun d => p.search d k := by
  induction p generalizing k with
  | text s =>
    intro d hd
    have hnone : d.past? s = none := by
      refine Option.eq_none_iff_forall_ne_some.mpr fun e he => ?_
      obtain ⟨rest, hrest, -⟩ := Cursor.past?_eq_some_iff.mp he
      rw [hd] at hrest
      obtain rfl := (List.append_eq_nil_iff.mp hrest.symm).1
      cases hp
    show (d.past? s).bind k = none
    rw [hnone, Option.bind_none]
  | run ok least most order =>
    intro d hd
    unfold endsInInk at hp
    rw [Bool.and_eq_true, decide_eq_true_eq] at hp
    have hends : ∀ x rest, d.rest ≠ x :: rest := fun x rest hx =>
      List.cons_ne_nil x rest (hx.symm.trans hd)
    show (d.runStops ok least most order).findSome? k = none
    rw [Cursor.runStops_of_head fun x rest hx => absurd hx (hends x rest)]
    unfold Cursor.ownStop
    rw [if_neg (Nat.ne_of_gt hp.1), List.findSome?_nil]
  | seq p q ihp ihq =>
    unfold endsInInk at hp
    rw [Bool.and_eq_true] at hp
    exact (ihq hp.2 k).search p
  | _ => cases hp

/-- A match that ends with a character other than a line feed is the same without the line feed. -/
theorem search_fed_of_endsInInk (hp : p.endsInInk = true) (h : Follows c k k') :
    p.search c.fed k' = (p.search c k).map fed := by
  induction p generalizing c k k' with
  | text s =>
    unfold endsInInk at hp
    rw [Bool.and_eq_true, Bool.not_eq_true', Bool.not_eq_true'] at hp
    exact bind_past?_fed h (.inr fun hmem => by simp [hmem] at hp)
  | run ok least most order =>
    unfold endsInInk at hp
    rw [Bool.and_eq_true, Bool.not_eq_true'] at hp
    show (c.fed.runStops ok least most order).findSome? k' = _
    rw [Cursor.runStops_fed_of_not_ok hp.2]
    exact findSome?_map_fed fun d hd =>
      h d (reaches_of_mem_outcomes (p := .run ok least most order) hd)
  | seq p q ihp ihq =>
    unfold endsInInk at hp
    rw [Bool.and_eq_true] at hp
    show p.search c.fed _ = _
    exact search_fed hp.1 (fun d hd => ihq hp.2 (h.of_reaches hd))
      (goesOn_search_of_endsInInk hp.2 k) (goesOn_search_of_endsInInk hp.2 k')
  | _ => cases hp

/-! ## Hits -/

variable {t : List Char} {d : Cursor} {i : Nat}

theorem atOffset_concat_lineFeed (h : i ≤ t.length) :
    Cursor.atOffset (t ++ ['\n']) i = (Cursor.atOffset t i).fed := by
  unfold Cursor.atOffset fed
  rw [List.take_append_of_le_length h, List.drop_append_of_le_length h]

theorem firstOutcome?_fed (hp : p.endsInInk = true) (c : Cursor) :
    p.firstOutcome? c.fed = (p.firstOutcome? c).map fed :=
  search_fed_of_endsInInk hp fun _ _ => rfl

/-- The same is found at the same offsets. -/
theorem findsAt_concat_lineFeed_iff (hp : p.endsInInk = true) {d' : Cursor} :
    p.FindsAt (t ++ ['\n']) i d' ↔ ∃ d, p.FindsAt t i d ∧ d' = d.fed := by
  constructor
  · intro h
    have hle : i ≤ t.length := by
      have hlt := h.lt_length
      rw [List.length_append, List.length_singleton] at hlt
      exact Nat.le_of_lt_succ hlt
    have hfound := h.found
    rw [atOffset_concat_lineFeed hle, firstOutcome?_fed hp, Option.map_eq_some_iff] at hfound
    obtain ⟨d, hd, rfl⟩ := hfound
    -- Nothing is found between the text and the line feed.
    have hlt : i < t.length := by
      refine Nat.lt_of_le_of_ne hle ?_
      rintro rfl
      have hnone : p.firstOutcome? (.atOffset t t.length) = none :=
        goesOn_search_of_endsInInk hp some _ List.drop_length
      rw [hd] at hnone
      cases hnone
    exact ⟨d, ⟨hd, h.lt, hlt⟩, rfl⟩
  · rintro ⟨d, h, rfl⟩
    refine ⟨?_, h.lt, ?_⟩
    · rw [atOffset_concat_lineFeed h.lt_length.le, firstOutcome?_fed hp, h.found, Option.map_some]
    · rw [List.length_append]
      exact Nat.lt_add_right 1 h.lt_length

/-- A line feed at the end of a text changes no hit of a pattern that ends with another
character. -/
theorem hits_concat_lineFeed (hp : p.endsInInk = true) (t : List Char) :
    p.hits (t ++ ['\n']) = p.hits t := by
  have hscan := isScan_hits p t
  refine (isScan_iff.mp ⟨fun h hmem => ?_, hscan.apart, fun i d hfinds => ?_⟩).symm
  · obtain ⟨d, hfinds, heq⟩ := hscan.found h hmem
    exact ⟨d.fed, (findsAt_concat_lineFeed_iff hp).mpr ⟨d, hfinds, rfl⟩, heq⟩
  · obtain ⟨e, he, -⟩ := (findsAt_concat_lineFeed_iff hp).mp hfinds
    exact hscan.covers i e he

end Pattern

end SourceGrade
