import SourceGrade.Proofs.LineEnds.Gap

set_option autoImplicit false

/-!
# Runs and line ends

Which stops a run has in a text whose lines end in two characters. They are the twins of its stops,
and gaps if its class has the carriage return. The gaps decide nothing if the continuation refuses
them, or if it crosses them and the run takes in line feeds as well. A bound on the length of a run
is another matter, since carriage returns count: there has to be room for them.
-/

namespace SourceGrade

open Text (crlf crlfOffset IsTail lineFeeds)

namespace Pattern

open Manner (Refuses Crosses OnlyBefore)

variable {t tail : List Char} {c d : Cursor} {ok : Char → Bool}
  {k k' : Cursor → Option Cursor}

theorem ownStop_twin (t tail : List Char) (c : Cursor) (least : Nat) :
    (c.twin t tail).ownStop least = (c.ownStop least).map (·.twin t tail) := by
  unfold Cursor.ownStop
  split <;> rfl

/-- A run goes on at the twin of a place as it does at the place. -/
theorem runStops_twin_cons {before : Option Char} {x : Char} {rest : List Char} {offset : Nat}
    {marked : Option (List Char)} (hx : x ≠ '\n')
    (hc : Cursor.Within t ⟨before, x :: rest, offset, marked⟩) (least : Nat) (most : Option Nat) :
    (Cursor.twin t tail ⟨before, x :: rest, offset, marked⟩).runStops ok least most .longestFirst =
      (if most ≠ some 0 ∧ ok x then
        (Cursor.twin t tail ⟨some x, rest, offset + 1, marked⟩).runStops ok (least - 1)
          (most.map (· - 1)) .longestFirst
      else []) ++
        (Cursor.ownStop ⟨before, x :: rest, offset, marked⟩ least).map (·.twin t tail) := by
  have hoffset : crlfOffset t (offset + 1) = crlfOffset t offset + 1 := by
    rw [hc.crlfOffset_succ, Text.crlf_cons_of_ne hx]
    rfl
  rw [← ownStop_twin]
  unfold Cursor.twin
  simp only [Text.crlf_cons_of_ne hx, List.cons_append, hoffset]
  exact Cursor.runStops_cons before x _ _ _

/-- A run goes on into the gap at a line end if it takes in carriage returns. -/
theorem runStops_twin_atLineEnd (hend : c.AtLineEnd tail) (least : Nat) (most : Option Nat) :
    (c.twin t tail).runStops ok least most .longestFirst =
      (if most ≠ some 0 ∧ ok '\r' then
        (c.gap t tail (c.marked.map crlf)).runStops ok (least - 1) (most.map (· - 1)) .longestFirst
      else []) ++ (c.ownStop least).map (·.twin t tail) := by
  have hrest : crlf c.rest ++ tail = '\r' :: (crlf c.rest ++ tail).tail := by
    rcases hend with ⟨rest, hrest⟩ | ⟨hrest, htail⟩
    · rw [hrest]; rfl
    · rw [hrest, htail]; rfl
  rw [← ownStop_twin]
  unfold Cursor.twin Cursor.gap
  rw [hrest]
  exact Cursor.runStops_cons c.before '\r' _ _ _

/-- A run stops at the end of a text that nothing follows. -/
theorem runStops_twin_nil (hrest : c.rest = []) (htail : tail = []) (least : Nat)
    (most : Option Nat) (order : RunOrder) :
    (c.twin t tail).runStops ok least most order = (c.ownStop least).map (·.twin t tail) := by
  rw [Cursor.runStops_of_head, ownStop_twin]
  intro x rest h
  unfold Cursor.twin at h
  rw [hrest, htail] at h
  exact absurd h.symm (List.cons_ne_nil x rest)

/-- A run of a class without the characters of a line end stops at the twins of its stops. -/
theorem longestFirst_twin_of_neither (htail : IsTail tail) (hreturn : ok '\r' = false)
    (hfeed : ok '\n' = false) (hc : c.Within t) (least : Nat) (most : Option Nat) :
    (c.twin t tail).runStops ok least most .longestFirst =
      (c.runStops ok least most .longestFirst).map (·.twin t tail) := by
  obtain ⟨before, rest, offset, marked⟩ := c
  induction rest generalizing before offset least most with
  | nil =>
    rw [Cursor.runStops_nil]
    rcases htail with rfl | rfl
    · exact runStops_twin_nil rfl rfl least most _
    · rw [runStops_twin_atLineEnd (.inr ⟨rfl, rfl⟩), hreturn]
      simp
  | cons x rest ih =>
    rw [Cursor.runStops_cons]
    by_cases hx : x = '\n'
    · subst hx
      rw [runStops_twin_atLineEnd (.inl ⟨rest, rfl⟩), hreturn, hfeed]
      simp
    · rw [runStops_twin_cons hx hc, List.map_append]
      split
      · rw [ih _ _ _ _ hc.cons.1]
      · rfl

theorem runStops_twin_of_neither (htail : IsTail tail) (hreturn : ok '\r' = false)
    (hfeed : ok '\n' = false) (hc : c.Within t) (least : Nat) (most : Option Nat)
    (order : RunOrder) :
    (c.twin t tail).runStops ok least most order =
      (c.runStops ok least most order).map (·.twin t tail) := by
  have hlongest := longestFirst_twin_of_neither htail hreturn hfeed hc least most
  cases order with
  | longestFirst => exact hlongest
  | shortestFirst =>
    rw [Cursor.runStops_shortestFirst, Cursor.runStops_shortestFirst, hlongest, List.map_reverse]
  | longestOnly =>
    rw [Cursor.runStops_longestOnly, Cursor.runStops_longestOnly, hlongest, List.map_take]

/-- The gap at a line end is the only further stop of a run of a class without the line feed. -/
theorem exists_gaps_atLineEnd (hfeed : ok '\n' = false) (hend : c.AtLineEnd tail) (least : Nat)
    (most : Option Nat) :
    ∃ gaps, (c.twin t tail).runStops ok least most .longestFirst =
        gaps ++ (c.ownStop least).map (·.twin t tail) ∧
      ∀ g ∈ gaps, g = c.gap t tail (c.marked.map crlf) := by
  refine ⟨_, runStops_twin_atLineEnd hend least most, fun g hg => ?_⟩
  rw [runStops_gap hfeed hend] at hg
  split at hg
  · exact (Cursor.mem_ownStop.mp hg).2
  · exact absurd hg List.not_mem_nil

/-- A run of a class with the carriage return and without the line feed stops at the twins of its
stops and in gaps, each one after the twin of a stop or after the place where the run begins. -/
theorem runStops_twin_of_return (htail : IsTail tail) (hfeed : ok '\n' = false)
    (hc : c.Within t) (least : Nat) (most : Option Nat) :
    ∃ gaps, (c.twin t tail).runStops ok least most .longestFirst =
        gaps ++ (c.runStops ok least most .longestFirst).map (·.twin t tail) ∧
      ∀ g ∈ gaps, ∃ e : Cursor, e.Within t ∧ e.AtLineEnd tail ∧
        g = e.gap t tail (e.marked.map crlf) ∧
        (least ≤ 1 → e = c ∨ e ∈ c.runStops ok least most .longestFirst) := by
  obtain ⟨before, rest, offset, marked⟩ := c
  induction rest generalizing before offset least most with
  | nil =>
    rw [Cursor.runStops_nil]
    rcases htail with rfl | rfl
    · exact ⟨[], runStops_twin_nil rfl rfl least most _, nofun⟩
    · have hend : Cursor.AtLineEnd ['\r'] ⟨before, [], offset, marked⟩ := .inr ⟨rfl, rfl⟩
      obtain ⟨gaps, heq, hgaps⟩ := exists_gaps_atLineEnd (t := t) hfeed hend least most
      exact ⟨gaps, heq, fun g hg => ⟨_, hc, hend, hgaps g hg, fun _ => .inl rfl⟩⟩
  | cons x rest ih =>
    rw [Cursor.runStops_cons]
    by_cases hx : x = '\n'
    · subst hx
      have hend : Cursor.AtLineEnd tail ⟨before, '\n' :: rest, offset, marked⟩ := .inl ⟨rest, rfl⟩
      obtain ⟨gaps, heq, hgaps⟩ := exists_gaps_atLineEnd (t := t) hfeed hend least most
      rw [if_neg (by simp [hfeed]), List.nil_append]
      exact ⟨gaps, heq, fun g hg => ⟨_, hc, hend, hgaps g hg, fun _ => .inl rfl⟩⟩
    · rw [runStops_twin_cons hx hc, List.map_append]
      split
      · obtain ⟨gaps, heq, hgaps⟩ := ih (least - 1) (most.map (· - 1)) _ _ hc.cons.1
        refine ⟨gaps, by rw [heq, List.append_assoc], fun g hg => ?_⟩
        obtain ⟨e, he, hend, hge, hmem⟩ := hgaps g hg
        refine ⟨e, he, hend, hge, fun hleast => .inr (List.mem_append_left _ ?_)⟩
        have hless : least - 1 = 0 := by omega
        rw [hless] at hmem ⊢
        rcases hmem (Nat.zero_le 1) with rfl | hstop
        · exact Cursor.self_mem_runStops _ ok _
        · exact hstop
      · exact ⟨[], rfl, nofun⟩

theorem findSome?_map_twin {stops : List Cursor}
    (h : ∀ d ∈ stops, k' (d.twin t tail) = (k d).map (·.twin t tail)) :
    (stops.map (·.twin t tail)).findSome? k' = (stops.findSome? k).map (·.twin t tail) := by
  induction stops with
  | nil => rfl
  | cons d stops ih =>
    rw [List.map_cons, List.findSome?_cons, List.findSome?_cons, h d List.mem_cons_self,
      ih fun e he => h e (List.mem_cons_of_mem d he)]
    cases k d <;> rfl

/-- A run of a class with the carriage return and without the line feed stops at the twin of its
stop if its continuation refuses the gaps. -/
theorem findSome?_runStops_twin_of_return (htail : IsTail tail) (hfeed : ok '\n' = false)
    (hk' : Refuses t tail k') {least : Nat} {most : Option Nat} {order : RunOrder}
    (horder : order ≠ .longestOnly) (hc : c.Within t)
    (hk : ∀ d ∈ c.runStops ok least most order, k' (d.twin t tail) = (k d).map (·.twin t tail)) :
    ((c.twin t tail).runStops ok least most order).findSome? k' =
      ((c.runStops ok least most order).findSome? k).map (·.twin t tail) := by
  obtain ⟨gaps, heq, hgaps⟩ := runStops_twin_of_return htail hfeed hc least most
  have hnone : ∀ g ∈ gaps, k' g = none := by
    intro g hg
    obtain ⟨e, he, hend, rfl, -⟩ := hgaps g hg
    exact hk' e _ he hend
  cases order with
  | longestFirst =>
    rw [heq, List.findSome?_append, List.findSome?_eq_none_iff.mpr hnone, Option.none_or]
    exact findSome?_map_twin hk
  | shortestFirst =>
    rw [Cursor.runStops_shortestFirst] at hk ⊢
    rw [Cursor.runStops_shortestFirst, heq, List.reverse_append, List.findSome?_append,
      ← List.map_reverse, findSome?_map_twin hk,
      List.findSome?_eq_none_iff.mpr fun g hg => hnone g (List.mem_reverse.mp hg), Option.or_none]
  | longestOnly => exact absurd rfl horder

/-- A run that tries the shorter ones first stops at the twin of its stop if its continuation only
accepts a gap together with the place in front of it. -/
theorem findSome?_runStops_twin_of_shorter (htail : IsTail tail) (hfeed : ok '\n' = false)
    {least : Nat} (hleast : least ≤ 1) {most : Option Nat} (hc : c.Within t)
    (hk : ∀ d ∈ c.runStops ok least most .shortestFirst,
      k' (d.twin t tail) = (k d).map (·.twin t tail))
    (hgap : ∀ e : Cursor, e.AtLineEnd tail → (k' (e.gap t tail (e.marked.map crlf))).isSome →
      (k' (e.twin t tail)).isSome)
    (hown : c.AtLineEnd tail → k' (c.gap t tail (c.marked.map crlf)) = none) :
    ((c.twin t tail).runStops ok least most .shortestFirst).findSome? k' =
      ((c.runStops ok least most .shortestFirst).findSome? k).map (·.twin t tail) := by
  obtain ⟨gaps, heq, hgaps⟩ := runStops_twin_of_return htail hfeed hc least most
  rw [Cursor.runStops_shortestFirst] at hk ⊢
  rw [Cursor.runStops_shortestFirst, heq, List.reverse_append, List.findSome?_append,
    ← List.map_reverse, findSome?_map_twin hk]
  cases hfound : (c.runStops ok least most .longestFirst).reverse.findSome? k with
  | some d => rfl
  | none =>
    rw [List.findSome?_eq_none_iff] at hfound
    rw [Option.map_none, Option.none_or, List.findSome?_eq_none_iff]
    intro g hg
    obtain ⟨e, -, hend, rfl, hstop⟩ := hgaps g (List.mem_reverse.mp hg)
    rcases hstop hleast with rfl | hstop
    · exact hown hend
    · have hmem := List.mem_reverse.mpr hstop
      have hsome := hgap e hend
      rw [hk e hmem, hfound e hmem] at hsome
      exact Option.not_isSome_iff_eq_none.mp fun h => Bool.noConfusion (hsome h)

/-- A run that goes on over a line end need not try the gap. -/
theorem findSome?_gap_over (hfeed : ok '\n' = true) (hk' : Crosses t tail k')
    {before : Option Char} {rest : List Char} {offset : Nat} {marked : Option (List Char)}
    (hc : Cursor.Within t ⟨before, '\n' :: rest, offset, marked⟩) :
    ((Cursor.gap t tail ⟨before, '\n' :: rest, offset, marked⟩ (marked.map crlf)).runStops ok 0
      none .longestFirst).findSome? k' =
    ((Cursor.twin t tail ⟨some '\n', rest, offset + 1, marked⟩).runStops ok 0 none
      .longestFirst).findSome? k' := by
  have hover := hk'.inside before rest offset marked hc
  rw [runStops_gap_over hfeed hc, List.findSome?_append, List.findSome?_singleton]
  cases hfound : ((Cursor.twin t tail ⟨some '\n', rest, offset + 1, marked⟩).runStops ok 0 none
      .longestFirst).findSome? k' with
  | some e => rfl
  | none =>
    rw [List.findSome?_eq_none_iff] at hfound
    have hnone := hfound _ (Cursor.self_mem_runStops _ ok none)
    rw [hnone] at hover
    exact Option.not_isSome_iff_eq_none.mp fun hsome => Bool.noConfusion (hover hsome)

/-- A run of any length of a class with both characters of a line end stops at the twin of its
stop if its continuation crosses the gaps. -/
theorem findSome?_runStops_twin_of_both (htail : IsTail tail) (hreturn : ok '\r' = true)
    (hfeed : ok '\n' = true) (hk' : Crosses t tail k') {least : Nat} (hleast : least ≤ 1)
    (hc : c.Within t)
    (hk : ∀ d ∈ c.runStops ok least none .longestFirst,
      k' (d.twin t tail) = (k d).map (·.twin t tail)) :
    ((c.twin t tail).runStops ok least none .longestFirst).findSome? k' =
      ((c.runStops ok least none .longestFirst).findSome? k).map (·.twin t tail) := by
  have hgo : none ≠ some 0 ∧ ok '\r' = true := ⟨nofun, hreturn⟩
  have hless : least - 1 = 0 := by omega
  obtain ⟨before, rest, offset, marked⟩ := c
  induction rest generalizing before offset least with
  | nil =>
    rw [Cursor.runStops_nil] at hk ⊢
    rcases htail with rfl | rfl
    · rw [runStops_twin_nil rfl rfl]
      exact findSome?_map_twin hk
    · have hnone := hk'.atEnd _ hc rfl rfl
      rw [runStops_twin_atLineEnd (.inr ⟨rfl, rfl⟩), if_pos hgo, hless,
        Cursor.runStops_of_head (fun x rest h => absurd h.symm (List.cons_ne_nil x rest)),
        List.findSome?_append, findSome?_map_twin hk]
      unfold Cursor.ownStop
      rw [if_pos rfl, List.findSome?_singleton, hnone, Option.none_or]
  | cons x rest ih =>
    rw [Cursor.runStops_cons] at hk ⊢
    by_cases hx : x = '\n'
    · subst hx
      rw [if_pos ⟨nofun, hfeed⟩, hless] at hk ⊢
      have hnext := ih (Nat.zero_le 1) rfl _ _ hc.cons.1
        fun d hd => hk d (List.mem_append_left _ hd)
      rw [runStops_twin_atLineEnd (.inl ⟨rest, rfl⟩), if_pos hgo, hless, List.findSome?_append,
        List.findSome?_append, Option.map_none, findSome?_gap_over hfeed hk' hc,
        findSome?_map_twin fun d hd => hk d (List.mem_append_right _ hd), Option.map_or]
      exact congrArg (Option.or · _) hnext
    · rw [runStops_twin_cons hx hc, List.findSome?_append, List.findSome?_append,
        findSome?_map_twin fun d hd => hk d (List.mem_append_right _ hd), Option.map_or]
      refine congrArg (Option.or · _) ?_
      split
      · rename_i hgo'
        rw [if_pos hgo', hless] at hk
        rw [hless]
        exact ih (Nat.zero_le 1) rfl _ _ hc.cons.1 fun d hd => hk d (List.mem_append_left _ hd)
      · rfl

/-- What asks for a character of another class refuses the places before the characters of a class,
and the end of the text. -/
theorem eq_none_of_head {x : Char} (hx : ok x = false) (hk : OnlyBefore x k)
    (hc : ∀ z ∈ c.rest.head?, ok z = true) : k c = none := by
  refine eq_none_of_onlyBefore hk fun rest hrest => ?_
  rw [hc x (by rw [hrest]; rfl)] at hx
  exact Bool.noConfusion hx

theorem head?_twin (htail : IsTail tail) (hreturn : ok '\r' = true)
    (hc : ∀ z ∈ c.rest.head?, ok z = true) : ∀ z ∈ (c.twin t tail).rest.head?, ok z = true := by
  intro z hz
  rcases Cursor.eq_or_mem_head?_twin htail hz with rfl | hz
  · exact hreturn
  · exact hc z hz

/-- Neither of two runs gets anywhere if both stop inside their class or with the text. -/
theorem findSome?_runStops_twin_of_lt (htail : IsTail tail) (hreturn : ok '\r' = true) {x : Char}
    (hx : ok x = false) (hk' : OnlyBefore x k') {least most : Nat}
    (hk : ∀ d ∈ c.runStops ok least (some most) .longestOnly,
      k' (d.twin t tail) = (k d).map (·.twin t tail))
    (hc : most < (c.rest.takeWhile ok).length ∨ ∀ z ∈ c.rest, ok z = true)
    (hc' : most < ((c.twin t tail).rest.takeWhile ok).length ∨
      ∀ z ∈ (c.twin t tail).rest, ok z = true) :
    ((c.twin t tail).runStops ok least (some most) .longestOnly).findSome? k' =
      ((c.runStops ok least (some most) .longestOnly).findSome? k).map (·.twin t tail) := by
  have hnone : ∀ d ∈ c.runStops ok least (some most) .longestOnly,
      (∀ z ∈ d.rest.head?, ok z = true) → k d = none := by
    intro d hd hhead
    have heq := hk d hd
    rw [eq_none_of_head hx hk' (head?_twin htail hreturn hhead)] at heq
    exact Option.map_eq_none_iff.mp heq.symm
  rw [Cursor.findSome?_longestOnly_of_lt hnone hc,
    Cursor.findSome?_longestOnly_of_lt (fun d _ => eq_none_of_head hx hk') hc']
  rfl

/-- A run that only takes as much as possible of a class with both characters of a line end stops
at the twin of its stop if there is room for it and its continuation asks for a character of another
class. -/
theorem findSome?_runStops_twin_of_room (htail : IsTail tail) (hreturn : ok '\r' = true)
    (hfeed : ok '\n' = true) {x : Char} (hx : ok x = false) (hk' : OnlyBefore x k')
    {least most : Nat} (hleast : least ≤ 1) (hroom : c.hasRoom ok most = true) (hc : c.Within t)
    (hk : ∀ d ∈ c.runStops ok least (some most) .longestOnly,
      k' (d.twin t tail) = (k d).map (·.twin t tail)) :
    ((c.twin t tail).runStops ok least (some most) .longestOnly).findSome? k' =
      ((c.runStops ok least (some most) .longestOnly).findSome? k).map (·.twin t tail) := by
  obtain ⟨piece, rest, hrest, hpiece, hstop⟩ := Cursor.exists_cut ok c.rest
  have hpiece' : ∀ z ∈ crlf piece, ok z = true := Text.forall_mem_crlf hreturn hpiece
  have hrest' : (c.twin t tail).rest = crlf piece ++ (crlf rest ++ tail) := by
    unfold Cursor.twin
    rw [hrest, Text.crlf_append, List.append_assoc]
  cases rest with
  | nil =>
    -- The run takes in the whole rest of either text, so no other character can follow.
    refine findSome?_runStops_twin_of_lt htail hreturn hx hk' hk (.inr ?_) (.inr fun z hz => ?_)
    · rw [hrest, List.append_nil]
      exact hpiece
    · rw [hrest', Text.crlf_nil, List.nil_append] at hz
      rcases List.mem_append.mp hz with hz | hz
      · exact hpiece' z hz
      · rcases htail with rfl | rfl
        · exact absurd hz List.not_mem_nil
        · rw [List.mem_singleton.mp hz, hreturn]
  | cons z rest =>
    have hz : ok z = false := hstop z rest rfl
    have hstop' : ∀ y rest', crlf (z :: rest) ++ tail = y :: rest' → ok y = false := by
      intro y rest' hy
      have hne : z ≠ '\n' := fun heq => by rw [heq, hfeed] at hz; exact Bool.noConfusion hz
      rw [Text.crlf_cons_of_ne hne, List.cons_append] at hy
      rw [← (List.cons.inj hy).1, hz]
    have hlength := Text.length_crlf piece
    have htake : c.rest.takeWhile ok = piece := by rw [hrest, Cursor.takeWhile_eq hpiece hstop]
    have htake' : (c.twin t tail).rest.takeWhile ok = crlf piece := by
      rw [hrest', Cursor.takeWhile_eq hpiece' hstop']
    unfold Cursor.hasRoom at hroom
    rw [htake, Bool.or_eq_true, decide_eq_true_eq, decide_eq_true_eq] at hroom
    rcases hroom with hlong | hshort
    · -- Both runs have to stop inside the piece.
      refine findSome?_runStops_twin_of_lt htail hreturn hx hk' hk (.inl ?_) (.inl ?_)
      · rw [htake]
        exact hlong
      · rw [htake']
        omega
    · -- Both runs stop after the piece.
      rw [Cursor.runStops_longestOnly_of_le hrest hpiece hstop (by omega)] at hk ⊢
      rw [Cursor.runStops_longestOnly_of_le hrest' hpiece' hstop' (by omega)]
      have hiff : least ≤ (crlf piece).length ↔ least ≤ piece.length := by
        have hfeeds : lineFeeds piece ≤ piece.length := List.count_le_length
        omega
      simp only [hiff]
      split
      · rename_i hle
        rw [if_pos hle] at hk
        rw [← Cursor.twin_past hc hrest, List.findSome?_singleton, List.findSome?_singleton]
        exact hk _ (List.mem_singleton_self _)
      · rfl

end Pattern

end SourceGrade
