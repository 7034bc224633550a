import SourceGrade.Proofs.Pattern.Hits
import SourceGrade.Proofs.Pattern.Runs

set_option autoImplicit false

/-!
# Runs that give nothing back

A run that is tried at its longest only may lose a match that a shorter run would lead to. It loses
none where its length is fixed, or where a character has to follow that is not of its class, because
every shorter run stops before a character of the class. `Pattern.keptRuns` lists the runs of a
pattern with what has to stand beside them, and `Pattern.outcomes_givingBack` says that a pattern
whose runs are all of that kind has the same matches, in the same order, if they give characters
back. A pattern without choices matches in one way at most.
-/

namespace SourceGrade

/-- The order that tries the shorter lengths as well, after the longest one. -/
def RunOrder.givingBack : RunOrder → RunOrder
  | .longestOnly => .longestFirst
  | order => order

/-- A run that is tried at its longest only, with what has to stand beside it. -/
structure KeptRun where
  /-- The character before it, if one is asked for. -/
  opening : Option Char
  ok : Char → Bool
  least : Nat
  most : Option Nat
  /-- The character after it, if one is asked for. -/
  closing : Option Char

/-- Whether a run has one length only or is followed by a character that is not of its class. -/
def KeptRun.isSettled (r : KeptRun) : Bool :=
  r.most == some r.least || r.closing.any fun x => !r.ok x

namespace Pattern

/-- The pattern in which every run tries its shorter lengths as well. -/
def givingBack : Pattern → Pattern
  | .run ok least most order => .run ok least most order.givingBack
  | .seq p q => .seq p.givingBack q.givingBack
  | .alt p q => .alt p.givingBack q.givingBack
  | .mark p => .mark p.givingBack
  | .ahead p => .ahead p.givingBack
  | .notAhead p => .notAhead p.givingBack
  | p => p

/-- The character with which every match begins, where the pattern names one. -/
def firstChar? : Pattern → Option Char
  | .text s => s.head?
  | .seq p _ => p.firstChar?
  | .mark p => p.firstChar?
  | _ => none

/-- The character with which every match ends, where the pattern names one. -/
def lastChar? : Pattern → Option Char
  | .text s => s.getLast?
  | .seq _ q => q.lastChar?
  | .mark p => p.lastChar?
  | _ => none

/-- The runs of a pattern that are tried at their longest only, from left to right. `opening` and
`closing` are the characters that have to stand beside the whole pattern, if they are asked for. -/
def keptRuns : Pattern → Option Char → Option Char → List KeptRun
  | .run ok least most .longestOnly, opening, closing => [⟨opening, ok, least, most, closing⟩]
  | .seq p q, opening, closing =>
    p.keptRuns opening q.firstChar? ++ q.keptRuns p.lastChar? closing
  | .alt p q, opening, closing => p.keptRuns opening closing ++ q.keptRuns opening closing
  | .mark p, opening, closing => p.keptRuns opening closing
  | .ahead p, opening, _ => p.keptRuns opening none
  | .notAhead p, opening, _ => p.keptRuns opening none
  | _, _, _ => []

end Pattern

/-! ## One run -/

namespace Cursor

variable {ok : Char → Bool} {f : Cursor → List Cursor}

theorem take_ownStop (c : Cursor) (least : Nat) : (c.ownStop least).take 1 = c.ownStop least := by
  unfold ownStop
  split <;> rfl

/-- The shorter lengths of a run lead nowhere if what follows takes no character of the class. -/
theorem flatMap_runStops_of_refused (hf : ∀ d, f d ≠ [] → ∀ x ∈ d.rest.head?, ok x = false)
    (c : Cursor) (least : Nat) (most : Option Nat) :
    (c.runStops ok least most .longestFirst).flatMap f =
      (c.runStops ok least most .longestOnly).flatMap f := by
  rw [runStops_longestOnly]
  obtain ⟨before, rest, offset, marked⟩ := c
  induction rest generalizing before offset least most with
  | nil => rw [runStops_nil, take_ownStop]
  | cons x rest ih =>
    rw [runStops_cons]
    split
    · rename_i hgo
      -- The run may stop before `x`, but then `x` has to be what follows.
      have hnone : (ownStop ⟨before, x :: rest, offset, marked⟩ least).flatMap f = [] := by
        refine List.flatMap_eq_nil_iff.mpr fun d hd => ?_
        by_contra hne
        have hx := hf d hne x (by rw [(mem_ownStop.mp hd).2]; rfl)
        rw [hgo.2] at hx
        exact Bool.noConfusion hx
      rw [List.flatMap_append, hnone, List.append_nil, ih]
      cases runStops ⟨some x, rest, offset + 1, marked⟩ ok (least - 1) (most.map (· - 1))
          .longestFirst with
      | nil => rw [List.nil_append, take_ownStop, hnone, List.take_nil, List.flatMap_nil]
      | cons d stops => rfl
    · rw [List.nil_append, take_ownStop]

/-- A run of one length stops at most once. -/
theorem length_runStops_le_one (c : Cursor) (ok : Char → Bool) (n : Nat) :
    (c.runStops ok n (some n) .longestFirst).length ≤ 1 := by
  have hlength := runLength_some ok n c.rest
  unfold runStops
  rw [runStopsOnto_eq]
  simp only [List.append_nil, List.length_take, List.length_reverse, List.length_map,
    List.length_range]
  omega

end Cursor

namespace Pattern

variable {p q : Pattern} {c d : Cursor} {f : Cursor → List Cursor}

/-! ## What follows a pattern -/

/-- What follows a pattern takes the given character first, if one is given. -/
def AsksFor (next : Option Char) (f : Cursor → List Cursor) : Prop :=
  ∀ x, next = some x → ∀ d, f d ≠ [] → d.rest.head? = some x

theorem asksFor_none (f : Cursor → List Cursor) : AsksFor none f := nofun

theorem head?_of_mem_outcomes {x : Char} (hp : p.firstChar? = some x) (h : d ∈ p.outcomes c) :
    c.rest.head? = some x := by
  induction p generalizing c d with
  | text s =>
    obtain ⟨rest, hrest, -⟩ := mem_outcomes_text.mp h
    have hs : s.head? = some x := hp
    rw [hrest, List.head?_append, hs, Option.some_or]
  | seq p q ihp _ =>
    obtain ⟨e, he, -⟩ := mem_outcomes_seq.mp h
    exact ihp hp he
  | mark p ih =>
    obtain ⟨e, he, -⟩ := mem_outcomes_mark.mp h
    exact ih hp he
  | _ => cases hp

/-- A pattern with a first character asks for it, whatever follows the pattern. -/
theorem asksFor_flatMap_outcomes (p : Pattern) (f : Cursor → List Cursor) :
    AsksFor p.firstChar? fun d => (p.outcomes d).flatMap f := by
  intro x hx d hne
  obtain ⟨e, he⟩ := List.exists_mem_of_ne_nil _ hne
  obtain ⟨e', he', -⟩ := List.mem_flatMap.mp he
  exact head?_of_mem_outcomes hx he'

/-- A settled run leads to the same places if it gives characters back. -/
theorem flatMap_runStops_of_isSettled {r : KeptRun} (hr : r.isSettled = true)
    (hf : AsksFor r.closing f) (c : Cursor) :
    (c.runStops r.ok r.least r.most .longestFirst).flatMap f =
      (c.runStops r.ok r.least r.most .longestOnly).flatMap f := by
  unfold KeptRun.isSettled at hr
  rw [Bool.or_eq_true, beq_iff_eq, Option.any_eq_true] at hr
  rcases hr with hmost | ⟨x, hclosing, hx⟩
  · have hone := Cursor.length_runStops_le_one c r.ok r.least
    rw [hmost, Cursor.runStops_longestOnly, List.take_of_length_le hone]
  · rw [Bool.not_eq_true'] at hx
    refine Cursor.flatMap_runStops_of_refused (fun d hne y hy => ?_) c r.least r.most
    obtain rfl : x = y := Option.some.inj ((hf x hclosing d hne).symm.trans hy)
    exact hx

/-! ## Matches -/

/-- A pattern whose kept runs are settled leads to the same places if they give characters back. -/
theorem flatMap_outcomes_givingBack {opening closing : Option Char}
    (hp : ∀ r ∈ p.keptRuns opening closing, r.isSettled = true) (hf : AsksFor closing f)
    (c : Cursor) : (p.givingBack.outcomes c).flatMap f = (p.outcomes c).flatMap f := by
  induction p generalizing opening closing f c with
  | run ok least most order =>
    cases order with
    | longestFirst => rfl
    | shortestFirst => rfl
    | longestOnly =>
      have hr := hp ⟨opening, ok, least, most, closing⟩ List.mem_cons_self
      exact flatMap_runStops_of_isSettled hr hf c
  | seq p q ihp ihq =>
    rw [keptRuns, List.forall_mem_append] at hp
    have hq : (fun d => (q.givingBack.outcomes d).flatMap f) = fun d => (q.outcomes d).flatMap f :=
      funext fun d => ihq hp.2 hf d
    rw [givingBack, outcomes, outcomes, List.flatMap_assoc, List.flatMap_assoc, hq]
    exact ihp hp.1 (asksFor_flatMap_outcomes q f) c
  | alt p q ihp ihq =>
    rw [keptRuns, List.forall_mem_append] at hp
    rw [givingBack, outcomes, outcomes, List.flatMap_append, List.flatMap_append, ihp hp.1 hf,
      ihq hp.2 hf]
  | mark p ih =>
    have hinner : ∀ r ∈ p.keptRuns opening closing, r.isSettled = true := hp
    rw [givingBack, outcomes, outcomes, List.flatMap_map, List.flatMap_map]
    exact ih hinner (fun x hx d hne => hf x hx (d.marking c) hne) c
  | ahead p ih =>
    have hsame := ih hp (asksFor_none fun d => [d]) c
    rw [List.flatMap_singleton', List.flatMap_singleton'] at hsame
    rw [givingBack, outcomes, outcomes, hsame]
  | notAhead p ih =>
    have hsame := ih hp (asksFor_none fun d => [d]) c
    rw [List.flatMap_singleton', List.flatMap_singleton'] at hsame
    rw [givingBack, outcomes, outcomes, hsame]
  | _ => rfl

/-- A pattern whose kept runs are settled has the same matches if they give characters back. -/
theorem outcomes_givingBack (hp : ∀ r ∈ p.keptRuns none none, r.isSettled = true) (c : Cursor) :
    p.givingBack.outcomes c = p.outcomes c := by
  have hsame := flatMap_outcomes_givingBack hp (asksFor_none fun d => [d]) c
  rwa [List.flatMap_singleton', List.flatMap_singleton'] at hsame

/-- What is found at all places is what is found in a text. -/
theorem hits_congr (h : ∀ c, q.firstOutcome? c = p.firstOutcome? c) (t : List Char) :
    q.hits t = p.hits t := by
  have hfrom : ∀ (before : Option Char) (offset skip : Nat),
      q.hitsFrom before offset skip t = p.hitsFrom before offset skip t := by
    induction t with
    | nil => exact fun _ _ _ => rfl
    | cons x t ih =>
      intro before offset skip
      cases skip with
      | zero => rw [hitsFrom, hitsFrom, h]; simp only [ih]
      | succ skip => exact ih _ _ _
  exact hfrom none 0 0

/-- A pattern whose kept runs are settled has the same hits if they give characters back. -/
theorem hits_givingBack (hp : ∀ r ∈ p.keptRuns none none, r.isSettled = true) (t : List Char) :
    p.givingBack.hits t = p.hits t :=
  hits_congr (fun c => by
    rw [firstOutcome?_eq_head?, firstOutcome?_eq_head?, outcomes_givingBack hp]) t

/-! ## Patterns that never branch -/

/-- Whether a pattern offers no choice between matches. -/
def neverBranches : Pattern → Bool
  | .run _ _ _ order => order == .longestOnly
  | .seq p q => p.neverBranches && q.neverBranches
  | .alt _ _ => false
  | .mark p => p.neverBranches
  | _ => true

theorem length_outcomes_le_one (hp : p.neverBranches = true) (c : Cursor) :
    (p.outcomes c).length ≤ 1 := by
  induction p generalizing c with
  | nothing => exact Nat.le_refl 1
  | text s =>
    unfold outcomes
    cases c.past? s <;> simp
  | run ok least most order =>
    obtain rfl := beq_iff_eq.mp hp
    exact List.length_take_le 1 _
  | seq p q ihp ihq =>
    unfold neverBranches at hp
    rw [Bool.and_eq_true] at hp
    have hfirst := ihp hp.1 c
    unfold outcomes
    rcases hstops : p.outcomes c with - | ⟨d, - | ⟨e, stops⟩⟩
    · exact Nat.zero_le 1
    · rw [List.flatMap_singleton]
      exact ihq hp.2 d
    · rw [hstops] at hfirst
      simp at hfirst
  | alt p q _ _ => cases hp
  | mark p ih =>
    unfold outcomes
    rw [List.length_map]
    exact ih hp c
  | wordEdge => unfold outcomes; split <;> simp
  | after ok => unfold outcomes; split <;> simp
  | notAfter ok => unfold outcomes; split <;> simp
  | ahead p _ => unfold outcomes; split <;> simp
  | notAhead p _ => unfold outcomes; split <;> simp

end Pattern

end SourceGrade
