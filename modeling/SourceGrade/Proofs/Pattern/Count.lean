import SourceGrade.Proofs.Pattern.Hits
import SourceGrade.Proofs.Pattern.Pieces
import SourceGrade.Proofs.Text.Tally

set_option autoImplicit false

/-!
# Counting hits

Hits are found one after the other, and each of them hides what begins within it. Where each hit
holds exactly one of the places that a weight counts, and every such place is found, the number of
hits is the tally of the weight. Only a doubled character has to be counted by its runs, because
which of its occurrences are found depends on where the run begins.
-/

namespace SourceGrade

/-- The place between a part of a text and the rest of it. -/
def Cursor.between (done rest : List Char) : Cursor := ⟨done.getLast?, rest, done.length, none⟩

namespace Pattern

open Text (tally tallyFrom counting standsAt halfRun)

variable {p : Pattern} {weight : Option Char → List Char → Nat}

/-! ## What is found at a place -/

theorem isSome_search_iff {c : Cursor} :
    (p.search c some).isSome = true ↔ ∃ d, d ∈ p.outcomes c := by
  rw [search_eq_findSome?, findSome?_some_eq_head?, List.isSome_head?]
  exact ⟨List.exists_mem_of_ne_nil _, fun ⟨_, hd⟩ => List.ne_nil_of_mem hd⟩

theorem outcome_of_findsAt {done rest : List Char} {d : Cursor}
    (h : p.FindsAt (done ++ rest) done.length d) :
    d ∈ p.outcomes (.between done rest) := by
  have hfound := h.found
  rw [Cursor.atOffset_length] at hfound
  exact mem_outcomes_of_firstOutcome? hfound

/-- Something is found wherever the pattern matches, if it never matches an empty piece there. -/
theorem exists_findsAt {done rest : List Char} {d : Cursor}
    (hd : d ∈ p.outcomes (.between done rest))
    (hlong : ∀ e ∈ p.outcomes (.between done rest), done.length < e.offset) :
    ∃ e, p.FindsAt (done ++ rest) done.length e := by
  obtain ⟨e, he⟩ : ∃ e, (p.outcomes (.between done rest)).head? = some e :=
    Option.isSome_iff_exists.mp (List.isSome_head?.mpr (List.ne_nil_of_mem hd))
  have hmem := List.mem_of_mem_head? he
  obtain ⟨piece, hrest, hoffset⟩ := reaches_of_mem_outcomes hmem
  have hlength : rest.length = piece.length + e.rest.length := by
    rw [← List.length_append]
    exact congrArg List.length hrest
  have hstart : e.offset = done.length + piece.length := hoffset
  have hlt := hlong e hmem
  refine ⟨e, ?_, hlt, ?_⟩
  · rw [Cursor.atOffset_length, firstOutcome?_eq_head?]
    exact he
  · rw [List.length_append]
    omega

/-- Where nothing is found, nothing counts that the pattern would match. -/
theorem counting_eq_zero_of_missed {ok : Option Char → List Char → Bool} {done rest : List Char}
    (hmatch : ok done.getLast? rest = true → ∃ d, d ∈ p.outcomes (.between done rest))
    (hlong : ∀ e ∈ p.outcomes (.between done rest), done.length < e.offset)
    (hmissed : ∀ d, ¬p.FindsAt (done ++ rest) done.length d) :
    counting ok done.getLast? rest = 0 :=
  Text.counting_eq_zero fun hok => by
    obtain ⟨d, hd⟩ := hmatch hok
    obtain ⟨e, he⟩ := exists_findsAt hd hlong
    exact hmissed e he

/-! ## Hits that a weight counts -/

/-- Each hit holds what counts for one, and nothing counts where nothing is found. -/
structure CountedBy (p : Pattern) (weight : Option Char → List Char → Nat) : Prop where
  found : ∀ done rest d, p.FindsAt (done ++ rest) done.length d →
    ∃ piece later, rest = piece ++ later ∧ d.offset = (done ++ piece).length ∧
      tallyFrom weight done.getLast? rest = 1 + tallyFrom weight (done ++ piece).getLast? later
  missed : ∀ done x rest, (∀ d, ¬p.FindsAt (done ++ x :: rest) done.length d) →
    weight done.getLast? (x :: rest) = 0

theorem CountedBy.length_hitsFrom (h : p.CountedBy weight) : (rest done : List Char) →
    (p.hitsFrom done.getLast? done.length 0 rest).length = tallyFrom weight done.getLast? rest
  | [], _ => by rw [hitsFrom]; rfl
  | x :: rest, done => by
    by_cases hfinds : ∃ d, p.FindsAt (done ++ x :: rest) done.length d
    · obtain ⟨d, hd⟩ := hfinds
      obtain ⟨piece, later, hrest, hoffset, htally⟩ := h.found done (x :: rest) d hd
      have hlt := hd.lt
      have hne : piece ≠ [] := by
        rintro rfl
        rw [hoffset, List.append_nil] at hlt
        exact absurd hlt (Nat.lt_irrefl _)
      have hshorter : later.length < (x :: rest).length := by
        have hpos := List.length_pos_iff.mpr hne
        rw [hrest, List.length_append]
        omega
      have hdone : d.offset - (done ++ piece).length = 0 := by rw [hoffset, Nat.sub_self]
      rw [htally, ← CountedBy.length_hitsFrom h later (done ++ piece)]
      rw [hrest] at hd ⊢
      rw [hitsFrom_append_of_findsAt hd hne (Nat.le_of_eq hoffset.symm), List.length_cons, hdone,
        Nat.add_comm]
    · have hnone := not_exists.mp hfinds
      rw [hitsFrom_of_not_findsAt hnone, CountedBy.length_hitsFrom h rest (done ++ [x]),
        List.getLast?_concat, Text.tallyFrom_cons, h.missed done x rest hnone, Nat.zero_add]
  termination_by rest => rest.length
  decreasing_by
    · exact hshorter
    · exact Nat.lt_succ_self _

theorem CountedBy.countHits_eq (h : p.CountedBy weight) (t : List Char) :
    p.countHits t = tally weight t := by
  rw [Text.tally_eq_tallyFrom]
  exact h.length_hitsFrom t []

/-! ## Fixed characters -/

/-- Fixed characters are found where they stand. -/
theorem findsAt_text_iff {s done rest : List Char} (hne : s ≠ []) {d : Cursor} :
    (Pattern.text s).FindsAt (done ++ rest) done.length d ↔
      ∃ later, rest = s ++ later ∧ d = (Cursor.between done rest).past s later := by
  refine Iff.trans ?_ (mem_outcomes_text (c := .between done rest))
  constructor
  · exact outcome_of_findsAt
  · intro hd
    have hlong : ∀ e ∈ (Pattern.text s).outcomes (.between done rest), done.length < e.offset := by
      intro e he
      obtain ⟨later, -, rfl⟩ := mem_outcomes_text.mp he
      exact Nat.lt_add_of_pos_right (List.length_pos_iff.mpr hne)
    obtain ⟨e, he⟩ := exists_findsAt hd hlong
    obtain ⟨later, hrest, rfl⟩ := mem_outcomes_text.mp hd
    obtain ⟨later', hrest', rfl⟩ := mem_outcomes_text.mp (outcome_of_findsAt he)
    obtain rfl : later = later' := List.append_cancel_left (hrest.symm.trans hrest')
    exact he

/-- Characters of which the first does not come again are counted where they stand. -/
theorem countedBy_standsAt {x : Char} {s : List Char} (hx : x ∉ s) :
    (Pattern.text (x :: s)).CountedBy (counting (standsAt (x :: s))) where
  found done rest d h := by
    obtain ⟨later, rfl, rfl⟩ := (findsAt_text_iff (List.cons_ne_nil x s)).mp h
    have hstands : counting (standsAt (x :: s)) done.getLast? (x :: (s ++ later)) = 1 :=
      congrArg Bool.toNat (List.isPrefixOf_iff_prefix.mpr (List.prefix_append (x :: s) later))
    have hfree : ∀ y ∈ s, ∀ before rest, counting (standsAt (x :: s)) before (y :: rest) = 0 := by
      intro y hy before rest
      have hne : (x == y) = false := beq_false_of_ne fun h => hx (h ▸ hy)
      unfold counting standsAt
      rw [List.isPrefixOf_cons_cons, hne, Bool.false_and]
      rfl
    refine ⟨x :: s, later, rfl, by rw [List.length_append]; rfl, ?_⟩
    rw [List.cons_append, Text.tallyFrom_cons, hstands, Text.tallyFrom_append_of_begin hfree,
      List.getLast?_append, Text.getLast?_cons_or]
  missed done y rest h := Text.counting_eq_zero fun hat => by
    obtain ⟨later, hlater⟩ := List.isPrefixOf_iff_prefix.mp hat
    exact h _ ((findsAt_text_iff (List.cons_ne_nil x s)).mpr ⟨later, hlater.symm, rfl⟩)

/-! ## Doubled characters -/

variable {c : Char}

/-- In a run of a character it is found doubled as often as it is there twice. -/
theorem length_hitsFrom_run {rest : List Char} (hrest : rest.head? ≠ some c) :
    (n : Nat) → (done : List Char) →
    ((Pattern.text [c, c]).hitsFrom done.getLast? done.length 0
        (List.replicate n c ++ rest)).length =
      n / 2 + ((Pattern.text [c, c]).hitsFrom (done ++ List.replicate n c).getLast?
        (done ++ List.replicate n c).length 0 rest).length
  | 0, done => by
    rw [List.replicate_zero, List.append_nil, List.nil_append, Nat.zero_div, Nat.zero_add]
  | 1, done => by
    have hnone : ∀ d, ¬(Pattern.text [c, c]).FindsAt (done ++ c :: rest) done.length d := by
      intro d hd
      obtain ⟨later, hlater, -⟩ := (findsAt_text_iff (List.cons_ne_nil c [c])).mp hd
      obtain ⟨-, rfl⟩ := List.cons.inj hlater
      exact hrest rfl
    have hone : List.replicate 1 c = [c] := rfl
    rw [hone, List.singleton_append, hitsFrom_of_not_findsAt hnone]
    exact (Nat.zero_add _).symm
  | n + 2, done => by
    have hfinds : (Pattern.text [c, c]).FindsAt
        (done ++ ([c, c] ++ (List.replicate n c ++ rest))) done.length _ :=
      (findsAt_text_iff (List.cons_ne_nil c [c])).mpr ⟨_, rfl, rfl⟩
    have hrun : List.replicate (n + 2) c = [c, c] ++ List.replicate n c := rfl
    have hlength : (done ++ [c, c]).length = done.length + [c, c].length := List.length_append
    have hhalf : (n + 2) / 2 = n / 2 + 1 := Nat.add_div_right n (by decide)
    rw [hrun, List.append_assoc,
      hitsFrom_append_of_findsAt hfinds (List.cons_ne_nil c [c]) (Nat.le_of_eq hlength),
      List.length_cons]
    have hdone : ((Cursor.between done ([c, c] ++ (List.replicate n c ++ rest))).past [c, c]
        (List.replicate n c ++ rest)).offset - (done ++ [c, c]).length = 0 := by
      rw [hlength]
      exact Nat.sub_self _
    rw [hdone, length_hitsFrom_run hrest n, hhalf, ← List.append_assoc]
    omega

/-- A text begins with a run of a character, which may be empty. -/
theorem exists_run (c : Char) (t : List Char) :
    ∃ n rest, t = List.replicate n c ++ rest ∧ rest.head? ≠ some c := by
  obtain ⟨piece, rest, ht, hpiece, hrest⟩ := Cursor.exists_cut (· == c) t
  have hrun : piece = List.replicate piece.length c :=
    List.eq_replicate_iff.mpr ⟨rfl, fun x hx => eq_of_beq (hpiece x hx)⟩
  refine ⟨piece.length, rest, by rw [← hrun, ht], fun hhead => ?_⟩
  obtain ⟨rest', rfl⟩ := List.head?_eq_some_iff.mp hhead
  exact absurd (hrest c rest' rfl) (by simp)

/-- A run counts for half its length, and nothing else does before its end. -/
theorem tallyFrom_halfRun {before : Option Char} (hbefore : before ≠ some c) {n : Nat}
    {rest : List Char} (hrest : rest.head? ≠ some c) :
    tallyFrom (halfRun c) before (List.replicate (n + 1) c ++ rest) =
      (n + 1) / 2 + tallyFrom (halfRun c) (some c) rest := by
  have hinside : ∀ y ∈ c :: List.replicate n c, ∀ rest, halfRun c (some y) rest = 0 := by
    intro y hy rest
    obtain rfl : y = c := by
      rcases List.mem_cons.mp hy with rfl | hy
      · rfl
      · exact List.eq_of_mem_replicate hy
    exact if_pos rfl
  have hlast : (List.replicate n c).getLast?.or (some c) = some c := by
    cases n with
    | zero => rfl
    | succ n => rw [List.getLast?_replicate]; rfl
  have hrun : (List.replicate (n + 1) c ++ rest).takeWhile (· == c) =
      List.replicate (n + 1) c := by
    refine Cursor.takeWhile_eq (fun x hx => beq_iff_eq.mpr (List.eq_of_mem_replicate hx)) ?_
    rintro x rest' rfl
    exact beq_false_of_ne fun h => hrest (congrArg some h)
  have hhalf : halfRun c before (List.replicate (n + 1) c ++ rest) = (n + 1) / 2 := by
    unfold halfRun
    rw [if_neg hbefore, hrun, List.length_replicate]
  have hcons : List.replicate (n + 1) c ++ rest = c :: (List.replicate n c ++ rest) := rfl
  rw [hcons, Text.tallyFrom_cons, ← hcons, hhalf, Text.tallyFrom_append_of_before hinside, hlast]

/-- Only where a run of the character begins, or none does, the search is in step with the runs. -/
theorem length_hitsFrom_doubled (c : Char) : (rest done : List Char) →
    (done.getLast? = some c → rest.head? ≠ some c) →
    ((Pattern.text [c, c]).hitsFrom done.getLast? done.length 0 rest).length =
      tallyFrom (halfRun c) done.getLast? rest
  | [], _, _ => by rw [hitsFrom]; rfl
  | x :: t, done, hstep => by
    obtain ⟨n, rest, ht, hrest⟩ := exists_run c (x :: t)
    cases n with
    | zero =>
      obtain rfl : x :: t = rest := ht
      have hx : (x == c) = false := beq_false_of_ne fun h => hrest (congrArg some h)
      have hnone : ∀ d, ¬(Pattern.text [c, c]).FindsAt (done ++ x :: t) done.length d := by
        intro d hd
        obtain ⟨later, hlater, -⟩ := (findsAt_text_iff (List.cons_ne_nil c [c])).mp hd
        obtain ⟨rfl, -⟩ := List.cons.inj hlater
        exact hrest rfl
      have hfree : halfRun c done.getLast? (x :: t) = 0 := by
        unfold halfRun
        rw [List.takeWhile_cons_of_neg (by simp [hx])]
        exact ite_self 0
      have hnext : (done ++ [x]).getLast? = some c → t.head? ≠ some c := by
        rw [List.getLast?_concat]
        intro h
        exact absurd (congrArg some (Option.some.inj h)) hrest
      rw [hitsFrom_of_not_findsAt hnone, length_hitsFrom_doubled c t _ hnext, Text.tallyFrom_cons,
        hfree, Nat.zero_add, List.getLast?_concat]
    | succ n =>
      have hbefore : done.getLast? ≠ some c := fun h => hstep h (by rw [ht]; rfl)
      have hlast : (done ++ List.replicate (n + 1) c).getLast? = some c := by
        rw [List.replicate_succ', ← List.append_assoc, List.getLast?_concat]
      have hshorter : rest.length < (x :: t).length := by
        rw [ht, List.length_append, List.length_replicate]
        omega
      rw [ht, length_hitsFrom_run hrest, tallyFrom_halfRun hbefore hrest,
        length_hitsFrom_doubled c rest _ fun _ => hrest, hlast]
  termination_by rest => rest.length
  decreasing_by
    · exact Nat.lt_succ_self _
    · exact hshorter

/-- A doubled character is found as often as its runs hold it twice. -/
theorem countHits_doubled (c : Char) (t : List Char) :
    (Pattern.text [c, c]).countHits t = tally (halfRun c) t := by
  rw [Text.tally_eq_tallyFrom]
  exact length_hitsFrom_doubled c t [] nofun

end Pattern

end SourceGrade
