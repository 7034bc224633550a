import Mathlib.Data.List.Pairwise
import SourceGrade.Proofs.Pattern.Hits

set_option autoImplicit false

/-!
# Searching from left to right

The hits of a pattern do not overlap, and nothing that the pattern finds lies outside of them. A
list with these properties is determined by them: where a hit begins is the first offset after the
hit before at which the pattern finds anything. So they say what it means to search a text from left
to right, without the way it is done.
-/

namespace SourceGrade.Pattern

variable {p : Pattern} {t : List Char}

/-! ## Hits do not overlap -/

/-- No hit begins among the characters that are passed over. -/
theorem le_start_of_mem_hitsFrom {h : Hit} (rest : List Char) :
    ∀ (done : List Char) (skip : Nat), h ∈ p.hitsFrom done.getLast? done.length skip rest →
      done.length + skip ≤ h.start := by
  induction rest with
  | nil =>
    intro done skip hmem
    simp [hitsFrom] at hmem
  | cons c rest ih =>
    intro done skip hmem
    have hlength : (done ++ [c]).length = done.length + 1 := by simp
    cases skip with
    | succ skip =>
      rw [hitsFrom_skip] at hmem
      have hle := ih _ _ hmem
      omega
    | zero =>
      by_cases hfinds : ∃ d, p.FindsAt (done ++ c :: rest) done.length d
      · obtain ⟨d, hd⟩ := hfinds
        rw [hitsFrom_of_findsAt hd] at hmem
        rcases List.mem_cons.mp hmem with rfl | hmem
        · exact Nat.le_refl _
        · have hle := ih _ _ hmem
          omega
      · rw [hitsFrom_of_not_findsAt (not_exists.mp hfinds)] at hmem
        have hle := ih _ _ hmem
        omega

theorem pairwise_hitsFrom (rest : List Char) :
    ∀ (done : List Char) (skip : Nat),
      (p.hitsFrom done.getLast? done.length skip rest).Pairwise fun h h' => h.stop ≤ h'.start := by
  induction rest with
  | nil =>
    intro done skip
    rw [hitsFrom]
    exact List.Pairwise.nil
  | cons c rest ih =>
    intro done skip
    cases skip with
    | succ skip =>
      rw [hitsFrom_skip]
      exact ih _ _
    | zero =>
      by_cases hfinds : ∃ d, p.FindsAt (done ++ c :: rest) done.length d
      · obtain ⟨d, hd⟩ := hfinds
        rw [hitsFrom_of_findsAt hd]
        refine List.Pairwise.cons (fun h hmem => ?_) (ih _ _)
        have hstart := le_start_of_mem_hitsFrom rest _ _ hmem
        have hstop : (hitOf done.length d).stop = d.offset := rfl
        omega
      · rw [hitsFrom_of_not_findsAt (not_exists.mp hfinds)]
        exact ih _ _

/-- Of two hits, the earlier one ends before the later one begins. -/
theorem pairwise_hits (p : Pattern) (t : List Char) :
    (p.hits t).Pairwise fun h h' => h.stop ≤ h'.start :=
  pairwise_hitsFrom t [] 0

/-! ## The search -/

/-- The hits of a search from left to right. -/
structure IsScan (p : Pattern) (t : List Char) (hs : List Hit) : Prop where
  /-- Every hit is the match that the pattern prefers at its offset. -/
  found : ∀ h ∈ hs, ∃ d, p.FindsAt t h.start d ∧ h = hitOf h.start d
  /-- Each hit ends before the next one begins. -/
  apart : hs.Pairwise fun h h' => h.stop ≤ h'.start
  /-- Every offset at which the pattern finds anything lies in a hit. -/
  covers : ∀ i d, p.FindsAt t i d → ∃ h ∈ hs, h.start ≤ i ∧ i < h.stop

theorem isScan_hits (p : Pattern) (t : List Char) : p.IsScan t (p.hits t) where
  found := by
    intro h hmem
    obtain ⟨i, d, hfinds, rfl⟩ := findsAt_of_mem_hits hmem
    exact ⟨d, hfinds, rfl⟩
  apart := pairwise_hits p t
  covers := fun _ _ hfinds => exists_mem_hits hfinds

namespace IsScan

variable {hs hs' : List Hit}

theorem lt_stop (hscan : p.IsScan t hs) {h : Hit} (hmem : h ∈ hs) : h.start < h.stop := by
  obtain ⟨d, hfinds, heq⟩ := hscan.found h hmem
  rw [heq]
  exact hfinds.lt

/-- Hits that overlap are the same. -/
theorem eq_of_overlap (hscan : p.IsScan t hs) {h h' : Hit} (hmem : h ∈ hs) (hmem' : h' ∈ hs)
    (hlt : h.start < h'.stop) (hlt' : h'.start < h.stop) : h = h' := by
  refine List.Pairwise.forall_of_forall_of_flip
    (R := fun h h' => h.start < h'.stop → h'.start < h.stop → h = h')
    (fun h _ _ _ => rfl) (hscan.apart.imp ?_) (hscan.apart.imp ?_) hmem hmem' hlt hlt'
  · intro h h' hle _ hlt
    omega
  · intro h h' hle hlt _
    omega

/-- A hit of one search is a hit of another one if the earlier hits of the other one are hits of
the first. -/
theorem mem_of_mem (hscan : p.IsScan t hs) (hscan' : p.IsScan t hs') {h : Hit} (hmem : h ∈ hs)
    (hearlier : ∀ h' ∈ hs', h'.start < h.start → h' ∈ hs) : h ∈ hs' := by
  obtain ⟨d, hfinds, heq⟩ := hscan.found h hmem
  -- The offset of the hit lies in a hit of the other search. If that began earlier, it would be a
  -- hit of both and overlap the first.
  obtain ⟨h', hmem', hle, hlt⟩ := hscan'.covers h.start d hfinds
  rcases Nat.lt_or_eq_of_le hle with hless | hsame
  · have hstop := hscan.lt_stop hmem
    rwa [hscan.eq_of_overlap hmem (hearlier h' hmem' hless) hlt (by omega)]
  · obtain ⟨d', hfinds', heq'⟩ := hscan'.found h' hmem'
    rw [hsame] at hfinds' heq'
    rw [Option.some.inj (hfinds.found.symm.trans hfinds'.found)] at heq
    rwa [heq, ← heq']

theorem mem_iff_mem (hscan : p.IsScan t hs) (hscan' : p.IsScan t hs') (h : Hit) :
    h ∈ hs ↔ h ∈ hs' := by
  generalize hn : h.start = n
  induction n using Nat.strongRecOn generalizing h with
  | ind n ih =>
    constructor
    · intro hmem
      exact hscan.mem_of_mem hscan' hmem fun h' hmem' hlt => (ih _ (hn ▸ hlt) h' rfl).mpr hmem'
    · intro hmem
      exact hscan'.mem_of_mem hscan hmem fun h' hmem' hlt => (ih _ (hn ▸ hlt) h' rfl).mp hmem'

theorem pairwise_start_lt (hscan : p.IsScan t hs) : hs.Pairwise fun h h' => h.start < h'.start :=
  hscan.apart.imp_of_mem fun hmem _ hle => Nat.lt_of_lt_of_le (hscan.lt_stop hmem) hle

theorem nodup (hscan : p.IsScan t hs) : hs.Nodup := by
  refine hscan.pairwise_start_lt.imp ?_
  rintro h h' hlt rfl
  exact Nat.lt_irrefl _ hlt

/-- There is one search from left to right. -/
theorem unique (hscan : p.IsScan t hs) (hscan' : p.IsScan t hs') : hs = hs' := by
  have hperm : hs.Perm hs' :=
    (List.perm_ext_iff_of_nodup hscan.nodup hscan'.nodup).mpr (hscan.mem_iff_mem hscan')
  exact hperm.eq_of_pairwise (fun h h' _ _ hlt hlt' => absurd hlt (Nat.lt_asymm hlt'))
    hscan.pairwise_start_lt hscan'.pairwise_start_lt

end IsScan

theorem isScan_iff {hs : List Hit} : p.IsScan t hs ↔ hs = p.hits t :=
  ⟨fun hscan => hscan.unique (isScan_hits p t), fun heq => heq ▸ isScan_hits p t⟩

end SourceGrade.Pattern
