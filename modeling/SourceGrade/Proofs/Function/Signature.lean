import SourceGrade.Proofs.Function.Balance
import SourceGrade.Proofs.Function.Find
import SourceGrade.Proofs.Pattern.Pieces

set_option autoImplicit false

/-!
# Signatures and bodies

The body of a function is cut from the beginning of its signature, and a parameter list or type
arguments may hold braces of their own. So the body that a scan finds goes on after the signature if
and only if the signature does not balance its braces by itself before it ends; otherwise the body
is the part of the signature up to its first balance.
-/

namespace SourceGrade

/-- The piece of a text that a hit covers. -/
def Hit.piece (t : List Char) (h : Hit) : List Char := Body.slice t h.start h.stop

theorem Pattern.hit_bounds {p : Pattern} {t : List Char} {h : Hit} (hmem : h ∈ p.hits t) :
    h.start < h.stop ∧ h.stop ≤ t.length := by
  obtain ⟨i, d, hfinds, rfl⟩ := findsAt_of_mem_hits hmem
  exact ⟨hfinds.lt, hfinds.offset_le_length⟩

namespace Body

variable {t : List Char} {start stop i : Nat} {limit : Int}

theorem slice_prefix_slice {stop' : Nat} (h : stop ≤ stop') :
    slice t start stop <+: slice t start stop' :=
  List.take_prefix_take_left (Nat.sub_le_sub_right h start)

theorem length_slice (h : stop ≤ t.length) : (slice t start stop).length = stop - start := by
  unfold slice
  rw [List.length_take, List.length_drop]
  omega

theorem slice_prefix_slice_iff {stop' : Nat} (hstart : start < stop) (h : stop ≤ t.length) :
    slice t start stop <+: slice t start stop' ↔ stop ≤ stop' := by
  constructor
  · intro hprefix
    have hle := hprefix.length_le
    rw [length_slice h] at hle
    have hlength : (slice t start stop').length ≤ stop' - start := List.length_take_le ..
    omega
  · exact slice_prefix_slice

/-- A piece balances where the text does, counted from the beginning of the piece. -/
theorem balances_slice_iff (h : start + i < stop) :
    Balances (slice t start stop) 0 i ↔ Balances t start (start + i) := by
  have hget : (slice t start stop)[i]? = t[start + i]? := by
    rw [getElem?_slice, if_pos (by omega), Nat.add_comm]
  have hpiece : slice (slice t start stop) 0 (i + 1) = slice t start (start + i + 1) := by
    have hlength : start + i + 1 - start = i + 1 := by omega
    show (slice t start stop).take (i + 1) = (t.drop start).take (start + i + 1 - start)
    rw [take_slice t (by omega), hlength]
  constructor
  · intro hbalances
    exact ⟨hget ▸ hbalances.brace, hpiece ▸ hbalances.opened, hpiece ▸ hbalances.even⟩
  · intro hbalances
    exact ⟨hget.symm ▸ hbalances.brace, hpiece.symm ▸ hbalances.opened,
      hpiece.symm ▸ hbalances.even⟩

/-- A piece that goes on after the end of a body balances there. -/
theorem EndsAt.balances_slice {j : Nat} (h : EndsAt t start limit j) (hlt : j < stop) :
    Balances (slice t start stop) 0 (j - start) := by
  have hle := h.le
  have hj : start + (j - start) = j := by omega
  refine (balances_slice_iff (by omega)).mpr ?_
  rw [hj]
  exact h.holds.2

/-- A piece balances the braces that it opens before its last character. -/
def ClosesWithin (s : List Char) : Prop := ∃ i, i + 1 < s.length ∧ Balances s 0 i

/-- The text from `start` up to `stop` closes within if and only if the body that begins at `start`
ends before the last character of it. -/
theorem closesWithin_slice_iff {j : Nat} (hstop : stop ≤ t.length) (h : EndsAt t start limit j) :
    ClosesWithin (slice t start stop) ↔ j + 1 < stop := by
  have hle := h.le
  unfold ClosesWithin
  rw [length_slice hstop]
  constructor
  · rintro ⟨i, hi, hbalances⟩
    by_contra hlate
    have hwindow := h.holds.1
    refine h.least (start + i) (by omega) (by omega) ⟨by omega, ?_⟩
    exact (balances_slice_iff (by omega)).mp hbalances
  · intro hlt
    exact ⟨j - start, by omega, h.balances_slice (by omega)⟩

/-- A body that ends before the last character of a piece ends at the first balance in it. -/
theorem exists_first_of_closesWithin {j : Nat} (hstop : stop ≤ t.length)
    (h : EndsAt t start limit j) (hwithin : ClosesWithin (slice t start stop)) :
    ∃ i, i + 1 < (slice t start stop).length ∧ IsFirst (Balances (slice t start stop) 0) 0 i ∧
      slice t start (j + 1) = (slice t start stop).take (i + 1) := by
  have hle := h.le
  have hlt := (closesWithin_slice_iff hstop h).mp hwithin
  have hbalances := h.balances_slice (show j < stop by omega)
  refine ⟨j - start, ?_, ⟨Nat.zero_le _, hbalances, fun k _ hk hearlier => ?_⟩, ?_⟩
  · rw [length_slice hstop]
    omega
  · -- An earlier balance in the piece would be an earlier end of the body.
    have hwindow := h.holds.1
    exact h.least (start + k) (by omega) (by omega)
      ⟨by omega, (balances_slice_iff (by omega)).mp hearlier⟩
  · have hlength : j + 1 - start = j - start + 1 := by omega
    show (t.drop start).take (j + 1 - start) = _
    rw [take_slice t (by omega), hlength]

end Body

namespace FunctionInfo

open Body (findsEnd ClosesWithin)

variable {language : Language} {t : List Char} {limit : Int} {f : FunctionInfo} {h : Hit}

/-- A function is built from a hit of a signature pattern. -/
structure BuiltFrom (language : Language) (t : List Char) (limit : Int) (f : FunctionInfo)
    (h : Hit) : Prop where
  /-- A signature pattern of the language has the hit. -/
  hit : ∃ pattern ∈ language.functionPatterns, h ∈ pattern.hits t
  /-- The hit names the function. -/
  name : nameOf? h = some f.name
  /-- The function begins with the hit. -/
  start : f = ofBody ⟨f.name, (Text.LineIndex.ofText t).lineOf h.start, h.start⟩
    (Body.lookUp t (.ofText t) (.ofText t) h.start limit)

/-- How a body lies to the signature with which it begins. -/
structure FollowsSignature (t : List Char) (limit : Int) (h : Hit) (body : List Char) : Prop where
  /-- Where a scan finds no end, the body is a piece of the line on which the signature begins. -/
  fallback : findsEnd t h.start limit = false → body <+: t.drop h.start ∧ '\n' ∉ body
  /-- Where it finds one, the body goes on after the signature, unless that closes within. -/
  whole_iff : findsEnd t h.start limit = true →
    (h.piece t <+: body ↔ ¬ClosesWithin (h.piece t))
  /-- Of a signature that closes within, the body is the part up to its first balance. -/
  part : findsEnd t h.start limit = true → ClosesWithin (h.piece t) →
    ∃ i, i + 1 < (h.piece t).length ∧ IsFirst (Body.Balances (h.piece t) 0) 0 i ∧
      body = (h.piece t).take (i + 1)

/-- Every function that is found is built from a hit. -/
theorem exists_builtFrom_of_mem_find (hmem : f ∈ find language t limit) :
    ∃ h, BuiltFrom language t limit f h := by
  obtain ⟨c, hc, rfl⟩ := exists_candidate_of_mem_find hmem
  obtain ⟨pattern, hpattern, h, hh, hname, hline, hstart⟩ := exists_hit_of_mem_candidates hc
  refine ⟨h, ⟨pattern, hpattern, hh⟩, hname, ?_⟩
  rw [← hline, ← hstart]
  rfl

theorem followsSignature_lookUp {p : Pattern} (hmem : h ∈ p.hits t) :
    FollowsSignature t limit h (Body.lookUp t (.ofText t) (.ofText t) h.start limit) := by
  obtain ⟨hstart, hstop⟩ := Pattern.hit_bounds hmem
  cases hfinds : findsEnd t h.start limit with
  | false =>
    have hnone : ∀ i, ¬Body.EndsAt t h.start limit i := by
      intro i hi
      rw [Body.findsEnd_iff.mpr ⟨i, hi⟩] at hfinds
      cases hfinds
    rw [Body.lookUp_of_not_endsAt hnone]
    constructor
    · intro _
      exact ⟨Body.restOfLine_isPrefix .., Body.lineFeed_notMem_restOfLine t h.start limit⟩
    · simp [hfinds]
    · simp [hfinds]
  | true =>
    obtain ⟨j, hj⟩ := Body.findsEnd_iff.mp hfinds
    have hcloses := Body.closesWithin_slice_iff hstop hj
    have hstarts : Body.slice t h.start h.stop <+: Body.slice t h.start (j + 1) ↔ h.stop ≤ j + 1 :=
      Body.slice_prefix_slice_iff hstart hstop
    rw [Body.lookUp_of_endsAt hj]
    constructor
    · simp [hfinds]
    · intro _
      unfold Hit.piece
      rw [hstarts, hcloses]
      omega
    · intro _ hwithin
      exact Body.exists_first_of_closesWithin hstop hj hwithin

/-- The body of a function that is found ends with its line, or goes on after the signature from
which the function is built, unless the signature closes within. -/
theorem follows_signature (hmem : f ∈ find language t limit) :
    (∃ h, BuiltFrom language t limit f h) ∧
      ∀ h, BuiltFrom language t limit f h → FollowsSignature t limit h f.body := by
  refine ⟨exists_builtFrom_of_mem_find hmem, fun h hbuilt => ?_⟩
  obtain ⟨pattern, -, hhit⟩ := hbuilt.hit
  have hbody : f.body = Body.lookUp t (.ofText t) (.ofText t) h.start limit :=
    congrArg FunctionInfo.body hbuilt.start
  rw [hbody]
  exact followsSignature_lookUp hhit

/-- An arrow function that takes its parameter apart. -/
def arrowWithPattern : List Char :=
  "const card = (\x7btitle\x7d) => \x7b return title || none; \x7d".toList

/-- The function that is found in it. -/
def card : FunctionInfo where
  name := "card"
  body := "const card = (\x7btitle\x7d".toList

/-- The signature from which that is built. -/
def cardSignature : Hit where
  start := 0
  stop := 25
  marked := some "card".toList

theorem card_mem_find : card ∈ find .javascript arrowWithPattern := by decide +kernel

theorem builtFrom_cardSignature :
    BuiltFrom .javascript arrowWithPattern Body.defaultLimit card cardSignature where
  hit := ⟨Language.arrowFunction, List.mem_cons_of_mem _ List.mem_cons_self, by decide +kernel⟩
  name := by decide +kernel
  start := by decide +kernel

theorem follows_signature_card :
    card ∈ find .javascript arrowWithPattern ∧
      FollowsSignature arrowWithPattern Body.defaultLimit cardSignature card.body :=
  ⟨card_mem_find, (follows_signature card_mem_find).2 cardSignature builtFrom_cardSignature⟩

/-- A body may end inside its signature. -/
theorem body_ends_in_signature :
    ¬∀ language t limit f h, f ∈ find language t limit → BuiltFrom language t limit f h →
      findsEnd t h.start limit = false ∨ h.piece t <+: f.body := by
  intro hall
  have hbody := hall .javascript arrowWithPattern Body.defaultLimit card cardSignature
    card_mem_find builtFrom_cardSignature
  exact absurd hbody (by decide)

end FunctionInfo

end SourceGrade
