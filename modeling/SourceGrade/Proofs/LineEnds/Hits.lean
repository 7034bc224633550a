import SourceGrade.Proofs.LineEnds.Search
import SourceGrade.Proofs.Pattern.Hits

set_option autoImplicit false

/-!
# Hits and line ends

The hits of a pattern in a text whose lines end in two characters are the hits in the text with
line feeds alone, moved to where their offsets have got to: `Pattern.hits_twin`.
-/

namespace SourceGrade

open Text (crlf crlfOffset IsTail lineFeeds)

namespace Pattern

variable {t tail : List Char} {c d : Cursor}

/-- What a hit becomes. -/
def twinHit (t : List Char) (h : Hit) : Hit :=
  ⟨crlfOffset t h.start, crlfOffset t h.stop, h.marked.map crlf⟩

/-- A pattern matches at the twin of a place as it does at the place, and never in a gap. -/
structure KeepsPlaces (t tail : List Char) (p : Pattern) : Prop where
  twin : ∀ i, i ≤ t.length → p.firstOutcome? ((Cursor.atOffset t i).twin t tail) =
    (p.firstOutcome? (.atOffset t i)).map (·.twin t tail)
  gap : ∀ i, t[i]? = some '\n' →
    p.firstOutcome? ((Cursor.atOffset t i).gap t tail none) = none

theorem within_atOffset {i : Nat} (h : i ≤ t.length) : (Cursor.atOffset t i).Within t := ⟨h, rfl⟩

/-- A pattern that refuses gaps does not match from one. -/
theorem firstOutcome?_gap {p : Pattern} (hp : (p.manner .unknown).refuses = true) {i : Nat}
    (hi : t[i]? = some '\n') :
    p.firstOutcome? ((Cursor.atOffset t i).gap t tail none) = none := by
  obtain ⟨hlt, hget⟩ := List.getElem?_eq_some_iff.mp hi
  have hrest : (Cursor.atOffset t i).rest = '\n' :: t.drop (i + 1) := by
    show t.drop i = _
    rw [List.drop_eq_getElem_cons hlt, hget]
  exact (manner_search p Manner.of_unknown).refuses hp _ none (within_atOffset hlt.le)
    (.inl ⟨_, hrest⟩)

/-- Whether a pattern keeps its places wherever there is room for its runs. -/
def immune (p : Pattern) : Bool := p.sound .unknown && (p.manner .unknown).refuses

theorem keepsPlaces_of_immune (htail : IsTail tail) {p : Pattern} (hp : p.immune = true)
    (hroom : ∀ i, i ≤ t.length → p.hasRoom (.atOffset t i) = true) : KeepsPlaces t tail p := by
  unfold immune at hp
  rw [Bool.and_eq_true] at hp
  exact ⟨fun i hi => firstOutcome?_twin htail hp.1 (hroom i hi) (within_atOffset hi),
    fun i hi => firstOutcome?_gap hp.2 hi⟩

variable {p : Pattern}

theorem atOffset_twin {i : Nat} (h : i ≤ t.length) (tail : List Char) :
    Cursor.atOffset (crlf t ++ tail) (crlfOffset t i) = (Cursor.atOffset t i).twin t tail := by
  have hle := Text.crlfOffset_le_length h
  unfold Cursor.atOffset Cursor.twin
  rw [List.take_append_of_le_length hle, List.drop_append_of_le_length hle, Text.take_crlf h,
    Text.drop_crlf h, Text.getLast?_crlf]
  rfl

theorem atOffset_gap {i : Nat} (h : t[i]? = some '\n') (tail : List Char) :
    Cursor.atOffset (crlf t ++ tail) (crlfOffset t i + 1) =
      (Cursor.atOffset t i).gap t tail none := by
  obtain ⟨hlt, hget⟩ := List.getElem?_eq_some_iff.mp h
  have hrest : t.drop i = '\n' :: t.drop (i + 1) := by rw [List.drop_eq_getElem_cons hlt, hget]
  have hdrop : (crlf t ++ tail).drop (crlfOffset t i) =
      '\r' :: '\n' :: (crlf (t.drop (i + 1)) ++ tail) := by
    rw [List.drop_append_of_le_length (Text.crlfOffset_le_length hlt.le), Text.drop_crlf hlt.le,
      hrest]
    rfl
  have hreturn : (crlf t ++ tail)[crlfOffset t i]? = some '\r' := by
    rw [← List.head?_drop, hdrop]
    rfl
  unfold Cursor.atOffset Cursor.gap
  rw [List.take_add_one, hreturn, Option.toList_some, List.getLast?_concat, ← List.drop_drop, hdrop,
    hrest]
  rfl

/-- What is found at a moved offset is the twin of what is found at the offset. -/
theorem findsAt_twin_iff (hp : KeepsPlaces t tail p) {i : Nat} (hi : i ≤ t.length) {d' : Cursor} :
    p.FindsAt (crlf t ++ tail) (crlfOffset t i) d' ↔
      ∃ d, p.FindsAt t i d ∧ d' = d.twin t tail := by
  constructor
  · intro h
    have hfound := h.found
    rw [atOffset_twin hi, hp.twin i hi, Option.map_eq_some_iff] at hfound
    obtain ⟨d, hd, rfl⟩ := hfound
    have hlt : i < d.offset := Text.crlfOffset_lt_iff.mp h.lt
    have hreaches := reaches_of_mem_outcomes (mem_outcomes_of_firstOutcome? hd)
    have hle := ((within_atOffset hi).of_reaches hreaches).le
    exact ⟨d, ⟨hd, hlt, Nat.lt_of_lt_of_le hlt hle⟩, rfl⟩
  · rintro ⟨d, h, rfl⟩
    refine ⟨by rw [atOffset_twin hi, hp.twin i hi, h.found, Option.map_some],
      Text.crlfOffset_lt h.lt, ?_⟩
    rw [List.length_append]
    exact Nat.lt_of_lt_of_le (Text.crlfOffset_lt h.lt_length)
      (Nat.le_add_right_of_le (Text.crlfOffset_le_length (Nat.le_refl _)))

/-- Nothing is found in a gap. -/
theorem not_findsAt_gap (hp : KeepsPlaces t tail p) {i : Nat} (hi : t[i]? = some '\n')
    (d : Cursor) : ¬p.FindsAt (crlf t ++ tail) (crlfOffset t i + 1) d := by
  intro h
  have hfound := h.found
  rw [atOffset_gap hi, hp.gap i hi] at hfound
  cases hfound

/-- Nothing is found in what becomes of a character at which nothing is found. -/
theorem not_findsAt_twin (hp : KeepsPlaces t tail p) {i : Nat} {c : Char} (hc : t[i]? = some c)
    (h : ∀ d, ¬p.FindsAt t i d) {n : Nat} (hn : n < (crlf [c]).length) (d : Cursor) :
    ¬p.FindsAt (crlf t ++ tail) (crlfOffset t i + n) d := by
  intro hd
  cases n with
  | zero =>
    obtain ⟨e, he, -⟩ := (findsAt_twin_iff hp (List.getElem?_eq_some_iff.mp hc).1.le).mp hd
    exact h e he
  | succ n =>
    by_cases hfeed : c = '\n'
    · subst hfeed
      obtain rfl : n = 0 := Nat.lt_one_iff.mp (Nat.lt_of_succ_lt_succ hn)
      exact not_findsAt_gap hp hc d hd
    · rw [Text.crlf_cons_of_ne hfeed] at hn
      exact absurd (Nat.lt_of_succ_lt_succ hn) (Nat.not_lt_zero n)

/-- The hits in the rest of a text become the hits in what the rest becomes, in which the
characters that belong to the last hit are passed over. -/
theorem hitsFrom_twin (hp : KeepsPlaces t tail p) (htail : IsTail tail) (rest : List Char) :
    ∀ (done : List Char) (skip : Nat), t = done ++ rest → skip ≤ rest.length →
      p.hitsFrom (crlf done).getLast? (crlf done).length (crlf (rest.take skip)).length
          (crlf rest ++ tail) =
        (p.hitsFrom done.getLast? done.length skip rest).map (twinHit t) := by
  induction rest with
  | nil =>
    intro done skip hsplit _
    rw [List.append_nil] at hsplit
    rw [List.take_nil, Text.crlf_nil, List.nil_append, List.length_nil]
    rcases htail with rfl | rfl
    · rfl
    · rw [hitsFrom_of_not_findsAt]
      · rfl
      · intro d hd
        have hoffset : (crlf done).length = crlfOffset t t.length := by
          rw [Text.crlfOffset_eq (Nat.le_refl _), List.take_length, hsplit]
        rw [hoffset, ← hsplit] at hd
        obtain ⟨e, he, -⟩ := (findsAt_twin_iff hp (Nat.le_refl _)).mp hd
        exact absurd he.lt_length (Nat.lt_irrefl _)
  | cons c rest ih =>
    intro done skip hsplit hskip
    have hsplit' : t = done ++ [c] ++ rest := by rw [hsplit, List.append_cons]
    have hget : t[done.length]? = some c := by rw [hsplit]; simp
    have hlength : done.length ≤ t.length := (List.getElem?_eq_some_iff.mp hget).1.le
    have hoffset : crlfOffset t done.length = (crlf done).length := by
      rw [hsplit, Text.crlfOffset_append]
    have hdone : crlf done ++ crlf [c] = crlf (done ++ [c]) := (Text.crlf_append done [c]).symm
    have hrest : crlf (c :: rest) ++ tail = crlf [c] ++ (crlf rest ++ tail) := by
      rw [← List.singleton_append, Text.crlf_append, List.append_assoc]
    have hwhole : crlf t ++ tail = crlf done ++ (crlf [c] ++ (crlf rest ++ tail)) := by
      rw [hsplit, Text.crlf_append, List.append_assoc, hrest]
    rw [hrest]
    cases skip with
    | succ skip =>
      have hpassed : (crlf ((c :: rest).take (skip + 1))).length =
          (crlf [c]).length + (crlf (rest.take skip)).length := by
        rw [List.take_succ_cons, ← List.singleton_append, Text.crlf_append, List.length_append]
      rw [hitsFrom_skip, hpassed, hitsFrom_skip_append, hdone]
      exact ih _ _ hsplit' (Nat.le_of_succ_le_succ hskip)
    | zero =>
      rw [List.take_zero, Text.crlf_nil, List.length_nil]
      by_cases hfinds : ∃ d, p.FindsAt t done.length d
      · obtain ⟨d, hd⟩ := hfinds
        have hd' := (findsAt_twin_iff hp hlength).mpr ⟨d, hd, rfl⟩
        rw [hwhole, hoffset] at hd'
        -- The hit passes over the character and then over so many others.
        obtain ⟨n, hn⟩ := Nat.exists_eq_add_of_le (show (done ++ [c]).length ≤ d.offset by
          rw [List.length_append]; exact hd.lt)
        have hle : n ≤ rest.length := by
          have hin := hd.offset_le_length
          rw [hn, hsplit', @List.length_append _ (done ++ [c])] at hin
          exact Nat.le_of_add_le_add_left hin
        have hend : (d.twin t tail).offset =
            (crlf (done ++ [c])).length + (crlf (rest.take n)).length := by
          show crlfOffset t d.offset = _
          rw [hn, hsplit', Text.crlfOffset_append_add (done ++ [c]) hle]
        have hhit : hitOf (crlf done).length (d.twin t tail) = twinHit t (hitOf done.length d) := by
          rw [← hoffset]
          rfl
        rw [hitsFrom_append_of_findsAt hd' (Text.crlf_ne_nil (List.cons_ne_nil c []))
            (by rw [hdone, hend]; exact Nat.le_add_right _ _),
          hitsFrom_of_findsAt (hsplit ▸ hd), hdone, hend, hn, Nat.add_sub_cancel_left,
          Nat.add_sub_cancel_left, hhit, ih _ _ hsplit' hle]
        rfl
      · have hnone := not_exists.mp hfinds
        rw [hitsFrom_append_of_not_findsAt, hdone, hitsFrom_of_not_findsAt (hsplit ▸ hnone)]
        · exact ih _ 0 hsplit' (Nat.zero_le _)
        · rw [← hwhole, ← hoffset]
          exact fun n hn => not_findsAt_twin hp hget hnone hn

/-- The hits in a text whose lines end in two characters are what the hits become. -/
theorem hits_twin (hp : KeepsPlaces t tail p) (htail : IsTail tail) :
    p.hits (crlf t ++ tail) = (p.hits t).map (twinHit t) :=
  hitsFrom_twin hp htail t [] 0 rfl (Nat.zero_le _)

/-- The number of hits is the same if a pattern keeps its places. -/
theorem countHits_twin (hp : KeepsPlaces t tail p) (htail : IsTail tail) :
    p.countHits (crlf t ++ tail) = p.countHits t := by
  unfold countHits
  rw [hits_twin hp htail, List.length_map]

theorem hits_crlf (hp : KeepsPlaces t [] p) : p.hits (crlf t) = (p.hits t).map (twinHit t) := by
  rw [← hits_twin hp (.inl rfl), List.append_nil]

/-- A mark on one line stays as it is. -/
theorem marked_twinHit (hp : p.marksInLine = true) {h : Hit} (hmem : h ∈ p.hits t) :
    (twinHit t h).marked = h.marked := by
  unfold twinHit
  dsimp only
  cases hmarked : h.marked with
  | none => rfl
  | some piece => rw [Option.map_some, Text.crlf_of_notMem ((marked_of_mem_hits hmem hmarked).2 hp)]

/-- A hit stays on its line. -/
theorem lineOf_twinHit {h : Hit} (hmem : h ∈ p.hits t) :
    (Text.LineIndex.ofText (crlf t)).lineOf (twinHit t h).start =
      (Text.LineIndex.ofText t).lineOf h.start := by
  obtain ⟨i, d, hfinds, rfl⟩ := findsAt_of_mem_hits hmem
  rw [Text.LineIndex.lineOf_ofText, Text.LineIndex.lineOf_ofText]
  exact Text.lineAt_crlf hfinds.lt_length.le

/-- Whether a pattern keeps its places in every text. -/
def steady (p : Pattern) : Bool := p.immune && p.boundsInLine

theorem keepsPlaces_of_steady (htail : IsTail tail) (hp : p.steady = true) :
    KeepsPlaces t tail p := by
  unfold steady at hp
  rw [Bool.and_eq_true] at hp
  exact keepsPlaces_of_immune htail hp.1 fun i _ => hasRoom_of_boundsInLine hp.2 _

end Pattern

end SourceGrade
