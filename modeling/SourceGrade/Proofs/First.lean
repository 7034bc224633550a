import Mathlib.Data.List.Induction

set_option autoImplicit false

/-!
# First occurrences

Erasing repetitions keeps the entries of a list whose key no earlier entry has. `firstsBy` says so
place by place, so that the order of what is kept, and the places from which it is kept, can be read
off.
-/

namespace SourceGrade

variable {α β : Type} [DecidableEq β]

/-- The entries of a list whose key no earlier entry has, in order. -/
def firstsBy (key : α → β) (l : List α) : List α :=
  (l.zipIdx.filter fun p => key p.1 ∉ (l.take p.2).map key).map (·.1)

/-- The same is kept for keys that agree. -/
theorem firstsBy_congr {α β : Type} [DecidableEq β] {key key' : α → β} {l : List α}
    (h : ∀ a ∈ l, key a = key' a) : firstsBy key l = firstsBy key' l := by
  unfold firstsBy
  refine congrArg (List.map Prod.fst) (List.filter_congr fun p hp => ?_)
  have hget : l[p.2]? = some p.1 := List.mem_zipIdx_iff_getElem?.mp hp
  rw [h p.1 (List.mem_of_getElem? hget),
    List.map_congr_left fun a ha => h a (List.mem_of_mem_take ha)]

/-- One more entry is kept if its key is new. -/
theorem firstsBy_concat (key : α → β) (l : List α) (a : α) :
    firstsBy key (l ++ [a]) = firstsBy key l ++ if key a ∈ l.map key then [] else [a] := by
  have hearlier : (l.zipIdx.filter fun p => key p.1 ∉ ((l ++ [a]).take p.2).map key) =
      l.zipIdx.filter fun p => key p.1 ∉ (l.take p.2).map key := by
    refine List.filter_congr fun p hp => ?_
    have hlt : p.2 < l.length := (List.getElem?_eq_some_iff.mp
      (List.mem_zipIdx_iff_getElem?.mp hp)).1
    rw [List.take_append_of_le_length (Nat.le_of_lt hlt)]
  have hlast : (l ++ [a]).take l.length = l := List.take_left
  conv => lhs; unfold firstsBy
  rw [List.zipIdx_append, List.filter_append, hearlier, List.map_append]
  refine congrArg (firstsBy key l ++ ·) ?_
  rw [List.zipIdx_singleton, Nat.zero_add, List.filter_cons, List.filter_nil, hlast]
  by_cases hseen : key a ∈ l.map key
  · rw [if_pos hseen, if_neg (by simpa using hseen), List.map_nil]
  · rw [if_neg hseen, if_pos (by simpa using hseen), List.map_singleton]

/-- Whether a repetition is erased is not changed by others that are erased before. -/
theorem eraseDupsBy_concat (key : α → β) (l : List α) (a : α) :
    (l ++ [a]).eraseDupsBy (fun a b => key a == key b) =
      l.eraseDupsBy (fun a b => key a == key b) ++ if key a ∈ l.map key then [] else [a] := by
  -- The rest is filtered before its repetitions are erased, so the induction is on the length.
  generalize hn : l.length = n
  induction n using Nat.strongRecOn generalizing l with
  | ind n ih =>
    cases l with
    | nil => rfl
    | cons x l =>
      have hlt : (l.filter fun b => (key b == key x) = false).length < n := by
        have := List.length_filter_le (fun b => (key b == key x) = false) l
        rw [← hn, List.length_cons]
        omega
      rw [List.cons_append, List.eraseDupsBy_cons, List.eraseDupsBy_cons, List.filter_append,
        List.filter_cons, List.filter_nil]
      by_cases hx : key a = key x
      · have hseen : key a ∈ (x :: l).map key := by simp [hx]
        rw [if_neg (by simp [hx]), if_pos hseen, List.append_nil, List.append_nil]
      · have hseen : key a ∈ (l.filter fun b => (key b == key x) = false).map key ↔
            key a ∈ (x :: l).map key := by
          simp only [List.mem_map, List.mem_filter, List.mem_cons, beq_eq_false_iff_ne,
            decide_eq_true_eq]
          constructor
          · rintro ⟨b, ⟨hb, -⟩, hkey⟩
            exact ⟨b, .inr hb, hkey⟩
          · rintro ⟨b, rfl | hb, hkey⟩
            · exact absurd hkey.symm hx
            · exact ⟨b, ⟨hb, fun h => hx (hkey.symm.trans h)⟩, hkey⟩
        rw [if_pos (by simp [hx]), ih _ hlt _ rfl, List.cons_append]
        simp only [hseen]

/-- Erasing repetitions keeps the first entry of each key. -/
theorem eraseDupsBy_eq_firstsBy (key : α → β) (l : List α) :
    l.eraseDupsBy (fun a b => key a == key b) = firstsBy key l := by
  induction l using List.reverseRecOn with
  | nil => rfl
  | append_singleton l a ih => rw [eraseDupsBy_concat, firstsBy_concat, ih]

/-- Keys are taken before or after what is kept is chosen. -/
theorem map_firstsBy (key : α → β) (l : List α) :
    (firstsBy key l).map key = firstsBy id (l.map key) := by
  induction l using List.reverseRecOn with
  | nil => rfl
  | append_singleton l a ih =>
    rw [firstsBy_concat, List.map_append, ih, List.map_append, List.map_singleton, firstsBy_concat,
      List.map_id, id_eq]
    by_cases hseen : key a ∈ l.map key
    · rw [if_pos hseen, if_pos hseen, List.map_nil]
    · rw [if_neg hseen, if_neg hseen, List.map_singleton]

/-- What is left out for its key is left out before or after what is kept is chosen. -/
theorem filter_firstsBy (key : α → β) (ok : β → Bool) (l : List α) :
    (firstsBy key l).filter (fun a => ok (key a)) =
      firstsBy key (l.filter fun a => ok (key a)) := by
  induction l using List.reverseRecOn with
  | nil => rfl
  | append_singleton l a ih =>
    rw [firstsBy_concat, List.filter_append, List.filter_append, ih, List.filter_cons,
      List.filter_nil]
    by_cases hok : ok (key a) = true
    · have hseen : key a ∈ (l.filter fun a => ok (key a)).map key ↔ key a ∈ l.map key := by
        simp only [List.mem_map, List.mem_filter]
        constructor
        · rintro ⟨b, ⟨hb, -⟩, hkey⟩
          exact ⟨b, hb, hkey⟩
        · rintro ⟨b, hb, hkey⟩
          exact ⟨b, ⟨hb, hkey ▸ hok⟩, hkey⟩
      rw [if_pos hok, firstsBy_concat]
      simp only [hseen]
      split_ifs
      · rfl
      · rw [List.filter_cons, if_pos hok, List.filter_nil]
    · rw [if_neg hok, List.append_nil]
      split_ifs
      · rw [List.filter_nil, List.append_nil]
      · rw [List.filter_cons, if_neg hok, List.filter_nil, List.append_nil]

theorem mem_of_mem_firstsBy {key : α → β} {l : List α} {a : α} (h : a ∈ firstsBy key l) :
    a ∈ l := by
  obtain ⟨p, hp, rfl⟩ := List.mem_map.mp h
  exact List.mem_of_getElem? (List.mem_zipIdx_iff_getElem?.mp (List.mem_filter.mp hp).1)

/-- No key is lost. -/
theorem mem_map_firstsBy {key : α → β} {l : List α} {k : β} :
    k ∈ (firstsBy key l).map key ↔ k ∈ l.map key := by
  induction l using List.reverseRecOn with
  | nil => rfl
  | append_singleton l a ih =>
    rw [firstsBy_concat, List.map_append, List.map_append, List.mem_append, List.mem_append, ih]
    split_ifs with hseen
    · constructor
      · exact fun h => h.imp_right fun h => absurd h List.not_mem_nil
      · rintro (h | h)
        · exact .inl h
        · rw [List.map_singleton, List.mem_singleton] at h
          exact .inl (h ▸ hseen)
    · rfl

/-- What is kept stands before every entry with the key of something that is kept later. -/
theorem pairwise_firstsBy (key : α → β) (l : List α) :
    (firstsBy key l).Pairwise fun a b =>
      ∃ i : Nat, l[i]? = some a ∧ ∀ j : Nat, l[j]?.map key = some (key b) → i < j := by
  have hplaces : l.zipIdx.Pairwise fun p q => p.2 < q.2 := by
    rw [← List.pairwise_map (f := Prod.snd) (R := (· < ·)), List.zipIdx_map_snd]
    exact List.pairwise_lt_range'
  refine List.pairwise_map.mpr ((hplaces.filter _).imp_of_mem fun {p q} hp hq hlt => ?_)
  have hget : l[p.2]? = some p.1 := List.mem_zipIdx_iff_getElem?.mp (List.mem_filter.mp hp).1
  have hnew : key q.1 ∉ (l.take q.2).map key := of_decide_eq_true (List.mem_filter.mp hq).2
  refine ⟨p.2, hget, fun j hj => ?_⟩
  obtain ⟨b, hb, hkey⟩ := Option.map_eq_some_iff.mp hj
  -- An entry before `q` with its key would have kept `q` from being kept.
  have hle : q.2 ≤ j := by
    by_contra hlate
    refine hnew (hkey ▸ List.mem_map_of_mem (List.mem_of_getElem? (i := j) ?_))
    rw [List.getElem?_take_of_lt (by omega), hb]
  omega

/-- No key is kept twice. -/
theorem nodup_map_firstsBy (key : α → β) (l : List α) : ((firstsBy key l).map key).Nodup := by
  refine List.pairwise_map.mpr ((pairwise_firstsBy key l).imp ?_)
  rintro a b ⟨i, hi, hbefore⟩ heq
  exact absurd (hbefore i (by rw [hi, Option.map_some, heq])) (Nat.lt_irrefl i)

end SourceGrade
