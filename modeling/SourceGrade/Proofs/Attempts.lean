set_option autoImplicit false

/-!
# Lists of attempts

A measure that may fail on one item is tried on every item of a list. It succeeds as a whole when
every attempt does, and otherwise fails as one of them does.
-/

namespace SourceGrade

section

variable {ε α β : Type} {f : α → Except ε β}

theorem mapM_cons_of_ok {a : α} {b : β} (h : f a = .ok b) (l : List α) :
    (a :: l).mapM f = (l.mapM f).map (b :: ·) := by
  rw [List.mapM_cons, h]
  cases l.mapM f <;> rfl

theorem mapM_cons_of_error {a : α} {e : ε} (h : f a = .error e) (l : List α) :
    (a :: l).mapM f = .error e := by
  rw [List.mapM_cons, h]
  rfl

/-- Items that lead to the same attempts give the same. -/
theorem mapM_map_eq {γ : Type} {g : γ → α} {f' : γ → Except ε β} {l : List γ}
    (h : ∀ c ∈ l, f (g c) = f' c) : (l.map g).mapM f = l.mapM f' := by
  induction l with
  | nil => rfl
  | cons c l ih =>
    rw [List.map_cons, List.mapM_cons, List.mapM_cons, h c List.mem_cons_self,
      ih fun d hd => h d (List.mem_cons_of_mem c hd)]

theorem map_eq_ok_iff {γ : Type} {x : Except ε β} {g : β → γ} {c : γ} :
    x.map g = .ok c ↔ ∃ b, x = .ok b ∧ g b = c := by
  cases x <;> simp [Except.map]

theorem bind_eq_ok_iff {γ : Type} {x : Except ε β} {g : β → Except ε γ} {c : γ} :
    x >>= g = .ok c ↔ ∃ b, x = .ok b ∧ g b = .ok c := by
  cases x <;> simp [bind, Except.bind]

theorem map_eq_error_iff {γ : Type} {x : Except ε β} {g : β → γ} {e : ε} :
    x.map g = .error e ↔ x = .error e := by
  cases x <;> simp [Except.map]

/-- The attempts succeed together when each item is acceptable, and give what each one gives. -/
theorem mapM_eq_ok_iff {acceptable : α → Prop} {g : α → β}
    (hf : ∀ a b, f a = .ok b ↔ acceptable a ∧ g a = b) {l : List α} {bs : List β} :
    l.mapM f = .ok bs ↔ (∀ a ∈ l, acceptable a) ∧ l.map g = bs := by
  induction l generalizing bs with
  | nil =>
    have hnil : ([] : List α).mapM f = .ok [] := rfl
    rw [hnil, Except.ok.injEq]
    simp
  | cons a l ih =>
    cases ha : f a with
    | error e =>
      have hnot : ¬acceptable a := by
        intro h
        rw [(hf a (g a)).mpr ⟨h, rfl⟩] at ha
        cases ha
      rw [mapM_cons_of_error ha]
      exact iff_of_false (by simp) fun h => hnot (h.1 a List.mem_cons_self)
    | ok b =>
      obtain ⟨hacceptable, rfl⟩ := (hf a b).mp ha
      rw [mapM_cons_of_ok ha, map_eq_ok_iff]
      constructor
      · rintro ⟨cs, hl, rfl⟩
        obtain ⟨hall, rfl⟩ := ih.mp hl
        exact ⟨List.forall_mem_cons.mpr ⟨hacceptable, hall⟩, rfl⟩
      · rintro ⟨hall, rfl⟩
        exact ⟨l.map g, ih.mpr ⟨(List.forall_mem_cons.mp hall).2, rfl⟩, rfl⟩

/-- A list of attempts fails as one of them does. -/
theorem exists_of_mapM_eq_error {l : List α} {e : ε} (h : l.mapM f = .error e) :
    ∃ a ∈ l, f a = .error e := by
  induction l with
  | nil => exact absurd h (by simp [pure, Except.pure])
  | cons a l ih =>
    cases ha : f a with
    | error e' =>
      rw [mapM_cons_of_error ha] at h
      obtain rfl := Except.error.inj h
      exact ⟨a, List.mem_cons_self, ha⟩
    | ok b =>
      rw [mapM_cons_of_ok ha, map_eq_error_iff] at h
      obtain ⟨x, hx, hfx⟩ := ih h
      exact ⟨x, List.mem_cons_of_mem a hx, hfx⟩

end

section

variable {ε α β : Type} {f : α → Except ε (Option β)}

/-- The findings of a list of attempts, where an attempt may find nothing. -/
theorem findings_eq_ok_iff {acceptable : α → Prop} {g : α → Option β}
    (hf : ∀ a b, f a = .ok b ↔ acceptable a ∧ g a = b) {l : List α} {found : List β} :
    (l.mapM f).map (·.filterMap id) = .ok found ↔
      (∀ a ∈ l, acceptable a) ∧ l.filterMap g = found := by
  rw [map_eq_ok_iff]
  constructor
  · rintro ⟨bs, hbs, rfl⟩
    obtain ⟨hall, rfl⟩ := (mapM_eq_ok_iff hf).mp hbs
    exact ⟨hall, by rw [List.filterMap_map]; rfl⟩
  · rintro ⟨hall, rfl⟩
    exact ⟨l.map g, (mapM_eq_ok_iff hf).mpr ⟨hall, rfl⟩, by rw [List.filterMap_map]; rfl⟩

theorem exists_of_findings_eq_error {l : List α} {e : ε}
    (h : (l.mapM f).map (·.filterMap id) = .error e) : ∃ a ∈ l, f a = .error e :=
  exists_of_mapM_eq_error (map_eq_error_iff.mp h)

end

end SourceGrade
