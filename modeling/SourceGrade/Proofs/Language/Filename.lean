import SourceGrade.Proofs.Language.Extension

set_option autoImplicit false

/-!
# The language of a file name

What follows the last dot of a name decides alone, whatever comes before it: directories, further
dots or nothing. A name without a dot has no extension, but it is looked up as if all of it were
one, so it leads to the language that is assumed of unknown files unless it spells an extension.
-/

namespace SourceGrade.Language

variable {language other : Language} {extension filename : String}

/-- A language is the one that files with an extension are taken to be written in: the registered
language that owns the extension, or the assumed one if no language does. -/
structure IsAssigned (extension : String) (language : Language) : Prop where
  owner : ∀ l ∈ registry, extension ∈ l.extensions → language = l
  otherwise : (∀ l ∈ registry, extension ∉ l.extensions) → language = fallback

/-- The extension that a text without dots spells: a dot and the text in small letters. -/
def spelled (tail : String) : String := "." ++ String.ofList (Text.lower tail.toList)

theorem spelled_eq (tail : String) :
    spelled tail = String.ofList ('.' :: Text.lower tail.toList) := by
  unfold spelled
  simp

/-- An extension has one language. -/
theorem IsAssigned.unique (h : IsAssigned extension language) (h' : IsAssigned extension other) :
    language = other := by
  by_cases howned : ∃ l ∈ registry, extension ∈ l.extensions
  · obtain ⟨l, hl, he⟩ := howned
    rw [h.owner l hl he, h'.owner l hl he]
  · have hnone : ∀ l ∈ registry, extension ∉ l.extensions :=
      fun l hl he => howned ⟨l, hl, he⟩
    rw [h.otherwise hnone, h'.otherwise hnone]

/-- The look-up of an extension gives its language. -/
theorem isAssigned_getD_ofExtension? (extension : String) :
    IsAssigned extension ((ofExtension? extension).getD fallback) where
  owner := fun l hl he => by
    rw [ofExtension?_eq_some_iff.mpr ⟨hl, he⟩, Option.getD_some]
  otherwise := fun hnone => by
    cases hfound : ofExtension? extension with
    | none => rfl
    | some l =>
      obtain ⟨hl, he⟩ := ofExtension?_eq_some_iff.mp hfound
      exact absurd he (hnone l hl)

/-- An extension is that of the assumed language if no other language owns it. -/
theorem IsAssigned.eq_fallback_iff (h : IsAssigned extension language) :
    language = fallback ↔ ∀ l ∈ registry, extension ∈ l.extensions → l = fallback := by
  constructor
  · rintro rfl l hl he
    exact (h.owner l hl he).symm
  · intro hall
    by_cases howned : ∃ l ∈ registry, extension ∈ l.extensions
    · obtain ⟨l, hl, he⟩ := howned
      rw [h.owner l hl he, hall l hl he]
    · exact h.otherwise fun l hl he => howned ⟨l, hl, he⟩

/-! ## Names with and without a dot -/

/-- The extension of a name is spelled by what follows its last dot. -/
theorem extensionOf_append_dot (stem : String) {tail : String} (h : '.' ∉ tail.toList) :
    extensionOf (stem ++ "." ++ tail) = spelled tail := by
  have hname : (stem ++ "." ++ tail).toList = stem.toList ++ '.' :: tail.toList := by
    rw [String.toList_append, String.toList_append, List.append_assoc]
    rfl
  rw [extensionOf_eq hname h, Text.lower_dot_cons, spelled_eq]

/-- A name without a dot is looked up as if it were an extension. -/
theorem extensionOf_of_notMem (h : '.' ∉ filename.toList) :
    extensionOf filename = spelled filename := by
  unfold extensionOf
  rw [Text.reverse_takeWhile_of_notMem h, spelled_eq]

/-- What follows the last dot of a name decides on its language. As a name of its own, without the
dot, it leads to the same language, so to the one that is assumed of unknown files exactly if it
spells no extension of another one. -/
theorem ofFilename_spelled (stem tail : String) (h : '.' ∉ tail.toList) :
    IsAssigned (spelled tail) (ofFilename (stem ++ "." ++ tail)) ∧
      IsAssigned (spelled tail) (ofFilename tail) ∧
      (ofFilename tail = fallback ↔
        ∀ l ∈ registry, spelled tail ∈ l.extensions → l = fallback) := by
  have hassigned := isAssigned_getD_ofExtension? (spelled tail)
  unfold ofFilename
  rw [extensionOf_append_dot stem h, extensionOf_of_notMem h]
  exact ⟨hassigned, hassigned, hassigned.eq_fallback_iff⟩

/-- The last of several dots counts, also where it belongs to a directory. -/
theorem ofFilename_spelled_severalDots :
    ('.' ∉ "GO".toList ∧ ofFilename ("cmd.v2/server" ++ "." ++ "GO") = go) ∧
    ('.' ∉ "ts/LICENSE".toList ∧ ofFilename ("legacy" ++ "." ++ "ts/LICENSE") = fallback) ∧
    '.' ∉ "Makefile".toList ∧ ofFilename "Makefile" = fallback := by
  have hgo : '.' ∉ "GO".toList := by decide
  have hlicense : '.' ∉ "ts/LICENSE".toList := by decide
  have hmake : '.' ∉ "Makefile".toList := by decide
  refine ⟨⟨hgo, ?_⟩, ⟨hlicense, ?_⟩, hmake, ?_⟩
  · exact (ofFilename_spelled "cmd.v2/server" "GO" hgo).1.owner go (by simp [registry]) (by decide)
  · exact (ofFilename_spelled "legacy" "ts/LICENSE" hlicense).1.otherwise (by decide)
  · exact (ofFilename_spelled "src" "Makefile" hmake).2.1.otherwise (by decide)

/-- A file that is named like an extension has no extension, and yet it is not taken for a file of
the assumed language. -/
theorem bareName_not_fallback :
    '.' ∉ "go".toList ∧ (ofFilename "go").tag = "go" ∧ ofFilename "go" ≠ fallback := by
  have htag : (ofFilename "go").tag = "go" := by decide
  refine ⟨by decide, htag, fun hsame => ?_⟩
  rw [hsame] at htag
  exact absurd htag (by decide)

end SourceGrade.Language
