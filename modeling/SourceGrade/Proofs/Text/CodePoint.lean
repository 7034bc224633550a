import SourceGrade.Text.CodePoint

set_option autoImplicit false

/-!
# Texts of characters

A text that may hold halves of pairs is whole if and only if it is a text of characters.
-/

namespace SourceGrade.Text.WideText

variable {t : WideText} {cs : List Char}

theorem isWhole_ofChars (cs : List Char) : (ofChars cs).isWhole = true :=
  List.all_map.trans (List.all_eq_true.mpr fun _ _ => rfl)

theorem filterMap_char?_ofChars (cs : List Char) :
    (ofChars cs).filterMap CodePoint.char? = cs := by
  unfold ofChars
  rw [List.filterMap_map]
  exact List.filterMap_some

@[simp] theorem chars?_ofChars (cs : List Char) : (ofChars cs).chars? = some cs := by
  unfold chars?
  rw [if_pos (isWhole_ofChars cs), filterMap_char?_ofChars]

theorem ofChars_filterMap_char? (h : t.isWhole = true) :
    ofChars (t.filterMap CodePoint.char?) = t := by
  induction t with
  | nil => rfl
  | cons p t ih =>
    have hboth : (p.char?.isSome && isWhole t) = true := List.all_cons.symm.trans h
    obtain ⟨hfirst, hrest⟩ := Bool.and_eq_true_iff.mp hboth
    cases p with
    | char c => exact congrArg (CodePoint.char c :: ·) (ih hrest)
    | half n => cases hfirst

theorem chars?_eq_some_iff : t.chars? = some cs ↔ t = ofChars cs := by
  constructor
  · intro h
    unfold chars? at h
    split at h
    · rename_i hwhole
      rw [← Option.some.inj h, ofChars_filterMap_char? hwhole]
    · cases h
  · rintro rfl
    exact chars?_ofChars cs

end SourceGrade.Text.WideText
