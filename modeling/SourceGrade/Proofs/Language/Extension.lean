import Mathlib.Data.List.Nodup
import SourceGrade.Language.Registry

set_option autoImplicit false

/-!
# The language of an extension

No two registered languages share an extension, so it does not matter in which order they are
looked up. What follows the last dot of a name is brought to small letters by itself: the dot in
front of it has no influence on the case of what follows.
-/

namespace SourceGrade

namespace Text

/-- A dot is passed over where the end of a word is sought. -/
theorem meetsCased_concat_dot (before : List Char) :
    meetsCased (before ++ ['.']) = meetsCased before := by
  have hdot : CharRun.anyContains transparentRuns '.' = true := by decide
  unfold meetsCased
  induction before with
  | nil => simp [List.dropWhile, hdot]
  | cons c before ih =>
    by_cases hc : CharRun.anyContains transparentRuns c = true
    · rw [List.cons_append, List.dropWhile_cons_of_pos hc, List.dropWhile_cons_of_pos hc]
      exact ih
    · rw [List.cons_append, List.dropWhile_cons_of_neg hc, List.dropWhile_cons_of_neg hc]

theorem lowerAfter_concat_dot (before t : List Char) :
    lowerAfter (before ++ ['.']) t = lowerAfter before t := by
  induction t generalizing before with
  | nil => rfl
  | cons c t ih =>
    have hlater := ih (c :: before)
    rw [List.cons_append] at hlater
    rw [lowerAfter, lowerAfter, meetsCased_concat_dot, hlater]

theorem lower_dot_cons (t : List Char) : lower ('.' :: t) = '.' :: lower t := by
  have hdot : lowerChar '.' = ['.'] := by decide
  have hafter := lowerAfter_concat_dot [] t
  rw [List.nil_append] at hafter
  unfold lower
  rw [lowerAfter, if_neg (by decide), hdot, hafter]
  rfl

/-- What follows the last dot of a text is read from its end. -/
theorem reverse_takeWhile_dot {stem tail : List Char} (h : '.' ∉ tail) :
    ((stem ++ '.' :: tail).reverse.takeWhile (· != '.')).reverse = tail := by
  have htail : ∀ c ∈ tail.reverse, (c != '.') = true := by
    intro c hc
    rw [bne_iff_ne]
    rintro rfl
    exact h (List.mem_reverse.mp hc)
  rw [List.reverse_append, List.reverse_cons, List.append_assoc,
    List.takeWhile_append_of_pos htail, List.singleton_append,
    List.takeWhile_cons_of_neg (by decide), List.append_nil, List.reverse_reverse]

/-- A text without a dot is read from its end as a whole. -/
theorem reverse_takeWhile_of_notMem {t : List Char} (h : '.' ∉ t) :
    (t.reverse.takeWhile (· != '.')).reverse = t := by
  have hall : ∀ c ∈ t.reverse, (c != '.') = true := by
    intro c hc
    rw [bne_iff_ne]
    rintro rfl
    exact h (List.mem_reverse.mp hc)
  rw [← List.append_nil t.reverse, List.takeWhile_append_of_pos hall, List.takeWhile_nil,
    List.append_nil, List.reverse_reverse]

/-- A text with a dot is cut in two at its last one. -/
theorem exists_last_dot {t : List Char} (h : '.' ∈ t) :
    ∃ stem tail, t = stem ++ '.' :: tail ∧ '.' ∉ tail := by
  obtain ⟨tail, stem, ht, htail⟩ := List.eq_append_cons_of_mem (List.mem_reverse.mpr h)
  refine ⟨stem.reverse, tail.reverse, ?_, mt List.mem_reverse.mp htail⟩
  rw [← List.reverse_reverse t, ht]
  simp

end Text

namespace Language

variable {language other : Language} {extension : String}

/-- The extension of a name is its last dot and what follows it, in small letters. -/
theorem extensionOf_eq {filename : String} {stem tail : List Char}
    (hname : filename.toList = stem ++ '.' :: tail) (htail : '.' ∉ tail) :
    extensionOf filename = String.ofList (Text.lower ('.' :: tail)) := by
  unfold extensionOf
  rw [hname, Text.reverse_takeWhile_dot htail, Text.lower_dot_cons]

/-- An extension belongs to no more than one registered language. -/
theorem eq_of_mem_extensions (h : language ∈ registry) (h' : other ∈ registry)
    (he : extension ∈ language.extensions) (he' : extension ∈ other.extensions) :
    other = language := by
  have hshared : ∀ l ∈ registry, ∀ l' ∈ registry, ∀ e ∈ l.extensions, e ∈ l'.extensions →
      l'.tag = l.tag := by decide
  have htags : (registry.map (·.tag)).Nodup := by decide
  exact List.inj_on_of_nodup_map htags h' h (hshared language h other h' extension he he')

/-- An extension leads to the registered language that it belongs to. -/
theorem ofExtension?_eq_some_iff :
    ofExtension? extension = some language ↔
      language ∈ registry ∧ extension ∈ language.extensions := by
  unfold ofExtension?
  constructor
  · intro h
    exact ⟨List.mem_of_find?_eq_some h, by simpa using List.find?_some h⟩
  · rintro ⟨hlanguage, he⟩
    cases hfound : registry.find? (·.extensions.contains extension) with
    | none => simpa [he] using List.find?_eq_none.mp hfound language hlanguage
    | some found =>
      have hfe : extension ∈ found.extensions := by simpa using List.find?_some hfound
      rw [eq_of_mem_extensions hlanguage (List.mem_of_find?_eq_some hfound) he hfe]

end Language

end SourceGrade
