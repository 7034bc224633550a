import SourceGrade.Language.Registry

set_option autoImplicit false

/-!
# What all registered languages have in common

A file name leads to a registered language, and what holds of all of them holds of the language of
every file.
-/

namespace SourceGrade.Language

theorem ofFilename_mem_registry (filename : String) : ofFilename filename ∈ registry := by
  unfold ofFilename ofExtension?
  cases hfound : registry.find? (·.extensions.contains (extensionOf filename)) with
  | none => exact List.mem_cons_self
  | some language => exact List.mem_of_find?_eq_some hfound

/-- The comment marks of a language are those of the C family. -/
structure MarksLikeC (language : Language) : Prop where
  lineComment : language.lineComment = "//"
  blockStart : language.blockStart = "/*"

theorem marksLikeC_of_mem_registry {language : Language} (h : language ∈ registry) :
    language.MarksLikeC := by
  have hall : ∀ l ∈ registry, l.lineComment = "//" ∧ l.blockStart = "/*" := by decide
  exact ⟨(hall language h).1, (hall language h).2⟩

/-- The language of every file marks its comments in the same way. -/
theorem marksLikeC_ofFilename (filename : String) : (ofFilename filename).MarksLikeC :=
  marksLikeC_of_mem_registry (ofFilename_mem_registry filename)

/-- Every registered language ends a block comment in the same way. -/
theorem blockEnd_of_mem_registry {language : Language} (h : language ∈ registry) :
    language.blockEnd = "*/" := by
  have hall : ∀ l ∈ registry, l.blockEnd = "*/" := by decide
  exact hall language h

end SourceGrade.Language
