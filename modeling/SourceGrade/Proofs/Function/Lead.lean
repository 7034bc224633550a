import Mathlib.Data.List.DropRight
import SourceGrade.Language.Registry
import SourceGrade.Proofs.Pattern.Named
import SourceGrade.Proofs.Text.Lines

set_option autoImplicit false

/-!
# What leads to a name

A language has one signature pattern, or several that begin their matches with the name itself or
with a keyword and blanks in front of it. Different patterns may begin at different places of one
declaration, but there are no more than two of them: no keyword ends in another one, so the keyword
in front of a name is determined by the text.
-/

namespace SourceGrade

open Pattern (inOrder anyOf word)

namespace Language

open Text (isBlank)

/-- The keywords with which a match may begin if a language has more than one signature pattern. -/
def keywords : List String := ["function", "const", "let", "var", "async"]

/-- A keyword and blanks lead from one offset of a text to another. -/
structure LeadsTo (t : List Char) (start stop : Nat) (keyword : String) (gap : List Char) :
    Prop where
  mem_keywords : keyword ∈ keywords
  /-- There is a blank after the keyword. -/
  gap_ne_nil : gap ≠ []
  /-- There is nothing else. -/
  blank : ∀ x ∈ gap, isBlank x = true
  between : t.take stop = t.take start ++ (keyword.toList ++ gap)

namespace LeadsTo

variable {t : List Char} {start start' stop : Nat} {keyword keyword' : String}
  {gap gap' : List Char}

theorem last_of_mem_keywords (h : keyword ∈ keywords) {x : Char} {rest : List Char}
    (hlast : keyword.toList.reverse = x :: rest) : isBlank x = false := by
  have hall : ∀ k ∈ keywords, k.toList.reverse.head?.any isBlank = false := by decide
  have hkeyword := hall keyword h
  rwa [hlast, List.head?_cons, Option.any_some] at hkeyword

theorem ne_nil_of_mem_keywords (h : keyword ∈ keywords) : keyword.toList ≠ [] := by
  have hall : ∀ k ∈ keywords, k.toList ≠ [] := by decide
  exact hall keyword h

/-- No keyword ends in another one. -/
theorem eq_of_suffix (h : keyword ∈ keywords) (h' : keyword' ∈ keywords)
    (hsuffix : keyword.toList <:+ keyword'.toList) : keyword = keyword' := by
  have hall : ∀ k ∈ keywords, ∀ k' ∈ keywords, k.toList <:+ k'.toList → k = k' := by decide
  exact hall keyword h keyword' h' hsuffix

/-- What is between the keyword and the name are all the blanks in front of the name. -/
theorem blanks_eq (h : LeadsTo t start stop keyword gap) :
    (t.take stop).rtakeWhile isBlank = gap := by
  have hreverse : (t.take stop).reverse =
      gap.reverse ++ (keyword.toList.reverse ++ (t.take start).reverse) := by
    rw [h.between, List.reverse_append, List.reverse_append, List.append_assoc]
  unfold List.rtakeWhile
  rw [hreverse, Cursor.takeWhile_eq (fun x hx => h.blank x (List.mem_reverse.mp hx)),
    List.reverse_reverse]
  intro x rest hrest
  cases hkeyword : keyword.toList.reverse with
  | nil =>
    exact absurd (List.reverse_eq_nil_iff.mp hkeyword) (ne_nil_of_mem_keywords h.mem_keywords)
  | cons y ys =>
    rw [hkeyword, List.cons_append, List.cons.injEq] at hrest
    exact hrest.1 ▸ last_of_mem_keywords h.mem_keywords hkeyword

theorem lt (h : LeadsTo t start stop keyword gap) (hstop : stop ≤ t.length) : start < stop := by
  have hlength := congrArg List.length h.between
  have hpos := List.length_pos_iff.mpr h.gap_ne_nil
  simp only [List.length_append, List.length_take] at hlength
  omega

/-- What leads to a place begins at one place. -/
theorem unique (h : LeadsTo t start stop keyword gap) (h' : LeadsTo t start' stop keyword' gap')
    (hstop : stop ≤ t.length) : start = start' := by
  have hgap : gap = gap' := h.blanks_eq.symm.trans h'.blanks_eq
  have hfront : t.take start ++ keyword.toList = t.take start' ++ keyword'.toList := by
    have hbetween := h.between.symm.trans h'.between
    rw [← hgap, ← List.append_assoc, ← List.append_assoc] at hbetween
    exact List.append_cancel_right hbetween
  have hkeyword : keyword = keyword' := by
    rcases List.suffix_or_suffix_of_suffix ⟨_, rfl⟩ ⟨_, hfront.symm⟩ with hsuffix | hsuffix
    · exact eq_of_suffix h.mem_keywords h'.mem_keywords hsuffix
    · exact (eq_of_suffix h'.mem_keywords h.mem_keywords hsuffix).symm
  rw [hkeyword] at hfront
  have hlength := congrArg List.length (List.append_cancel_right hfront)
  have hlt := h.lt hstop
  have hlt' := h'.lt hstop
  rw [List.length_take, List.length_take] at hlength
  omega

/-- The keyword stands as many lines before the name as there are line feeds between them. -/
theorem lineAt_eq (h : LeadsTo t start stop keyword gap) :
    Text.lineAt t stop = Text.lineAt t start + Text.lineFeeds gap := by
  have hnone : ∀ k ∈ keywords, Text.lineFeeds k.toList = 0 := by decide
  unfold Text.lineAt
  rw [h.between, Text.lineFeeds_append, Text.lineFeeds_append, hnone keyword h.mem_keywords]
  omega

/-- They are on different lines if and only if there is a line feed between them. -/
theorem lineAt_ne_iff (h : LeadsTo t start stop keyword gap) :
    Text.lineAt t start ≠ Text.lineAt t stop ↔ '\n' ∈ gap := by
  have hpos : 0 < Text.lineFeeds gap ↔ '\n' ∈ gap := List.count_pos_iff
  rw [h.lineAt_eq, ← hpos]
  omega

end LeadsTo

/-! ## The patterns -/

variable {c d : Cursor}

/-- A sequence of patterns passes over nothing, or over a keyword and blanks. -/
def KeywordLed (lead : List Pattern) : Prop :=
  ∀ c d, d ∈ (inOrder lead).outcomes c → d = c ∨
    ∃ keyword ∈ keywords, ∃ gap, gap ≠ [] ∧ (∀ x ∈ gap, isBlank x = true) ∧
      c.rest = (keyword.toList ++ gap) ++ d.rest ∧
      d.offset = c.offset + (keyword.toList ++ gap).length

theorem keywordLed_words (words : List String) (h : words ⊆ keywords) :
    KeywordLed [anyOf (words.map word), someBlanks] := by
  intro c d hd
  obtain ⟨e, he, hd⟩ := Pattern.mem_outcomes_inOrder_cons.mp hd
  obtain ⟨f, hf, hd⟩ := Pattern.mem_outcomes_inOrder_cons.mp hd
  obtain ⟨w, hw, rest, hrest, rfl⟩ := Pattern.mem_outcomes_anyOf_word.mp he
  obtain ⟨gap, later, hgap, hblank, hpos, -, rfl⟩ := (Cursor.mem_runStops_iff (by decide)).mp hf
  rw [Pattern.mem_outcomes_nothing.mp hd]
  obtain rfl : rest = gap ++ later := hgap
  refine .inr ⟨w, h hw, gap, List.length_pos_iff.mp hpos, hblank, ?_, ?_⟩
  · rw [hrest, List.append_assoc]
    rfl
  · rw [List.length_append, ← Nat.add_assoc]
    rfl

theorem keywordLed_wordEdge : KeywordLed [.wordEdge] := by
  intro c d hd
  exact .inl (Pattern.mem_outcomes_wordEdge.mp hd).2

theorem keywordLed_maybeAsync : KeywordLed [.wordEdge, maybeAsync] := by
  intro c d hd
  obtain ⟨e, he, hd⟩ := Pattern.mem_outcomes_inOrder_cons.mp hd
  rw [(Pattern.mem_outcomes_wordEdge.mp he).2] at hd
  rcases Pattern.mem_outcomes_alt.mp hd with hd | hd
  · exact keywordLed_words ["async"] (by decide) c d hd
  · exact .inl (Pattern.mem_outcomes_nothing.mp hd)

/-- The signature patterns of a language mark a name, and either there is one of them or each of
them begins with the name or with a keyword in front of it. -/
theorem signature_patterns {language : Language} (h : language ∈ registry) :
    (∃ p lead, language.functionPatterns = [p] ∧ p.MarksAfter lead) ∨
      ∀ p ∈ language.functionPatterns, ∃ lead, KeywordLed lead ∧ p.MarksAfter lead := by
  have hfunction : KeywordLed [word "function", someBlanks] :=
    keywordLed_words ["function"] (by decide)
  have hbinder : KeywordLed [binder, someBlanks] :=
    keywordLed_words ["const", "let", "var"] (by decide)
  simp only [registry, List.mem_cons, List.not_mem_nil, or_false] at h
  rcases h with rfl | rfl | rfl | rfl | rfl | rfl
  · right
    simp only [javascript, List.forall_mem_cons]
    exact ⟨⟨_, hfunction, aWord, _, rfl, rfl⟩, ⟨_, hbinder, aWord, _, rfl, rfl⟩,
      ⟨_, keywordLed_wordEdge, aWord, _, rfl, rfl⟩,
      ⟨_, keywordLed_maybeAsync, aWord, _, rfl, rfl⟩, nofun⟩
  · right
    simp only [typescript, List.forall_mem_cons]
    exact ⟨⟨_, hfunction, aWord, _, rfl, rfl⟩, ⟨_, hbinder, aWord, _, rfl, rfl⟩,
      ⟨_, keywordLed_maybeAsync, aWord, _, rfl, rfl⟩, nofun⟩
  · exact .inl ⟨_, [_, someBlanks, aWord, generic, someBlanks], rfl, aWord, _, rfl, rfl⟩
  · exact .inl ⟨_, [.wordEdge, _, someBlanks], rfl, aWord, _, rfl, rfl⟩
  · exact .inl ⟨_, [word "func", someBlanks, _], rfl, aWord, _, rfl, rfl⟩
  · right
    simp only [vue, List.forall_mem_cons]
    exact ⟨⟨_, hfunction, aWord, _, rfl, rfl⟩, ⟨_, hbinder, aWord, _, rfl, rfl⟩,
      ⟨_, keywordLed_wordEdge, aWord, _, rfl, rfl⟩, nofun⟩

theorem exists_marksAfter {language : Language} (h : language ∈ registry) {p : Pattern}
    (hp : p ∈ language.functionPatterns) : ∃ lead, p.MarksAfter lead := by
  rcases signature_patterns h with ⟨q, lead, hone, hmarks⟩ | hled
  · rw [hone, List.mem_singleton] at hp
    exact ⟨lead, hp ▸ hmarks⟩
  · obtain ⟨lead, -, hmarks⟩ := hled p hp
    exact ⟨lead, hmarks⟩

end Language

end SourceGrade
