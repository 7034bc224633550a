import SourceGrade.Proofs.Report.Table
import SourceGrade.Proofs.Text.Line

set_option autoImplicit false

/-!
# Lines that begin in bold

A line of a summary is in bold if it begins with two asterisks. Names and messages are escaped, and
a run of asterisks before ink always gets a backslash, so no line feed in them makes such a line:
`calm_escape`. What is put together from calm texts is calm, and then only a text that is bold from
its start can have a line that begins with the words of a label.
-/

namespace SourceGrade

namespace Markdown

/-! ## Calm texts -/

/-- In a calm text no line after the first one begins with two asterisks. -/
def Calm (t : List Char) : Prop := ¬['\n', '*', '*'] <:+: t

variable {s t : List Char} {x : Char} {before : Option Char}

theorem calm_of_notMem (h : '\n' ∉ t) : Calm t :=
  fun hwithin => h (hwithin.subset List.mem_cons_self)

/-- Nothing becomes bold where the first part has no line feed or no asterisk follows. -/
theorem Calm.append (hs : Calm s) (ht : Calm t) (h : '\n' ∉ s ∨ t.head? ≠ some '*') :
    Calm (s ++ t) := by
  intro hwithin
  rcases List.infix_append_iff.mp hwithin with hin | hin | ⟨front, back, heq, hfront, hback⟩
  · exact hs hin
  · exact ht hin
  · cases front with
    | nil =>
      rw [List.nil_append] at heq
      exact ht (heq ▸ hback.isInfix)
    | cons c front =>
      rw [List.cons_append, List.cons.injEq] at heq
      obtain ⟨rfl, hrest⟩ := heq
      rcases h with hfeed | hhead
      · exact hfeed (hfront.subset List.mem_cons_self)
      · cases back with
        | nil =>
          rw [List.append_nil] at hrest
          exact hs (hrest ▸ hfront.isInfix)
        | cons d back =>
          have hd : d ∈ ['*', '*'] := by
            rw [hrest]
            exact List.mem_append_right front List.mem_cons_self
          obtain ⟨later, rfl⟩ := hback
          refine hhead ?_
          rw [List.cons_append, List.head?_cons]
          simpa using hd

theorem Calm.after (ht : Calm t) (hs : '\n' ∉ s) : Calm (s ++ t) :=
  (calm_of_notMem hs).append ht (.inl hs)

theorem calm_cons (ht : Calm t) (h : x = '\n' → ¬['*', '*'] <+: t) : Calm (x :: t) := by
  intro hwithin
  rcases List.infix_cons_iff.mp hwithin with hin | hin
  · obtain ⟨hx, hstars⟩ := List.cons_prefix_cons.mp hin
    exact h hx.symm hstars
  · exact ht hin

/-! ## Escaped texts -/

/-- Marks stand in front of an asterisk unless it goes on a run or is alone. -/
theorem head?_withMarks (h : t.head? ≠ some '*') (before : Option Char) :
    (withMarks allMarks before t).head? ≠ some '*' := by
  cases t with
  | nil => exact nofun
  | cons x t =>
    rw [withMarks_cons]
    cases hmarks : allMarks before (x :: t) with
    | nil => exact h
    | cons mark marks =>
      have hmark : mark = '\\' := eq_backslash_of_mem_allMarks (hmarks ▸ List.mem_cons_self)
      rw [hmark, List.cons_append, List.head?_cons]
      decide

/-- Two asterisks that begin a run do not come first. -/
theorem not_stars_prefix_withMarks (h : before ≠ some '*') (t : List Char) :
    ¬['*', '*'] <+: withMarks allMarks before t := by
  intro hstars
  cases t with
  | nil => exact absurd (List.prefix_nil.mp hstars) (List.cons_ne_nil _ _)
  | cons x t =>
    rw [withMarks_cons] at hstars
    cases hmarks : allMarks before (x :: t) with
    | cons mark marks =>
      have hmark : mark = '\\' := eq_backslash_of_mem_allMarks (hmarks ▸ List.mem_cons_self)
      rw [hmarks, hmark, List.cons_append, List.cons_prefix_cons] at hstars
      exact absurd hstars.1 (by decide)
    | nil =>
      rw [hmarks, List.nil_append, List.cons_prefix_cons] at hstars
      obtain ⟨rfl, later, hlater⟩ := hstars
      -- The run would have got a mark if its second asterisk were ink.
      have halone : t.head? ≠ some '*' := by
        intro hhead
        have hbegins : runBegins before ('*' :: t) = true := by simp [runBegins, h]
        have hink : inkFollows ('*' :: t) = true := by
          unfold inkFollows
          rw [List.tail_cons, hhead]
          decide
        unfold allMarks at hmarks
        rw [hbegins, hink] at hmarks
        simp at hmarks
      refine head?_withMarks halone (some '*') ?_
      rw [← hlater]
      rfl

theorem calm_withMarks (t : List Char) (before : Option Char) :
    Calm (withMarks allMarks before t) := by
  induction t generalizing before with
  | nil => exact calm_of_notMem List.not_mem_nil
  | cons x t ih =>
    have hmarks : '\n' ∉ allMarks before (x :: t) := fun hmem =>
      absurd (eq_backslash_of_mem_allMarks hmem) (by decide)
    refine (calm_cons (ih (some x)) ?_).after hmarks
    rintro rfl
    exact not_stars_prefix_withMarks (by decide) t

/-- No line feed in a name makes a line in bold. -/
theorem calm_escape (s : String) : Calm (escape s).toList := by
  unfold escape
  rw [String.toList_ofList, escapeChars_eq]
  exact calm_withMarks s.toList none

theorem calm_code (s : String) : Calm (code s).toList := by
  rw [toList_code]
  exact calm_cons ((calm_escape s).append (calm_of_notMem (by decide)) (.inr (by decide)))
    (fun h => absurd h (by decide))

/-! ## Texts that are put together -/

/-- A piece that parts others: it has no line feed and does not begin with an asterisk. -/
structure IsParting (piece : String) : Prop where
  inLine : '\n' ∉ piece.toList
  begins : piece.toList ≠ [] ∧ piece.toList.head? ≠ some '*'

instance (piece : String) : Decidable (IsParting piece) :=
  decidable_of_iff ('\n' ∉ piece.toList ∧ piece.toList ≠ [] ∧ piece.toList.head? ≠ some '*')
    ⟨fun h => ⟨h.1, h.2⟩, fun h => ⟨h.inLine, h.begins⟩⟩

variable {text rest piece : String} {texts : List String}

theorem calm_after (htext : '\n' ∉ text.toList) (hrest : Calm rest.toList) :
    Calm (text ++ rest).toList := by
  rw [String.toList_append]
  exact hrest.after htext

theorem calm_parted (htext : Calm text.toList) (hpiece : IsParting piece)
    (hrest : Calm rest.toList) : Calm (text ++ (piece ++ rest)).toList := by
  have hhead : (piece.toList ++ rest.toList).head? = piece.toList.head? :=
    List.head?_append_of_ne_nil _ hpiece.begins.1
  rw [String.toList_append, String.toList_append]
  refine htext.append (hrest.after hpiece.inLine) (.inr ?_)
  rw [hhead]
  exact hpiece.begins.2

theorem calm_ended (htext : Calm text.toList) (hpiece : IsParting piece) :
    Calm (text ++ piece).toList := by
  rw [String.toList_append]
  exact htext.append (calm_of_notMem hpiece.inLine) (.inr hpiece.begins.2)

theorem calm_intercalate (hpiece : IsParting piece) (h : ∀ s ∈ texts, Calm s.toList) :
    Calm (piece.intercalate texts).toList := by
  induction texts with
  | nil =>
    rw [String.toList_intercalate]
    exact calm_of_notMem List.not_mem_nil
  | cons s texts ih =>
    rw [List.forall_mem_cons] at h
    cases texts with
    | nil =>
      rw [String.intercalate_singleton]
      exact h.1
    | cons s' texts =>
      have hcons : piece.intercalate (s :: s' :: texts) =
          s ++ (piece ++ piece.intercalate (s' :: texts)) := by
        apply String.toList_injective
        simp only [String.toList_append, String.toList_intercalate, List.map_cons,
          List.intercalate_cons_cons, List.append_assoc]
      rw [hcons]
      exact calm_parted h.1 hpiece (ih h.2)

/-! ## Labels -/

/-- A line begins with a label. -/
def isLabelled (label : String) (line : List Char) : Bool := label.toList.isPrefixOf line

/-- No line of a text begins with a label. -/
def Lacks (label text : String) : Prop :=
  ∀ line ∈ Text.lines text.toList, isLabelled label line = false

variable {label : String}

theorem isLabelled_eq_false_iff {line : List Char} :
    isLabelled label line = false ↔ ¬label.toList <+: line := by
  unfold isLabelled
  rw [← Bool.not_eq_true, List.isPrefixOf_iff_prefix]

/-- A label in bold is lacking in a calm text that does not begin with it. -/
theorem lacks_of_calm (hlabel : ['*', '*'] <+: label.toList) (htext : Calm text.toList)
    (h : ¬label.toList <+: text.toList) : Lacks label text := by
  intro line hline
  rw [isLabelled_eq_false_iff]
  intro hbegins
  rcases Text.prefix_or_infix_of_mem_lines hline with hprefix | hwithin
  · exact h (hbegins.trans hprefix)
  · have hbold : ['\n', '*', '*'] <+: '\n' :: line :=
      List.cons_prefix_cons.mpr ⟨rfl, hlabel.trans hbegins⟩
    exact htext (hbold.isInfix.trans hwithin)

theorem filter_of_lacks (h : Lacks label text) :
    (Text.lines text.toList).filter (isLabelled label) = [] := by
  refine List.filter_eq_nil_iff.mpr fun line hline => ?_
  rw [h line hline]
  exact Bool.false_ne_true

theorem lacks_nil (hlabel : ['*', '*'] <+: label.toList) : Lacks label "" := by
  refine lacks_of_calm hlabel (calm_of_notMem (by decide)) fun h => ?_
  exact absurd (List.prefix_nil.mp (hlabel.trans h)) (List.cons_ne_nil _ _)

/-- A label is not at the start of a text that starts in another way. -/
theorem not_prefix_append {start rest label : List Char} (h : ¬label <+: start)
    (h' : ¬start <+: label) : ¬label <+: start ++ rest := by
  intro hprefix
  rcases List.prefix_or_prefix_of_prefix hprefix (List.prefix_append start rest) with hin | hin
  · exact h hin
  · exact h' hin

/-- A text that begins in another way and is calm after that lacks a label. -/
theorem lacks_append (hlabel : ['*', '*'] <+: label.toList) {start : String}
    (hfeed : '\n' ∉ start.toList) (h : ¬label.toList <+: start.toList)
    (h' : ¬start.toList <+: label.toList) (hrest : Calm rest.toList) :
    Lacks label (start ++ rest) := by
  refine lacks_of_calm hlabel (calm_after hfeed hrest) ?_
  rw [String.toList_append]
  exact not_prefix_append h h'

theorem lacks_stacked (hlabel : ['*', '*'] <+: label.toList) (h : ∀ s ∈ texts, Lacks label s) :
    Lacks label (stacked texts) := by
  by_cases hne : texts = []
  · rw [hne]
    exact lacks_nil hlabel
  · intro line hline
    rw [lines_stacked hne] at hline
    obtain ⟨s, hs, hmem⟩ := List.mem_flatMap.mp hline
    exact h s hs line hmem

/-- The lines of paragraphs that begin with a label are those of each of them. -/
theorem filter_lines_apart (hlabel : ['*', '*'] <+: label.toList) (paragraphs : List String) :
    (Text.lines (apart paragraphs).toList).filter (isLabelled label) =
      paragraphs.flatMap fun s => (Text.lines s.toList).filter (isLabelled label) := by
  have hempty : isLabelled label [] = false := lacks_nil hlabel [] (List.mem_singleton_self [])
  induction paragraphs with
  | nil => exact filter_of_lacks (lacks_nil hlabel)
  | cons s paragraphs ih =>
    have hone : apart [s] = s := String.intercalate_singleton
    by_cases hlast : paragraphs = []
    · rw [hlast, hone, List.flatMap_singleton]
    · rw [← List.singleton_append, lines_apart (List.cons_ne_nil s []) hlast, List.filter_append,
        List.filter_cons_of_neg (by rw [hempty]; exact Bool.false_ne_true), ih, hone,
        List.singleton_append, List.flatMap_cons]

theorem flatMap_filter_of_lacks {paragraphs : List String} (h : ∀ s ∈ paragraphs, Lacks label s) :
    (paragraphs.flatMap fun s => (Text.lines s.toList).filter (isLabelled label)) = [] := by
  rw [List.flatMap_eq_nil_iff]
  exact fun s hs => filter_of_lacks (h s hs)

end Markdown

end SourceGrade
