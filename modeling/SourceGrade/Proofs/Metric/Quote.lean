import SourceGrade.Proofs.Metric.Smell
import SourceGrade.Proofs.Pattern.Named
import SourceGrade.Proofs.Text.Line
import SourceGrade.Proofs.Text.Tally

set_option autoImplicit false

/-!
# The lines of quoted findings

Two kinds of smells quote the text: a note of unfinished work its tag, an unexplained number its
digits. What is quoted stands after a sign, the beginning of a comment or an operator, with nothing
but blanks between them, and the smell is on the line of the sign. Blanks may hold line feeds: what
is quoted stands as many lines further down as there are line feeds between the two, so the line of
the smell shows it if there are none, and otherwise only if the same is written before the sign.
-/

namespace SourceGrade.Smell

open Pattern (word inOrder anyOf)
open Text (isBlank isWord lineAt lineFeeds lastLine firstLine HoldsOnLine)

variable {t gap quote : List Char} {signs : List String} {start : Nat} {s : Smell}

/-! ## Quotes -/

/-- From an offset of a text on stand a sign, blanks and a quoted piece. -/
structure QuoteAt (signs : List String) (t : List Char) (start : Nat) (gap quote : List Char) :
    Prop where
  parts : ∃ sign ∈ signs, ∃ after, t.drop start = sign.toList ++ (gap ++ (quote ++ after))
  /-- Nothing but blanks stands between the sign and the quoted piece. -/
  blank : ∀ c ∈ gap, isBlank c = true
  /-- The quoted piece is made of word characters. -/
  word : ∀ c ∈ quote, isWord c = true

/-- The signs are written in characters that are neither those of words nor line feeds. -/
def AreSigns (signs : List String) : Prop :=
  ∀ sign ∈ signs, ∀ c ∈ sign.toList, isWord c = false ∧ c ≠ '\n'

instance (signs : List String) : Decidable (AreSigns signs) :=
  decidable_of_iff
    ((signs.all fun sign => sign.toList.all fun c => !isWord c && c != '\n') = true)
    (by simp [AreSigns])

theorem lineFeed_notMem_of_isWord {piece : List Char} (h : ∀ c ∈ piece, isWord c = true) :
    '\n' ∉ piece := by
  intro hmem
  have hfeed := h _ hmem
  rw [Text.isWord_of_isBlank (by decide)] at hfeed
  exact Bool.false_ne_true hfeed

/-- The line of the sign shows the quoted piece if no line feed stands between them. Otherwise the
line ends with blanks after the sign, so the piece would have to stand before the sign. -/
theorem QuoteAt.holdsOnLine_iff (h : QuoteAt signs t start gap quote) (hsigns : AreSigns signs) :
    HoldsOnLine t (lineAt t start : Int) quote ↔
      '\n' ∉ gap ∨ quote <:+: lastLine (t.take start) := by
  obtain ⟨sign, hsign, after, hparts⟩ := h.parts
  have hfeed : '\n' ∉ sign.toList := fun hmem => (hsigns sign hsign _ hmem).2 rfl
  rw [Text.holdsOnLine_lineAt_iff, hparts, Text.firstLine_append hfeed]
  by_cases hgap : '\n' ∈ gap
  · obtain ⟨upper, lower, rfl, hupper⟩ := List.eq_append_cons_of_mem hgap
    have hrest : firstLine (upper ++ '\n' :: lower ++ (quote ++ after)) = upper := by
      rw [List.append_assoc, Text.firstLine_append hupper, List.cons_append,
        Text.firstLine_cons_lineFeed, List.append_nil]
    have hink : ∀ c ∈ sign.toList ++ upper, isWord c = false := by
      intro c hc
      rcases List.mem_append.mp hc with hc | hc
      · exact (hsigns sign hsign c hc).1
      · exact Text.isWord_of_isBlank (h.blank c (List.mem_append_left _ hc))
    rw [hrest, Text.infix_append_left_iff h.word hink]
    exact ⟨.inr, fun hor => hor.resolve_left (not_not_intro hgap)⟩
  · refine iff_of_true ?_ (.inl hgap)
    rw [Text.firstLine_append hgap, Text.firstLine_append (lineFeed_notMem_of_isWord h.word)]
    exact ⟨lastLine (t.take start) ++ sign.toList ++ gap, firstLine after, by simp⟩

/-- The quoted piece stands as many lines below the sign as there are line feeds between them. -/
theorem QuoteAt.holdsOnLine_below (h : QuoteAt signs t start gap quote) (hsigns : AreSigns signs) :
    HoldsOnLine t ((lineAt t start : Int) + lineFeeds gap) quote := by
  obtain ⟨sign, hsign, after, hparts⟩ := h.parts
  have hfeed : '\n' ∉ sign.toList := fun hmem => (hsigns sign hsign _ hmem).2 rfl
  have hlead : sign.toList ++ gap <+: t.drop start := by
    rw [hparts, ← List.append_assoc]
    exact List.prefix_append _ _
  have hdrop : t.drop (start + (sign.toList ++ gap).length) = quote ++ after := by
    rw [← List.drop_drop, hparts, ← List.append_assoc, List.drop_left]
  have hnone : lineFeeds sign.toList = 0 := List.count_eq_zero_of_not_mem hfeed
  have hnumber : (lineAt t (start + (sign.toList ++ gap).length) : Int) =
      (lineAt t start : Int) + lineFeeds gap := by
    rw [Text.lineAt_add_length hlead, Text.lineFeeds_append, hnone, Nat.zero_add]
    exact Int.natCast_add _ _
  rw [← hnumber]
  refine Text.holdsOnLine_lineAt (lineFeed_notMem_of_isWord h.word) ?_
  rw [hdrop]
  exact List.prefix_append quote after

/-! ## Tags -/

/-- The tags of unfinished work. -/
def tags : List String := ["TODO", "FIXME", "HACK", "XXX", "BUG"]

theorem isWord_capital : ∀ n, 65 ≤ n → n ≤ 90 → isWord (Char.ofNat n) = true := by decide +kernel

theorem isWord_of_toLower {x : Char} (h : isWord x.toLower = true) : isWord x = true := by
  unfold Char.toLower at h
  split at h
  · rename_i hcapital
    have hword := isWord_capital x.toNat hcapital.1 hcapital.2
    rwa [Char.ofNat_toNat] at hword
  · exact h

theorem isWord_forms : ((tags.flatMap String.toList).all fun letter =>
    isWord letter.toLower && (otherForms letter).all isWord) = true := by decide +kernel

/-- Every form of a letter of a tag is a word character. -/
theorem isWord_of_sameLetter {letter x : Char} (hletter : letter ∈ tags.flatMap String.toList)
    (h : sameLetter letter x = true) : isWord x = true := by
  have hforms := List.all_eq_true.mp isWord_forms letter hletter
  rw [Bool.and_eq_true] at hforms
  unfold sameLetter at h
  rw [Bool.or_eq_true, beq_iff_eq, List.contains_iff_mem] at h
  rcases h with h | h
  · exact isWord_of_toLower (h ▸ hforms.1)
  · exact List.all_eq_true.mp hforms.2 x h

/-- A word in any mixture of capitals and small letters is passed over letter by letter. -/
theorem exists_of_mem_outcomes_anyCase {tag : String} {c d : Cursor}
    (h : d ∈ (anyCase tag).outcomes c) :
    ∃ piece, c.rest = piece ++ d.rest ∧ d.offset = c.offset + piece.length ∧
      ∀ x ∈ piece, ∃ letter ∈ tag.toList, sameLetter letter x = true := by
  unfold anyCase at h
  generalize tag.toList = letters at h ⊢
  induction letters generalizing c with
  | nil =>
    obtain rfl := Pattern.mem_outcomes_nothing.mp h
    exact ⟨[], rfl, rfl, nofun⟩
  | cons letter letters ih =>
    rw [List.map_cons] at h
    obtain ⟨e, he, hd⟩ := Pattern.mem_outcomes_inOrder_cons.mp h
    obtain ⟨first, rest, hfirst, hsame, rfl⟩ := Cursor.exists_of_mem_runStops he
    obtain ⟨piece, hpiece, hoffset, hletters⟩ := ih hd
    have hrest : rest = piece ++ d.rest := hpiece
    have hpassed : d.offset = c.offset + first.length + piece.length := hoffset
    refine ⟨first ++ piece, ?_, ?_, fun x hx => ?_⟩
    · rw [hfirst, hrest, List.append_assoc]
    · rw [hpassed, List.length_append, Nat.add_assoc]
    · rcases List.mem_append.mp hx with hx | hx
      · exact ⟨letter, List.mem_cons_self, hsame x hx⟩
      · obtain ⟨l, hl, hlx⟩ := hletters x hx
        exact ⟨l, List.mem_cons_of_mem letter hl, hlx⟩

theorem areSigns_slashes : AreSigns ["//"] := by decide +kernel

/-- A hit of a note marks its tag, which stands after slashes. -/
theorem exists_quoteAt_of_mem_todoHits {h : Hit} (hmem : h ∈ todoComment.hits t) :
    ∃ gap tag, h.marked = some tag ∧ QuoteAt ["//"] t h.start gap tag := by
  obtain ⟨i, d, hfinds, rfl⟩ := Pattern.findsAt_of_mem_hits hmem
  have hd := Pattern.mem_outcomes_of_firstOutcome? hfinds.found
  have hparts : todoComment = inOrder [word "//", Language.blanks,
    .mark (anyOf (tags.map anyCase)), .wordEdge] := rfl
  rw [hparts] at hd
  obtain ⟨a, ha, hd⟩ := Pattern.mem_outcomes_inOrder_cons.mp hd
  obtain ⟨b, hb, hd⟩ := Pattern.mem_outcomes_inOrder_cons.mp hd
  obtain ⟨c, hc, hd⟩ := Pattern.mem_outcomes_inOrder_cons.mp hd
  obtain ⟨-, rfl⟩ := Pattern.mem_outcomes_wordEdge.mp hd
  obtain ⟨rest, hsign, rfl⟩ := Pattern.mem_outcomes_text.mp ha
  obtain ⟨gap, rest', hgap, hblank, rfl⟩ := Pattern.mem_outcomes_many.mp hb
  obtain ⟨e, he, rfl⟩ := Pattern.mem_outcomes_mark.mp hc
  obtain ⟨p, hp, he⟩ := Pattern.mem_outcomes_anyOf.mp he
  obtain ⟨tag, htag, rfl⟩ := List.mem_map.mp hp
  obtain ⟨piece, hpiece, hoffset, hletters⟩ := exists_of_mem_outcomes_anyCase he
  have hdrop : t.drop i = "//".toList ++ rest := hsign
  have hafter : rest = gap ++ rest' := hgap
  have htext : rest' = piece ++ e.rest := hpiece
  refine ⟨gap, piece, Cursor.marked_marking hpiece hoffset, ?_, hblank, fun x hx => ?_⟩
  · refine ⟨"//", List.mem_singleton_self _, e.rest, ?_⟩
    rw [← htext, ← hafter]
    exact hdrop
  · obtain ⟨letter, hletter, hsame⟩ := hletters x hx
    exact isWord_of_sameLetter (List.mem_flatMap.mpr ⟨tag, htag, hletter⟩) hsame

/-! ## Numbers -/

theorem areSigns_operators : AreSigns operators := by decide +kernel

/-- A hit of a number marks its digits, which stand after an operator. -/
theorem exists_quoteAt_of_mem_operandHits {h : Hit} (hmem : h ∈ operand.hits t) :
    ∃ gap digits, h.marked = some digits ∧ QuoteAt operators t h.start gap digits := by
  obtain ⟨digits, hmarked, op, gap, rest, hbegins⟩ := exists_marked hmem
  obtain ⟨sign, hsign, rfl⟩ := List.mem_map.mp hbegins.operator
  exact ⟨gap, digits, hmarked, ⟨sign, hsign, rest, hbegins.text⟩, hbegins.blank,
    fun c hc => Text.isWord_of_isDigit (hbegins.digit c hc)⟩

/-! ## The lines of quoted findings -/

/-- A line has the sign after which a quoted piece stands. The line shows the piece unless a line
feed stands between the two and the piece is not written before the sign as well, and the line that
is further down by the number of these line feeds always shows it. -/
def PointsTo (signs : List String) (t : List Char) (line : Int) (quote : List Char) : Prop :=
  ∃ start gap, QuoteAt signs t start gap quote ∧ line = lineAt t start ∧
    (HoldsOnLine t line quote ↔ '\n' ∉ gap ∨ quote <:+: lastLine (t.take start)) ∧
    HoldsOnLine t (line + lineFeeds gap) quote

theorem QuoteAt.pointsTo (h : QuoteAt signs t start gap quote) (hsigns : AreSigns signs) :
    PointsTo signs t (lineAt t start : Int) quote :=
  ⟨start, gap, h, rfl, h.holdsOnLine_iff hsigns, h.holdsOnLine_below hsigns⟩

/-- The line of a note has the slashes before the tag. -/
theorem FoundOn.pointsTo_tag {tag : List Char} {number : Nat}
    (h : FoundOn t (.todo tag) number) : PointsTo ["//"] t number tag := by
  cases h with
  | todo hmem =>
    obtain ⟨gap, tag, hmarked, hquote⟩ := exists_quoteAt_of_mem_todoHits hmem
    rw [hmarked]
    exact hquote.pointsTo areSigns_slashes

/-- The line of a number has the operator before the digits. -/
theorem FoundOn.pointsTo_literal {literal : List Char} {number : Nat}
    (h : FoundOn t (.magicNumber literal) number) : PointsTo operators t number literal := by
  cases h with
  | magicNumber hmem =>
    obtain ⟨gap, digits, hmarked, hquote⟩ := exists_quoteAt_of_mem_operandHits hmem
    rw [hmarked]
    exact hquote.pointsTo areSigns_operators

theorem exists_eq_todo {f : Finding} (h : f.kind = "todo") : ∃ tag, f = .todo tag := by
  cases f with
  | todo tag => exact ⟨tag, rfl⟩
  | _ => exact absurd h (by simp [Finding.kind])

theorem exists_eq_magicNumber {f : Finding} (h : f.kind = "magic_number") :
    ∃ literal, f = .magicNumber literal := by
  cases f with
  | magicNumber literal => exact ⟨literal, rfl⟩
  | _ => exact absurd h (by simp [Finding.kind])

/-- Notes and numbers are reported on the line of the sign before what they quote. -/
theorem quotes_pointsTo {maxLineLength maxNestingDepth : Int} {allowedNumbers : List Int}
    {smells : List Smell}
    (h : ofText maxLineLength maxNestingDepth allowedNumbers t = .ok smells) :
    ∀ s ∈ smells,
      (s.kind = "todo" → ∃ tag, s.message = (Finding.todo tag).message ∧
        PointsTo ["//"] t s.line tag) ∧
      (s.kind = "magic_number" → ∃ literal, s.message = (Finding.magicNumber literal).message ∧
        PointsTo operators t s.line literal) := by
  obtain ⟨-, rfl⟩ := ofText_eq_ok_iff.mp h
  intro s hs
  obtain ⟨f, number, hfound, rfl⟩ := exists_foundOn_of_mem_listed hs
  refine ⟨fun hkind => ?_, fun hkind => ?_⟩
  · obtain ⟨tag, rfl⟩ := exists_eq_todo hkind
    exact ⟨tag, rfl, hfound.pointsTo_tag⟩
  · obtain ⟨literal, rfl⟩ := exists_eq_magicNumber hkind
    exact ⟨literal, rfl, hfound.pointsTo_literal⟩

/-- The number is quoted on the line above it, and the note on its own line. -/
theorem quotes_pointsTo_wrapped :
    ofText usualLineLength usualNestingDepth usualNumbers "x ==\n42 // todo".toList =
        .ok [⟨"todo", 2, "todo comment found", "info"⟩,
          ⟨"magic_number", 1, "Magic number: 42", "warning"⟩] ∧
      ∀ s ∈ ([⟨"todo", 2, "todo comment found", "info"⟩,
          ⟨"magic_number", 1, "Magic number: 42", "warning"⟩] : List Smell),
        (s.kind = "todo" → ∃ tag, s.message = (Finding.todo tag).message ∧
          PointsTo ["//"] "x ==\n42 // todo".toList s.line tag) ∧
        (s.kind = "magic_number" → ∃ literal,
          s.message = (Finding.magicNumber literal).message ∧
          PointsTo operators "x ==\n42 // todo".toList s.line literal) := by
  have hlisted : ofText usualLineLength usualNestingDepth usualNumbers "x ==\n42 // todo".toList =
      .ok [⟨"todo", 2, "todo comment found", "info"⟩,
        ⟨"magic_number", 1, "Magic number: 42", "warning"⟩] := by decide +kernel
  exact ⟨hlisted, quotes_pointsTo hlisted⟩

/-- Where the tag and the number stand on the lines after their signs, the lines of the signs are
reported, which show neither. -/
theorem quotes_belowSigns :
    ofText usualLineLength usualNestingDepth usualNumbers "//\nTODO\n==\n42".toList =
        .ok [⟨"todo", 1, "TODO comment found", "info"⟩,
          ⟨"magic_number", 3, "Magic number: 42", "warning"⟩] ∧
      ¬ HoldsOnLine "//\nTODO\n==\n42".toList 1 "TODO".toList ∧
      ¬ HoldsOnLine "//\nTODO\n==\n42".toList 3 "42".toList := by
  have hlines : Text.lines "//\nTODO\n==\n42".toList =
      ["//".toList, "TODO".toList, "==".toList, "42".toList] := by decide +kernel
  refine ⟨by decide +kernel, ?_, ?_⟩
  · rintro ⟨i, line, hnumber, hline, hpiece⟩
    obtain rfl : i = 0 := by omega
    rw [hlines] at hline
    obtain rfl := Option.some.inj hline
    exact absurd hpiece (by decide +kernel)
  · rintro ⟨i, line, hnumber, hline, hpiece⟩
    obtain rfl : i = 2 := by omega
    rw [hlines] at hline
    obtain rfl := Option.some.inj hline
    exact absurd hpiece (by decide +kernel)

end SourceGrade.Smell
