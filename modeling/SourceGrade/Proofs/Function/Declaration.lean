import Mathlib.Data.Finset.Card
import SourceGrade.Proofs.Function.Discovery
import SourceGrade.Proofs.Function.Lead
import SourceGrade.Proofs.Occurrence

set_option autoImplicit false

/-!
# Names that stand in a text once

Several signature patterns of a language may match one declaration. They begin at the name or at a
keyword in front of it, and what they capture is counted once if both are on one line. A keyword
that stands on an earlier line than the name makes two functions of the declaration, and never more.
-/

namespace SourceGrade

namespace FunctionInfo

open SourceGrade.Language (registry LeadsTo KeywordLed)

variable {language : Language} {t : List Char} {limit : Int} {w : String} {i : Nat}

/-! ## The lines of a name -/

/-- The lines on which the functions of a name begin. -/
def linesNamed (w : String) (found : List FunctionInfo) : List Int :=
  (found.filter (·.name == w)).map (·.startLine)

theorem length_linesNamed (w : String) (found : List FunctionInfo) :
    (linesNamed w found).length = found.countP (·.name == w) := by
  unfold linesNamed
  rw [List.length_map, List.countP_eq_length_filter]

theorem map_linesNamed (w : String) (found : List FunctionInfo) :
    (linesNamed w found).map (Prod.mk w) = (found.map place).filter fun p => p.1 == w := by
  unfold linesNamed
  rw [List.filter_map, List.map_map]
  refine List.map_congr_left fun f hf => ?_
  have hname : f.name = w := beq_iff_eq.mp (List.mem_filter.mp hf).2
  exact congrArg (·, f.startLine) hname.symm

theorem nodup_linesNamed (language : Language) (t : List Char) (limit : Int) (w : String) :
    (linesNamed w (find language t limit)).Nodup := by
  have hpairs : ((linesNamed w (find language t limit)).map (Prod.mk w)).Nodup := by
    rw [map_linesNamed, place_find]
    exact (nodup_map_firstsBy _ _).filter _
  exact (List.pairwise_map.mp hpairs).imp fun hne heq => hne (congrArg _ heq)

theorem mem_linesNamed (limit : Int) {line : Int} :
    line ∈ linesNamed w (find language t limit) ↔
      ∃ c ∈ language.signatures t, c.name = w ∧ (Text.lineAt t c.start : Int) = line := by
  have hmem : line ∈ linesNamed w (find language t limit) ↔
      (w, line) ∈ (language.signatures t).map (Capture.place t) := by
    rw [← mem_map_firstsBy, ← place_find language t limit, List.mem_map]
    unfold linesNamed
    simp only [List.mem_map, List.mem_filter, beq_iff_eq, place, Prod.mk.injEq, and_assoc]
  rw [hmem, List.mem_map]
  simp only [Capture.place, Prod.mk.injEq]

/-! ## Where a name is captured -/

theorem exists_hit_of_mem_signatures {c : Capture} (hmem : c ∈ language.signatures t) :
    ∃ p ∈ language.functionPatterns, ∃ h ∈ p.hits t,
      h.start = c.start ∧ h.marked = some c.name.toList ∧ c.name.toList ≠ [] := by
  obtain ⟨hmem, hname⟩ := List.mem_filter.mp hmem
  obtain ⟨p, hp, hmem⟩ := List.mem_flatMap.mp hmem
  obtain ⟨h, hh, hcapture⟩ := List.mem_filterMap.mp hmem
  obtain ⟨piece, hmarked, rfl⟩ := Option.map_eq_some_iff.mp hcapture
  refine ⟨p, hp, h, hh, rfl, ?_, fun hnil => ?_⟩
  · rw [hmarked, String.toList_ofList]
  · exact (of_decide_eq_true hname).1 (String.toList_eq_nil_iff.mp hnil)

/-- The hit that captures a name which stands in a text once covers it. -/
theorem exists_lead_of_mem_hits {p : Pattern} {lead : List Pattern} (hp : p.MarksAfter lead)
    {h : Hit} (hmem : h ∈ p.hits t) (hmarked : h.marked = some w.toList) (hne : w.toList ≠ [])
    (honce : occurrences w.toList t = [i]) :
    h.start ≤ i ∧ i < h.stop ∧
      ∃ e ∈ (Pattern.inOrder lead).outcomes (.atOffset t h.start), e.offset = i := by
  obtain ⟨e, he, hle, hprefix, hstop⟩ := hp.exists_place hmem hmarked
  have hi : e.offset = i := by
    have hin := (mem_occurrences hne).mpr hprefix
    rwa [honce, List.mem_singleton] at hin
  have hpos := List.length_pos_iff.mpr hne
  exact ⟨by omega, by omega, e, he, hi⟩

/-- If the language has one signature pattern, such a name is captured by one hit. -/
theorem start_eq_of_length_eq_one (hlanguage : language ∈ registry)
    (hone : language.functionPatterns.length = 1) (honce : occurrences w.toList t = [i])
    {a b : Capture} (ha : a ∈ language.signatures t) (hb : b ∈ language.signatures t)
    (haname : a.name = w) (hbname : b.name = w) : a.start = b.start := by
  obtain ⟨p, hp, h, hh, hstart, hmarked, hne⟩ := exists_hit_of_mem_signatures ha
  obtain ⟨p', hp', h', hh', hstart', hmarked', -⟩ := exists_hit_of_mem_signatures hb
  have hsame : p' = p := by
    obtain ⟨q, hq⟩ := List.length_eq_one_iff.mp hone
    rw [hq, List.mem_singleton] at hp hp'
    exact hp'.trans hp.symm
  rw [hsame] at hh'
  rw [haname] at hmarked hne
  rw [hbname] at hmarked'
  obtain ⟨lead, hmarks⟩ := Language.exists_marksAfter hlanguage hp
  -- Both hits cover the name, and hits of one pattern do not overlap.
  obtain ⟨hle, hlt, -⟩ := exists_lead_of_mem_hits hmarks hh hmarked hne honce
  obtain ⟨hle', hlt', -⟩ := exists_lead_of_mem_hits hmarks hh' hmarked' hne honce
  rw [← hstart, ← hstart', (Pattern.isScan_hits p t).eq_of_overlap hh hh' (by omega) (by omega)]

/-- A capture of such a name begins at the name, or at a keyword that leads to it. -/
theorem start_eq_or_leadsTo
    (hled : ∀ p ∈ language.functionPatterns, ∃ lead, KeywordLed lead ∧ p.MarksAfter lead)
    (honce : occurrences w.toList t = [i]) {c : Capture} (hmem : c ∈ language.signatures t)
    (hname : c.name = w) :
    c.start = i ∨ ∃ keyword gap, LeadsTo t c.start i keyword gap := by
  obtain ⟨p, hp, h, hh, hstart, hmarked, hne⟩ := exists_hit_of_mem_signatures hmem
  obtain ⟨lead, hkeyword, hmarks⟩ := hled p hp
  rw [hname] at hmarked hne
  obtain ⟨-, -, e, he, hoffset⟩ := exists_lead_of_mem_hits hmarks hh hmarked hne honce
  rw [← hstart]
  rcases hkeyword _ e he with heq | ⟨keyword, hin, gap, hgap, hblank, hrest, hlength⟩
  · left
    rw [heq] at hoffset
    exact hoffset
  · right
    refine ⟨keyword, gap, hin, hgap, hblank, ?_⟩
    have hdrop : t.drop h.start = (keyword.toList ++ gap) ++ e.rest := hrest
    have hstop : e.offset = h.start + (keyword.toList ++ gap).length := hlength
    rw [← hoffset, hstop, List.take_add, hdrop, List.take_left]

/-- All captures of such a name begin at one offset, or at the name where a keyword leads from that
offset to the name. -/
theorem exists_start (hlanguage : language ∈ registry)
    (honce : occurrences w.toList t = [i]) :
    ∃ start, ∀ c ∈ language.signatures t, c.name = w →
      c.start = start ∨ c.start = i ∧ ∃ keyword gap, LeadsTo t start i keyword gap := by
  have hi : i ≤ t.length := by
    have hin : i ∈ occurrences w.toList t := honce ▸ List.mem_singleton_self i
    exact Nat.le_of_lt (lt_length_of_mem_occurrences hin)
  rcases Language.signature_patterns hlanguage with ⟨p, lead, hone, hmarks⟩ | hled
  · by_cases hsome : ∃ a ∈ language.signatures t, a.name = w
    · obtain ⟨a, ha, haname⟩ := hsome
      have hlength : language.functionPatterns.length = 1 := hone ▸ rfl
      exact ⟨a.start, fun c hc hcname =>
        .inl (start_eq_of_length_eq_one hlanguage hlength honce hc ha hcname haname)⟩
    · exact ⟨0, fun c hc hcname => absurd ⟨c, hc, hcname⟩ hsome⟩
  · by_cases hsome : ∃ a ∈ language.signatures t, a.name = w ∧ a.start ≠ i
    · obtain ⟨a, ha, haname, hane⟩ := hsome
      obtain ⟨keyword, gap, hleads⟩ := (start_eq_or_leadsTo hled honce ha haname).resolve_left hane
      refine ⟨a.start, fun c hc hcname => ?_⟩
      rcases start_eq_or_leadsTo hled honce hc hcname with hstart | ⟨keyword', gap', hleads'⟩
      · exact .inr ⟨hstart, keyword, gap, hleads⟩
      · exact .inl (hleads'.unique hleads hi)
    · exact ⟨i, fun c hc hcname => .inl (by_contra fun hne => hsome ⟨c, hc, hcname, hne⟩)⟩

/-! ## How often a name is counted -/

theorem one_lt_countP_iff (language : Language) (t : List Char) (limit : Int) (w : String) :
    1 < (find language t limit).countP (·.name == w) ↔
      ∃ a ∈ language.signatures t, ∃ b ∈ language.signatures t, a.name = w ∧ b.name = w ∧
        Text.lineAt t a.start ≠ Text.lineAt t b.start := by
  rw [← length_linesNamed, ← List.toFinset_card_of_nodup (nodup_linesNamed language t limit w),
    Finset.one_lt_card]
  simp only [List.mem_toFinset, mem_linesNamed]
  constructor
  · rintro ⟨_, ⟨a, ha, haname, rfl⟩, _, ⟨b, hb, hbname, rfl⟩, hne⟩
    exact ⟨a, ha, b, hb, haname, hbname, fun heq => hne (congrArg _ heq)⟩
  · rintro ⟨a, ha, b, hb, haname, hbname, hne⟩
    exact ⟨_, ⟨a, ha, haname, rfl⟩, _, ⟨b, hb, hbname, rfl⟩,
      fun heq => hne (Int.natCast_inj.mp heq)⟩

theorem countP_pos_iff (language : Language) (t : List Char) (limit : Int) (w : String) :
    0 < (find language t limit).countP (·.name == w) ↔ ∃ a ∈ language.signatures t, a.name = w := by
  rw [← length_linesNamed, List.length_pos_iff_exists_mem]
  simp only [mem_linesNamed]
  constructor
  · rintro ⟨_, a, ha, haname, -⟩
    exact ⟨a, ha, haname⟩
  · rintro ⟨a, ha, haname⟩
    exact ⟨_, a, ha, haname, rfl⟩

/-- Such a name is counted on two lines at most. -/
theorem countP_le_two (hlanguage : language ∈ registry)
    (honce : occurrences w.toList t = [i]) (limit : Int) :
    (find language t limit).countP (·.name == w) ≤ 2 := by
  obtain ⟨start, hstart⟩ := exists_start hlanguage honce
  have hsub : linesNamed w (find language t limit) ⊆
      [(Text.lineAt t start : Int), (Text.lineAt t i : Int)] := by
    intro line hline
    obtain ⟨c, hc, hcname, rfl⟩ := (mem_linesNamed limit).mp hline
    rcases hstart c hc hcname with heq | ⟨heq, -⟩
    · rw [heq]
      exact List.mem_cons_self
    · rw [heq]
      exact List.mem_cons_of_mem _ List.mem_cons_self
  rw [← length_linesNamed]
  exact (List.subperm_of_subset (nodup_linesNamed language t limit w) hsub).length_le

/-- Such a name is counted twice if and only if a keyword on an earlier line leads to it. -/
theorem one_lt_countP_iff_leadsTo (hlanguage : language ∈ registry)
    (honce : occurrences w.toList t = [i]) (limit : Int) :
    1 < (find language t limit).countP (·.name == w) ↔
      ∃ a ∈ language.signatures t, ∃ b ∈ language.signatures t, a.name = w ∧ b.name = w ∧
        b.start = i ∧ ∃ keyword gap, LeadsTo t a.start i keyword gap ∧ '\n' ∈ gap := by
  rw [one_lt_countP_iff]
  constructor
  · rintro ⟨a, ha, b, hb, haname, hbname, hne⟩
    obtain ⟨start, hstart⟩ := exists_start hlanguage honce
    rcases hstart a ha haname with hastart | ⟨hastart, keyword, gap, hleads⟩
    · rcases hstart b hb hbname with hbstart | ⟨hbstart, keyword, gap, hleads⟩
      · rw [hastart, hbstart] at hne
        exact absurd rfl hne
      · rw [← hastart] at hleads
        rw [hbstart] at hne
        exact ⟨a, ha, b, hb, haname, hbname, hbstart, keyword, gap, hleads,
          hleads.lineAt_ne_iff.mp hne⟩
    · rcases hstart b hb hbname with hbstart | ⟨hbstart, -⟩
      · rw [← hbstart] at hleads
        rw [hastart] at hne
        exact ⟨b, hb, a, ha, hbname, haname, hastart, keyword, gap, hleads,
          hleads.lineAt_ne_iff.mp hne.symm⟩
      · rw [hastart, hbstart] at hne
        exact absurd rfl hne
  · rintro ⟨a, ha, b, hb, haname, hbname, rfl, keyword, gap, hleads, hfeed⟩
    exact ⟨a, ha, b, hb, haname, hbname, hleads.lineAt_ne_iff.mpr hfeed⟩

/-- How often a name is counted that stands in a text once, at an offset. -/
structure CountsAt (language : Language) (t : List Char) (limit : Int) (w : String) (i : Nat) :
    Prop where
  /-- It is counted if and only if a signature captures it. -/
  counted_iff : 0 < (find language t limit).countP (·.name == w) ↔
    ∃ a ∈ language.signatures t, a.name = w
  /-- It is never counted more than twice. -/
  atMostTwice : (find language t limit).countP (·.name == w) ≤ 2
  /-- It is counted twice if and only if two signatures capture it, one that begins with the name
  and one that begins with a keyword on an earlier line. -/
  twice_iff : 1 < (find language t limit).countP (·.name == w) ↔
    ∃ a ∈ language.signatures t, ∃ b ∈ language.signatures t, a.name = w ∧ b.name = w ∧
      b.start = i ∧ ∃ keyword gap, LeadsTo t a.start i keyword gap ∧ '\n' ∈ gap
  /-- It is counted once at most if no line ends in the blanks in front of it. -/
  onceInLine : '\n' ∉ (t.take i).rtakeWhile Text.isBlank →
    (find language t limit).countP (·.name == w) ≤ 1
  /-- It is counted once at most if the language has one signature pattern. -/
  onceByPattern : language.functionPatterns.length = 1 →
    (find language t limit).countP (·.name == w) ≤ 1

/-- A name that stands in a text once is counted once, unless a keyword on an earlier line leads to
it and one signature begins with the keyword and another one with the name. -/
theorem counts_at_occurrence (hlanguage : language ∈ registry)
    (honce : occurrences w.toList t = [i]) (limit : Int) :
    CountsAt language t limit w i where
  counted_iff := countP_pos_iff language t limit w
  atMostTwice := countP_le_two hlanguage honce limit
  twice_iff := one_lt_countP_iff_leadsTo hlanguage honce limit
  onceInLine := by
    intro hline
    by_contra hmore
    obtain ⟨a, -, b, -, -, -, -, keyword, gap, hleads, hfeed⟩ :=
      (one_lt_countP_iff_leadsTo hlanguage honce limit).mp (Nat.lt_of_not_le hmore)
    exact hline (hleads.blanks_eq ▸ hfeed)
  onceByPattern := by
    intro hone
    by_contra hmore
    obtain ⟨a, ha, b, hb, haname, hbname, hlines⟩ :=
      (one_lt_countP_iff language t limit w).mp (Nat.lt_of_not_le hmore)
    rw [start_eq_of_length_eq_one hlanguage hone honce ha hb haname hbname] at hlines
    exact hlines rfl

/-- A declaration on whose first line two signature patterns begin. -/
def asyncDeclaration : List Char :=
  "async function save(item) \x7b\n  store(item);\n\x7d".toList

theorem counts_at_occurrence_asyncDeclaration :
    (.javascript ∈ registry ∧ occurrences "save".toList asyncDeclaration = [15]) ∧
      CountsAt .javascript asyncDeclaration Body.defaultLimit "save" 15 :=
  have hlanguage : .javascript ∈ registry := List.mem_cons_self
  have honce : occurrences "save".toList asyncDeclaration = [15] := by decide
  ⟨⟨hlanguage, honce⟩, counts_at_occurrence hlanguage honce Body.defaultLimit⟩

/-- A declaration whose keyword stands on a line of its own. -/
def splitDeclaration : List Char := "function\nsave(item) \x7b\n\x7d".toList

/-- One declaration may be counted twice. -/
theorem splitDeclaration_counted_twice :
    ¬∀ language ∈ registry, ∀ t w i, occurrences w.toList t = [i] →
      (find language t).countP (·.name == w) ≤ 1 := by
  intro hall
  have honce : occurrences "save".toList splitDeclaration = [9] := by decide
  have htwice : (find .javascript splitDeclaration).countP (·.name == "save") = 2 := by
    decide +kernel
  have hle := hall .javascript List.mem_cons_self splitDeclaration "save" 9 honce
  omega

end FunctionInfo

end SourceGrade
