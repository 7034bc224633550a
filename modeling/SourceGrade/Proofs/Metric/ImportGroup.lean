import SourceGrade.Metric.Declarations
import SourceGrade.Proofs.Pattern.Pieces
import SourceGrade.Proofs.Text.Field

set_option autoImplicit false

/-!
# Grouped imports

A group of imports is written line by line between parentheses: an alias or none, the path of the
module in quotation marks, and a comment or none. `ImportGroup` holds the parts of such a group, and
what is read from its text is told from these parts. A line without a comment names its path,
whatever its alias is. Of a line with a comment the path is lost, because the last word of the
comment is taken for the module.
-/

namespace SourceGrade.Metric

open Pattern (word inOrder atLeastOne span)
open Text (isBlank isLineBreak pieces)

/-! ## Groups -/

/-- A word that stands in a group: it is not empty, and there are no blanks, quotation marks and
closing parentheses in it. -/
structure IsPlain (w : List Char) : Prop where
  ne_nil : w ≠ []
  plain : ∀ c ∈ w, isBlank c = false ∧ isQuote c = false ∧ c ≠ ')'

/-- Blanks that end no line. -/
def StaysInLine (gap : List Char) : Prop := ∀ c ∈ gap, isBlank c = true ∧ isLineBreak c = false

/-- The blanks that keep two words of a line apart. -/
structure IsGap (gap : List Char) : Prop where
  ne_nil : gap ≠ []
  stays : StaysInLine gap

instance (w : List Char) : Decidable (IsPlain w) :=
  decidable_of_iff
    (w ≠ [] ∧ (w.all fun c => !isBlank c && !isQuote c && c != ')') = true)
    ⟨fun h => ⟨h.1, by simpa [and_assoc] using h.2⟩,
      fun h => ⟨h.ne_nil, by simpa [and_assoc] using h.plain⟩⟩

instance (gap : List Char) : Decidable (StaysInLine gap) :=
  decidable_of_iff ((gap.all fun c => isBlank c && !isLineBreak c) = true)
    (by simp [StaysInLine])

instance (gap : List Char) : Decidable (IsGap gap) :=
  decidable_of_iff (gap ≠ [] ∧ StaysInLine gap)
    ⟨fun h => ⟨h.1, h.2⟩, fun h => ⟨h.ne_nil, h.stays⟩⟩

/-- A name for a module, with the blanks after it. -/
structure Alias where
  name : List Char
  gap : List Char
  isPlain : IsPlain name
  isGap : IsGap gap

/-- The name and the blanks, as they are written. -/
def Alias.text (a : Alias) : List Char := a.name ++ a.gap

/-- A comment up to the end of its line, with the blanks before it. -/
structure Remark where
  gap : List Char
  note : List Char
  isGap : IsGap gap
  stays : '\n' ∉ note ∧ ')' ∉ note

/-- The comment without the blanks before it. -/
def Remark.slashed (r : Remark) : List Char := '/' :: '/' :: r.note

/-- The parts of a line of a group. -/
structure ImportLine where
  indent : List Char
  alias? : Option Alias
  path : List Char
  remark? : Option Remark
  indent_stays : StaysInLine indent
  path_isPlain : IsPlain path

namespace ImportLine

/-- What stands before the path. -/
def lead (l : ImportLine) : List Char := l.indent ++ (l.alias?.map Alias.text).getD []

/-- The path in quotation marks. -/
def quoted (l : ImportLine) : List Char := '"' :: (l.path ++ ['"'])

/-- The line as it is written. -/
def text (l : ImportLine) : List Char :=
  l.lead ++ (l.quoted ++ (l.remark?.map fun r => r.gap ++ r.slashed).getD [])

end ImportLine

/-- What stands between the parentheses around the lines of a group. -/
def bodyOf (lines : List ImportLine) : List Char :=
  '\n' :: lines.flatMap fun l => l.text ++ ['\n']

/-- A group of imports that is not too long to be found. -/
structure ImportGroup where
  lines : List ImportLine
  short : (bodyOf lines).length ≤ 5000

/-- The group as it is written. -/
def ImportGroup.text (g : ImportGroup) : List Char :=
  "import (".toList ++ (bodyOf g.lines ++ [')'])

/-! ## The modules of a line -/

/-- The modules that are named in the body of a group. -/
def modulesIn (body : List Char) : List String := (pieces body).filterMap moduleOfLine?

theorem modulesIn_append_lineFeed (s t : List Char) :
    modulesIn (s ++ '\n' :: t) = modulesIn s ++ modulesIn t :=
  Text.filterMap_piecesFrom_append rfl s t nofun

/-- What may come before a word of a line: no line ends in it, and it ends with a blank if it is not
empty. -/
structure IsLead (before : List Char) : Prop where
  stays : ∀ c ∈ before, isLineBreak c = false
  blank : ∀ c ∈ before.getLast?, isBlank c = true

variable {before gap : List Char} {c : Char}

theorem StaysInLine.isLead (h : StaysInLine gap) : IsLead gap :=
  ⟨fun c hc => (h c hc).2, fun c hc => (h c (List.mem_of_mem_getLast? hc)).1⟩

theorem IsGap.isLead_append (h : IsGap gap) (hbefore : ∀ c ∈ before, isLineBreak c = false) :
    IsLead (before ++ gap) where
  stays := List.forall_mem_append.mpr ⟨hbefore, h.stays.isLead.stays⟩
  blank := by
    rw [List.getLast?_append_of_ne_nil _ h.ne_nil]
    exact h.stays.isLead.blank

theorem IsPlain.not_isLineBreak {w : List Char} (h : IsPlain w) :
    ∀ c ∈ w, isLineBreak c = false :=
  fun c hc => Text.isLineBreak_of_ink (h.plain c hc).1

/-- Of a line the last word counts, whatever comes before it. -/
theorem moduleOfLine?_append (h : IsLead before) (hc : isBlank c = false) (t : List Char) :
    moduleOfLine? (before ++ c :: t) = moduleOfLine? (c :: t) := by
  rcases List.eq_nil_or_concat before with rfl | ⟨s, b, rfl⟩
  · rfl
  · have hb : isBlank b = true := h.blank b (by simp)
    unfold moduleOfLine?
    rw [List.concat_append, Text.getLast?_fields_append hb hc]

/-- What comes before a word of the first line of a text names no modules. -/
theorem modulesIn_append (h : IsLead before) (hc : isBlank c = false) (t : List Char) :
    modulesIn (before ++ c :: t) = modulesIn (c :: t) := by
  obtain ⟨rest, others, hpieces⟩ := Text.exists_pieces_append (Text.isLineBreak_of_ink hc) t
  have hshort := hpieces [] nofun
  rw [List.nil_append, List.nil_append] at hshort
  unfold modulesIn
  rw [hpieces before h.stays, hshort, List.filterMap_cons, List.filterMap_cons,
    moduleOfLine?_append h hc]

/-- A word alone names what is left of it without the quotation marks around it. -/
theorem modulesIn_of_ink {w name : List Char} (hne : w ≠ []) (hink : ∀ c ∈ w, isBlank c = false)
    (hname : name ≠ []) (htrim : Text.trimBy isQuote w = name) :
    modulesIn w = [String.ofList name] := by
  have hpieces := Text.pieces_of_forall_not_isLineBreak hne fun c hc =>
    Text.isLineBreak_of_ink (hink c hc)
  have hmodule : moduleOfLine? w = some (String.ofList name) := by
    unfold moduleOfLine?
    rw [Text.fields_of_ink hne hink]
    dsimp only [List.getLast?_singleton]
    rw [htrim, if_neg (mt List.isEmpty_iff.mp hname)]
  unfold modulesIn
  rw [hpieces, List.filterMap_cons_some hmodule, List.filterMap_nil]

namespace ImportLine

variable (l : ImportLine)

theorem lead_isLead : IsLead l.lead := by
  unfold lead
  cases l.alias? with
  | none =>
    rw [Option.map_none, Option.getD_none, List.append_nil]
    exact l.indent_stays.isLead
  | some a =>
    rw [Option.map_some, Option.getD_some, Alias.text, ← List.append_assoc]
    refine a.isGap.isLead_append (List.forall_mem_append.mpr ⟨?_, a.isPlain.not_isLineBreak⟩)
    exact l.indent_stays.isLead.stays

theorem quoted_ink : ∀ c ∈ l.quoted, isBlank c = false := by
  have hmark : isBlank '"' = false := by decide
  intro c hc
  simp only [quoted, List.mem_cons, List.mem_append, List.not_mem_nil, or_false] at hc
  rcases hc with rfl | hc | rfl
  · exact hmark
  · exact (l.path_isPlain.plain c hc).1
  · exact hmark

/-- A path in quotation marks names its module. -/
theorem modulesIn_quoted : modulesIn l.quoted = [String.ofList l.path] :=
  modulesIn_of_ink (List.cons_ne_nil _ _) l.quoted_ink l.path_isPlain.ne_nil
    (Text.trimBy_between rfl rfl l.path_isPlain.ne_nil fun c hc => (l.path_isPlain.plain c hc).2.1)

/-- The modules that a line is taken to name: its path if it has no comment, and otherwise the last
word of the comment, or one for each piece of it where it holds line breaks other than line
feeds. -/
def named : List String :=
  match l.remark? with
  | none => [String.ofList l.path]
  | some r => modulesIn r.slashed

theorem modulesIn_text : modulesIn l.text = l.named := by
  unfold text named
  cases l.remark? with
  | none =>
    rw [Option.map_none, Option.getD_none, List.append_nil, ← l.modulesIn_quoted]
    exact modulesIn_append l.lead_isLead (by decide) _
  | some r =>
    rw [Option.map_some, Option.getD_some, ← List.append_assoc, ← List.append_assoc]
    refine modulesIn_append (r.isGap.isLead_append ?_) (by decide) _
    exact List.forall_mem_append.mpr ⟨l.lead_isLead.stays, fun c hc =>
      Text.isLineBreak_of_ink (l.quoted_ink c hc)⟩

end ImportLine

/-- The modules of a group are those of its lines, one after the other. -/
theorem modulesIn_bodyOf (lines : List ImportLine) :
    modulesIn (bodyOf lines) = lines.flatMap ImportLine.named := by
  have hlines : modulesIn (lines.flatMap fun l => l.text ++ ['\n']) =
      lines.flatMap ImportLine.named := by
    induction lines with
    | nil => rfl
    | cons l lines ih =>
      rw [List.flatMap_cons, List.append_assoc, List.singleton_append, modulesIn_append_lineFeed,
        ih, l.modulesIn_text, List.flatMap_cons]
  have hfirst := modulesIn_append_lineFeed [] (lines.flatMap fun l => l.text ++ ['\n'])
  rw [hlines] at hfirst
  exact hfirst

/-! ## The hit of a group -/

theorem StaysInLine.notMem (h : StaysInLine gap) : ')' ∉ gap :=
  fun hmem => absurd (h _ hmem).1 (by decide)

theorem IsPlain.notMem {w : List Char} (h : IsPlain w) : ')' ∉ w :=
  fun hmem => (h.plain _ hmem).2.2 rfl

theorem ImportLine.notMem_lead (l : ImportLine) : ')' ∉ l.lead := by
  unfold lead
  rw [List.mem_append, not_or]
  refine ⟨l.indent_stays.notMem, ?_⟩
  cases l.alias? with
  | none => exact List.not_mem_nil
  | some a =>
    rw [Option.map_some, Option.getD_some, Alias.text, List.mem_append, not_or]
    exact ⟨a.isPlain.notMem, a.isGap.stays.notMem⟩

theorem ImportLine.notMem_text (l : ImportLine) : ')' ∉ l.text := by
  have hquoted : ')' ∉ l.quoted := by
    simp [quoted, l.path_isPlain.notMem]
  unfold text
  rw [List.mem_append, List.mem_append, not_or, not_or]
  refine ⟨l.notMem_lead, hquoted, ?_⟩
  cases l.remark? with
  | none => exact List.not_mem_nil
  | some r =>
    rw [Option.map_some, Option.getD_some, List.mem_append, not_or]
    refine ⟨r.isGap.stays.notMem, ?_⟩
    simp [Remark.slashed, r.stays.2]

/-- No line of a group closes its parentheses. -/
theorem notMem_bodyOf (lines : List ImportLine) : ')' ∉ bodyOf lines := by
  simp [bodyOf, ImportLine.notMem_text]

/-- The body of a group is passed over up to the parenthesis that closes it. -/
theorem outcomes_body {body : List Char} (hclosed : ')' ∉ body) (hne : body ≠ [])
    (hshort : body.length ≤ 5000) (before : Option Char) (offset : Nat) :
    Pattern.outcomes (.mark (span (Language.except [')']) 1 5000))
        ⟨before, body ++ [')'], offset, none⟩ =
      [⟨body.getLast?.or before, [')'], offset + body.length, some body⟩] := by
  have hbody : ∀ x ∈ body, Language.except [')'] x = true := by
    intro x hx
    have hother : x ≠ ')' := fun heq => hclosed (heq ▸ hx)
    simpa [Language.except] using hother
  have hend : ∀ x rest, [')'] = x :: rest → Language.except [')'] x = false := by
    intro x rest heq
    obtain ⟨rfl, -⟩ := List.cons.inj heq
    decide
  unfold span
  rw [Pattern.outcomes, Pattern.outcomes,
    Cursor.runStops_longestOnly_of_le rfl hbody hend hshort,
    if_pos (Nat.succ_le_of_lt (List.length_pos_of_ne_nil hne)), List.map_singleton,
    Cursor.marking_past rfl]
  rfl

/-- The import of a group is found at its beginning and ends with its parentheses. -/
theorem outcomes_importPattern {body : List Char} (hclosed : ')' ∉ body) (hne : body ≠ [])
    (hshort : body.length ≤ 5000) :
    Language.go.importPattern.outcomes (.ofText ("import (".toList ++ (body ++ [')']))) =
      [⟨some ')', [], 8 + body.length + 1, some body⟩] := by
  have hword : (word "import").outcomes (.ofText ("import (".toList ++ (body ++ [')']))) =
      [⟨some 't', ' ' :: '(' :: (body ++ [')']), 6, none⟩] := rfl
  have hblanks : Language.someBlanks.outcomes ⟨some 't', ' ' :: '(' :: (body ++ [')']), 6, none⟩ =
      [⟨some ' ', '(' :: (body ++ [')']), 7, none⟩] := rfl
  have hquoted : (inOrder [word "\"", .mark (atLeastOne (Language.except ['"', '\n'])),
      word "\""]).outcomes ⟨some ' ', '(' :: (body ++ [')']), 7, none⟩ = [] := rfl
  have hopen : (word "(").outcomes ⟨some ' ', '(' :: (body ++ [')']), 7, none⟩ =
      [⟨some '(', body ++ [')'], 8, none⟩] := rfl
  have hbody := outcomes_body hclosed hne hshort (some '(') 8
  refine (Pattern.outcomes_seq_of_eq_singleton hword).trans ?_
  refine (Pattern.outcomes_seq_of_eq_singleton hblanks).trans ?_
  refine (congrArg (· ++ _) hquoted).trans ?_
  refine (Pattern.outcomes_seq_of_eq_singleton hopen).trans ?_
  exact Pattern.outcomes_seq_of_eq_singleton hbody

/-- A group has no other import. -/
theorem hits_importPattern {body : List Char} (hclosed : ')' ∉ body) (hne : body ≠ [])
    (hshort : body.length ≤ 5000) :
    Language.go.importPattern.hits ("import (".toList ++ (body ++ [')'])) =
      [⟨0, 8 + body.length + 1, some body⟩] := by
  have hlead : "import (".toList.length = 8 := by decide
  have hlength : ("import (".toList ++ (body ++ [')'])).length = 8 + body.length + 1 := by
    rw [List.length_append, hlead, List.length_append, List.length_singleton, Nat.add_assoc]
  have hfound : Language.go.importPattern.firstOutcome?
      (.ofText ("import (".toList ++ (body ++ [')']))) =
      some ⟨some ')', [], 8 + body.length + 1, some body⟩ := by
    rw [Pattern.firstOutcome?_eq_head?, outcomes_importPattern hclosed hne hshort, List.head?_cons]
  exact Pattern.hits_eq_singleton (List.ne_nil_of_length_pos (by omega)) hfound hlength.symm

/-- The modules of a group are those that its lines name, each one where it is first named. Where no
line has a comment these are the paths, whatever the aliases are. -/
theorem imports_group (g : ImportGroup) :
    imports Language.go g.text = (g.lines.flatMap ImportLine.named).eraseDups ∧
      ((∀ l ∈ g.lines, l.remark? = none) →
        imports Language.go g.text = (g.lines.map fun l => String.ofList l.path).eraseDups) := by
  have hnamed : imports Language.go g.text = (g.lines.flatMap ImportLine.named).eraseDups := by
    have hhits := hits_importPattern (notMem_bodyOf g.lines) (List.cons_ne_nil _ _) g.short
    unfold imports ImportGroup.text
    rw [hhits, List.flatMap_singleton, ← modulesIn_bodyOf]
    rfl
  refine ⟨hnamed, fun hbare => ?_⟩
  have hpath : ∀ l ∈ g.lines, l.named = [String.ofList l.path] := by
    intro l hl
    unfold ImportLine.named
    rw [hbare l hl]
  rw [hnamed, List.flatMap_congr hpath, List.map_eq_flatMap]

/-- A line without an alias and a comment. -/
def fmtLine : ImportLine where
  indent := ['\t']
  alias? := none
  path := "fmt".toList
  remark? := none
  indent_stays := by decide
  path_isPlain := by decide

/-- A line with an alias. -/
def stringsLine : ImportLine where
  indent := ['\t']
  alias? := some ⟨"str".toList, [' '], by decide, by decide⟩
  path := "strings".toList
  remark? := none
  indent_stays := by decide
  path_isPlain := by decide

/-- Neither an alias nor the second mention of a path adds a module. -/
theorem imports_group_withAlias :
    (∀ l ∈ [fmtLine, stringsLine, fmtLine], l.remark? = none) ∧
      imports Language.go "import (\n\t\"fmt\"\n\tstr \"strings\"\n\t\"fmt\"\n)".toList =
        ["fmt", "strings"] := by
  have hbare : ∀ l ∈ [fmtLine, stringsLine, fmtLine], l.remark? = none := by
    simp [fmtLine, stringsLine]
  have hmodules := (imports_group ⟨[fmtLine, stringsLine, fmtLine], by decide⟩).2 hbare
  have htext : ImportGroup.text ⟨[fmtLine, stringsLine, fmtLine], by decide⟩ =
      "import (\n\t\"fmt\"\n\tstr \"strings\"\n\t\"fmt\"\n)".toList := by decide +kernel
  rw [htext] at hmodules
  rw [hmodules]
  refine ⟨hbare, ?_⟩
  decide +kernel

/-- A line with a comment. -/
def printingLine : ImportLine :=
  { fmtLine with remark? := some ⟨[' '], " printing".toList, by decide, by decide⟩ }

/-- The last word of a comment is taken for the module, and the path before it is lost. -/
theorem imports_commentedPath :
    ∃ g : ImportGroup, g.text = "import (\n\t\"fmt\" // printing\n)".toList ∧
      (g.lines.map fun l => String.ofList l.path).eraseDups = ["fmt"] ∧
      imports Language.go g.text = ["printing"] :=
  ⟨⟨[printingLine], by decide⟩, by decide +kernel, by decide +kernel, by decide +kernel⟩

end SourceGrade.Metric
