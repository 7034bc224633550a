import Mathlib
import SourceGrade.Proofs.Config.Environment
import SourceGrade.Proofs.Config.Settings
import SourceGrade.Proofs.Toml.Distinct

set_option autoImplicit false

/-!
# The layers of settings

Each setting comes from the environment if its variable gives a value, else from the document of the
development machine, else from the default document, and is the default of its field if none of them
has it: `load_layered`.
-/

namespace SourceGrade.Config

open Value (find? put)

variable {env : Environment} {sections lower upper : Entries} {name key : String}

/-! ## Documents -/

/-- What a document holds. One that is not there holds nothing. -/
def documentOf (document : Option (List Char)) : Except Toml.ReadError Entries :=
  match document with
  | none => .ok []
  | some t => Toml.read t

theorem addDocument_eq_ok {document : Option (List Char)} (h : documentOf document = .ok upper)
    (sections : Entries) : addDocument sections document = .ok (merge sections upper) := by
  cases document with
  | none =>
    obtain rfl := Except.ok.inj h
    rfl
  | some t =>
    have hread : Toml.read t = .ok upper := h
    unfold addDocument
    dsimp only
    rw [hread]
    rfl

theorem hasDistinctSections_documentOf {document : Option (List Char)}
    (h : documentOf document = .ok upper) : Toml.HasDistinctSections upper := by
  cases document with
  | none =>
    obtain rfl := Except.ok.inj h
    exact Toml.hasDistinctSections_nil
  | some t => exact Toml.hasDistinctSections_read h

/-- A document over sections gives the settings that it has. -/
theorem merge_document {document : Option (List Char)} {base : Entries}
    (h : documentOf document = .ok upper) (hbase : IsSection base name)
    (hupper : IsSection upper name) :
    IsSection (merge base upper) name ∧
      ∀ key, raw? (merge base upper) name key = (raw? upper name key).or (raw? base name key) := by
  have hdistinct := hasDistinctSections_documentOf h
  exact merge_section hdistinct.keys (fun _ habove => hdistinct.of_find? habove) hbase hupper

/-! ## All layers -/

/-- The value of a setting in the highest layer that has it. -/
def layered? (env : Environment) (upper lower : Entries) (name key : String) : Option Value :=
  (fromEnvironment? overrides env name key).or ((raw? upper name key).or (raw? lower name key))

theorem filled_congr {value? value?' : String → String → Option Value}
    (h : ∀ name ∈ sectionNames, ∀ key, value? name key = value?' name key) :
    filled value? = filled value?' := by
  refine List.map_congr_left fun section_ hmem => ?_
  have hname : value? section_.1 = value?' section_.1 :=
    funext (h section_.1 (List.mem_map_of_mem hmem))
  obtain ⟨name, standard⟩ := section_
  dsimp only at hname ⊢
  rw [hname]

variable {standard development : Option (List Char)}

/-- The default document and the one over it. -/
theorem merged_documents (hstandard : documentOf standard = .ok lower)
    (hdevelopment : documentOf development = .ok upper) (hlower : AreSections lower)
    (hupper : AreSections upper) :
    AreSections (merge (merge [] lower) upper) ∧ ∀ name ∈ sectionNames, ∀ key,
      raw? (merge (merge [] lower) upper) name key =
        (raw? upper name key).or (raw? lower name key) := by
  have hnothing : ∀ name, find? ([] : Entries) name = none := fun _ => rfl
  have hbase : ∀ name ∈ sectionNames, IsSection (merge [] lower) name ∧
      ∀ key, raw? (merge [] lower) name key = raw? lower name key := by
    intro name hname
    obtain ⟨hsection, hraw⟩ :=
      merge_document hstandard (isSection_of_find?_none (hnothing name)) (hlower name hname)
    refine ⟨hsection, fun key => ?_⟩
    rw [hraw, raw?_of_find?_none (hnothing name), Option.or_none]
  have hboth : ∀ name ∈ sectionNames, _ := fun name hname =>
    merge_document hdevelopment (hbase name hname).1 (hupper name hname)
  refine ⟨fun name hname => (hboth name hname).1, fun name hname key => ?_⟩
  rw [(hboth name hname).2, (hbase name hname).2]

theorem sectionsOf_eq (hstandard : documentOf standard = .ok lower)
    (hdevelopment : documentOf development = .ok upper) (env : Environment) :
    sectionsOf standard development env =
      (withEnvironment env (merge (merge [] lower) upper)).mapError .notTable := by
  unfold sectionsOf
  rw [addDocument_eq_ok hstandard]
  dsimp only [bind, Except.bind]
  rw [addDocument_eq_ok hdevelopment]

/-- The overrides in any order, over sections. -/
theorem applyAll_overrides {os : List Override} (h : AreSections sections)
    (hperm : os.Perm overrides) (env : Environment) :
    ∃ sections', applyAll env os sections = .ok sections' ∧
      (∀ name key, raw? sections' name key =
        (fromEnvironment? overrides env name key).or (raw? sections name key)) ∧
      AreSections sections' := by
  have hnames : ∀ o ∈ overrides, o.sectionName ∈ sectionNames := by decide
  have hdistinct : HaveDistinctTargets os :=
    (hperm.map _).nodup_iff.mpr haveDistinctTargets_overrides
  obtain ⟨sections', happly, hraw, hsections⟩ :=
    applyAll_sections hdistinct (fun o ho => h _ (hnames o (hperm.mem_iff.mp ho))) env
  refine ⟨sections', happly, fun name key => ?_, fun name hname => hsections _ (h name hname)⟩
  rw [hraw, fromEnvironment?_perm hperm haveDistinctTargets_overrides]

theorem fromEnvironment?_of_mem {o : Override} (ho : o ∈ overrides) :
    fromEnvironment? overrides env o.sectionName o.key = o.value? env := by
  have hsome : overrideOf? overrides o.sectionName o.key = some o :=
    (overrideOf?_eq_some_iff haveDistinctTargets_overrides).mpr ⟨ho, rfl⟩
  rw [fromEnvironment?, hsome]
  rfl

/-- Each setting is looked for in the environment, in the document of the development machine and in
the default document, in this order, and is its default if it is in none of them. A variable that is
not set, is empty or does not hold what is expected has no effect on any section. The overrides may
be applied in any order, and applied once more they change nothing. The limits that bound work are
positive in all settings that are read. -/
theorem load_layered (env : Environment)
    (hstandard : documentOf standard = .ok lower)
    (hdevelopment : documentOf development = .ok upper) (hlower : AreSections lower)
    (hupper : AreSections upper) :
    ∃ sections, sectionsOf standard development env = .ok sections ∧
      (∀ name ∈ sectionNames, ∀ key,
        raw? sections name key = layered? env upper lower name key) ∧
      load standard development env = settingsOf (filled (layered? env upper lower)) ∧
      (∀ o ∈ overrides, o.IsIdle env →
        sectionsOf standard development (without env o.variableName) = .ok sections) ∧
      (∀ os, os.Perm overrides →
        ∃ sections', applyAll env os (merge (merge [] lower) upper) = .ok sections' ∧
          (∀ name key, raw? sections' name key = raw? sections name key) ∧
          settingsOf sections' = settingsOf sections) ∧
      withEnvironment env sections = .ok sections ∧
      ∀ settings, load standard development env = .ok settings →
        1 ≤ settings.analyzer.maxWorkers ∧ 1 ≤ settings.analyzer.bodyScanLimit ∧
          1 ≤ settings.analyzer.maxFileSize := by
  obtain ⟨hmerged, hdocuments⟩ := merged_documents hstandard hdevelopment hlower hupper
  obtain ⟨sections, happly, hraw, hsections⟩ := applyAll_overrides hmerged List.Perm.rfl env
  have hlayered : ∀ name ∈ sectionNames, ∀ key,
      raw? sections name key = layered? env upper lower name key := by
    intro name hname key
    rw [hraw, hdocuments name hname, layered?]
  have hsectionsOf : ∀ env', withEnvironment env' (merge (merge [] lower) upper) = .ok sections →
      sectionsOf standard development env' = .ok sections := by
    intro env' henv'
    rw [sectionsOf_eq hstandard hdevelopment, henv']
    rfl
  have hload : load standard development env = settingsOf sections := by
    unfold load
    rw [hsectionsOf env happly]
    rfl
  refine ⟨sections, hsectionsOf env happly, hlayered, ?filled, ?idle, ?order, ?twice, ?positive⟩
  case filled => rw [hload, settingsOf_eq_filled hsections, filled_congr hlayered]
  case idle =>
    intro o ho hidle
    refine hsectionsOf _ ?_
    rw [withEnvironment_without ho hidle]
    exact happly
  case order =>
    intro os hperm
    obtain ⟨sections', happly', hraw', hsections'⟩ := applyAll_overrides hmerged hperm env
    have hsame : ∀ name key, raw? sections' name key = raw? sections name key := fun name key => by
      rw [hraw', hraw]
    refine ⟨sections', happly', hsame, ?_⟩
    rw [settingsOf_eq_filled hsections', settingsOf_eq_filled hsections,
      filled_congr fun name _ key => hsame name key]
  case twice =>
    refine applyAll_eq_self fun o ho v hv => ?_
    rw [hraw, fromEnvironment?_of_mem ho, hv]
    rfl
  case positive =>
    intro settings hsettings
    rw [hload] at hsettings
    exact positive_of_settingsOf hsettings

/-! ### Two documents and two variables -/

/-- A default document. -/
def lowerDocument : List Char :=
  "[server]\nport = 1\n[analyzer]\nmax_workers = 2\nmax_line_length = 80\n".toList

/-- What it holds. -/
def lowerSections : Entries := [
  ("server", .table [("port", .int 1)]),
  ("analyzer", .table [("max_workers", .int 2), ("max_line_length", .int 80)])]

/-- The document of a development machine. -/
def upperDocument : List Char := "[analyzer]\nmax_workers = 3\n".toList

/-- What that holds. -/
def upperSections : Entries := [("analyzer", .table [("max_workers", .int 3)])]

/-- An environment with a variable that has no effect. -/
def layeredEnvironment : Environment := [("PORT", "no"), ("ANALYZER_MAX_LINE_LENGTH", "90")]

theorem load_layered_documents :
    documentOf (some lowerDocument) = .ok lowerSections ∧
    documentOf (some upperDocument) = .ok upperSections ∧
    AreSections lowerSections ∧ AreSections upperSections ∧
    load (some lowerDocument) (some upperDocument) layeredEnvironment =
      .ok { server := { port := 1 }, analyzer := { maxLineLength := 90, maxWorkers := 3 } } := by
  have hlower : documentOf (some lowerDocument) = .ok lowerSections := by cbv
  have hupper : documentOf (some upperDocument) = .ok upperSections := by cbv
  have hlowerSections : AreSections lowerSections :=
    areSections_of_tables (by simp [lowerSections])
  have hupperSections : AreSections upperSections :=
    areSections_of_tables (by simp [upperSections])
  obtain ⟨_, -, -, hload, -⟩ :=
    load_layered layeredEnvironment hlower hupper hlowerSections hupperSections
  refine ⟨hlower, hupper, hlowerSections, hupperSections, ?_⟩
  rw [hload]
  cbv

end SourceGrade.Config
