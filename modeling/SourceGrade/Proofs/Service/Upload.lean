import Mathlib.Data.List.Induction
import Mathlib.Data.List.Nodup
import SourceGrade.Proofs.Text.CodePoint
import SourceGrade.Proofs.Text.Utf8
import SourceGrade.Service.Upload

set_option autoImplicit false

/-!
# The first text at fault

Several texts are accepted together or refused together. They are refused for the first one that
repeats the name of an earlier text, has no bytes or has too many of them, and a text whose name is
repeated is refused for its name. So the refusal is told by the texts up to that one, and there is
none exactly if all names differ and all texts have bytes, but not too many.
-/

namespace SourceGrade.Service.Upload

variable {maxSize : Int} {before files accepted : List SourceFile} {file : SourceFile}
  {sent after : List SentFile} {f : SentFile} {e : UploadError}

/-! ## Faults -/

/-- No text repeats the name of an earlier one, and none has too many bytes. -/
structure Fine (maxSize : Int) (files : List SourceFile) : Prop where
  distinct : (files.map (·.name)).Nodup
  small : ∀ file ∈ files, ((Text.Utf8.encode file.text).length : Int) ≤ maxSize

/-- What is wrong with a text that is sent after others. Its name counts before its bytes. -/
inductive AtFault (maxSize : Int) (before : List SourceFile) (f : SentFile) :
    UploadError → Prop where
  /-- It has the name of an earlier text. -/
  | duplicate (name_mem : f.name ∈ before.map (·.name)) :
      AtFault maxSize before f (.duplicate f.name)
  /-- Its name is new, but it holds half a pair of code units. -/
  | unencodable (name_notMem : f.name ∉ before.map (·.name))
      (broken : ∀ file : SourceFile, f ≠ .ofFile file) :
      AtFault maxSize before f .unencodable
  /-- Its name is new, but it has too many bytes. -/
  | tooLarge {file : SourceFile} (name_notMem : f.name ∉ before.map (·.name))
      (whole : f = .ofFile file) (size : maxSize < ((Text.Utf8.encode file.text).length : Int)) :
      AtFault maxSize before f (.tooLarge f.name)

/-- Why texts are refused: there are none, or this is wrong with the first one at fault. -/
inductive RefusedFor (maxSize : Int) : List SentFile → UploadError → Prop where
  | empty : RefusedFor maxSize [] .empty
  | first {before : List SourceFile} {f : SentFile} {e : UploadError}
      (fine : Fine maxSize before) (atFault : AtFault maxSize before f e)
      (after : List SentFile) :
      RefusedFor maxSize (before.map .ofFile ++ f :: after) e

theorem fine_nil (maxSize : Int) : Fine maxSize [] := ⟨List.nodup_nil, nofun⟩

/-- Texts stay fine with one more at their end if its name is new and its bytes are not too
many. -/
theorem Fine.concat (h : Fine maxSize before) (hname : file.name ∉ before.map (·.name))
    (hsize : ((Text.Utf8.encode file.text).length : Int) ≤ maxSize) :
    Fine maxSize (before ++ [file]) where
  distinct := by
    rw [List.map_append, List.map_singleton, ← List.concat_eq_append]
    exact h.distinct.concat hname
  small := by
    intro other hother
    rcases List.mem_append.mp hother with hother | hother
    · exact h.small other hother
    · rwa [List.mem_singleton.mp hother]

/-- Of texts that are fine, the last one has a new name and not too many bytes, and the others are
fine. -/
theorem Fine.of_concat (h : Fine maxSize (before ++ [file])) :
    Fine maxSize before ∧ file.name ∉ before.map (·.name) ∧
      ((Text.Utf8.encode file.text).length : Int) ≤ maxSize := by
  obtain ⟨hdistinct, hsmall⟩ := h
  rw [List.map_append, List.map_singleton, List.nodup_append] at hdistinct
  refine ⟨⟨hdistinct.1, fun f hf => hsmall f (List.mem_append_left _ hf)⟩, fun hmem => ?_,
    hsmall file (List.mem_append_right _ (List.mem_singleton_self _))⟩
  exact hdistinct.2.2 _ hmem _ (List.mem_singleton_self _) rfl

/-- A text that is sent after others is at fault, or it is a file with a new name and not too many
bytes. -/
theorem atFault_or_fine (maxSize : Int) (before : List SourceFile) (f : SentFile) :
    (∃ e, AtFault maxSize before f e) ∨
      ∃ file, f = .ofFile file ∧ file.name ∉ before.map (·.name) ∧
        ((Text.Utf8.encode file.text).length : Int) ≤ maxSize := by
  by_cases hname : f.name ∈ before.map (·.name)
  · exact .inl ⟨_, .duplicate hname⟩
  by_cases hwhole : ∃ file : SourceFile, f = .ofFile file
  · obtain ⟨file, rfl⟩ := hwhole
    by_cases hsize : maxSize < ((Text.Utf8.encode file.text).length : Int)
    · exact .inl ⟨_, .tooLarge hname rfl hsize⟩
    · exact .inr ⟨file, rfl, hname, Int.not_lt.mp hsize⟩
  · exact .inl ⟨_, .unencodable hname (not_exists.mp hwhole)⟩

/-- Texts that are sent are fine files, or there is a first one at fault. -/
theorem fine_or_exists_first (maxSize : Int) (sent : List SentFile) :
    (∃ files, sent = files.map SentFile.ofFile ∧ Fine maxSize files) ∨
      ∃ before f after e, sent = before.map SentFile.ofFile ++ f :: after ∧
        Fine maxSize before ∧ AtFault maxSize before f e := by
  induction sent using List.reverseRecOn with
  | nil => exact .inl ⟨[], rfl, fine_nil maxSize⟩
  | append_singleton sent f ih =>
    rcases ih with ⟨files, rfl, hfine⟩ | ⟨before, first, after, e, rfl, hbefore, he⟩
    · rcases atFault_or_fine maxSize files f with ⟨e, he⟩ | ⟨file, rfl, hname, hsize⟩
      · exact .inr ⟨files, f, [], e, rfl, hfine, he⟩
      · exact .inl ⟨files ++ [file], by simp, hfine.concat hname hsize⟩
    · exact .inr ⟨before, first, after ++ [f], e, by simp, hbefore, he⟩

/-! ## The decision -/

/-- A text is too large where its bytes are too many. -/
theorem isTooLarge_eq_true_iff : isTooLarge maxSize file = true ↔
    maxSize < ((Text.Utf8.encode file.text).length : Int) := by
  unfold isTooLarge
  rw [decide_eq_true_eq, Text.Utf8.size_eq_length_encode]

/-- A file is received unless it is too large. -/
theorem receive_ofFile (maxSize : Int) (file : SourceFile) :
    receive maxSize (.ofFile file) =
      if isTooLarge maxSize file then .error (.tooLarge file.name) else .ok file := by
  unfold receive SentFile.ofFile
  rw [Text.WideText.chars?_ofChars]

/-- What is no file has no bytes. -/
theorem receive_of_ne_ofFile (maxSize : Int) (h : ∀ file : SourceFile, f ≠ .ofFile file) :
    receive maxSize f = .error .unencodable := by
  unfold receive
  cases htext : f.text.chars? with
  | none => rfl
  | some text =>
    have hfile : f = .ofFile ⟨f.name, text⟩ :=
      congrArg (SentFile.mk f.name) (Text.WideText.chars?_eq_some_iff.mp htext)
    exact absurd hfile (h _)

theorem any_name_reverse_eq_true_iff :
    (before.reverse.any fun file => file.name == f.name) = true ↔
      f.name ∈ before.map (·.name) := by
  rw [List.any_reverse, List.any_eq_true, List.mem_map]
  simp only [beq_iff_eq]

/-- A text with a new name is received, or the check ends with it. -/
theorem acceptFrom_of_notMem (hname : f.name ∉ before.map (·.name)) (after : List SentFile) :
    acceptFrom maxSize before.reverse (f :: after) =
      match receive maxSize f with
      | .error e => .error e
      | .ok file => acceptFrom maxSize (before ++ [file]).reverse after := by
  conv => lhs; unfold acceptFrom
  rw [if_neg (mt any_name_reverse_eq_true_iff.mp hname)]
  cases receive maxSize f with
  | error e => rfl
  | ok file =>
    dsimp only
    rw [List.reverse_append]
    rfl

/-- A text at fault ends the check. -/
theorem acceptFrom_of_atFault (h : AtFault maxSize before f e) (after : List SentFile) :
    acceptFrom maxSize before.reverse (f :: after) = .error e := by
  cases h with
  | duplicate hname =>
    unfold acceptFrom
    rw [if_pos (any_name_reverse_eq_true_iff.mpr hname)]
  | unencodable hname hbroken =>
    rw [acceptFrom_of_notMem hname, receive_of_ne_ofFile maxSize hbroken]
  | tooLarge hname hwhole hsize =>
    subst hwhole
    rw [acceptFrom_of_notMem hname, receive_ofFile, if_pos (isTooLarge_eq_true_iff.mpr hsize)]
    rfl

/-- The check passes over texts that are fine. -/
theorem acceptFrom_of_fine (h : Fine maxSize before) (after : List SentFile) :
    acceptFrom maxSize [] (before.map .ofFile ++ after) =
      acceptFrom maxSize before.reverse after := by
  induction before using List.reverseRecOn generalizing after with
  | nil => rfl
  | append_singleton before file ih =>
    obtain ⟨hbefore, hname, hsize⟩ := h.of_concat
    have hsmall : ¬ isTooLarge maxSize file = true := fun hlarge =>
      Int.not_lt.mpr hsize (isTooLarge_eq_true_iff.mp hlarge)
    rw [List.map_append, List.append_assoc, ih hbefore, List.map_singleton, List.singleton_append,
      acceptFrom_of_notMem (f := .ofFile file) hname, receive_ofFile, if_neg hsmall]

theorem accept_of_fine (hne : files ≠ []) (h : Fine maxSize files) :
    accept maxSize (files.map .ofFile) = .ok files := by
  have hall := acceptFrom_of_fine h []
  rw [List.append_nil] at hall
  unfold accept
  rw [if_neg (mt List.isEmpty_iff.mp (mt List.map_eq_nil_iff.mp hne)), hall, acceptFrom,
    List.reverse_reverse]

theorem accept_of_refusedFor (h : RefusedFor maxSize sent e) :
    accept maxSize sent = .error e := by
  cases h with
  | empty => rfl
  | first hbefore hfault after =>
    unfold accept
    rw [if_neg (by simp), acceptFrom_of_fine hbefore, acceptFrom_of_atFault hfault]

/-- Texts that are sent are files that are fine, or they are refused for a reason. -/
theorem fine_or_refusedFor (maxSize : Int) (sent : List SentFile) :
    (∃ files, sent = files.map SentFile.ofFile ∧ files ≠ [] ∧ Fine maxSize files) ∨
      ∃ e, RefusedFor maxSize sent e := by
  rcases fine_or_exists_first maxSize sent with
    ⟨files, rfl, hfine⟩ | ⟨before, f, after, e, rfl, hbefore, hfault⟩
  · by_cases hne : files = []
    · exact .inr ⟨.empty, hne ▸ .empty⟩
    · exact .inl ⟨files, rfl, hne, hfine⟩
  · exact .inr ⟨e, .first hbefore hfault after⟩

/-- Texts are accepted as they are, if there are some and all of them are files that are fine. -/
theorem accept_eq_ok_iff : accept maxSize sent = .ok accepted ↔
    sent = accepted.map SentFile.ofFile ∧ accepted ≠ [] ∧ Fine maxSize accepted := by
  constructor
  · intro h
    rcases fine_or_refusedFor maxSize sent with ⟨files, rfl, hne, hfine⟩ | ⟨e, he⟩
    · rw [accept_of_fine hne hfine] at h
      exact Except.ok.inj h ▸ ⟨rfl, hne, hfine⟩
    · rw [accept_of_refusedFor he] at h
      cases h
  · rintro ⟨rfl, hne, hfine⟩
    exact accept_of_fine hne hfine

/-- Texts are refused for the first one at fault. -/
theorem accept_eq_error_iff : accept maxSize sent = .error e ↔ RefusedFor maxSize sent e := by
  constructor
  · intro h
    rcases fine_or_refusedFor maxSize sent with ⟨files, rfl, hne, hfine⟩ | ⟨e', he'⟩
    · rw [accept_of_fine hne hfine] at h
      cases h
    · rw [accept_of_refusedFor he'] at h
      exact Except.error.inj h ▸ he'
  · exact accept_of_refusedFor

end SourceGrade.Service.Upload
