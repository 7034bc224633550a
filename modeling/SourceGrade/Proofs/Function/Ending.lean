import Mathlib.Data.List.Forall2
import SourceGrade.Proofs.Function.Balance
import SourceGrade.Proofs.Function.Discovery
import SourceGrade.Proofs.Pattern.Ending

set_option autoImplicit false

/-!
# Functions and a line feed at the end of a text

A line feed at the end of a text changes neither the signatures in it nor where a body is closed.
What stands for a body that is not closed is another matter. On a line that ends it is the rest of
the line, as far as the limit allows; on a last line that does not end it is a fixed number of
characters, also where the limit allows more. So a long last line with a body that is not closed is
measured in two ways: `FunctionInfo.ending_find`.
-/

namespace SourceGrade

namespace Body

variable {t : List Char} {start i : Nat} {limit : Int}

/-! ## Bodies -/

theorem slice_concat (hstart : start ≤ t.length) {stop : Nat} (hstop : stop ≤ t.length) (c : Char) :
    slice (t ++ [c]) start stop = slice t start stop := by
  unfold slice
  rw [List.drop_append_of_le_length hstart,
    List.take_append_of_le_length (by rw [List.length_drop]; omega)]

/-- A line feed closes nothing. -/
theorem balances_concat_lineFeed_iff (h : start ≤ i) :
    Balances (t ++ ['\n']) start i ↔ Balances t start i := by
  by_cases hlt : i < t.length
  · have hget : (t ++ ['\n'])[i]? = t[i]? := List.getElem?_append_left hlt
    have hslice : slice (t ++ ['\n']) start (i + 1) = slice t start (i + 1) :=
      slice_concat (by omega) hlt '\n'
    constructor
    · rintro ⟨hbrace, hopened, heven⟩
      rw [hget] at hbrace
      rw [hslice] at hopened heven
      exact ⟨hbrace, hopened, heven⟩
    · rintro ⟨hbrace, hopened, heven⟩
      rw [← hget] at hbrace
      rw [← hslice] at hopened heven
      exact ⟨hbrace, hopened, heven⟩
  · refine iff_of_false (fun hbalances => ?_) fun hbalances => ?_
    · have hget := hbalances.brace
      rw [List.getElem?_append_right (Nat.le_of_not_lt hlt)] at hget
      have hmem := List.mem_of_getElem? hget
      simp at hmem
    · exact hlt (List.getElem?_eq_some_iff.mp hbalances.brace).1

/-- A line feed at the end of the text does not move the end of a body. -/
theorem endsAt_concat_lineFeed_iff :
    EndsAt (t ++ ['\n']) start limit i ↔ EndsAt t start limit i := by
  unfold EndsAt
  refine isFirst_congr fun j hj => ?_
  rw [balances_concat_lineFeed_iff hj, List.length_append, List.length_singleton]
  constructor
  · rintro ⟨hwindow, hbalances⟩
    have hlt := (List.getElem?_eq_some_iff.mp hbalances.brace).1
    exact ⟨by omega, hbalances⟩
  · rintro ⟨hwindow, hbalances⟩
    exact ⟨by omega, hbalances⟩

/-- What stands for the body that begins at `start` is not the rest of the last line, although the
limit allows more of it. -/
structure CutShort (t : List Char) (start : Nat) (limit : Int) : Prop where
  /-- The body is not closed. -/
  unbalanced : ∀ i, ¬EndsAt t start limit i
  /-- The line does not end. -/
  lastLine : '\n' ∉ t.drop start
  /-- More of it is left than is taken. -/
  long : fallbackLength < (t.drop start).length
  /-- More of it is allowed than is taken. -/
  allowed : (fallbackLength : Int) < limit

theorem nextLineFeed?_of_notMem (h : '\n' ∉ t.drop start) : nextLineFeed? t start = none := by
  unfold nextLineFeed?
  rw [Option.map_eq_none_iff, List.findIdx?_eq_none_iff]
  exact fun x hx => beq_eq_false_iff_ne.mpr fun heq => h (heq ▸ hx)

/-- Without a line feed a fixed number of characters is taken. -/
theorem restOfLine_of_notMem (h : '\n' ∉ t.drop start) :
    restOfLine t start limit (nextLineFeed? t start) = (t.drop start).take fallbackLength := by
  have hlength : min (start + fallbackLength) (start + max limit.toNat fallbackLength) - start =
      fallbackLength := by
    omega
  rw [nextLineFeed?_of_notMem h]
  unfold restOfLine slice
  dsimp only
  rw [Option.getD_none, hlength]

/-- With a line feed at the end it is as much as is allowed. -/
theorem restOfLine_concat_of_notMem (hstart : start ≤ t.length) (h : '\n' ∉ t.drop start) :
    restOfLine (t ++ ['\n']) start limit (nextLineFeed? (t ++ ['\n']) start) =
      (t.drop start).take (max limit.toNat fallbackLength) := by
  have hfeed : nextLineFeed? (t ++ ['\n']) start = some t.length := by
    refine nextLineFeed?_eq_some_iff.mpr ⟨hstart, by simp, fun j hj hlt hget => h ?_⟩
    rw [List.getElem?_append_left hlt] at hget
    refine List.mem_of_getElem? (i := j - start) ?_
    rw [List.getElem?_drop, Nat.add_sub_cancel' hj, hget]
  have hlength : min t.length (start + max limit.toNat fallbackLength) - start =
      min (max limit.toNat fallbackLength) (t.drop start).length := by
    rw [List.length_drop]
    omega
  rw [hfeed]
  unfold restOfLine
  rw [Option.getD_some, slice_concat hstart (Nat.min_le_left _ _)]
  unfold slice
  rw [hlength, ← List.take_eq_take_min]

/-- A line that ends has the same rest. -/
theorem restOfLine_concat_of_mem (hstart : start ≤ t.length) (h : '\n' ∈ t.drop start) :
    restOfLine (t ++ ['\n']) start limit (nextLineFeed? (t ++ ['\n']) start) =
      restOfLine t start limit (nextLineFeed? t start) := by
  obtain ⟨k, hk⟩ := List.mem_iff_getElem?.mp h
  rw [List.getElem?_drop] at hk
  obtain ⟨j, -, hfirst⟩ := IsFirst.exists_le (P := fun j => t[j]? = some '\n')
    (Nat.le_add_right start k) hk
  have hlt : j < t.length := (List.getElem?_eq_some_iff.mp hfirst.holds).1
  have hfirst' : IsFirst (fun j => (t ++ ['\n'])[j]? = some '\n') start j := by
    refine ⟨hfirst.le, ?_, fun i hi hij hget => hfirst.least i hi hij ?_⟩
    · rw [List.getElem?_append_left hlt, hfirst.holds]
    · rwa [List.getElem?_append_left (Nat.lt_trans hij hlt)] at hget
  rw [nextLineFeed?_eq_some_iff.mpr hfirst, nextLineFeed?_eq_some_iff.mpr hfirst']
  unfold restOfLine
  rw [Option.getD_some]
  exact slice_concat hstart (by omega) '\n'

theorem lookUp_of_cutShort (h : CutShort t start limit) :
    lookUp t (.ofText t) (.ofText t) start limit = (t.drop start).take fallbackLength := by
  rw [lookUp_of_not_endsAt h.unbalanced, restOfLine_of_notMem h.lastLine]

theorem lookUp_concat_of_cutShort (h : CutShort t start limit) :
    lookUp (t ++ ['\n']) (.ofText (t ++ ['\n'])) (.ofText (t ++ ['\n'])) start limit =
      (t.drop start).take limit.toNat := by
  have hstart : start ≤ t.length := by
    have hlong := h.long
    rw [List.length_drop] at hlong
    omega
  have hlimit : max limit.toNat fallbackLength = limit.toNat := by
    have hallowed := h.allowed
    omega
  rw [lookUp_of_not_endsAt fun i hi => h.unbalanced i (endsAt_concat_lineFeed_iff.mp hi),
    restOfLine_concat_of_notMem hstart h.lastLine, hlimit]

/-- Apart from that a line feed at the end of the text changes no body. -/
theorem lookUp_concat_of_not_cutShort (hstart : start ≤ t.length) (h : ¬CutShort t start limit) :
    lookUp (t ++ ['\n']) (.ofText (t ++ ['\n'])) (.ofText (t ++ ['\n'])) start limit =
      lookUp t (.ofText t) (.ofText t) start limit := by
  by_cases hends : ∃ i, EndsAt t start limit i
  · obtain ⟨i, hi⟩ := hends
    have hlt := (List.getElem?_eq_some_iff.mp hi.holds.2.brace).1
    rw [lookUp_of_endsAt hi, lookUp_of_endsAt (endsAt_concat_lineFeed_iff.mpr hi)]
    exact slice_concat hstart hlt '\n'
  · have hnone := not_exists.mp hends
    rw [lookUp_of_not_endsAt hnone,
      lookUp_of_not_endsAt fun i hi => hnone i (endsAt_concat_lineFeed_iff.mp hi)]
    by_cases hfeed : '\n' ∈ t.drop start
    · exact restOfLine_concat_of_mem hstart hfeed
    · rw [restOfLine_of_notMem hfeed, restOfLine_concat_of_notMem hstart hfeed]
      -- Either no more is left or no more is allowed.
      rcases Nat.lt_or_ge fallbackLength (t.drop start).length with hlong | hshort
      · have hlimit : max limit.toNat fallbackLength = fallbackLength := by
          have hallowed : ¬(fallbackLength : Int) < limit := fun hlt => h ⟨hnone, hfeed, hlong, hlt⟩
          omega
        rw [hlimit]
      · rw [List.take_of_length_le hshort, List.take_of_length_le (by omega)]

/-- What is cut short is shorter. -/
theorem lookUp_concat_ne_of_cutShort (h : CutShort t start limit) :
    lookUp (t ++ ['\n']) (.ofText (t ++ ['\n'])) (.ofText (t ++ ['\n'])) start limit ≠
      lookUp t (.ofText t) (.ofText t) start limit := by
  intro heq
  have hlength := congrArg List.length heq
  rw [lookUp_of_cutShort h, lookUp_concat_of_cutShort h, List.length_take, List.length_take]
    at hlength
  have hlong := h.long
  have hallowed := h.allowed
  omega

end Body

namespace Language

variable {language : Language} {t : List Char} {c : Capture}

/-! ## Signatures -/

/-- The signatures of all languages end with a character other than a line feed. -/
theorem endsInInk_of_mem_registry (h : language ∈ registry) {p : Pattern}
    (hp : p ∈ language.functionPatterns) : p.endsInInk = true := by
  have hall : ∀ l ∈ registry, ∀ p ∈ l.functionPatterns, p.endsInInk = true := by decide
  exact hall language h p hp

theorem signatures_concat_lineFeed (h : language ∈ registry) (t : List Char) :
    language.signatures (t ++ ['\n']) = language.signatures t := by
  unfold signatures captures
  rw [List.flatMap_congr fun p hp => by
    rw [Pattern.hits_concat_lineFeed (endsInInk_of_mem_registry h hp)]]

theorem start_le_of_mem_signatures (h : c ∈ language.signatures t) : c.start ≤ t.length := by
  unfold signatures captures at h
  obtain ⟨p, -, hp⟩ := List.mem_flatMap.mp (List.mem_filter.mp h).1
  obtain ⟨hit, hmem, hc⟩ := List.mem_filterMap.mp hp
  obtain ⟨i, d, hfinds, rfl⟩ := Pattern.findsAt_of_mem_hits hmem
  rw [Capture.start_of_ofHit? hc]
  exact hfinds.lt_length.le

/-- The signatures that name functions are the same ones. -/
theorem firsts_concat_lineFeed (h : language ∈ registry) (t : List Char) :
    firstsBy (Capture.place (t ++ ['\n'])) (language.signatures (t ++ ['\n'])) =
      firstsBy (Capture.place t) (language.signatures t) := by
  rw [signatures_concat_lineFeed h]
  refine firstsBy_congr fun c hc => ?_
  unfold Capture.place
  rw [Text.lineAt_append_left (start_le_of_mem_signatures hc)]

end Language

namespace FunctionInfo

open Body (CutShort)
open SourceGrade.Language (registry)

variable {language : Language} {t : List Char} {limit : Int}

/-! ## Functions -/

/-- The function that a signature names, with the given body. -/
def named (t : List Char) (c : Capture) (body : List Char) : FunctionInfo :=
  ofBody ⟨c.name, Text.lineAt t c.start, c.start⟩ body

/-- A line feed at the end of a text makes the functions `gs` of the functions `fs` in it. -/
structure Ending (language : Language) (t : List Char) (limit : Int)
    (fs gs : List FunctionInfo) : Prop where
  /-- They have the same names on the same lines. -/
  places : gs.map place = fs.map place
  /-- They are the same but for bodies that are cut short without the line feed. -/
  bodies : List.Forall₂ (fun f g => g = f ∨ ∃ start, CutShort t start limit ∧
    f.body = (t.drop start).take Body.fallbackLength ∧
    g.body = (t.drop start).take limit.toNat) fs gs
  /-- So they are all the same exactly if no body is cut short. -/
  same_iff : gs = fs ↔
    ∀ c ∈ firstsBy (Capture.place t) (language.signatures t), ¬CutShort t c.start limit

theorem find_concat_lineFeed (h : language ∈ registry) (t : List Char) (limit : Int) :
    find language (t ++ ['\n']) limit =
      (firstsBy (Capture.place t) (language.signatures t)).map fun c => named t c
        (Body.lookUp (t ++ ['\n']) (.ofText (t ++ ['\n'])) (.ofText (t ++ ['\n'])) c.start
          limit) := by
  rw [find_eq, Language.firsts_concat_lineFeed h]
  refine List.map_congr_left fun c hc => ?_
  unfold named
  rw [Text.lineAt_append_left
    (Language.start_le_of_mem_signatures (mem_of_mem_firstsBy hc))]

/-- A line feed at the end of a text changes the functions that are found in it exactly if a body on
its last line is not closed and long. -/
theorem ending_find (h : language ∈ registry) (t : List Char) (limit : Int) :
    Ending language t limit (find language t limit) (find language (t ++ ['\n']) limit) := by
  have hstart : ∀ c ∈ firstsBy (Capture.place t) (language.signatures t), c.start ≤ t.length :=
    fun c hc => Language.start_le_of_mem_signatures (mem_of_mem_firstsBy hc)
  refine ⟨?_, ?_, ?_⟩
  · rw [find_concat_lineFeed h, place_find, List.map_map]
    rfl
  · rw [find_concat_lineFeed h, find_eq, List.forall₂_map_left_iff, List.forall₂_map_right_iff,
      List.forall₂_same]
    intro c hc
    by_cases hcut : CutShort t c.start limit
    · exact .inr ⟨c.start, hcut, Body.lookUp_of_cutShort hcut, Body.lookUp_concat_of_cutShort hcut⟩
    · refine .inl (congrArg (named t c) ?_)
      exact Body.lookUp_concat_of_not_cutShort (hstart c hc) hcut
  · rw [find_concat_lineFeed h, find_eq, List.map_inj_left]
    refine forall₂_congr fun c hc => ?_
    constructor
    · intro heq hcut
      exact Body.lookUp_concat_ne_of_cutShort hcut (congrArg FunctionInfo.body heq)
    · intro hcut
      refine congrArg (named t c) ?_
      exact Body.lookUp_concat_of_not_cutShort (hstart c hc) hcut

/-- A function without a body on a line of 218 characters, the last of which are a decision. -/
def longLine : List Char :=
  "function f(".toList ++ List.replicate 200 'x' ++ " if (a)".toList

/-- Without a line feed 200 characters of the line are taken, with it the whole line. -/
theorem measures_longLine :
    (find .javascript longLine).map (fun f => (f.body.length, f.complexity)) = [(200, 1)] ∧
      (find .javascript (longLine ++ ['\n'])).map (fun f => (f.body.length, f.complexity)) =
        [(218, 2)] := by
  decide +kernel

theorem ending_find_longLine :
    SourceGrade.Language.javascript ∈ registry ∧
      Ending .javascript longLine Body.defaultLimit (find .javascript longLine)
        (find .javascript (longLine ++ ['\n'])) := by
  have hmem : SourceGrade.Language.javascript ∈ registry := List.mem_cons_self
  exact ⟨hmem, ending_find hmem longLine Body.defaultLimit⟩

/-- So a line feed at the end of a text is not without influence on its functions. -/
theorem longLine_feed_matters :
    ¬∀ language ∈ registry, ∀ (t : List Char) (limit : Int),
      find language (t ++ ['\n']) limit = find language t limit := by
  intro hall
  have hsame := hall .javascript List.mem_cons_self longLine Body.defaultLimit
  have hmeasures := measures_longLine.2
  rw [hsame, measures_longLine.1] at hmeasures
  exact absurd hmeasures (by decide)

end FunctionInfo

end SourceGrade
