import SourceGrade.File.Spelling
import SourceGrade.Proofs.Text.Utf8

set_option autoImplicit false

/-!
# Spelled paths

A path of characters is spelled as it is. No other spelling than that of the name for the directory
above has the bytes of that name, so names that are looked up lead upwards no more than they are
seen to.
-/

namespace SourceGrade.PathText

open SourceGrade.Text

variable {cs : List Char} {bytes : List UInt8} {name : String}

/-- A path of characters is spelled as it is. -/
theorem spelling?_ofChars (cs : List Char) : spelling? (WideText.ofChars cs) = some cs := by
  induction cs with
  | nil => rfl
  | cons c cs ih =>
    have htail : spelling? (cs.map .char) = some cs := ih
    show spelling? (.char c :: cs.map .char) = some (c :: cs)
    unfold spelling? spelledPoint?
    rw [htail]
    rfl

/-- The bytes of a character begin with that of a point only if it is one. -/
theorem encodeChar_eq_point {c : Char} {rest : List UInt8}
    (h : Utf8.encodeChar c ++ rest = 0x2E :: bytes) : c = '.' ∧ rest = bytes := by
  have hfirst : ∀ n < 0x100, UInt8.ofNat n = 0x2E → n = 0x2E := by
    intro n hn heq
    have hnat := congrArg UInt8.toNat heq
    rwa [UInt8.toNat_ofNat', Nat.mod_eq_of_lt hn] at hnat
  have hbounds := Utf8.toNat_bounds c
  unfold Utf8.encodeChar at h
  dsimp only at h
  split at h
  · obtain ⟨hc, hrest⟩ := List.cons.inj h
    have hpoint : c.toNat = '.'.toNat := hfirst _ (by omega) hc
    rw [← Char.ofNat_toNat c, hpoint]
    exact ⟨rfl, hrest⟩
  -- The first byte of a longer encoding is greater.
  · repeat' split at h
    all_goals
      have hpoint := hfirst _ (by omega) (List.cons.inj h).1
      omega

theorem nameBytes_eq_point (h : nameBytes cs = 0x2E :: bytes) :
    ∃ rest, cs = '.' :: rest ∧ nameBytes rest = bytes := by
  unfold nameBytes at h
  split at h
  · cases h
  · rename_i c rest
    have hnat := congrArg UInt8.toNat (List.cons.inj h).1
    rw [UInt8.toNat_ofNat'] at hnat
    change (0x80 + c.toNat % 0x80) % 0x100 = 0x2E at hnat
    omega
  · rename_i c rest _
    obtain ⟨rfl, hrest⟩ := encodeChar_eq_point h
    exact ⟨rest, rfl, hrest⟩

theorem nameBytes_eq_nil (h : nameBytes cs = []) : cs = [] := by
  unfold nameBytes at h
  split at h
  · rfl
  · cases h
  · rename_i c rest _
    have hlength := congrArg List.length (List.append_eq_nil_iff.mp h).1
    rw [Utf8.length_encodeChar] at hlength
    unfold Utf8.charSize at hlength
    repeat' split at hlength
    all_goals cases hlength

/-- Only the name for the directory above is looked up as such. -/
theorem storedName_ne_upward (h : name ≠ upward) : storedName name ≠ upward := by
  intro hstored
  unfold storedName at hstored
  dsimp only at hstored
  split at hstored
  · rename_i hbytes
    have htext : Utf8.decode (nameBytes name.toList) = ['.', '.'] := by
      rw [← String.toList_ofList (l := Utf8.decode _), hstored]
      rfl
    rw [htext] at hbytes
    have hpoints : nameBytes name.toList = [0x2E, 0x2E] := hbytes.symm
    obtain ⟨afterOne, hname, hpoint⟩ := nameBytes_eq_point hpoints
    obtain ⟨afterTwo, hafter, hnone⟩ := nameBytes_eq_point hpoint
    rw [hafter, nameBytes_eq_nil hnone] at hname
    exact h (String.toList_injective hname)
  · exact h hstored

end SourceGrade.PathText
