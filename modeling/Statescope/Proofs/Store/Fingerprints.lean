-- SUMMARY: What hashes, fingerprints and layout keys tell apart: one changed code unit, and the files of a directory store.
import Mathlib
import Statescope.Proofs.Graph.Fingerprint
import Statescope.Proofs.Store.Bundle
import Statescope.Proofs.Store.Places

/-!
# Fingerprints as keys

A fingerprint has eight hexadecimal digits, so its layout key is a key that every directory
can hold, in a file of its own (`hash_algebra_and_files`).
-/

namespace Statescope.Fingerprint

/-! ## Names -/

/-- The fingerprint is eight hexadecimal digits. -/
def IsHex (fp : Fingerprint) : Prop :=
  fp.text.toList.length = 8 ∧ ∀ c ∈ fp.text.toList, c ∈ "0123456789abcdef".toList

@[simp] theorem isHex_ofElements (elements : List Element) : IsHex (ofElements elements) := by
  unfold IsHex
  rw [toList_ofElements]
  exact ⟨length_hexDigits 8 _, fun c => mem_of_mem_hexDigits⟩

theorem utf8Len_le (cs : List Char) : String.utf8Len cs ≤ 4 * cs.length := by
  induction cs with
  | nil => exact Nat.le_refl 0
  | cons c cs ih =>
    have hchar := c.utf8Size_le_four
    rw [String.utf8Len_cons, List.length_cons]
    omega

section Names

variable {fp : Fingerprint} (h : IsHex fp)

include h

theorem IsHex.ne_of_mem {c d : Char} (hc : c ∈ fp.text.toList)
    (hd : d ∉ "0123456789abcdef".toList) : c ≠ d := by
  rintro rfl
  exact hd (h.2 c hc)

theorem IsHex.isAllowed : KeyPath.isAllowed fp.text.toList = true := by
  refine KeyPath.isAllowed_iff.2 ⟨?_, ?_, ?_, ?_, ?_⟩
  · intro hnil
    have hlength := h.1
    rw [hnil] at hlength
    cases hlength
  · intro hdot
    exact h.ne_of_mem (List.mem_of_mem_head? hdot) (by decide) rfl
  · exact fun hmem => h.ne_of_mem hmem (by decide) rfl
  · exact fun hmem => h.ne_of_mem hmem (by decide) rfl
  · exact fun hmem => h.ne_of_mem hmem (by decide) rfl

theorem IsHex.canName : Directory.canName (fp.text ++ ".json") = true := by
  have hsize : (fp.text ++ ".json").utf8ByteSize ≤ Directory.maxNameLength := by
    have htext := utf8Len_le fp.text.toList
    rw [← String.utf8ByteSize_ofList, String.ofList_toList, h.1] at htext
    have hending : ".json".utf8ByteSize = 5 := by decide
    rw [String.utf8ByteSize_append, hending]
    exact Nat.le_trans (Nat.add_le_add_right htext 5) (by decide)
  have hnul : ∀ c ∈ (fp.text ++ ".json").toList, c ≠ '\x00' := by
    rw [String.toList_append]
    intro c hc
    rcases List.mem_append.1 hc with hc | hc
    · exact h.ne_of_mem hc (by decide)
    · rintro rfl
      exact absurd hc (by decide)
  rw [Directory.canName, Directory.isPathText, Bool.and_eq_true, decide_eq_true_iff, List.all_eq_true]
  exact ⟨hsize, fun c hc => decide_eq_true (hnul c hc)⟩

end Names

/-! ## Places -/

/-- The file of a layout. -/
def layoutFile (fp : Fingerprint) : String := "layout/" ++ fp.text ++ ".json"

theorem layoutKey_eq (fp : Fingerprint) : fp.layoutKey = "layout" ++ ":" ++ fp.text := by
  have hprefix : ("layout" ++ ":").toList = keyPrefix := by decide +kernel
  rw [← String.toList_inj, toList_layoutKey, String.toList_append, hprefix]

theorem IsHex.place {fp : Fingerprint} (h : IsHex fp) :
    KeyPath.ofKey? fp.layoutKey = some ⟨some "layout", fp.text⟩ := by
  rw [layoutKey_eq, KeyPath.ofKey?_append (by decide), h.isAllowed]
  rfl

@[simp] theorem file_place (fp : Fingerprint) :
    (KeyPath.mk (some "layout") fp.text).file = fp.layoutFile := by
  simp [KeyPath.file, KeyPath.fileName, layoutFile, String.append_assoc]

theorem eq_of_layoutFile_eq {fp fp' : Fingerprint} (h : IsHex fp) (h' : IsHex fp')
    (heq : fp.layoutFile = fp'.layoutFile) : fp = fp' := by
  rw [← file_place, ← file_place] at heq
  exact layoutKey_injective (KeyPath.key_eq_of_file_eq h.place h'.place heq)

theorem layoutFile_ne (fp : Fingerprint) : fp.layoutFile ≠ "layout" := by
  intro heq
  have hslash : '/' ∈ fp.layoutFile.toList := by simp [layoutFile]
  rw [heq] at hslash
  exact absurd hslash (by decide)

/-- A directory takes what is saved under the key, if nothing is in the way. -/
theorem IsHex.save {fp : Fingerprint} (h : IsHex fp) {d : Directory} (blob : Blob)
    (hfolder : d.files.contains "layout" = false)
    (hfile : d.folders.contains fp.layoutFile = false) :
    ∃ d', BlobStore.save d fp.layoutKey blob = (.ok (), d') ∧
      d'.files = d.files.insert fp.layoutFile blob := by
  have hname : Directory.canName "layout" = true := by decide +kernel
  have hfree : (d.folders.insert "layout").contains fp.layoutFile = false := by
    rw [Bool.eq_false_iff, ne_eq, Std.ExtTreeSet.contains_iff_mem] at hfile ⊢
    rw [Tags.mem_insert_iff, not_or]
    exact ⟨fp.layoutFile_ne.symm, hfile⟩
  refine ⟨{ files := d.files.insert fp.layoutFile blob, folders := d.folders.insert "layout" }, ?_, rfl⟩
  simp only [BlobStore.save, h.place, Directory.write, Directory.makeFolder, hname, hfolder,
    Bool.not_true, Bool.false_eq_true, if_false, KeyPath.fileName, h.canName, file_place, hfree]

/-! ## Laws -/

/-- The hash of a text is the value at 31 of the polynomial with its code units, each
character counted with the one or two that spell it, so that the hash of a text put together
comes from the hashes of its parts. Whether two texts of the same length have the same hash
does not depend on what stands around them, and one code unit makes a difference always.
Fingerprints are eight digits and as good as hashes. The key of a diagram gives its
fingerprint back, and a directory keeps it in a file that belongs to no other one. -/
theorem hash_algebra_and_files :
    (∀ text, (rollingHash text).toNat = (∑ i : Fin (units text).length,
      (units text)[i].toNat * 31 ^ ((units text).length - 1 - i)) % 2 ^ 32) ∧
    (∀ c, Spells c (codeUnits c)) ∧
    (∀ a b, (rollingHash (a ++ b)).toNat
      = ((rollingHash a).toNat * 31 ^ (units b).length + (rollingHash b).toNat) % 2 ^ 32) ∧
    (∀ before a b after, (units a).length = (units b).length →
      (rollingHash (before ++ a ++ after) = rollingHash (before ++ b ++ after) ↔
        rollingHash a = rollingHash b)) ∧
    (∀ as bs, DifferOnce (units (serialize as).toList) (units (serialize bs).toList) →
      ofElements as ≠ ofElements bs) ∧
    (∀ as bs, ofElements as = ofElements bs ↔
      rollingHash (serialize as).toList = rollingHash (serialize bs).toList) ∧
    ∀ elements, let fp := ofElements elements
      IsHex fp ∧ ofLayoutKey? fp.layoutKey = some fp ∧
      (∃ p, KeyPath.ofKey? fp.layoutKey = some p ∧ p.file = fp.layoutFile) ∧
      (∀ (d : Directory) blob, d.files.contains "layout" = false →
        d.folders.contains fp.layoutFile = false →
        ∃ d', BlobStore.save d fp.layoutKey blob = (.ok (), d') ∧
          d'.files = d.files.insert fp.layoutFile blob) ∧
      ∀ others, ofElements others ≠ fp → (ofElements others).layoutFile ≠ fp.layoutFile := by
  refine ⟨fun text => toNat_hash (units text), spells_codeUnits, fun a b => ?_,
    fun before a b after hlength => ?_, fun as bs hdiffer heq => ?_, fun _ _ => ofElements_eq_iff,
    fun elements => ?_⟩
  · rw [rollingHash_eq, units_append, toNat_hash_append]
    rfl
  · simp only [rollingHash_eq, units_append]
    rw [hash_append_right_iff, hash_append_left_iff hlength]
  · exact hdiffer.hash_ne (ofElements_eq_iff.1 heq)
  · intro fp
    have hhex : IsHex fp := isHex_ofElements elements
    have hempty : fp.text ≠ "" := text_ofElements_ne_empty elements
    refine ⟨hhex, ofLayoutKey?_eq_some_iff.2 ⟨rfl, hempty⟩, ⟨_, hhex.place, file_place fp⟩,
      fun d blob => hhex.save blob, fun others hne heq => hne ?_⟩
    exact eq_of_layoutFile_eq (isHex_ofElements others) hhex heq

/-- Two texts of two units with the same hash, behind a character of two units, and two elements
whose texts differ in one letter. -/
theorem hash_algebra_and_files_of_collision :
    let before := ['x', Char.ofNat 0x1F600]
    let as : List Element := [{ id := "a", kind := .state }]
    let bs : List Element := [{ id := "b", kind := .state }]
    let blob := Blob.ofText "\x7b\x7d"
    (units before).length = 3 ∧
    rollingHash (before ++ ['A', 'a'] ++ ['y']) = rollingHash (before ++ ['B', 'B'] ++ ['y']) ∧
    DifferOnce (units (serialize as).toList) (units (serialize bs).toList) ∧
    ofElements as ≠ ofElements bs ∧
    (ofElements as).layoutFile ≠ (ofElements bs).layoutFile ∧
    ∃ d', BlobStore.save ({} : Directory) (ofElements as).layoutKey blob = (.ok (), d') ∧
      d'.files = (∅ : Dict Blob).insert (ofElements as).layoutFile blob := by
  intro before as bs blob
  obtain ⟨-, -, -, hcollision, hdiffer, -, hfiles⟩ := hash_algebra_and_files
  have honce : DifferOnce (units (serialize as).toList) (units (serialize bs).toList) :=
    ⟨(units (serialize as).toList).take 8, 97, 98, (units (serialize as).toList).drop 9,
      by decide +kernel, by decide +kernel, by decide⟩
  have hsame : rollingHash ['A', 'a'] = rollingHash ['B', 'B'] := by decide +kernel
  have hne : ofElements as ≠ ofElements bs := hdiffer as bs honce
  obtain ⟨-, -, -, hsave, -⟩ := hfiles as
  obtain ⟨-, -, -, -, hothers⟩ := hfiles bs
  refine ⟨by decide +kernel, (hcollision before _ _ ['y'] rfl).2 hsame, honce, hne, hothers as hne, ?_⟩
  exact hsave {} blob (by decide +kernel) (by decide +kernel)

end Statescope.Fingerprint
