-- SUMMARY: Directories in which every file of a key can be read, whatever is saved in them and removed from them.
import Statescope.Proofs.Store.LayoutFrame
import Statescope.Proofs.Store.Mirror

/-!
# Sound directories

What a directory holds can be read if its files have names that a file can have, are in
folders that there are, and are no folders themselves. No operation of the store puts an end to
this, so it holds of every directory that began empty (`Directory.sound_empty`).
-/

namespace Statescope

/-! ## Directories -/

namespace Directory

open KeyPath

/-- Every file of a key can be reached. -/
structure Sound (d : Directory) : Prop where
  canHold : ∀ key p, ofKey? key = some p → p.file ∈ d.files → canHold p = true
  made : ∀ key p folder, ofKey? key = some p → p.file ∈ d.files → p.folder = some folder →
    folder ∈ d.folders
  apart : ∀ path ∈ d.folders, path ∉ d.files

theorem sound_empty : ({} : Directory).Sound where
  canHold := by simp
  made := by simp
  apart := by simp

/-- The path of a file is not too long if neither of its names is. -/
theorem canHold_iff (p : KeyPath) : canHold p = true ↔
    canName p.fileName = true ∧ ∀ folder, p.folder = some folder → canName folder = true := by
  rw [canHold, Bool.and_eq_true]
  refine and_congr_right fun hname => ?_
  cases hfolder : p.folder with
  | none => simp
  | some folder =>
    simp only [Option.all_some, Bool.and_eq_true, Option.some.injEq, forall_eq', and_iff_right_iff_imp]
    intro hspace
    simp only [canName, isPathText, Bool.and_eq_true, decide_eq_true_eq, List.all_eq_true] at hname hspace ⊢
    have hslash : "/".utf8ByteSize = 1 := by decide
    rw [KeyPath.file, hfolder]
    simp only [String.utf8ByteSize_append, String.toList_append, List.mem_append, hslash]
    refine ⟨?_, ?_⟩
    · have hlimits : maxNameLength + 1 + maxNameLength ≤ maxPathLength := by decide
      omega
    · rintro c ((hc | hc) | hc)
      · exact hspace.2 c hc
      · rintro rfl
        exact absurd hc (by decide)
      · exact hname.2 c hc

variable {d d' : Directory} {key : String} {p : KeyPath} {blob : Blob}

theorem folder_of_makeFolder (hmake : d.makeFolder p = .ok d') {folder : String}
    (hfolder : p.folder = some folder) : canName folder = true ∧ folder ∈ d'.folders := by
  simp only [makeFolder, hfolder] at hmake
  split at hmake
  · cases hmake
  · rename_i hname
    split at hmake
    · cases hmake
    · cases hmake
      exact ⟨by simpa using hname, Tags.mem_insert_iff.2 (.inl rfl)⟩

namespace Sound

theorem read_eq (h : d.Sound) (hp : ofKey? key = some p) (hfile : d.files[p.file]? = some blob) :
    d.read p = .ok blob := by
  have hmem : p.file ∈ d.files := by
    rw [Std.ExtTreeMap.mem_iff_isSome_getElem?, hfile, Option.isSome_some]
  have hreach : d.obstacle? p = none := by
    refine obstacle?_eq_none_iff.2 ⟨h.canHold key p hp hmem, fun folder hfolder => ?_⟩
    have hmade := h.made key p folder hp hmem hfolder
    exact ⟨hmade, h.apart folder hmade⟩
  exact read_eq_ok_iff.2 ⟨hreach, fun hfolder => h.apart _ hfolder hmem, hfile⟩

/-- What there is under a key can be loaded. -/
theorem load_eq (h : d.Sound) (hblob : d.blob? key = some blob) : BlobStore.load d key = .ok blob := by
  obtain ⟨p, hp, hfile⟩ := Option.bind_eq_some_iff.1 hblob
  simp only [BlobStore.load, hp, h.read_eq hp hfile]

/-- A folder is made where no file is, and nothing else is touched. -/
theorem makeFolder (h : d.Sound) (hmake : d.makeFolder p = .ok d') : d'.Sound := by
  unfold Directory.makeFolder at hmake
  split at hmake
  · cases hmake
    exact h
  · rename_i folder _
    split at hmake
    · cases hmake
    split at hmake
    · cases hmake
    · rename_i hfree
      cases hmake
      refine ⟨h.canHold, fun key p folder' hp hfile hfolder => ?_, fun path hpath => ?_⟩
      · exact Tags.mem_insert_iff.2 (.inr (h.made key p folder' hp hfile hfolder))
      · rcases Tags.mem_insert_iff.1 hpath with rfl | hpath
        · simpa using hfree
        · exact h.apart path hpath

theorem insert (h : d.Sound) (hp : ofKey? key = some p) (hhold : Directory.canHold p = true)
    (hfolder : ∀ folder, p.folder = some folder → folder ∈ d.folders) (hfree : p.file ∉ d.folders)
    (blob : Blob) : ({ d with files := d.files.insert p.file blob } : Directory).Sound := by
  have hplace {key' p'} (hp' : ofKey? key' = some p') (hfile : p'.file ∈ d.files.insert p.file blob) :
      p' = p ∨ p'.file ∈ d.files := by
    rcases Std.ExtTreeMap.mem_insert.1 hfile with heq | hfile
    · obtain rfl := key_eq_of_file_eq hp hp' (Std.compare_eq_iff_eq.1 heq)
      exact .inl (Option.some.inj (hp'.symm.trans hp))
    · exact .inr hfile
  refine ⟨fun key' p' hp' hfile => ?_, fun key' p' folder hp' hfile hfolder' => ?_,
    fun path hpath hfile => ?_⟩
  · rcases hplace hp' hfile with rfl | hfile
    · exact hhold
    · exact h.canHold key' p' hp' hfile
  · rcases hplace hp' hfile with rfl | hfile
    · exact hfolder folder hfolder'
    · exact h.made key' p' folder hp' hfile hfolder'
  · rcases Std.ExtTreeMap.mem_insert.1 hfile with heq | hfile
    · exact hfree (Std.compare_eq_iff_eq.1 heq ▸ hpath)
    · exact h.apart path hpath hfile

theorem write (h : d.Sound) (hp : ofKey? key = some p) (blob : Blob) : (d.write p blob).2.Sound := by
  unfold Directory.write
  split
  · exact h
  · rename_i d' hmake
    have hmade := h.makeFolder hmake
    split
    · exact hmade
    · rename_i hname
      split
      · exact hmade
      · rename_i hfree
        have hhold : Directory.canHold p = true := (canHold_iff p).2
          ⟨by simpa using hname, fun _ hfolder => (folder_of_makeFolder hmake hfolder).1⟩
        have hplaced : ∀ folder, p.folder = some folder → folder ∈ d'.folders :=
          fun _ hfolder => (folder_of_makeFolder hmake hfolder).2
        exact hmade.insert hp hhold hplaced (by simpa using hfree) blob

theorem delete (h : d.Sound) (p : KeyPath) : (d.delete p).2.Sound := by
  rcases d.delete_eq p with hsame | herased
  · rwa [hsame]
  · rw [herased]
    refine ⟨fun key p hp hfile => ?_, fun key p folder hp hfile hfolder => ?_,
      fun path hpath hfile => ?_⟩
    · exact h.canHold key p hp (Std.ExtTreeMap.mem_of_mem_erase hfile)
    · exact h.made key p folder hp (Std.ExtTreeMap.mem_of_mem_erase hfile) hfolder
    · exact h.apart path hpath (Std.ExtTreeMap.mem_of_mem_erase hfile)

end Sound

end Directory

/-! ## Stable properties -/

/-- A property of a store that lasts, whatever is saved and removed. -/
structure BlobStore.Stable [BlobStore σ] (P : σ → Prop) : Prop where
  save : ∀ store key blob, P store → P (BlobStore.save store key blob).2
  remove : ∀ store key, P store → P (BlobStore.remove store key).2

theorem Directory.stable_sound : BlobStore.Stable Sound where
  save d key blob h := by
    cases hp : KeyPath.ofKey? key with
    | none => simpa only [BlobStore.save, hp] using h
    | some p => simpa only [BlobStore.save, hp] using h.write hp blob
  remove d key h := by
    cases hp : KeyPath.ofKey? key with
    | none => simpa only [BlobStore.remove, hp] using h
    | some p => simpa only [BlobStore.remove, hp] using h.delete p

namespace BlobStore.Stable

open LayoutStore

variable [BlobStore σ] {P : σ → Prop} (hstable : Stable P) {s : LayoutStore σ}

include hstable

theorem save_layout (h : P s.store) (fp : Fingerprint) (l : SavedLayout) : P (s.save fp l).2.store :=
  hstable.save s.store fp.layoutKey l.toBlob h

theorem load_layout (h : P s.store) (fp : Fingerprint) : P (s.load fp).2.store := by
  unfold LayoutStore.load
  split
  · exact h
  · exact hstable.remove s.store fp.layoutKey h
  · exact h

theorem exportText (h : P s.store) : P s.exportText.2.store :=
  exportText_induction (motive := fun t => P t.store) h
    fun _ _ fp _ ht => hstable.load_layout ht fp

theorem importText (h : P s.store) (text : String) : P (s.importText text).2.store := by
  unfold LayoutStore.importText
  split
  · exact h
  · exact saveAll_induction (motive := fun t => P t.store) h
      fun _ fp l _ ht => hstable.save_layout ht fp l

theorem seed (h : P s.store) (file : Option Blob) : P (s.seed file).2.store :=
  seed_induction (motive := fun t => P t.store) file h
    fun text => hstable.importText (s := { s with seedAttempted := true }) h text

end BlobStore.Stable

end Statescope
