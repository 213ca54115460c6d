-- SUMMARY: The files of a directory store: each key has one of its own, which is found by the key again.
import Statescope.Proofs.Store.Import
import Statescope.Proofs.Text.Split

/-!
# Files of a directory store

The place of a key is the path of a file, and the key can be told from the path. What has
been written for a key is what is read for it, and the key is listed.
-/

namespace Statescope

/-! ## Places -/

namespace KeyPath

variable {part : List Char}

theorem ne_nil_of_isAllowed (h : isAllowed part = true) : part ≠ [] := by
  rintro rfl
  cases h

theorem not_mem_of_isAllowed (h : isAllowed part = true) : '/' ∉ part := by
  cases part with
  | nil => exact List.not_mem_nil
  | cons c cs =>
    simp only [isAllowed, Bool.and_eq_true, List.all_eq_true, decide_eq_true_eq] at h
    exact fun hmem => (h.2 '/' hmem).1.1 rfl

end KeyPath

namespace Directory

open KeyPath

/-- The ending of a file is cut off from its name. -/
theorem stem?_append {name : List Char} (h : name ≠ []) :
    stem? (name ++ ".json".toList) = some name := by
  have hafter : Text.afterWord? ".json".toList.reverse (name ++ ".json".toList).reverse
      = some name.reverse := by
    rw [Text.afterWord?_eq_some, List.reverse_append]
  obtain ⟨c, cs, hname⟩ := List.exists_cons_of_ne_nil (List.reverse_ne_nil_iff.2 h)
  rw [stem?, hafter, hname]
  simp only [← hname, List.reverse_reverse]

/-- The key of a file is the key that the file is for. -/
theorem keyOfFile?_file {key : String} {p : KeyPath} (h : ofKey? key = some p) :
    keyOfFile? p.file = some key := by
  have hending : '/' ∉ ".json".toList := by decide
  unfold ofKey? at h
  split at h
  · rename_i space name hsplit
    split at h
    · rename_i hallowed
      cases h
      rw [Bool.and_eq_true] at hallowed
      have hparts : Text.splitOn '/' (space ++ '/' :: (name ++ ".json".toList))
          = [space, name ++ ".json".toList] := by
        rw [Text.splitOn_append_cons (not_mem_of_isAllowed hallowed.1), Text.splitOn_of_not_mem]
        rw [List.mem_append, not_or]
        exact ⟨not_mem_of_isAllowed hallowed.2, hending⟩
      have hfile : (KeyPath.mk (some (String.ofList space)) (String.ofList name)).file.toList
          = space ++ '/' :: (name ++ ".json".toList) := by
        simp [file, fileName]
      have hkey : String.ofList (space ++ ':' :: name) = key := by
        rw [← String.toList_inj, String.toList_ofList, Text.eq_append_of_splitFirst? hsplit,
          List.append_assoc, List.singleton_append]
      rw [keyOfFile?, hfile, hparts]
      simp only [stem?_append (ne_nil_of_isAllowed hallowed.2), Option.map_some, hkey]
    · cases h
  · split at h
    · rename_i hallowed
      cases h
      have hparts : Text.splitOn '/' (key.toList ++ ".json".toList)
          = [key.toList ++ ".json".toList] := by
        rw [Text.splitOn_of_not_mem]
        rw [List.mem_append, not_or]
        exact ⟨not_mem_of_isAllowed hallowed, hending⟩
      have hfile : (KeyPath.mk none key).file.toList = key.toList ++ ".json".toList := by
        simp [file, fileName]
      rw [keyOfFile?, hfile, hparts]
      simp only [stem?_append (ne_nil_of_isAllowed hallowed), Option.map_some, String.ofList_toList]
    · cases h

/-! ## Saving -/

theorem mem_keys {d : Directory} {key : String} {p : KeyPath} (h : ofKey? key = some p) {blob : Blob}
    (hfile : d.files[p.file]? = some blob) : key ∈ d.keys := by
  rw [keys, Std.ExtTreeSet.mem_toList, Tags.mem_ofTexts, List.mem_filterMap]
  refine ⟨p.file, ?_, keyOfFile?_file h⟩
  rw [Std.ExtTreeMap.mem_keys, Std.ExtTreeMap.mem_iff_isSome_getElem?, hfile]
  rfl

/-- A file is read if its place can be reached and is no folder. -/
theorem read_eq_ok_iff {d : Directory} {p : KeyPath} {blob : Blob} : d.read p = .ok blob ↔
    d.obstacle? p = none ∧ p.file ∉ d.folders ∧ d.files[p.file]? = some blob := by
  unfold read
  cases d.obstacle? p with
  | some cause => simp
  | none =>
    by_cases hfolder : p.file ∈ d.folders
    · simp [hfolder]
    · cases d.files[p.file]? <;> simp [hfolder]

theorem getElem?_of_read {d : Directory} {p : KeyPath} {blob : Blob} (h : d.read p = .ok blob) :
    d.files[p.file]? = some blob := (read_eq_ok_iff.1 h).2.2

/-- A key for which something has been saved has a place, and there it is. -/
theorem exists_file_of_save {d d' : Directory} {key : String} {blob : Blob}
    (h : BlobStore.save d key blob = (.ok (), d')) :
    ∃ p, ofKey? key = some p ∧ d'.files[p.file]? = some blob := by
  have hfiles : d'.files = d.files.insert ((ofKey? key).elim key KeyPath.file) blob :=
    LawfulStore.contents_of_ok h
  cases hkey : ofKey? key with
  | none => simp [BlobStore.save, hkey] at h
  | some p =>
    rw [hkey, Option.elim_some] at hfiles
    exact ⟨p, rfl, by rw [hfiles, Dict.getElem?_insert_self]⟩

end Directory

end Statescope
