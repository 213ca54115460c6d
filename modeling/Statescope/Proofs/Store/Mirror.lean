-- SUMMARY: A directory answers like a store in memory, for keys whose files do not get in each other's way.
import Mathlib
import Statescope.Proofs.Dict
import Statescope.Proofs.Store.Places

/-!
# Directories as stores in memory

`Directory.Mirrors` ties a directory to a store in memory: each entry of the store is in the
file of its key, and there are no other files. Every call that is made with a key of a
compatible collection keeps this, and both give the same answer.
-/

namespace Statescope

/-! ## Calls -/

inductive StoreCall where
  | load (key : String)
  | save (key : String) (blob : Blob)
  | remove (key : String)
  | keys

inductive StoreAnswer where
  | loaded (result : Except StoreError Blob)
  | done (result : Except StoreError Unit)
  | listed (result : Except StoreError (List String))
deriving DecidableEq

namespace StoreCall

def key? : StoreCall → Option String
  | .load key | .save key _ | .remove key => some key
  | .keys => none

/-- The answer of a store to a call, and the store afterwards. -/
def answer [BlobStore σ] (store : σ) : StoreCall → StoreAnswer × σ
  | .load key => (.loaded (BlobStore.load store key), store)
  | .save key blob => let (r, store) := BlobStore.save store key blob; (.done r, store)
  | .remove key => let (r, store) := BlobStore.remove store key; (.done r, store)
  | .keys => (.listed (BlobStore.keys store), store)

/-- The answers of a store to calls made one after the other. -/
def answers [BlobStore σ] (store : σ) : List StoreCall → List StoreAnswer
  | [] => []
  | c :: cs => (c.answer store).1 :: answers (c.answer store).2 cs

end StoreCall

namespace Directory

open KeyPath

/-! ## Compatible keys -/

/-- Whether the file system can hold the file of a place, as far as the names go. -/
def canHold (p : KeyPath) : Bool :=
  canName p.fileName && p.folder.all fun folder => isPathText maxPathLength p.file && canName folder

/-- A place can be reached if its names are possible and its folder is there. -/
theorem obstacle?_eq_none_iff {d : Directory} {p : KeyPath} : d.obstacle? p = none ↔
    canHold p = true ∧ ∀ folder, p.folder = some folder → folder ∈ d.folders ∧ folder ∉ d.files := by
  unfold obstacle? canHold
  cases p.folder with
  | none => simp
  | some folder => grind

/-- Keys for which a directory can have files side by side. -/
structure Compatible (keys : List String) : Prop where
  place : ∀ key ∈ keys, ∃ p, ofKey? key = some p ∧ canHold p = true
  apart : ∀ key ∈ keys, ∀ key' ∈ keys, ¬ Shadows key key'

/-- Compatible keys can be told by their places. -/
theorem compatible_iff {keys : List String} : Compatible keys ↔
    (∀ key ∈ keys, (ofKey? key).any canHold = true) ∧
      ∀ key ∈ keys, ∀ key' ∈ keys, ∀ p ∈ ofKey? key, ∀ p' ∈ ofKey? key', p'.folder ≠ some p.file := by
  constructor
  · rintro ⟨hplace, hapart⟩
    refine ⟨fun key hkey => (Option.any_eq_true _ _).2 (hplace key hkey), ?_⟩
    intro key hkey key' hkey' p hp p' hp' hfolder
    exact hapart key hkey key' hkey' ((folder_eq_file_iff hp hp').1 hfolder)
  · rintro ⟨hplace, hapart⟩
    have hplace' : ∀ key ∈ keys, ∃ p, ofKey? key = some p ∧ canHold p = true :=
      fun key hkey => (Option.any_eq_true _ _).1 (hplace key hkey)
    refine ⟨hplace', fun key hkey key' hkey' hshadows => ?_⟩
    obtain ⟨p, hp, -⟩ := hplace' key hkey
    obtain ⟨p', hp', -⟩ := hplace' key' hkey'
    exact hapart key hkey key' hkey' p hp p' hp' ((folder_eq_file_iff hp hp').2 hshadows)

instance {keys : List String} : Decidable (Compatible keys) := decidable_of_iff _ compatible_iff.symm

/-- The directory holds the entries of the store and nothing else, all under some of the
keys. A folder may be left without files. -/
structure Mirrors (keys : List String) (d : Directory) (m : MemoryStore) : Prop where
  stored : ∀ key, m.entries[key]?.isSome = true → key ∈ keys
  file : ∀ key p, ofKey? key = some p → d.files[p.file]? = m.entries[key]?
  placed : ∀ path, d.files[path]?.isSome = true → ∃ key p, ofKey? key = some p ∧ p.file = path
  made : ∀ key p folder, m.entries[key]?.isSome = true → ofKey? key = some p →
    p.folder = some folder → folder ∈ d.folders
  folders : ∀ folder ∈ d.folders, ∃ key ∈ keys, ∃ p, ofKey? key = some p ∧ p.folder = some folder

variable {keys : List String} {d : Directory} {m : MemoryStore} {key : String} {p : KeyPath}

theorem mirrors_empty (keys : List String) : Mirrors keys {} {} where
  stored := by simp
  file := by simp
  placed := by simp
  made := by simp
  folders := by simp

section Key

variable (hm : Mirrors keys d m) (hkeys : Compatible keys) (hkey : key ∈ keys)
  (hp : ofKey? key = some p)

include hkeys hkey hp

theorem Compatible.canHold : Directory.canHold p = true := by
  obtain ⟨p', hp', hhold⟩ := hkeys.place key hkey
  rw [hp] at hp'
  cases hp'
  exact hhold

include hm

/-- No folder has the name of the file. -/
theorem Mirrors.not_mem_folders : p.file ∉ d.folders := by
  intro hmem
  obtain ⟨key', hkey', p', hp', hfolder⟩ := hm.folders _ hmem
  exact hkeys.apart key hkey key' hkey' ((folder_eq_file_iff hp hp').1 hfolder)

/-- No file has the name of the folder. -/
theorem Mirrors.contains_folder {folder : String} (hfolder : p.folder = some folder) :
    d.files.contains folder = false := by
  rw [← Std.ExtTreeMap.isSome_getElem?_eq_contains, ← Bool.not_eq_true]
  intro hfile
  obtain ⟨key', p', hp', rfl⟩ := hm.placed _ hfile
  rw [hm.file key' p' hp'] at hfile
  exact hkeys.apart key' (hm.stored _ hfile) key hkey ((folder_eq_file_iff hp' hp).1 hfolder)

/-! ## Calls with one key -/

/-- A place can be reached, or else its folder is missing and there is no entry. -/
theorem Mirrors.obstacle? :
    d.obstacle? p = none ∨ d.obstacle? p = some .notFound ∧ m.entries[key]? = none := by
  have hhold := hkeys.canHold hkey hp
  rw [Directory.canHold, Bool.and_eq_true] at hhold
  unfold Directory.obstacle?
  split
  · rename_i folder hfolder
    rw [hfolder, Option.all_some, Bool.and_eq_true] at hhold
    simp only [hhold.1, hhold.2.1, hhold.2.2, hm.contains_folder hkeys hkey hp hfolder,
      Bool.not_true, Bool.or_self, Bool.false_eq_true, if_false]
    split
    · rename_i hmissing
      refine .inr ⟨rfl, ?_⟩
      rw [← Option.not_isSome_iff_eq_none]
      intro hentry
      rw [Std.ExtTreeSet.contains_iff_mem.2 (hm.made key p folder hentry hp hfolder)] at hmissing
      cases hmissing
    · exact .inl rfl
  · rw [if_pos hhold.1]
    exact .inl rfl

theorem Mirrors.read_eq : d.read p = BlobStore.load m key := by
  have hnot := hm.not_mem_folders hkeys hkey hp
  rw [read]
  rcases hm.obstacle? hkeys hkey hp with hreach | ⟨hmissing, hentry⟩
  · simp only [hreach, Std.ExtTreeSet.contains_iff_mem, hnot, if_false, hm.file key p hp]
    rfl
  · simp only [hmissing, BlobStore.load, hentry]

/-- A file is written, and its folder is there. -/
theorem Mirrors.write_eq (blob : Blob) : d.write p blob
    = (.ok (), ⟨d.files.insert p.file blob, p.folder.elim d.folders d.folders.insert⟩) := by
  have hhold := hkeys.canHold hkey hp
  rw [Directory.canHold, Bool.and_eq_true] at hhold
  have hnot := hm.not_mem_folders hkeys hkey hp
  unfold write makeFolder
  cases hfolder : p.folder with
  | none =>
    simp only [hhold.1, Bool.not_true, Std.ExtTreeSet.contains_iff_mem, hnot, if_false]
    rfl
  | some folder =>
    rw [hfolder, Option.all_some, Bool.and_eq_true] at hhold
    have hself : folder ≠ p.file := by
      rintro rfl
      exact hkeys.apart key hkey key hkey ((folder_eq_file_iff hp hp).1 hfolder)
    have hnot' : p.file ∉ d.folders.insert folder := by
      rw [Tags.mem_insert_iff, not_or]
      exact ⟨hself, hnot⟩
    simp only [hhold.1, hhold.2.2, hm.contains_folder hkeys hkey hp hfolder, Bool.not_true,
      Bool.false_eq_true, Std.ExtTreeSet.contains_iff_mem, hnot', if_false]
    rfl

omit hkeys in
theorem Mirrors.save (blob : Blob) :
    Mirrors keys ⟨d.files.insert p.file blob, p.folder.elim d.folders d.folders.insert⟩
      ⟨m.entries.insert key blob⟩ where
  stored key' h := by
    by_cases hne : key = key'
    · exact hne ▸ hkey
    · rw [Dict.getElem?_insert_of_ne _ hne] at h
      exact hm.stored key' h
  file key' p' hp' := by
    by_cases hne : key = key'
    · subst hne
      cases hp.symm.trans hp'
      rw [Dict.getElem?_insert_self, Dict.getElem?_insert_self]
    · have hfile : p.file ≠ p'.file := fun heq => hne (key_eq_of_file_eq hp hp' heq)
      rw [Dict.getElem?_insert_of_ne _ hne, Dict.getElem?_insert_of_ne _ hfile]
      exact hm.file key' p' hp'
  placed path h := by
    by_cases hne : p.file = path
    · exact ⟨key, p, hp, hne⟩
    · rw [Dict.getElem?_insert_of_ne _ hne] at h
      exact hm.placed path h
  made key' p' folder h hp' hfolder := by
    by_cases hne : key = key'
    · subst hne
      cases hp.symm.trans hp'
      rw [hfolder]
      exact Tags.mem_insert_iff.2 (.inl rfl)
    · rw [Dict.getElem?_insert_of_ne _ hne] at h
      have hmade := hm.made key' p' folder h hp' hfolder
      cases p.folder with
      | none => exact hmade
      | some _ => exact Tags.mem_insert_iff.2 (.inr hmade)
  folders folder h := by
    cases hfolder : p.folder with
    | none =>
      rw [hfolder] at h
      exact hm.folders folder h
    | some folder' =>
      rw [hfolder] at h
      rcases Tags.mem_insert_iff.1 h with rfl | h
      · exact ⟨key, hkey, p, hp, hfolder⟩
      · exact hm.folders folder h

omit hkeys hkey in
theorem Mirrors.erase :
    Mirrors keys { d with files := d.files.erase p.file } ⟨m.entries.erase key⟩ where
  stored key' h := by
    rw [Std.ExtTreeMap.getElem?_erase] at h
    split at h
    · cases h
    · exact hm.stored key' h
  file key' p' hp' := by
    by_cases hne : key = key'
    · subst hne
      cases hp.symm.trans hp'
      rw [Std.ExtTreeMap.getElem?_erase_self, Std.ExtTreeMap.getElem?_erase_self]
    · have hfile : p.file ≠ p'.file := fun heq => hne (key_eq_of_file_eq hp hp' heq)
      rw [Dict.getElem?_erase_of_ne _ hne, Dict.getElem?_erase_of_ne _ hfile]
      exact hm.file key' p' hp'
  placed path h := by
    rw [Std.ExtTreeMap.getElem?_erase] at h
    split at h
    · cases h
    · exact hm.placed path h
  made key' p' folder h hp' hfolder := by
    rw [Std.ExtTreeMap.getElem?_erase] at h
    split at h
    · cases h
    · exact hm.made key' p' folder h hp' hfolder
  folders := hm.folders

/-- The file of a key is gone with its entry. -/
theorem Mirrors.exists_delete :
    ∃ d', d.delete p = (.ok (), d') ∧ Mirrors keys d' ⟨m.entries.erase key⟩ := by
  have hnot := hm.not_mem_folders hkeys hkey hp
  unfold delete
  rcases hm.obstacle? hkeys hkey hp with hreach | ⟨hmissing, hentry⟩
  · simp only [hreach, Std.ExtTreeSet.contains_iff_mem, hnot, if_false]
    exact ⟨_, rfl, hm.erase hp⟩
  · have herase : m.entries.erase key = m.entries := by
      apply Std.ExtTreeMap.ext_getElem?
      intro key'
      rw [Std.ExtTreeMap.getElem?_erase]
      split
      · rename_i heq
        rw [← Std.compare_eq_iff_eq.1 heq, hentry]
      · rfl
    simp only [hmissing, herase]
    exact ⟨d, rfl, hm⟩

end Key

/-! ## All calls -/

theorem Mirrors.keys_eq (hm : Mirrors keys d m) (hkeys : Compatible keys) :
    d.keys = m.entries.keys := by
  have := Dict.irrefl_compare fun k => k
  have := Dict.antisymm_compare fun k => k
  apply Std.ExtTreeSet.ordered_toList.eq_of_mem_iff Std.ExtTreeMap.ordered_keys
  intro key
  rw [Std.ExtTreeSet.mem_toList, Tags.mem_ofTexts, List.mem_filterMap, Std.ExtTreeMap.mem_keys,
    Std.ExtTreeMap.mem_iff_isSome_getElem?]
  constructor
  · rintro ⟨path, hpath, hkey⟩
    rw [Std.ExtTreeMap.mem_keys, Std.ExtTreeMap.mem_iff_isSome_getElem?] at hpath
    obtain ⟨key', p, hp, rfl⟩ := hm.placed path hpath
    rw [keyOfFile?_file hp] at hkey
    cases hkey
    rwa [hm.file _ p hp] at hpath
  · intro hentry
    obtain ⟨p, hp, -⟩ := hkeys.place key (hm.stored key hentry)
    refine ⟨p.file, ?_, keyOfFile?_file hp⟩
    rwa [Std.ExtTreeMap.mem_keys, Std.ExtTreeMap.mem_iff_isSome_getElem?, hm.file key p hp]

/-- A call is answered alike, and the directory goes on holding the entries. -/
theorem Mirrors.answer (hm : Mirrors keys d m) (hkeys : Compatible keys) {c : StoreCall}
    (hc : ∀ key, c.key? = some key → key ∈ keys) :
    (c.answer d).1 = (c.answer m).1 ∧ Mirrors keys (c.answer d).2 (c.answer m).2 := by
  cases c with
  | load key =>
    obtain ⟨p, hp, -⟩ := hkeys.place key (hc key rfl)
    have hload : BlobStore.load d key = BlobStore.load m key := by
      rw [← hm.read_eq hkeys (hc key rfl) hp]
      simp only [BlobStore.load, hp]
    exact ⟨congrArg StoreAnswer.loaded hload, hm⟩
  | save key blob =>
    obtain ⟨p, hp, -⟩ := hkeys.place key (hc key rfl)
    have hsave : BlobStore.save d key blob = d.write p blob := by simp only [BlobStore.save, hp]
    simp only [StoreCall.answer, hsave, hm.write_eq hkeys (hc key rfl) hp]
    exact ⟨rfl, hm.save (hc key rfl) hp blob⟩
  | remove key =>
    obtain ⟨p, hp, -⟩ := hkeys.place key (hc key rfl)
    have hremove : BlobStore.remove d key = d.delete p := by simp only [BlobStore.remove, hp]
    obtain ⟨d', hdelete, hm'⟩ := hm.exists_delete hkeys (hc key rfl) hp
    simp only [StoreCall.answer, hremove, hdelete]
    exact ⟨rfl, hm'⟩
  | keys => exact ⟨congrArg (StoreAnswer.listed ∘ Except.ok) (hm.keys_eq hkeys), hm⟩

/-- A sequence of calls is answered alike. -/
theorem Mirrors.answers (hm : Mirrors keys d m) (hkeys : Compatible keys) {calls : List StoreCall}
    (hcalls : ∀ key ∈ calls.filterMap StoreCall.key?, key ∈ keys) :
    StoreCall.answers d calls = StoreCall.answers m calls := by
  induction calls generalizing d m with
  | nil => rfl
  | cons c calls ih =>
    have hc : ∀ key, c.key? = some key → key ∈ keys := fun key hkey =>
      hcalls key (List.mem_filterMap.2 ⟨c, List.mem_cons_self, hkey⟩)
    obtain ⟨hanswer, hm'⟩ := hm.answer hkeys hc
    have hrest : ∀ key ∈ calls.filterMap StoreCall.key?, key ∈ keys := by
      intro key hkey
      obtain ⟨c', hc', hkey⟩ := List.mem_filterMap.1 hkey
      exact hcalls key (List.mem_filterMap.2 ⟨c', List.mem_cons_of_mem _ hc', hkey⟩)
    rw [StoreCall.answers, StoreCall.answers, hanswer, ih hm' hrest]

/-! ## Refinement -/

/-- An empty directory answers calls with compatible keys like an empty store in memory. A key
without a place is refused, and nothing changes. A place is a file in the directory or in a
folder of it, of a name that leads nowhere else, where the key is listed. No two keys share a
file, and a file can get in the way of another key's folder only by shadowing. -/
theorem directory_refines_memory :
    (∀ calls : List StoreCall, Compatible (calls.filterMap StoreCall.key?) →
      StoreCall.answers ({} : Directory) calls = StoreCall.answers ({} : MemoryStore) calls) ∧
    (∀ key, ofKey? key = none → ∀ (d : Directory) blob,
      BlobStore.load d key = .error (unsupported key) ∧
      BlobStore.save d key blob = (.error (unsupported key), d) ∧
      BlobStore.remove d key = (.error (unsupported key), d)) ∧
    (∀ key p, ofKey? key = some p → IsSafe p.name ∧
      (p.folder = none ∧ p.file = key ++ ".json" ∨
        ∃ folder, p.folder = some folder ∧ IsSafe folder ∧ key = folder ++ ":" ++ p.name ∧
          p.file = folder ++ "/" ++ p.name ++ ".json") ∧
      ∀ (d : Directory) blob, d.files[p.file]? = some blob →
        ∃ keys, BlobStore.keys d = .ok keys ∧ key ∈ keys) ∧
    ∀ key p key' p', ofKey? key = some p → ofKey? key' = some p' →
      (p.file = p'.file → key = key') ∧ (p'.folder = some p.file ↔ Shadows key key') := by
  refine ⟨fun calls hkeys => ?_, fun key hkey d blob => ?_, fun key p hp => ?_, ?_⟩
  · exact (mirrors_empty _).answers hkeys fun _ hkey => hkey
  · simp only [BlobStore.load, BlobStore.save, BlobStore.remove, hkey, and_self]
  · obtain ⟨hsafe, hform⟩ := file_of_ofKey? hp
    exact ⟨hsafe, hform, fun d blob hfile => ⟨d.keys, rfl, mem_keys hp hfile⟩⟩
  · exact fun key p key' p' hp hp' => ⟨key_eq_of_file_eq hp hp', folder_eq_file_iff hp hp'⟩

/-- Keys with and without a namespace, one of them with an ending of its own; a key that would
lead out of its folder; and a key that shadows another one. -/
theorem directory_refines_memory_of_endings :
    let blob := Blob.ofText "1"
    let calls : List StoreCall := [.save "layout:x" blob, .save "a.json" blob, .load "layout:x", .keys,
      .remove "layout:x", .remove "layout:y.json", .load "layout:x", .keys]
    Compatible (calls.filterMap StoreCall.key?) ∧
    StoreCall.answers ({} : Directory) calls = [.done (.ok ()), .done (.ok ()), .loaded (.ok blob),
      .listed (.ok ["a.json", "layout:x"]), .done (.ok ()), .done (.ok ()), .loaded (.error .notFound),
      .listed (.ok ["a.json"])] ∧
    BlobStore.save ({} : Directory) "layout:../x" blob = (.error (unsupported "layout:../x"), {}) ∧
    ¬ Compatible ["n", "n.json:x"] ∧ Shadows "n" "n.json:x" := by
  intro blob calls
  obtain ⟨hanswers, hrefused, -, hfiles⟩ := directory_refines_memory
  have hkeys : Compatible (calls.filterMap StoreCall.key?) := by decide +kernel
  refine ⟨hkeys, ?_, (hrefused "layout:../x" (by decide) {} blob).2.1, by decide +kernel, ?_⟩
  · rw [hanswers calls hkeys]
    decide +kernel
  · have hfile := hfiles "n" ⟨none, "n"⟩ "n.json:x" ⟨some "n.json", "x"⟩ (by decide) (by decide)
    exact hfile.2.1 rfl

end Directory

end Statescope
