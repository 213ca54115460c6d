-- SUMMARY: The places of keys in a directory store: none leads out of it, and no two keys share a file.
import Mathlib
import Statescope.Proofs.Store.Directory

/-!
# Places of keys

A key has a place if its parts can be names. The file of a place lies in the directory or
in one of its folders, and belongs to one key only. It can have the name of a folder of
another key in one way alone, which is called shadowing.
-/

namespace Statescope.KeyPath

/-! ## Parts -/

/-- A part that names an entry of the folder that it is looked up in, and nothing else. -/
def IsSafe (part : String) : Prop :=
  part ≠ "" ∧ part ≠ "." ∧ part ≠ ".." ∧ '/' ∉ part.toList ∧ '\\' ∉ part.toList

theorem isAllowed_iff {part : List Char} : isAllowed part = true ↔
    part ≠ [] ∧ part.head? ≠ some '.' ∧ '/' ∉ part ∧ '\\' ∉ part ∧ ':' ∉ part := by
  cases part with
  | nil => simp [isAllowed]
  | cons c cs =>
    simp only [isAllowed, Bool.and_eq_true, decide_eq_true_eq, List.all_eq_true]
    constructor
    · rintro ⟨hdot, hall⟩
      exact ⟨List.cons_ne_nil c cs, fun h => hdot (Option.some.inj h), fun h => (hall _ h).1.1 rfl,
        fun h => (hall _ h).1.2 rfl, fun h => (hall _ h).2 rfl⟩
    · rintro ⟨-, hdot, hslash, hback, hcolon⟩
      refine ⟨fun h => hdot (congrArg some h), fun x hx => ⟨⟨?_, ?_⟩, ?_⟩⟩
      · exact fun h => hslash (h ▸ hx)
      · exact fun h => hback (h ▸ hx)
      · exact fun h => hcolon (h ▸ hx)

theorem isSafe_of_isAllowed {part : String} (h : isAllowed part.toList = true) : IsSafe part := by
  obtain ⟨hnil, hdot, hslash, hback, -⟩ := isAllowed_iff.1 h
  refine ⟨?_, ?_, ?_, hslash, hback⟩
  · rintro rfl
    exact hnil rfl
  · rintro rfl
    exact hdot rfl
  · rintro rfl
    exact hdot rfl

/-! ## Keys with a place -/

/-- The place of a key without a namespace. -/
theorem ofKey?_of_not_mem {name : String} (h : ':' ∉ name.toList) :
    ofKey? name = if isAllowed name.toList then some ⟨none, name⟩ else none := by
  rw [ofKey?, Text.splitFirst?_of_not_mem h]

/-- The place of a key in a namespace. -/
theorem ofKey?_append {folder : String} (h : ':' ∉ folder.toList) (name : String) :
    ofKey? (folder ++ ":" ++ name) =
      if isAllowed folder.toList && isAllowed name.toList then some ⟨some folder, name⟩ else none := by
  have hparts : (folder ++ ":" ++ name).toList = folder.toList ++ ':' :: name.toList := by simp
  rw [ofKey?, hparts, Text.splitFirst?_append_cons h]
  simp only [String.ofList_toList]

/-- The keys with a place are those that are made of parts that are allowed. -/
theorem ofKey?_eq_some_iff {key : String} {p : KeyPath} : ofKey? key = some p ↔
    p.key = key ∧ isAllowed p.name.toList = true ∧
      ∀ folder, p.folder = some folder → isAllowed folder.toList = true := by
  constructor
  · intro h
    unfold ofKey? at h
    split at h
    · rename_i space name hsplit
      split at h
      · rename_i hallowed
        cases h
        rw [Bool.and_eq_true] at hallowed
        refine ⟨?_, by simpa using hallowed.2, ?_⟩
        · rw [← String.toList_inj, Text.eq_append_of_splitFirst? hsplit]
          simp [KeyPath.key]
        · rintro folder ⟨⟩
          simpa using hallowed.1
      · cases h
    · split at h
      · rename_i hallowed
        cases h
        exact ⟨rfl, hallowed, nofun⟩
      · cases h
  · obtain ⟨folder, name⟩ := p
    rintro ⟨rfl, hname, hfolder⟩
    cases folder with
    | none =>
      have hcolon := (isAllowed_iff.1 hname).2.2.2.2
      exact (ofKey?_of_not_mem hcolon).trans (if_pos hname)
    | some folder =>
      have hallowed := hfolder folder rfl
      have hcolon := (isAllowed_iff.1 hallowed).2.2.2.2
      exact (ofKey?_append hcolon name).trans (if_pos (Bool.and_eq_true _ _ ▸ ⟨hallowed, hname⟩))

section Place

variable {key key' : String} {p p' : KeyPath}

/-- The two forms that a place has. -/
theorem file_of_ofKey? (h : ofKey? key = some p) : IsSafe p.name ∧
    (p.folder = none ∧ p.file = key ++ ".json" ∨
      ∃ folder, p.folder = some folder ∧ IsSafe folder ∧ key = folder ++ ":" ++ p.name ∧
        p.file = folder ++ "/" ++ p.name ++ ".json") := by
  obtain ⟨rfl, hname, hfolder⟩ := ofKey?_eq_some_iff.1 h
  refine ⟨isSafe_of_isAllowed hname, ?_⟩
  obtain ⟨folder, name⟩ := p
  cases folder with
  | none => exact .inl ⟨rfl, rfl⟩
  | some folder =>
    refine .inr ⟨folder, rfl, isSafe_of_isAllowed (hfolder folder rfl), rfl, ?_⟩
    simp [file, fileName, String.append_assoc]

/-- No two keys share a file. -/
theorem key_eq_of_file_eq (h : ofKey? key = some p) (h' : ofKey? key' = some p')
    (hfile : p.file = p'.file) : key = key' := by
  have hkey := Directory.keyOfFile?_file h
  rw [hfile, Directory.keyOfFile?_file h'] at hkey
  exact (Option.some.inj hkey).symm

/-! ## Shadowing -/

/-- A key without a namespace shadows those whose namespace has the name of its file. -/
def Shadows (key key' : String) : Prop :=
  ':' ∉ key.toList ∧ ∃ name, key' = key ++ ".json" ++ ":" ++ name

theorem eq_none_of_not_mem_file {p : KeyPath} (h : '/' ∉ p.file.toList) : p.folder = none := by
  obtain ⟨folder, name⟩ := p
  cases folder with
  | none => rfl
  | some folder => simp [file] at h

/-- The file of a key has the name of a folder just for the keys that it shadows. -/
theorem folder_eq_file_iff (h : ofKey? key = some p) (h' : ofKey? key' = some p') :
    p'.folder = some p.file ↔ Shadows key key' := by
  obtain ⟨hkey, hname, -⟩ := ofKey?_eq_some_iff.1 h
  obtain ⟨hkey', -, hfolder'⟩ := ofKey?_eq_some_iff.1 h'
  constructor
  · intro hfile
    -- The name of a folder has no slash, so the file is in no folder.
    have hnone := eq_none_of_not_mem_file (isAllowed_iff.1 (hfolder' _ hfile)).2.2.1
    obtain ⟨folder, name⟩ := p
    cases hnone
    subst hkey
    refine ⟨(isAllowed_iff.1 hname).2.2.2.2, p'.name, ?_⟩
    rw [← hkey', KeyPath.key, hfile]
    rfl
  · rintro ⟨hcolon, name, rfl⟩
    have hcolon' : ':' ∉ (key ++ ".json").toList := by
      rw [String.toList_append, List.mem_append, not_or]
      exact ⟨hcolon, by decide⟩
    rw [ofKey?_of_not_mem hcolon, Option.ite_none_right_eq_some] at h
    rw [ofKey?_append hcolon', Option.ite_none_right_eq_some] at h'
    obtain ⟨-, ⟨⟩⟩ := h
    obtain ⟨-, ⟨⟩⟩ := h'
    rfl

end Place

end Statescope.KeyPath
