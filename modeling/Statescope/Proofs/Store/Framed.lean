-- SUMMARY: Stores with an entry for each key, in which an operation on one key leaves the others alone.
import Mathlib
import Statescope.Proofs.Store.Memory
import Statescope.Proofs.Store.Places

/-!
# Stores with entries

`FramedStore` says what a store holds, key by key, and that every operation keeps to its
own key, whether it fails or not. It is true of stores in memory, of directories, and of
either of them when some operations are out of order.
-/

namespace Statescope

class FramedStore (σ : Type) [BlobStore σ] where
  /-- What is held under a key, whether or not it can be read at the moment. -/
  blob? : σ → String → Option Blob
  blob?_of_load {store : σ} {key : String} {blob : Blob} :
    BlobStore.load store key = .ok blob → blob? store key = some blob
  /-- It is not for the store to say what a blob spells. -/
  load_ne_undecodable (store : σ) (key : String) (source : Json.Source) :
    BlobStore.load store key ≠ .error (.undecodable source)
  blob?_of_saved {store store' : σ} {key : String} {blob : Blob} :
    BlobStore.save store key blob = (.ok (), store') →
      ∀ key', blob? store' key' = if key' = key then some blob else blob? store key'
  blob?_of_refused {store store' : σ} {key : String} {blob : Blob} {cause : StoreError} :
    BlobStore.save store key blob = (.error cause, store') →
      ∀ key', blob? store' key' = blob? store key'
  blob?_remove (store : σ) (key key' : String) :
    blob? (BlobStore.remove store key).2 key' = blob? store key' ∨
      key' = key ∧ blob? (BlobStore.remove store key).2 key' = none
  mem_keys {store : σ} {keys : List String} {key : String} : BlobStore.keys store = .ok keys →
    (blob? store key).isSome = true → key ∈ keys

open FramedStore

/-! ## Memory -/

instance : FramedStore MemoryStore where
  blob? m key := m.entries[key]?
  blob?_of_load {m key blob} h := by
    cases hentry : m.entries[key]? with
    | none =>
      rw [MemoryStore.load_of_none hentry] at h
      cases h
    | some blob' =>
      rw [MemoryStore.load_of_some hentry] at h
      cases h
      rfl
  load_ne_undecodable m key source h := by
    cases hentry : m.entries[key]? with
    | none =>
      rw [MemoryStore.load_of_none hentry] at h
      cases h
    | some blob =>
      rw [MemoryStore.load_of_some hentry] at h
      cases h
  blob?_of_saved {m m' key blob} h key' := by
    cases h
    by_cases hkey : key' = key
    · simp [hkey]
    · simp [hkey, Ne.symm hkey]
  blob?_of_refused := nofun
  blob?_remove m key key' := by
    by_cases hkey : key' = key
    · exact .inr ⟨hkey, by rw [hkey]; exact Std.ExtTreeMap.getElem?_erase_self⟩
    · exact .inl (Dict.getElem?_erase_of_ne _ (Ne.symm hkey))
  mem_keys {m keys key} hkeys hentry := by
    cases hkeys
    rwa [Std.ExtTreeMap.mem_keys, Std.ExtTreeMap.mem_iff_isSome_getElem?]

/-! ## Directories -/

namespace Directory

/-- The blob in the file of a key. -/
def blob? (d : Directory) (key : String) : Option Blob :=
  (KeyPath.ofKey? key).bind fun p => d.files[p.file]?

variable {d : Directory} {key : String} {p : KeyPath}

theorem blob?_of_ofKey? (h : KeyPath.ofKey? key = some p) : d.blob? key = d.files[p.file]? := by
  rw [blob?, h, Option.bind_some]

theorem read_ne_undecodable (d : Directory) (p : KeyPath) (source : Json.Source) :
    d.read p ≠ .error (.undecodable source) := by
  have hobstacle : d.obstacle? p ≠ some (.undecodable source) := by
    unfold obstacle?
    split <;> repeat' split
    all_goals exact nofun
  unfold read
  split
  · rename_i cause hcause
    rintro ⟨⟩
    exact hobstacle hcause
  · split
    · exact nofun
    · split <;> exact nofun

theorem delete_eq (d : Directory) (p : KeyPath) :
    (d.delete p).2 = d ∨ (d.delete p).2 = { d with files := d.files.erase p.file } := by
  unfold delete
  split
  · exact .inl rfl
  · exact .inl rfl
  · split
    · exact .inl rfl
    · exact .inr rfl

/-- Another key has another file. -/
theorem file_ne_of_ne {key' : String} {p' : KeyPath} (h : KeyPath.ofKey? key = some p)
    (h' : KeyPath.ofKey? key' = some p') (hne : key' ≠ key) : p.file ≠ p'.file :=
  fun heq => hne (KeyPath.key_eq_of_file_eq h h' heq).symm

end Directory

instance : FramedStore Directory where
  blob? := Directory.blob?
  blob?_of_load {d key blob} h := by
    cases hp : KeyPath.ofKey? key with
    | none => simp [BlobStore.load, hp] at h
    | some p =>
      rw [Directory.blob?_of_ofKey? hp]
      exact Directory.getElem?_of_read (by simpa only [BlobStore.load, hp] using h)
  load_ne_undecodable d key source := by
    cases hp : KeyPath.ofKey? key with
    | none => simp [BlobStore.load, hp, Directory.unsupported]
    | some p => simpa only [BlobStore.load, hp] using d.read_ne_undecodable p source
  blob?_of_saved {d d' key blob} h key' := by
    obtain ⟨p, hp, -⟩ := Directory.exists_file_of_save h
    have hfiles : d'.files = d.files.insert p.file blob := by
      have hcontents := LawfulStore.contents_of_ok h
      simpa only [LawfulStore.contents, LawfulStore.place, hp, Option.elim_some] using hcontents
    by_cases hkey : key' = key
    · subst hkey
      rw [if_pos rfl, Directory.blob?_of_ofKey? hp, hfiles, Dict.getElem?_insert_self]
    · rw [if_neg hkey]
      cases hp' : KeyPath.ofKey? key' with
      | none => simp only [Directory.blob?, hp', Option.bind_none]
      | some p' =>
        rw [Directory.blob?_of_ofKey? hp', Directory.blob?_of_ofKey? hp', hfiles,
          Dict.getElem?_insert_of_ne _ (Directory.file_ne_of_ne hp hp' hkey)]
  blob?_of_refused {d d' key blob cause} h key' := by
    have hfiles : d'.files = d.files := LawfulStore.contents_of_error h
    simp only [Directory.blob?, hfiles]
  blob?_remove d key key' := by
    cases hp : KeyPath.ofKey? key with
    | none =>
      left
      simp only [BlobStore.remove, hp]
    | some p =>
      have hremove : BlobStore.remove d key = d.delete p := by simp only [BlobStore.remove, hp]
      rw [hremove]
      rcases d.delete_eq p with hsame | herased
      · exact .inl (by rw [hsame])
      · rw [herased]
        by_cases hkey : key' = key
        · subst hkey
          refine .inr ⟨rfl, ?_⟩
          rw [Directory.blob?_of_ofKey? hp, Std.ExtTreeMap.getElem?_erase_self]
        · left
          cases hp' : KeyPath.ofKey? key' with
          | none => simp only [Directory.blob?, hp', Option.bind_none]
          | some p' =>
            rw [Directory.blob?_of_ofKey? hp', Directory.blob?_of_ofKey? hp',
              Dict.getElem?_erase_of_ne _ (Directory.file_ne_of_ne hp hp' hkey)]
  mem_keys {d keys key} hkeys hentry := by
    cases hkeys
    obtain ⟨blob, hblob⟩ := Option.isSome_iff_exists.1 hentry
    obtain ⟨p, hp, hfile⟩ := Option.bind_eq_some_iff.1 hblob
    exact Directory.mem_keys hp hfile

/-! ## Unreliable stores -/

theorem UnreliableStore.store_remove [BlobStore σ] (s : UnreliableStore σ) (key : String) :
    (BlobStore.remove s key).2.store = s.store ∨
      (BlobStore.remove s key).2.store = (BlobStore.remove s.store key).2 := by
  by_cases hfailing : StoreOperation.remove ∈ s.failing
  · exact .inl (by simp [BlobStore.remove, hfailing])
  · exact .inr (by simp [BlobStore.remove, hfailing])

instance [BlobStore σ] [FramedStore σ] : FramedStore (UnreliableStore σ) where
  blob? s := blob? s.store
  blob?_of_load {s key blob} h := by
    change (if .load ∈ s.failing then .error (UnreliableStore.failure .load)
      else BlobStore.load s.store key) = _ at h
    split at h
    · cases h
    · exact blob?_of_load h
  load_ne_undecodable s key source := by
    change (if .load ∈ s.failing then .error (UnreliableStore.failure .load)
      else BlobStore.load s.store key) ≠ _
    split
    · simp [UnreliableStore.failure]
    · exact load_ne_undecodable s.store key source
  blob?_of_saved h := blob?_of_saved (UnreliableStore.save_eq_ok h)
  blob?_of_refused h key' := by
    rcases UnreliableStore.save_eq_error h with rfl | ⟨hrefused, -⟩
    · rfl
    · exact blob?_of_refused hrefused key'
  blob?_remove s key key' := by
    rcases UnreliableStore.store_remove s key with hstore | hstore
    · exact .inl (congrArg (blob? · key') hstore)
    · rw [hstore]
      exact blob?_remove s.store key key'
  mem_keys {s keys key} hkeys := by
    change (if .keys ∈ s.failing then .error (UnreliableStore.failure .keys)
      else BlobStore.keys s.store) = _ at hkeys
    split at hkeys
    · cases hkeys
    · exact mem_keys hkeys

end Statescope
