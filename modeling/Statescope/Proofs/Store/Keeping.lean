-- SUMMARY: Stores that keep what is saved, so that a layout is loaded as it was saved and nothing is seeded over it.
import Statescope.Proofs.Store.Directory

/-!
# Stores that keep

Every operation of a store may fail. `KeepingStore` says what can be relied on when none
does: what has been saved under a key is read under it, and the key is listed. So a finite
layout is loaded again as it was saved, and no seed takes its place.
-/

namespace Statescope

/-! ## Stores -/

/-- After a blob has been saved, the store gives this blob if it can be read, and lists the
key if its keys can be. -/
class KeepingStore (σ : Type) [BlobStore σ] : Prop where
  eq_of_load {store store' : σ} {key : String} {blob blob' : Blob}
    (hsave : BlobStore.save store key blob = (.ok (), store'))
    (hload : BlobStore.load store' key = .ok blob') : blob' = blob
  mem_keys {store store' : σ} {key : String} {blob : Blob} {keys : List String}
    (hsave : BlobStore.save store key blob = (.ok (), store'))
    (hkeys : BlobStore.keys store' = .ok keys) : key ∈ keys

/-- A blob that is refused leaves the store as it was. -/
def BlobStore.RefusesCleanly (σ : Type) [BlobStore σ] : Prop :=
  ∀ (store store' : σ) key blob cause,
    BlobStore.save store key blob = (.error cause, store') → store' = store

instance : KeepingStore MemoryStore where
  eq_of_load {m m' key blob blob'} hsave hload := by
    cases hsave
    simpa [BlobStore.load] using hload.symm
  mem_keys {m m' key blob keys} hsave hkeys := by
    cases hsave
    cases hkeys
    simp

instance : KeepingStore Directory where
  eq_of_load {d d' key blob blob'} hsave hload := by
    obtain ⟨p, hp, hfile⟩ := Directory.exists_file_of_save hsave
    have hread : d'.read p = .ok blob' := by simpa only [BlobStore.load, hp] using hload
    exact Option.some_inj.1 ((Directory.getElem?_of_read hread).symm.trans hfile)
  mem_keys {d d' key blob keys} hsave hkeys := by
    obtain ⟨p, hp, hfile⟩ := Directory.exists_file_of_save hsave
    cases hkeys
    exact Directory.mem_keys hp hfile

instance [BlobStore σ] [KeepingStore σ] : KeepingStore (UnreliableStore σ) where
  eq_of_load {s s' key blob blob'} hsave hload := by
    change (if .load ∈ s'.failing then .error (UnreliableStore.failure .load)
      else BlobStore.load s'.store key) = _ at hload
    split at hload
    · cases hload
    · exact KeepingStore.eq_of_load (UnreliableStore.save_eq_ok hsave) hload
  mem_keys {s s' key blob keys} hsave hkeys := by
    change (if .keys ∈ s'.failing then .error (UnreliableStore.failure .keys)
      else BlobStore.keys s'.store) = _ at hkeys
    split at hkeys
    · cases hkeys
    · exact KeepingStore.mem_keys (UnreliableStore.save_eq_ok hsave) hkeys

theorem MemoryStore.refusesCleanly : BlobStore.RefusesCleanly MemoryStore := nofun

theorem UnreliableStore.refusesCleanly [BlobStore σ] (h : BlobStore.RefusesCleanly σ) :
    BlobStore.RefusesCleanly (UnreliableStore σ) := by
  intro s s' key blob cause hsave
  rcases save_eq_error hsave with rfl | ⟨hsave, hfailing⟩
  · rfl
  · cases s
    cases s'
    cases hfailing
    exact congrArg (UnreliableStore.mk · _) (h _ _ _ _ _ hsave)

/-! ## Layouts -/

namespace LayoutStore

variable [BlobStore σ] {s t : LayoutStore σ} {fp : Fingerprint} {l : SavedLayout}

/-- A finite layout is loaded from what is stored for it. -/
theorem load_of_toBlob (hfinite : l.IsFinite)
    (h : BlobStore.load s.store fp.layoutKey = .ok l.toBlob) : s.load fp = (some l, s) := by
  have hblob := hfinite.ofBlob?_toBlob
  have hempty : l.toBlob.isEmpty = false := Json.isEmpty_indented _
  rw [SavedLayout.ofBlob?, hempty, if_neg Bool.false_ne_true] at hblob
  simp only [load, Documents.load, h, hempty, Bool.false_eq_true, if_false, hblob]

/-- What is loaded is the layout that the blob holds, if there is a blob. -/
theorem fst_load (s : LayoutStore σ) (fp : Fingerprint) :
    (s.load fp).1 = (BlobStore.load s.store fp.layoutKey).toOption.bind SavedLayout.ofBlob? := by
  unfold load Documents.load
  cases BlobStore.load s.store fp.layoutKey with
  | error cause => cases cause <;> rfl
  | ok blob =>
    simp only [Except.toOption, Option.bind_some, SavedLayout.ofBlob?]
    cases blob.isEmpty with
    | true => rfl
    | false => cases SavedLayout.decoder.read? blob.source <;> rfl

/-- Whether there has been an attempt at seeding does not matter to a load. -/
theorem load_congr (h : s.store = t.store) (fp : Fingerprint) : (s.load fp).1 = (t.load fp).1 := by
  unfold load
  rw [h]
  split <;> rfl

/-- Where a layout is listed, nothing is seeded. -/
theorem store_seed (fp : Fingerprint)
    (h : ∀ keys, BlobStore.keys s.store = .ok keys → fp.layoutKey ∈ keys) (file : Option Blob) :
    (s.seed file).2.store = s.store := by
  have hsize : ∀ s' : LayoutStore σ, s'.store = s.store → s'.size ≠ .ok 0 := by
    intro s' hs' hzero
    obtain ⟨keys, hkeys, hnone⟩ := exists_keys_of_size hzero
    rw [hs'] at hkeys
    exact hnone _ fp.isPrefixOf_layoutKey (h keys hkeys)
  unfold seed
  split
  · rfl
  · simp only
    split
    · exact absurd ‹_› (hsize _ rfl)
    · rfl

theorem eq_of_refused (h : BlobStore.RefusesCleanly σ) {cause : LayoutError}
    (hsave : s.save fp l = (.error cause, t)) : t = s := by
  obtain ⟨_, -, hrefused, hseed⟩ := save_eq_error hsave
  have hstore := h _ _ _ _ _ hrefused
  cases s
  cases t
  cases hseed
  exact congrArg (LayoutStore.mk · _) hstore

variable [KeepingStore σ]

/-- A finite layout that has been saved is loaded again, if the store can be read. -/
theorem load_of_save (hfinite : l.IsFinite) (hsave : s.save fp l = (.ok (), t)) {blob : Blob}
    (hload : BlobStore.load t.store fp.layoutKey = .ok blob) : t.load fp = (some l, t) := by
  have hblob := KeepingStore.eq_of_load (save_eq_ok hsave).1 hload
  exact load_of_toBlob hfinite (hblob ▸ hload)

/-- No other layout is loaded than the one that has been saved. -/
theorem eq_of_load_of_save (hsave : s.save fp l = (.ok (), t)) {l' : SavedLayout}
    (hload : (t.load fp).1 = some l') : l' = l := by
  rw [fst_load] at hload
  cases hstored : BlobStore.load t.store fp.layoutKey with
  | error cause =>
    rw [hstored] at hload
    cases hload
  | ok blob =>
    rw [hstored] at hload
    have hread : SavedLayout.ofBlob? l.toBlob = some l' :=
      KeepingStore.eq_of_load (save_eq_ok hsave).1 hstored ▸ hload
    have hfinite : l.IsFinite := SavedLayout.isSome_ofBlob?_toBlob.1 (by rw [hread]; rfl)
    rw [hfinite.ofBlob?_toBlob] at hread
    exact (Option.some_inj.1 hread).symm

/-- Nothing is seeded over a layout that has been saved. -/
theorem store_seed_of_save (hsave : s.save fp l = (.ok (), t)) {u : LayoutStore σ}
    (hu : u.store = t.store) (file : Option Blob) : (u.seed file).2.store = t.store := by
  rw [← hu]
  refine store_seed fp (fun keys hkeys => ?_) file
  exact KeepingStore.mem_keys (save_eq_ok hsave).1 (hu ▸ hkeys)

end LayoutStore

end Statescope
