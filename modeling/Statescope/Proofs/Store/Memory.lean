-- SUMMARY: Exporting and importing the layouts of a store in memory.
import Mathlib
import Statescope.Proofs.Store.Bundle

/-!
# Layouts in memory

A store in memory may hold anything under any key. `MemoryStore.bundle` is what it holds
of layouts, and `MemoryStore.pruned` is the store without what looks like a layout by its
key only. Loading, exporting and importing are described by these two, and
`LayoutStore.export_import` says that an export and an import of its text are inverse to
each other.
-/

namespace Statescope

/-! ## Contents -/

namespace MemoryStore

theorem ext_getElem? {m m' : MemoryStore} (h : ∀ k : String, m.entries[k]? = m'.entries[k]?) :
    m = m' := by
  cases m
  cases m'
  exact congrArg mk (Std.ExtTreeMap.ext_getElem? fun k => h k)

@[simp] theorem load_of_none {m : MemoryStore} {key : String} (h : m.entries[key]? = none) :
    BlobStore.load m key = .error .notFound := by
  simp only [BlobStore.load, h]

@[simp] theorem load_of_some {m : MemoryStore} {key : String} {b : Blob} (h : m.entries[key]? = some b) :
    BlobStore.load m key = .ok b := by
  simp only [BlobStore.load, h]

/-- The layout that is stored under a key. -/
def layoutAt? (m : MemoryStore) (key : String) : Option SavedLayout :=
  m.entries[key]?.bind SavedLayout.ofBlob?

/-- The layouts that are stored under the keys of fingerprints. -/
def bundle (m : MemoryStore) : LayoutBundle :=
  m.entries.filterMap fun key b =>
    if (Fingerprint.ofLayoutKey? key).isSome then SavedLayout.ofBlob? b else none

/-- The store without what is no layout under the keys of fingerprints. Empty blobs stay. -/
def pruned (m : MemoryStore) : MemoryStore :=
  ⟨m.entries.filter fun key b => !((Fingerprint.ofLayoutKey? key).isSome && SavedLayout.isCorrupt b)⟩

@[simp] theorem getElem?_bundle (m : MemoryStore) (key : String) :
    m.bundle[key]? = if (Fingerprint.ofLayoutKey? key).isSome then m.layoutAt? key else none := by
  rw [bundle, Std.ExtTreeMap.getElem?_filterMap', layoutAt?]
  split
  · rfl
  · simp

@[simp] theorem getElem?_pruned (m : MemoryStore) (key : String) :
    m.pruned.entries[key]? = m.entries[key]?.filter fun b =>
      !((Fingerprint.ofLayoutKey? key).isSome && SavedLayout.isCorrupt b) := by
  rw [pruned, Std.ExtTreeMap.getElem?_filter']

theorem getElem?_pruned_of_none (m : MemoryStore) {key : String}
    (h : Fingerprint.ofLayoutKey? key = none) : m.pruned.entries[key]? = m.entries[key]? := by
  rw [getElem?_pruned, h]
  cases m.entries[key]? <;> simp [Option.filter]

/-- What is removed was no layout. -/
@[simp] theorem layoutAt?_pruned (m : MemoryStore) (key : String) :
    m.pruned.layoutAt? key = m.layoutAt? key := by
  rw [layoutAt?, layoutAt?, getElem?_pruned]
  cases m.entries[key]? with
  | none => rfl
  | some b =>
    by_cases hcorrupt : SavedLayout.isCorrupt b = true
    · have hnone : SavedLayout.ofBlob? b = none := by
        rw [SavedLayout.isCorrupt, Bool.and_eq_true, Option.isNone_iff_eq_none] at hcorrupt
        rw [SavedLayout.ofBlob?, hcorrupt.2, ite_self]
      cases (Fingerprint.ofLayoutKey? key).isSome <;> simp [hcorrupt, hnone]
    · simp [Option.filter, hcorrupt]

@[simp] theorem isFinite_bundle (m : MemoryStore) : m.bundle.IsFinite := by
  intro key l h
  rw [getElem?_bundle] at h
  split at h
  · rw [layoutAt?, Option.bind_eq_some_iff] at h
    obtain ⟨b, -, hb⟩ := h
    exact SavedLayout.isFinite_of_ofBlob? hb
  · cases h

end MemoryStore

namespace LayoutStore

variable (s : LayoutStore MemoryStore)

/-! ## Loading and exporting -/

/-- Whether a blob that is no layout is stored under the key. -/
def corruptAt (key : String) : Bool := s.store.entries[key]?.any SavedLayout.isCorrupt

/-- The store without the entry under a key, if that is no layout. -/
def discard (key : String) : LayoutStore MemoryStore :=
  if s.corruptAt key then { s with store := ⟨s.store.entries.erase key⟩ } else s

theorem load_eq (fp : Fingerprint) :
    s.load fp = (s.store.layoutAt? fp.layoutKey, s.discard fp.layoutKey) := by
  unfold load Documents.load MemoryStore.layoutAt? discard corruptAt
  cases hstored : s.store.entries[fp.layoutKey]? with
  | none =>
    rw [MemoryStore.load_of_none hstored]
    rfl
  | some b =>
    rw [MemoryStore.load_of_some hstored]
    cases hempty : b.isEmpty with
    | true => simp [SavedLayout.ofBlob?, SavedLayout.isCorrupt, hempty]
    | false =>
      cases hread : SavedLayout.decoder.read? b.source with
      | some l => simp [SavedLayout.ofBlob?, SavedLayout.isCorrupt, hempty, hread]
      | none =>
        simp [SavedLayout.ofBlob?, SavedLayout.isCorrupt, hempty, hread]
        rfl

@[simp] theorem load_fst (fp : Fingerprint) : (s.load fp).1 = s.store.layoutAt? fp.layoutKey := by
  rw [load_eq]

/-! ## Exporting -/

@[simp] theorem getElem?_discard (key k : String) :
    (s.discard key).store.entries[k]? =
      if k = key ∧ s.corruptAt key then none else s.store.entries[k]? := by
  unfold discard
  by_cases hcorrupt : s.corruptAt key = true
  · by_cases hk : k = key
    · simp [hcorrupt, hk]
    · simp [hcorrupt, hk, Ne.symm hk]
  · simp [hcorrupt]

@[simp] theorem seedAttempted_discard (key : String) : (s.discard key).seedAttempted = s.seedAttempted := by
  unfold discard
  split <;> rfl

/-- What is left of the entry under one key. -/
theorem getElem?_pruned_of_isSome {key : String} (h : (Fingerprint.ofLayoutKey? key).isSome = true) :
    s.store.pruned.entries[key]? = if s.corruptAt key then none else s.store.entries[key]? := by
  rw [MemoryStore.getElem?_pruned, corruptAt, h]
  cases s.store.entries[key]? with
  | none => simp
  | some b => cases hb : SavedLayout.isCorrupt b <;> simp [Option.filter, hb]

/-- A step of the export looks at one key and leaves the others alone. -/
theorem collect_eq (b : LayoutBundle) (key : String) :
    (∀ k, (collect (b, s) key).1[k]? = if k = key then s.store.bundle[k]?.or b[k]? else b[k]?) ∧
      (collect (b, s) key).2.seedAttempted = s.seedAttempted ∧
      ∀ k, (collect (b, s) key).2.store.entries[k]? =
        if k = key then s.store.pruned.entries[k]? else s.store.entries[k]? := by
  unfold collect
  cases hkey : Fingerprint.ofLayoutKey? key with
  | none =>
    refine ⟨fun k => ?_, rfl, fun k => ?_⟩
    · by_cases hk : k = key
      · simp [hk, hkey]
      · rw [if_neg hk]
    · by_cases hk : k = key
      · rw [if_pos hk, hk, s.store.getElem?_pruned_of_none hkey]
      · rw [if_neg hk]
  | some fp =>
    obtain ⟨rfl, -⟩ := Fingerprint.ofLayoutKey?_eq_some_iff.1 hkey
    have hsome : (Fingerprint.ofLayoutKey? fp.layoutKey).isSome = true := by rw [hkey]; rfl
    simp only [load_eq]
    refine ⟨fun k => ?_, s.seedAttempted_discard _, fun k => ?_⟩
    · by_cases hk : k = fp.layoutKey
      · rw [if_pos hk, hk, MemoryStore.getElem?_bundle, if_pos hsome]
        cases s.store.layoutAt? fp.layoutKey <;> simp
      · rw [if_neg hk]
        cases s.store.layoutAt? fp.layoutKey with
        | none => rfl
        | some l => exact Dict.getElem?_insert_of_ne _ (Ne.symm hk) _
    · rw [getElem?_discard]
      by_cases hk : k = fp.layoutKey
      · rw [hk, getElem?_pruned_of_isSome s hsome]
        simp
      · simp [hk]

/-- The layouts do not change while they are collected, and what is left of the store
is decided key by key. -/
theorem foldl_collect (keys : List String) (b : LayoutBundle) (s : LayoutStore MemoryStore) :
    (∀ k : String, (keys.foldl collect (b, s)).1[k]? =
        (if k ∈ keys then s.store.bundle[k]? else none).or b[k]?) ∧
      (keys.foldl collect (b, s)).2.seedAttempted = s.seedAttempted ∧
      ∀ k : String, (keys.foldl collect (b, s)).2.store.entries[k]? =
        if k ∈ keys then s.store.pruned.entries[k]? else s.store.entries[k]? := by
  induction keys generalizing b s with
  | nil => simp
  | cons key keys ih =>
    obtain ⟨hbundle, hseed, hentries⟩ := collect_eq s b key
    rw [List.foldl_cons]
    generalize collect (b, s) key = acc at *
    obtain ⟨b', s'⟩ := acc
    obtain ⟨ihbundle, ihseed, ihentries⟩ := ih b' s'
    have hpruned (k : String) : s'.store.pruned.entries[k]? = s.store.pruned.entries[k]? := by
      rw [MemoryStore.getElem?_pruned, hentries]
      split
      · rw [MemoryStore.getElem?_pruned, Option.filter_filter]
        simp
      · rw [MemoryStore.getElem?_pruned]
    have hlayout (k : String) : s'.store.bundle[k]? = s.store.bundle[k]? := by
      rw [MemoryStore.getElem?_bundle, MemoryStore.getElem?_bundle,
        ← MemoryStore.layoutAt?_pruned s'.store, ← MemoryStore.layoutAt?_pruned s.store,
        MemoryStore.layoutAt?, MemoryStore.layoutAt?, hpruned]
    refine ⟨fun k => ?_, ihseed.trans hseed, fun k => ?_⟩
    · rw [ihbundle, hbundle, hlayout]
      by_cases hk : k = key
      · rw [if_pos hk, if_pos (List.mem_cons.2 (.inl hk)), ← Option.or_assoc]
        split
        · rw [Option.or_self]
        · rw [Option.none_or]
      · simp [hk]
    · rw [ihentries, hentries, hpruned]
      by_cases hk : k = key <;> simp [hk]

/-- The keys that an export goes through. -/
def layoutKeys : List String :=
  s.store.entries.keys.filter fun key => Fingerprint.keyPrefix.isPrefixOf key.toList

/-- Under the other keys, there is no layout to export. -/
theorem eq_none_or_of_not_mem_layoutKeys {key : String} (h : key ∉ s.layoutKeys) :
    s.store.entries[key]? = none ∨ Fingerprint.ofLayoutKey? key = none := by
  rw [layoutKeys, List.mem_filter, Std.ExtTreeMap.mem_keys, not_and_or] at h
  refine h.imp (fun hmem => Std.ExtTreeMap.getElem?_eq_none hmem) (fun hprefix => ?_)
  rw [Option.eq_none_iff_forall_ne_some]
  intro fp hfp
  rw [← (Fingerprint.ofLayoutKey?_eq_some_iff.1 hfp).1] at hprefix
  exact hprefix fp.isPrefixOf_layoutKey

theorem getElem?_bundle_of_not_mem_layoutKeys {key : String} (h : key ∉ s.layoutKeys) :
    s.store.bundle[key]? = none := by
  rw [MemoryStore.getElem?_bundle, MemoryStore.layoutAt?]
  rcases s.eq_none_or_of_not_mem_layoutKeys h with hnone | hnone <;> simp [hnone]

theorem getElem?_pruned_of_not_mem_layoutKeys {key : String} (h : key ∉ s.layoutKeys) :
    s.store.pruned.entries[key]? = s.store.entries[key]? := by
  rcases s.eq_none_or_of_not_mem_layoutKeys h with hnone | hnone
  · rw [MemoryStore.getElem?_pruned, hnone, Option.filter_none]
  · exact s.store.getElem?_pruned_of_none hnone

/-- All layouts are collected, and what looks like one only by its key is removed. -/
theorem foldl_collect_layoutKeys :
    s.layoutKeys.foldl collect (∅, s) = (s.store.bundle, { s with store := s.store.pruned }) := by
  obtain ⟨hbundle, hseed, hentries⟩ := foldl_collect s.layoutKeys ∅ s
  generalize s.layoutKeys.foldl collect (∅, s) = acc at *
  obtain ⟨b, store, seeded⟩ := acc
  have hb : b = s.store.bundle := by
    apply Std.ExtTreeMap.ext_getElem?
    intro k
    rw [hbundle]
    split
    · simp
    · rename_i hk
      rw [s.getElem?_bundle_of_not_mem_layoutKeys hk]
      simp
  have hstore : store = s.store.pruned := by
    apply MemoryStore.ext_getElem?
    intro k
    rw [hentries]
    split
    · rfl
    · rename_i hk
      exact (s.getElem?_pruned_of_not_mem_layoutKeys hk).symm
  cases hseed
  rw [hb, hstore]

/-- The export is made of all the layouts, and the store loses what is none. -/
theorem exportAll_eq : s.exportAll =
    (if s.store.bundle.isEmpty then .error .empty else .ok s.store.bundle,
      { s with store := s.store.pruned }) := by
  have hkeys : Documents.keysFrom s.store Fingerprint.keyPrefix = .ok s.layoutKeys := rfl
  unfold exportAll
  rw [hkeys]
  simp only [foldl_collect_layoutKeys]

theorem exportText_eq : s.exportText =
    (if s.store.bundle.isEmpty then .error .empty else .ok s.store.bundle.toJson.indented,
      { s with store := s.store.pruned }) := by
  rw [exportText, exportAll_eq]
  cases s.store.bundle.isEmpty <;> rfl

/-! ## Importing -/

theorem saveAll_eq (entries : List (Fingerprint × SavedLayout)) (s : LayoutStore MemoryStore) :
    s.saveAll entries = (.ok (), { s with store := ⟨(entries.map fun (fp, l) =>
      (fp.layoutKey, l.toBlob)).foldl (fun d p => d.insert p.1 p.2) s.store.entries⟩ }) := by
  induction entries generalizing s with
  | nil => rfl
  | cons entry entries ih =>
    obtain ⟨fp, l⟩ := entry
    exact ih { s with store := ⟨s.store.entries.insert fp.layoutKey l.toBlob⟩ }

/-- A bundle all of whose keys belong to fingerprints is imported as a whole. -/
theorem importText_indented {b : LayoutBundle} (hfinite : b.IsFinite)
    (hkeys : ∀ (key : String) l, b[key]? = some l → (Fingerprint.ofLayoutKey? key).isSome = true) :
    ∃ fps m, s.importText b.toJson.indented = (.ok fps, { s with store := m }) ∧
      fps.length = b.size ∧
      ∀ k : String, m.entries[k]? = (b[k]?.map SavedLayout.toBlob).or s.store.entries[k]? := by
  have hpairs : (b.entries.map fun (fp, l) => (fp.layoutKey, l.toBlob)) =
      (b.map fun _ l => SavedLayout.toBlob l).toList := by
    rw [LayoutBundle.entries, Std.ExtTreeMap.toList_map, List.map_filterMap,
      ← List.filterMap_eq_map]
    apply List.filterMap_congr
    rintro ⟨key, l⟩ hmem
    obtain ⟨fp, hfp⟩ := Option.isSome_iff_exists.1
      (hkeys key l (Std.ExtTreeMap.mem_toList_iff_getElem?_eq_some.1 hmem))
    simp [hfp, (Fingerprint.ofLayoutKey?_eq_some_iff.1 hfp).1]
  have hlength : (b.entries.map (·.1)).length = b.size := by
    have := congrArg List.length hpairs
    simpa using this
  refine ⟨b.entries.map (·.1), ⟨(b.map fun _ l => SavedLayout.toBlob l).toList.foldl
    (fun d p => d.insert p.1 p.2) s.store.entries⟩, ?_, hlength, fun k => ?_⟩
  · rw [importText, LayoutBundle.read?_indented hfinite]
    simp only [saveAll_eq, hpairs]
    rfl
  · rw [Dict.getElem?_foldl_insert_toList, Std.ExtTreeMap.getElem?_map]

/-! ## Export and import -/

theorem isSome_ofLayoutKey?_of_bundle {m : MemoryStore} {key : String} {l : SavedLayout}
    (h : m.bundle[key]? = some l) : (Fingerprint.ofLayoutKey? key).isSome = true := by
  rw [MemoryStore.getElem?_bundle] at h
  split at h
  · assumption
  · cases h

/-- The layout of a fingerprint that is not empty is the one that is exported. -/
theorem getElem?_bundle_layoutKey (m : MemoryStore) {fp : Fingerprint} (h : fp.text ≠ "") :
    m.bundle[fp.layoutKey]? = m.layoutAt? fp.layoutKey := by
  have hkey : Fingerprint.ofLayoutKey? fp.layoutKey = some fp :=
    Fingerprint.ofLayoutKey?_eq_some_iff.2 ⟨rfl, h⟩
  rw [MemoryStore.getElem?_bundle, hkey]
  rfl

/-- What has been imported can be read again, and everything else is as it was. -/
theorem layoutAt?_imported {b : LayoutBundle} (hfinite : b.IsFinite) {m m' : MemoryStore}
    (h : ∀ k : String, m'.entries[k]? = (b[k]?.map SavedLayout.toBlob).or m.entries[k]?) (k : String) :
    m'.layoutAt? k = b[k]?.or (m.layoutAt? k) := by
  rw [MemoryStore.layoutAt?, h]
  cases hb : b[k]? with
  | none => rfl
  | some l => exact (hfinite k l hb).ofBlob?_toBlob

/-- What an export leaves behind, and what comes of importing its text. -/
structure Exchanges (text : String) : Prop where
  /-- The layouts come back into the store that they came from, where they already are. -/
  reimported : ∃ fps t, s.exportText.2.importText text = (.ok fps, t) ∧
    fps.length = s.store.bundle.size ∧
    BlobStore.keys t.store = BlobStore.keys s.exportText.2.store ∧
    ∀ fp : Fingerprint, fp.text ≠ "" →
      (t.load fp).1 = (s.exportText.2.load fp).1 ∧ (t.load fp).1 = (s.load fp).1
  /-- The layouts come into an empty store, which is exported as the same text. -/
  transferred : ∀ seeded, ∃ fps t,
    importText ⟨({} : MemoryStore), seeded⟩ text = (.ok fps, t) ∧
    (∀ fp : Fingerprint, fp.text ≠ "" → (t.load fp).1 = (s.load fp).1) ∧
    t.exportText.1 = .ok text

/-- Layouts of the store itself bring no new keys. -/
theorem keys_imported {m : MemoryStore}
    (h : ∀ k : String, m.entries[k]? =
      (s.store.bundle[k]?.map SavedLayout.toBlob).or s.store.pruned.entries[k]?) :
    m.entries.keys = s.store.pruned.entries.keys := by
  apply Dict.keys_eq_of_isSome_iff
  intro k
  rw [h, Option.isSome_or, Option.isSome_map]
  cases hb : s.store.bundle[k]? with
  | none => rfl
  | some l =>
    have hkey := isSome_ofLayoutKey?_of_bundle hb
    -- What is a layout has not been removed.
    rw [MemoryStore.getElem?_bundle, if_pos hkey, ← MemoryStore.layoutAt?_pruned,
      MemoryStore.layoutAt?, Option.bind_eq_some_iff] at hb
    obtain ⟨blob, hblob, -⟩ := hb
    rw [hblob]
    rfl

/-- A store that holds what a bundle is written as, and nothing else, has its layouts. -/
theorem bundle_imported {m m' : MemoryStore}
    (h : ∀ k : String, m'.layoutAt? k = m.bundle[k]?) : m'.bundle = m.bundle := by
  apply Std.ExtTreeMap.ext_getElem?
  intro k
  rw [MemoryStore.getElem?_bundle, h]
  split
  · rfl
  · rename_i hk
    rw [MemoryStore.getElem?_bundle, if_neg hk]

theorem exchanges_of_bundle (h : s.store.bundle.isEmpty = false) :
    s.Exchanges s.store.bundle.toJson.indented := by
  have hfinite := s.store.isFinite_bundle
  have hkeys (key : String) (l : SavedLayout) (h : s.store.bundle[key]? = some l) :=
    isSome_ofLayoutKey?_of_bundle h
  constructor
  · rw [exportText_eq]
    obtain ⟨fps, m, himport, hlength, hentries⟩ :=
      importText_indented { s with store := s.store.pruned } hfinite hkeys
    refine ⟨fps, _, himport, hlength, congrArg Except.ok (s.keys_imported hentries),
      fun fp hfp => ?_⟩
    rw [load_fst, load_fst, load_fst, layoutAt?_imported hfinite hentries,
      getElem?_bundle_layoutKey _ hfp, MemoryStore.layoutAt?_pruned, Option.or_self]
    exact ⟨rfl, rfl⟩
  · intro seeded
    obtain ⟨fps, m, himport, -, hentries⟩ :=
      importText_indented ⟨({} : MemoryStore), seeded⟩ hfinite hkeys
    have hlayout (k : String) : m.layoutAt? k = s.store.bundle[k]? := by
      rw [layoutAt?_imported hfinite hentries]
      simp [MemoryStore.layoutAt?]
    refine ⟨fps, _, himport, fun fp hfp => ?_, ?_⟩
    · rw [load_fst, load_fst, hlayout, getElem?_bundle_layoutKey _ hfp]
    · rw [exportText_eq]
      simp only [bundle_imported hlayout, h]
      rfl

/-- Export and import are inverse to each other on the layouts of a store in memory,
whatever else it holds. There is nothing to export if and only if no fingerprint that is
not empty has a layout. The export removes exactly those entries of such fingerprints
that are neither empty nor a layout. Its text brings all layouts back, both where they
came from and in an empty store. -/
theorem export_import :
    (s.exportText.1 = .error .empty ↔ ∀ fp : Fingerprint, fp.text ≠ "" →
      ∀ blob, s.store.entries[fp.layoutKey]? = some blob → SavedLayout.ofBlob? blob = none) ∧
    s.exportText.2 = { s with store := s.store.pruned } ∧
    (s.exportText.1 ≠ .error .empty → ∃ text, s.exportText.1 = .ok text ∧ s.Exchanges text) := by
  have hempty : s.store.bundle.isEmpty = true ↔ ∀ fp : Fingerprint, fp.text ≠ "" →
      ∀ blob, s.store.entries[fp.layoutKey]? = some blob → SavedLayout.ofBlob? blob = none := by
    rw [Std.ExtTreeMap.isEmpty_iff]
    constructor
    · intro h fp hfp blob hblob
      have hnone := getElem?_bundle_layoutKey s.store hfp
      rw [h, MemoryStore.layoutAt?, hblob] at hnone
      simpa using hnone.symm
    · intro h
      apply Std.ExtTreeMap.ext_getElem?
      intro k
      rw [MemoryStore.getElem?_bundle]
      cases hkey : Fingerprint.ofLayoutKey? k with
      | none => simp
      | some fp =>
        obtain ⟨rfl, hfp⟩ := Fingerprint.ofLayoutKey?_eq_some_iff.1 hkey
        cases hblob : s.store.entries[fp.layoutKey]? with
        | none => simp [MemoryStore.layoutAt?, hblob]
        | some blob => simp [MemoryStore.layoutAt?, hblob, h fp hfp blob hblob]
  rw [← hempty, exportText_eq]
  refine ⟨?_, rfl, ?_⟩
  · cases s.store.bundle.isEmpty <;> simp
  · intro hne
    cases hbundle : s.store.bundle.isEmpty with
    | true => simp [hbundle] at hne
    | false => exact ⟨_, rfl, s.exchanges_of_bundle hbundle⟩

end LayoutStore

end Statescope
