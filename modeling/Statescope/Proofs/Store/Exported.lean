-- SUMMARY: What an export holds: every layout that can be loaded, in a bundle that brings them all into an empty store.
import Mathlib
import Statescope.Proofs.Store.Fingerprints
import Statescope.Proofs.Store.Imported
import Statescope.Proofs.Store.Mirror

/-!
# Exports

An export goes through the keys of the store and loads each layout, which may discard entries
on the way. In a steady store none of this changes what any layout is loaded as, so that the
bundle holds them all (`LayoutStore.exists_exportText`). To import it into an empty store, in
memory or in a directory, brings them back.
-/

namespace Statescope

/-! ## Steady stores -/

/-- Stores whose keys can be listed, and in which a layout stays as it is when the entry of another
one is removed. -/
class SteadyStore (σ : Type) [BlobStore σ] : Prop where
  exists_keys (store : σ) : ∃ keys, BlobStore.keys store = .ok keys
  load_remove (store : σ) {fp fp' : Fingerprint} (h : fp' ≠ fp) :
    BlobStore.load (BlobStore.remove store fp.layoutKey).2 fp'.layoutKey
      = BlobStore.load store fp'.layoutKey

instance : SteadyStore MemoryStore where
  exists_keys m := ⟨m.entries.keys, rfl⟩
  load_remove m fp fp' h := by
    have hkey : fp.layoutKey ≠ fp'.layoutKey := fun heq => h (Fingerprint.layoutKey_injective heq).symm
    simp only [BlobStore.load, BlobStore.remove, Dict.getElem?_erase_of_ne _ hkey]

namespace Directory

variable {d : Directory} {p : KeyPath}

/-- A file that is gone is missed only where it was read, and where it was in the way of a folder. -/
theorem read_erase {path : String} (hfile : path ≠ p.file) (hfolder : p.folder ≠ some path) :
    read { d with files := d.files.erase path } p = d.read p := by
  have hobstacle : obstacle? { d with files := d.files.erase path } p = d.obstacle? p := by
    unfold obstacle?
    split
    · rename_i folder hp
      rw [hp] at hfolder
      have hne : path ≠ folder := fun heq => hfolder (congrArg some heq.symm)
      have hcontains : (d.files.erase path).contains folder = d.files.contains folder := by
        rw [← Std.ExtTreeMap.isSome_getElem?_eq_contains, ← Std.ExtTreeMap.isSome_getElem?_eq_contains,
          Dict.getElem?_erase_of_ne _ hne]
      simp only [hcontains]
    · rfl
  simp only [read, hobstacle, Dict.getElem?_erase_of_ne _ hfile]

theorem place_layoutKey {fp : Fingerprint} (h : KeyPath.ofKey? fp.layoutKey = some p) :
    p = ⟨some "layout", fp.text⟩ := by
  rw [Fingerprint.layoutKey_eq, KeyPath.ofKey?_append (by decide), Option.ite_none_right_eq_some] at h
  exact (Option.some_inj.1 h.2).symm

end Directory

instance : SteadyStore Directory where
  exists_keys d := ⟨d.keys, rfl⟩
  load_remove d fp fp' h := by
    cases hp : KeyPath.ofKey? fp.layoutKey with
    | none => simp only [BlobStore.remove, hp]
    | some p =>
      have hremove : BlobStore.remove d fp.layoutKey = d.delete p := by simp only [BlobStore.remove, hp]
      rw [hremove]
      rcases d.delete_eq p with hsame | herased
      · rw [hsame]
      · rw [herased]
        cases hp' : KeyPath.ofKey? fp'.layoutKey with
        | none => simp only [BlobStore.load, hp']
        | some p' =>
          have hne : fp'.layoutKey ≠ fp.layoutKey := fun heq => h (Fingerprint.layoutKey_injective heq)
          have hfolder : p'.folder ≠ some p.file := by
            rw [Directory.place_layoutKey hp, Directory.place_layoutKey hp', Fingerprint.file_place]
            exact fun heq => fp.layoutFile_ne (Option.some_inj.1 heq).symm
          simp only [BlobStore.load, hp', Directory.read_erase (Directory.file_ne_of_ne hp hp' hne) hfolder]

namespace LayoutStore

variable [BlobStore σ] [FramedStore σ]

/-! ## Loading -/

/-- A load removes an entry at most, and only if it holds no layout. -/
theorem store_load (s : LayoutStore σ) (fp : Fingerprint) : (s.load fp).2.store = s.store ∨
    ∃ blob, BlobStore.load s.store fp.layoutKey = .ok blob ∧ SavedLayout.ofBlob? blob = none ∧
      (s.load fp).2.store = (BlobStore.remove s.store fp.layoutKey).2 := by
  unfold load Documents.load
  cases hload : BlobStore.load s.store fp.layoutKey with
  | error cause =>
    cases cause with
    | undecodable source => exact absurd hload (FramedStore.load_ne_undecodable _ _ source)
    | notFound | io | other => exact .inl rfl
  | ok blob =>
    cases hempty : blob.isEmpty with
    | true => exact .inl (by simp [hempty])
    | false =>
      cases hread : SavedLayout.decoder.read? blob.source with
      | some l => exact .inl (by simp [hempty, hread])
      | none =>
        exact .inr ⟨blob, rfl, by simp [SavedLayout.ofBlob?, hread], by simp [hempty, hread]⟩

variable [SteadyStore σ]

/-- To load one layout changes nothing for the others. -/
theorem fst_load_load (s : LayoutStore σ) (fp fp' : Fingerprint) :
    ((s.load fp).2.load fp').1 = (s.load fp').1 := by
  rcases s.store_load fp with hstore | ⟨blob, hblob, hnone, hstore⟩
  · exact load_congr hstore fp'
  rw [fst_load, fst_load, hstore]
  by_cases h : fp' = fp
  · subst h
    rw [hblob]
    -- If anything is read after the removal, it is what was read before.
    cases hagain : BlobStore.load (BlobStore.remove s.store fp'.layoutKey).2 fp'.layoutKey with
    | error cause => exact hnone.symm
    | ok blob' =>
      have hleft := FramedStore.blob?_of_load hagain
      rcases FramedStore.blob?_remove s.store fp'.layoutKey fp'.layoutKey with hkept | ⟨-, hgone⟩
      · rw [hkept, FramedStore.blob?_of_load hblob] at hleft
        cases hleft
        rfl
      · rw [hgone] at hleft
        cases hleft
  · rw [SteadyStore.load_remove _ h]

/-! ## Collecting -/

/-- The layout that an export finds under a key. -/
def layoutUnder? (s : LayoutStore σ) (key : String) : Option SavedLayout :=
  (Fingerprint.ofLayoutKey? key).bind fun fp => (s.load fp).1

omit [FramedStore σ] [SteadyStore σ] in
theorem layoutUnder?_layoutKey (s : LayoutStore σ) {fp : Fingerprint} (h : fp.text ≠ "") :
    s.layoutUnder? fp.layoutKey = (s.load fp).1 := by
  rw [layoutUnder?, Fingerprint.ofLayoutKey?_eq_some_iff.2 ⟨rfl, h⟩, Option.bind_some]

omit [FramedStore σ] [SteadyStore σ] in
theorem layoutUnder?_congr {s t : LayoutStore σ} (h : ∀ fp, (t.load fp).1 = (s.load fp).1)
    (key : String) : t.layoutUnder? key = s.layoutUnder? key := by
  simp only [layoutUnder?, h]

theorem collect_loads (b : LayoutBundle) (s : LayoutStore σ) (key : String) :
    (∀ k : String, (collect (b, s) key).1[k]?
      = (if k = key then s.layoutUnder? k else none).or b[k]?) ∧
    ∀ fp, ((collect (b, s) key).2.load fp).1 = (s.load fp).1 := by
  cases hkey : Fingerprint.ofLayoutKey? key with
  | none =>
    have hunder : s.layoutUnder? key = none := by rw [layoutUnder?, hkey, Option.bind_none]
    simp only [collect, hkey]
    refine ⟨fun k => ?_, fun fp => trivial⟩
    split
    · rename_i heq
      rw [heq, hunder, Option.none_or]
    · rw [Option.none_or]
  | some fp =>
    have hunder : s.layoutUnder? key = (s.load fp).1 := by rw [layoutUnder?, hkey, Option.bind_some]
    simp only [collect, hkey]
    refine ⟨fun k => ?_, s.fst_load_load fp⟩
    by_cases hk : k = key
    · subst hk
      rw [if_pos rfl, hunder]
      cases (s.load fp).1 <;> simp
    · rw [if_neg hk, Option.none_or]
      cases (s.load fp).1 <;> simp [Ne.symm hk]

/-- Of each key, the layout is collected that is loaded before anything is discarded. -/
theorem foldl_collect_loads (keys : List String) (b : LayoutBundle) (s : LayoutStore σ) :
    (∀ k : String, (keys.foldl collect (b, s)).1[k]?
      = (if k ∈ keys then s.layoutUnder? k else none).or b[k]?) ∧
    ∀ fp, ((keys.foldl collect (b, s)).2.load fp).1 = (s.load fp).1 := by
  induction keys generalizing b s with
  | nil => exact ⟨fun k => by simp, fun fp => rfl⟩
  | cons key keys ih =>
    obtain ⟨hfirst, hloads⟩ := collect_loads b s key
    obtain ⟨hrest, hloads'⟩ := ih (collect (b, s) key).1 (collect (b, s) key).2
    refine ⟨fun k => ?_, fun fp => (hloads' fp).trans (hloads fp)⟩
    rw [List.foldl_cons, hrest k, hfirst k, layoutUnder?_congr hloads]
    by_cases hk : k = key
    · subst hk
      by_cases hmem : k ∈ keys <;> cases s.layoutUnder? k <;> simp [hmem]
    · by_cases hmem : k ∈ keys <;> simp [hk, hmem]

/-! ## Exporting -/

omit [SteadyStore σ] in
/-- Every layout is listed. -/
theorem mem_of_layoutUnder? {s : LayoutStore σ} {key : String} {keys : List String}
    {l : SavedLayout} (h : s.layoutUnder? key = some l) (hkeys : BlobStore.keys s.store = .ok keys) :
    key ∈ keys.filter fun key => Fingerprint.keyPrefix.isPrefixOf key.toList := by
  obtain ⟨fp, hfp, hload⟩ := Option.bind_eq_some_iff.1 h
  obtain ⟨rfl, -⟩ := Fingerprint.ofLayoutKey?_eq_some_iff.1 hfp
  rw [List.mem_filter]
  refine ⟨?_, fp.isPrefixOf_layoutKey⟩
  rw [fst_load] at hload
  cases hblob : BlobStore.load s.store fp.layoutKey with
  | error cause =>
    rw [hblob] at hload
    cases hload
  | ok blob =>
    apply FramedStore.mem_keys hkeys
    rw [FramedStore.blob?_of_load hblob]
    rfl

/-- Whether the store has a layout that can be loaded. -/
def HasLayouts (s : LayoutStore σ) : Prop := ∃ fp, fp.text ≠ "" ∧ (s.load fp).1.isSome = true

/-- The bundle holds the layouts of the store. -/
def Bundles (s : LayoutStore σ) (b : LayoutBundle) : Prop := ∀ key : String, b[key]? = s.layoutUnder? key

section Bundles

omit [FramedStore σ] [SteadyStore σ]

variable {s : LayoutStore σ} {b : LayoutBundle}

theorem Bundles.exists_load (h : s.Bundles b) {key : String} {l : SavedLayout}
    (hkey : b[key]? = some l) : ∃ fp, fp.layoutKey = key ∧ fp.text ≠ "" ∧ (s.load fp).1 = some l := by
  rw [h] at hkey
  obtain ⟨fp, hfp, hload⟩ := Option.bind_eq_some_iff.1 hkey
  obtain ⟨hkey, htext⟩ := Fingerprint.ofLayoutKey?_eq_some_iff.1 hfp
  exact ⟨fp, hkey, htext, hload⟩

theorem Bundles.getElem?_layoutKey (h : s.Bundles b) {fp : Fingerprint} (htext : fp.text ≠ "") :
    b[fp.layoutKey]? = (s.load fp).1 := by
  rw [h, s.layoutUnder?_layoutKey htext]

theorem Bundles.isEmpty_eq_false_iff (h : s.Bundles b) : b.isEmpty = false ↔ s.HasLayouts := by
  rw [Std.ExtTreeMap.isEmpty_eq_false_iff, Std.ExtTreeMap.eq_empty_iff_forall_not_mem]
  push Not
  simp only [Std.ExtTreeMap.mem_iff_isSome_getElem?]
  constructor
  · rintro ⟨key, hkey⟩
    obtain ⟨l, hl⟩ := Option.isSome_iff_exists.1 hkey
    obtain ⟨fp, -, htext, hload⟩ := h.exists_load hl
    exact ⟨fp, htext, by rw [hload]; rfl⟩
  · rintro ⟨fp, htext, hload⟩
    exact ⟨fp.layoutKey, by rwa [h.getElem?_layoutKey htext]⟩

theorem Bundles.isFinite (h : s.Bundles b) : b.IsFinite := by
  intro key l hkey
  obtain ⟨fp, -, -, hload⟩ := h.exists_load hkey
  rw [fst_load] at hload
  obtain ⟨blob, -, hread⟩ := Option.bind_eq_some_iff.1 hload
  exact SavedLayout.isFinite_of_ofBlob? hread

theorem Bundles.isSome_ofLayoutKey? (h : s.Bundles b) {key : String} {l : SavedLayout}
    (hkey : b[key]? = some l) : (Fingerprint.ofLayoutKey? key).isSome = true := by
  obtain ⟨fp, hkey, htext, -⟩ := h.exists_load hkey
  rw [Fingerprint.ofLayoutKey?_eq_some_iff.2 ⟨hkey, htext⟩]
  rfl

end Bundles

/-- An export gives the text of a bundle of the layouts, if there are any. -/
theorem exists_exportText (s : LayoutStore σ) : ∃ b t, s.Bundles b ∧
    s.exportText = (if b.isEmpty then .error .empty else .ok b.toJson.indented, t) ∧
    ∀ fp, (t.load fp).1 = (s.load fp).1 := by
  obtain ⟨keys, hkeys⟩ := SteadyStore.exists_keys s.store
  have hfrom : Documents.keysFrom s.store Fingerprint.keyPrefix
      = .ok (keys.filter fun key => Fingerprint.keyPrefix.isPrefixOf key.toList) := by
    rw [Documents.keysFrom, hkeys]
    rfl
  generalize hlayouts : (keys.filter fun key => Fingerprint.keyPrefix.isPrefixOf key.toList) = layouts
    at hfrom
  obtain ⟨hbundle, hloads⟩ := foldl_collect_loads layouts ∅ s
  refine ⟨(layouts.foldl collect (∅, s)).1, (layouts.foldl collect (∅, s)).2, fun key => ?_, ?_, hloads⟩
  · rw [hbundle]
    by_cases hmem : key ∈ layouts
    · simp [hmem]
    · have hnone : s.layoutUnder? key = none := by
        rw [Option.eq_none_iff_forall_ne_some]
        intro l hl
        exact hmem (hlayouts ▸ mem_of_layoutUnder? hl hkeys)
      simp [hmem, hnone]
  · rw [exportText, exportAll, hfrom]
    cases hempty : (layouts.foldl collect (∅, s)).1.isEmpty <;> simp [hempty] <;> rfl

end LayoutStore

/-! ## Importing into an empty store -/

namespace LayoutStore

/-- An import of the text into `store` succeeds, and the layouts of `s` are loaded afterwards. -/
def RestoredIn [BlobStore σ] [BlobStore τ] (s : LayoutStore σ) (text : String) (store : τ) : Prop :=
  ∃ fps t, (LayoutStore.mk store false).importText text = (.ok fps, t) ∧
    ∀ fp, fp.text ≠ "" → (t.load fp).1 = (s.load fp).1

theorem saveAll_cons [BlobStore σ] {s : LayoutStore σ} {fp : Fingerprint} {l : SavedLayout}
    {store : σ} (h : BlobStore.save s.store fp.layoutKey l.toBlob = (.ok (), store))
    (entries : List (Fingerprint × SavedLayout)) :
    s.saveAll ((fp, l) :: entries) = saveAll { s with store } entries := by
  have hsave : s.save fp l = (.ok (), { s with store }) := by
    rw [SavedLayout.toBlob] at h
    rw [save, Documents.save, h]
    rfl
  rw [saveAll, hsave]

theorem Bundles.restoredIn_memory [BlobStore σ] {s : LayoutStore σ} {b : LayoutBundle}
    (h : s.Bundles b) : s.RestoredIn b.toJson.indented ({} : MemoryStore) := by
  obtain ⟨fps, m, himport, -, hentries⟩ := importText_indented (s := ⟨{}, false⟩) h.isFinite
    fun key l hkey => h.isSome_ofLayoutKey? hkey
  refine ⟨fps, _, himport, fun fp htext => ?_⟩
  rw [load_fst, layoutAt?_imported h.isFinite hentries, h.getElem?_layoutKey htext]
  simp [MemoryStore.layoutAt?]

end LayoutStore

namespace Directory

variable {keys : List String} {d : Directory} {m : MemoryStore} {p : KeyPath}

/-- What can be read has a name that the file system can hold. -/
theorem canHold_of_read {blob : Blob} (h : d.read p = .ok blob) : canHold p = true :=
  (obstacle?_eq_none_iff.1 (read_eq_ok_iff.1 h).1).1

theorem Mirrors.exists_saveAll (hm : Mirrors keys d m) (hkeys : Compatible keys)
    {entries : List (Fingerprint × SavedLayout)} (hentries : ∀ e ∈ entries, e.1.layoutKey ∈ keys)
    (seeded : Bool) : ∃ d' m', (LayoutStore.mk d seeded).saveAll entries = (.ok (), ⟨d', seeded⟩) ∧
      (LayoutStore.mk m seeded).saveAll entries = (.ok (), ⟨m', seeded⟩) ∧ Mirrors keys d' m' := by
  induction entries generalizing d m with
  | nil => exact ⟨d, m, rfl, rfl, hm⟩
  | cons entry entries ih =>
    obtain ⟨fp, l⟩ := entry
    rw [List.forall_mem_cons] at hentries
    obtain ⟨hanswer, hsaved⟩ := hm.answer hkeys (c := .save fp.layoutKey l.toBlob) fun key hkey => by
      cases hkey
      exact hentries.1
    have hsave : BlobStore.save d fp.layoutKey l.toBlob
        = (.ok (), (BlobStore.save d fp.layoutKey l.toBlob).2) :=
      Prod.ext (StoreAnswer.done.inj hanswer) rfl
    obtain ⟨d', m', hdirectory, hmemory, hm'⟩ := ih hsaved hentries.2
    refine ⟨d', m', ?_, ?_, hm'⟩
    · rw [LayoutStore.saveAll_cons hsave]
      exact hdirectory
    · rw [LayoutStore.saveAll_cons rfl]
      exact hmemory

/-- A layout is loaded from the directory as from the store in memory. -/
theorem Mirrors.fst_load (hm : Mirrors keys d m) (hkeys : Compatible keys) (seeded : Bool)
    (fp : Fingerprint) :
    ((LayoutStore.mk d seeded).load fp).1 = ((LayoutStore.mk m seeded).load fp).1 := by
  rw [LayoutStore.fst_load, LayoutStore.fst_load]
  by_cases hmem : fp.layoutKey ∈ keys
  · obtain ⟨hanswer, -⟩ := hm.answer hkeys (c := .load fp.layoutKey) fun key hkey => by
      cases hkey
      exact hmem
    rw [StoreAnswer.loaded.inj hanswer]
  · have hentry : m.entries[fp.layoutKey]? = none := by
      rw [← Option.not_isSome_iff_eq_none]
      exact fun h => hmem (hm.stored _ h)
    rw [MemoryStore.load_of_none hentry]
    cases hload : BlobStore.load d fp.layoutKey with
    | error cause => rfl
    | ok blob =>
      obtain ⟨p, hp, hfile⟩ := Option.bind_eq_some_iff.1 (FramedStore.blob?_of_load hload)
      rw [hm.file _ p hp, hentry] at hfile
      cases hfile

end Directory

namespace LayoutStore

variable {s : LayoutStore Directory} {b : LayoutBundle}

/-- The files of layouts that can be read do not get in each other's way. -/
theorem Bundles.compatible (h : s.Bundles b) : Directory.Compatible b.keys where
  place key hkey := by
    rw [Std.ExtTreeMap.mem_keys, Std.ExtTreeMap.mem_iff_isSome_getElem?] at hkey
    obtain ⟨l, hl⟩ := Option.isSome_iff_exists.1 hkey
    obtain ⟨fp, rfl, -, hload⟩ := h.exists_load hl
    rw [fst_load] at hload
    cases hp : KeyPath.ofKey? fp.layoutKey with
    | none =>
      simp only [BlobStore.load, hp] at hload
      cases hload
    | some p =>
      refine ⟨p, rfl, ?_⟩
      cases hread : s.store.read p with
      | error cause =>
        simp only [BlobStore.load, hp, hread] at hload
        cases hload
      | ok blob => exact Directory.canHold_of_read hread
  apart key hkey key' _ hshadows := by
    rw [Std.ExtTreeMap.mem_keys, Std.ExtTreeMap.mem_iff_isSome_getElem?] at hkey
    obtain ⟨l, hl⟩ := Option.isSome_iff_exists.1 hkey
    obtain ⟨fp, rfl, -, -⟩ := h.exists_load hl
    refine hshadows.1 ?_
    rw [Fingerprint.layoutKey_eq]
    simp

theorem Bundles.restoredIn_directory (h : s.Bundles b) :
    s.RestoredIn b.toJson.indented ({} : Directory) := by
  have hentries : ∀ e ∈ b.entries, e.1.layoutKey ∈ b.keys := by
    intro e he
    obtain ⟨⟨key, l⟩, hl, heq⟩ := List.mem_filterMap.1 he
    obtain ⟨fp, hfp, rfl⟩ := Option.map_eq_some_iff.1 heq
    rw [(Fingerprint.ofLayoutKey?_eq_some_iff.1 hfp).1, Std.ExtTreeMap.mem_keys,
      Std.ExtTreeMap.mem_iff_isSome_getElem?, Std.ExtTreeMap.mem_toList_iff_getElem?_eq_some.1 hl]
    rfl
  obtain ⟨d, m, hdirectory, hmemory, hmirrors⟩ :=
    (Directory.mirrors_empty b.keys).exists_saveAll h.compatible hentries false
  have hread := LayoutBundle.read?_indented h.isFinite
  obtain ⟨fps, t, himport, hloads⟩ := h.restoredIn_memory
  rw [importText_of_saveAll hread hmemory] at himport
  cases himport
  refine ⟨_, _, importText_of_saveAll hread hdirectory, fun fp htext => ?_⟩
  rw [hmirrors.fst_load h.compatible, hloads fp htext]

end LayoutStore

end Statescope
