-- SUMMARY: What a failed import leaves behind: nothing of a malformed bundle, and the entries before a refused one.
import Mathlib
import Statescope.Explorer.Gestures
import Statescope.Proofs.Store.Bundle
import Statescope.Store.Directory
import Statescope.Store.Unreliable

/-!
# Imports that fail

A bundle is read as a whole before anything is written, so a malformed one changes
nothing. Its entries are then saved one by one, in the order of their keys. The first
one that the store refuses ends the import, and nothing is taken back: what was saved
before stays. `LayoutStore.failed_import` says this for imports, for seeding, and for
imports into a diagram.
-/

namespace Statescope

/-! ## Stores with contents -/

/-- A store whose blobs are kept at places. A blob that is saved is put at the place of
its key, and one that is refused changes none. -/
class LawfulStore (σ : Type) [BlobStore σ] where
  contents : σ → Dict Blob
  place : String → String
  contents_of_ok {store store' : σ} {key : String} {blob : Blob}
    (h : BlobStore.save store key blob = (.ok (), store')) :
    contents store' = (contents store).insert (place key) blob
  contents_of_error {store store' : σ} {key : String} {blob : Blob} {cause : StoreError}
    (h : BlobStore.save store key blob = (.error cause, store')) : contents store' = contents store

instance : LawfulStore MemoryStore where
  contents := MemoryStore.entries
  place := id
  contents_of_ok h := by
    cases h
    rfl
  contents_of_error := nofun

namespace Directory

/-- A folder that is made is no file. -/
theorem files_makeFolder {d d' : Directory} {p : KeyPath} (h : d.makeFolder p = .ok d') :
    d'.files = d.files := by
  unfold makeFolder at h
  split at h
  · cases h
    rfl
  · split at h
    · cases h
    · split at h
      · cases h
      · cases h
        rfl

theorem files_write (d : Directory) (p : KeyPath) (blob : Blob) :
    (d.write p blob).2.files = match (d.write p blob).1 with
      | .ok () => d.files.insert p.file blob
      | .error _ => d.files := by
  unfold write
  cases hfolder : d.makeFolder p with
  | error e => rfl
  | ok d' =>
    simp only
    split
    · exact files_makeFolder hfolder
    · split
      · exact files_makeFolder hfolder
      · simp only [files_makeFolder hfolder]

instance : LawfulStore Directory where
  contents := files
  place key := (KeyPath.ofKey? key).elim key KeyPath.file
  contents_of_ok {d d' key blob} h := by
    change (match KeyPath.ofKey? key with
      | some p => d.write p blob
      | none => (.error (unsupported key), d)) = _ at h
    cases hkey : KeyPath.ofKey? key with
    | none => simp [hkey] at h
    | some p =>
      have hwrite : d.write p blob = (.ok (), d') := by simpa [hkey] using h
      have hfiles := d.files_write p blob
      rwa [hwrite] at hfiles
  contents_of_error {d d' key blob cause} h := by
    change (match KeyPath.ofKey? key with
      | some p => d.write p blob
      | none => (.error (unsupported key), d)) = _ at h
    cases hkey : KeyPath.ofKey? key with
    | none =>
      rw [hkey] at h
      cases h
      rfl
    | some p =>
      have hwrite : d.write p blob = (.error cause, d') := by simpa [hkey] using h
      have hfiles := d.files_write p blob
      rwa [hwrite] at hfiles

end Directory

namespace UnreliableStore

variable [BlobStore σ] {s s' : UnreliableStore σ} {key : String} {blob : Blob}

theorem save_eq_ok (h : BlobStore.save s key blob = (.ok (), s')) :
    BlobStore.save s.store key blob = (.ok (), s'.store) := by
  change (if .save ∈ s.failing then (.error (failure .save), s)
    else ((BlobStore.save s.store key blob).1, { s with store := (BlobStore.save s.store key blob).2 })) = _ at h
  split at h
  · cases h
  · obtain ⟨hresult, rfl⟩ := Prod.mk.inj h
    exact Prod.ext hresult rfl

/-- Either the operation is out of order, or the store inside has refused. -/
theorem save_eq_error {cause : StoreError} (h : BlobStore.save s key blob = (.error cause, s')) :
    s' = s ∨ BlobStore.save s.store key blob = (.error cause, s'.store) ∧ s'.failing = s.failing := by
  change (if .save ∈ s.failing then (.error (failure .save), s)
    else ((BlobStore.save s.store key blob).1, { s with store := (BlobStore.save s.store key blob).2 })) = _ at h
  split at h
  · cases h
    exact .inl rfl
  · obtain ⟨hresult, rfl⟩ := Prod.mk.inj h
    exact .inr ⟨Prod.ext hresult rfl, rfl⟩

end UnreliableStore

instance [BlobStore σ] [LawfulStore σ] : LawfulStore (UnreliableStore σ) where
  contents s := LawfulStore.contents s.store
  place := LawfulStore.place σ
  contents_of_ok h := LawfulStore.contents_of_ok (UnreliableStore.save_eq_ok h)
  contents_of_error h := by
    rcases UnreliableStore.save_eq_error h with rfl | ⟨hrefused, -⟩
    · rfl
    · exact LawfulStore.contents_of_error hrefused

namespace LayoutStore

variable [BlobStore σ]

/-! ## Listing -/

/-- A store without layouts lists no key of one. -/
theorem exists_keys_of_size {s : LayoutStore σ} (h : s.size = .ok 0) :
    ∃ keys, BlobStore.keys s.store = .ok keys ∧
      ∀ key, Fingerprint.isLayoutKey key = true → key ∉ keys := by
  rw [size, Documents.keysFrom] at h
  cases hkeys : BlobStore.keys s.store with
  | error cause => simp [hkeys, Except.map, Except.mapError] at h
  | ok keys =>
    rw [hkeys] at h
    have hnone := List.length_eq_zero_iff.1 (Except.ok.inj h)
    exact ⟨keys, rfl, fun key hkey hmem => List.filter_eq_nil_iff.1 hnone key hmem hkey⟩

/-! ## Saving one by one -/

theorem save_eq_error {s t : LayoutStore σ} {fp : Fingerprint} {l : SavedLayout} {e : LayoutError}
    (h : s.save fp l = (.error e, t)) :
    ∃ cause, e = .store cause ∧ BlobStore.save s.store fp.layoutKey l.toBlob = (.error cause, t.store) ∧
      t.seedAttempted = s.seedAttempted := by
  unfold save Documents.save at h
  cases hsave : BlobStore.save s.store fp.layoutKey (Blob.ofText l.toJson.indented) with
  | mk r store =>
    rw [hsave] at h
    cases r with
    | ok _ => cases h
    | error cause =>
      cases h
      exact ⟨cause, rfl, hsave, rfl⟩

theorem save_eq_ok {s t : LayoutStore σ} {fp : Fingerprint} {l : SavedLayout}
    (h : s.save fp l = (.ok (), t)) :
    BlobStore.save s.store fp.layoutKey l.toBlob = (.ok (), t.store) ∧
      t.seedAttempted = s.seedAttempted := by
  unfold save Documents.save at h
  cases hsave : BlobStore.save s.store fp.layoutKey (Blob.ofText l.toJson.indented) with
  | mk r store =>
    rw [hsave] at h
    cases r with
    | ok _ =>
      cases h
      exact ⟨hsave, rfl⟩
    | error cause => cases h

/-- If not all layouts are saved, those before some layout are, and that one is refused. -/
theorem exists_refused_of_saveAll {entries : List (Fingerprint × SavedLayout)} {s t : LayoutStore σ}
    {e : LayoutError} (h : s.saveAll entries = (.error e, t)) :
    ∃ before fp l after stored, entries = before ++ (fp, l) :: after ∧
      s.saveAll before = (.ok (), stored) ∧ stored.save fp l = (.error e, t) := by
  induction entries generalizing s with
  | nil => cases h
  | cons entry entries ih =>
    obtain ⟨fp, l⟩ := entry
    rw [saveAll] at h
    cases hsave : s.save fp l with
    | mk r s' =>
      rw [hsave] at h
      cases r with
      | error e' =>
        cases h
        exact ⟨[], fp, l, entries, s, rfl, rfl, hsave⟩
      | ok _ =>
        obtain ⟨before, fp', l', after, stored, hentries, hbefore, hrefused⟩ := ih h
        refine ⟨(fp, l) :: before, fp', l', after, stored, by rw [hentries]; rfl, ?_, hrefused⟩
        rw [saveAll, hsave]
        exact hbefore

variable [LawfulStore σ]

/-- The contents of a store after some layouts have been saved. -/
def written (contents : Dict Blob) (entries : List (Fingerprint × SavedLayout)) : Dict Blob :=
  entries.foldl (fun d (fp, l) => d.insert (LawfulStore.place σ fp.layoutKey) l.toBlob) contents

theorem contents_of_saveAll {entries : List (Fingerprint × SavedLayout)} {s t : LayoutStore σ}
    (h : s.saveAll entries = (.ok (), t)) :
    LawfulStore.contents t.store = written (σ := σ) (LawfulStore.contents s.store) entries := by
  induction entries generalizing s with
  | nil =>
    cases h
    rfl
  | cons entry entries ih =>
    obtain ⟨fp, l⟩ := entry
    rw [saveAll] at h
    cases hsave : s.save fp l with
    | mk r s' =>
      rw [hsave] at h
      cases r with
      | error e => cases h
      | ok _ =>
        rw [ih h, LawfulStore.contents_of_ok (save_eq_ok hsave).1]
        rfl

/-! ## Imports -/

/-- An import of a bundle that the store has ended by refusing one of the layouts: the
layouts before it are saved, and the contents are otherwise as they were. -/
structure Interrupted (s : LayoutStore σ) (text : String) (cause : StoreError) (t : LayoutStore σ) :
    Prop where
  exists_refused : ∃ before fp l after stored,
    LayoutBundle.read? text = some (before ++ (fp, l) :: after) ∧
    s.saveAll before = (.ok (), stored) ∧ stored.save fp l = (.error (.store cause), t) ∧
    LawfulStore.contents t.store = written (σ := σ) (LawfulStore.contents s.store) before

theorem importText_error {s t : LayoutStore σ} {text : String} {e : LayoutError}
    (h : s.importText text = (.error e, t)) :
    (e = .malformed text ∧ LayoutBundle.read? text = none ∧ t = s) ∨
      ∃ cause, e = .store cause ∧ s.Interrupted text cause t := by
  unfold importText at h
  cases hread : LayoutBundle.read? text with
  | none =>
    rw [hread] at h
    cases h
    exact .inl ⟨rfl, rfl, rfl⟩
  | some entries =>
    rw [hread] at h
    cases hsave : s.saveAll entries with
    | mk r s' =>
      simp only [hsave] at h
      cases r with
      | ok _ => cases h
      | error e' =>
        cases h
        obtain ⟨before, fp, l, after, stored, rfl, hbefore, hrefused⟩ := exists_refused_of_saveAll hsave
        obtain ⟨cause, rfl, hrefuse, -⟩ := save_eq_error hrefused
        refine .inr ⟨cause, rfl, ⟨before, fp, l, after, stored, hread, hbefore, hrefused, ?_⟩⟩
        rw [LawfulStore.contents_of_error hrefuse, contents_of_saveAll hbefore]

omit [LawfulStore σ] in
/-- An import that succeeds has read the bundle and saved its layouts. -/
theorem exists_saveAll_of_importText {s t : LayoutStore σ} {text : String} {fps : List Fingerprint}
    (h : s.importText text = (.ok fps, t)) :
    ∃ entries, LayoutBundle.read? text = some entries ∧ fps = entries.map (·.1) ∧
      s.saveAll entries = (.ok (), t) := by
  unfold importText at h
  cases hread : LayoutBundle.read? text with
  | none => simp [hread] at h
  | some entries =>
    cases hsave : s.saveAll entries with
    | mk result t' =>
      simp only [hread, hsave] at h
      cases result with
      | error e => cases h
      | ok _ =>
        cases h
        exact ⟨entries, rfl, rfl, hsave⟩

omit [LawfulStore σ] in
/-- An import of no layouts at all changes nothing. -/
theorem importText_nil {s t : LayoutStore σ} {text : String}
    (h : s.importText text = (.ok [], t)) : t = s := by
  obtain ⟨entries, -, hfps, hsave⟩ := exists_saveAll_of_importText h
  cases List.map_eq_nil_iff.1 hfps.symm
  cases hsave
  rfl

theorem seed_eq_zero {s t : LayoutStore σ} {file : Option Blob} (h : s.seed file = (0, t)) :
    t.store = s.store ∨ ∃ text cause, file >>= Blob.text? = some text ∧
      { s with seedAttempted := true }.Interrupted text cause t := by
  unfold seed at h
  split at h
  · cases h
    exact .inl rfl
  · simp only at h
    split at h
    · rename_i text _ htext
      cases himport : importText { s with seedAttempted := true } text with
      | mk r t' =>
        rw [himport] at h
        cases r with
        | ok fps =>
          simp only [Prod.mk.injEq, List.length_eq_zero_iff] at h
          obtain ⟨rfl, rfl⟩ := h
          rw [importText_nil himport]
          exact .inl rfl
        | error e =>
          cases h
          rcases importText_error himport with ⟨-, -, rfl⟩ | ⟨cause, -, hinterrupted⟩
          · exact .inl rfl
          · exact .inr ⟨text, cause, htext, hinterrupted⟩
    · cases h
      exact .inl rfl

theorem importLayouts_eq_none {e : Explorer σ} {container text : String}
    (h : (e.importLayouts container text).1 = none) :
    (e.importLayouts container text).2.store = e.store ∨
      ∃ cause, e.store.Interrupted text cause (e.importLayouts container text).2.store := by
  unfold Explorer.importLayouts at h ⊢
  cases hd : e.diagrams[container]? with
  | none => exact .inl rfl
  | some d =>
    cases himport : e.store.importText text with
    | mk r t =>
      simp only [hd, himport] at h
      cases r with
      | ok fps => cases h
      | error cause =>
        rcases importText_error himport with ⟨-, -, rfl⟩ | ⟨cause, -, hinterrupted⟩
        · exact .inl rfl
        · exact .inr ⟨cause, hinterrupted⟩

/-- An import that fails because the bundle is malformed changes nothing. One that fails
because the store refuses a layout has saved the layouts before it, in the order of their
keys, and has changed nothing else. The same is true of seeding that brings no layout, and
of an import into a container that gives no number. -/
theorem failed_import :
    (∀ (s t : LayoutStore σ) text e, s.importText text = (.error e, t) →
      (e = .malformed text ∧ LayoutBundle.read? text = none ∧ t = s) ∨
        ∃ cause, e = .store cause ∧ s.Interrupted text cause t) ∧
    (∀ (s t : LayoutStore σ) file, s.seed file = (0, t) →
      t.store = s.store ∨ ∃ text cause, file >>= Blob.text? = some text ∧
        { s with seedAttempted := true }.Interrupted text cause t) ∧
    (∀ (e : Explorer σ) container text, (e.importLayouts container text).1 = none →
      (e.importLayouts container text).2.store = e.store ∨
        ∃ cause, e.store.Interrupted text cause (e.importLayouts container text).2.store) :=
  ⟨fun _ _ _ _ => importText_error, fun _ _ _ => seed_eq_zero, fun _ _ _ => importLayouts_eq_none⟩

/-- A layout is refused whose key has a separator, and the one before it stays. -/
theorem importText_of_separator :
    let text := "\x7b\"layout:a\":\x7b\x7d,\"layout:b/c\":\x7b\x7d\x7d"
    let s : LayoutStore Directory := ⟨{}, false⟩
    (s.importText text).1 = .error (.store (Directory.unsupported "layout:b/c")) ∧
      BlobStore.keys s.store = .ok [] ∧
      BlobStore.keys (s.importText text).2.store = .ok ["layout:a"] := by
  decide +kernel

theorem failed_import_of_separator :
    let text := "\x7b\"layout:a\":\x7b\x7d,\"layout:b/c\":\x7b\x7d\x7d"
    let s : LayoutStore Directory := ⟨{}, false⟩
    let t : LayoutStore Directory :=
      ⟨⟨Dict.ofPairs [("layout/a.json", Blob.ofText "\x7b\x7d")], .ofTexts ["layout"]⟩, false⟩
    s.importText text = (.error (.store (Directory.unsupported "layout:b/c")), t) ∧
      s.Interrupted text (Directory.unsupported "layout:b/c") t := by
  intro text s t
  have himport : s.importText text = (.error (.store (Directory.unsupported "layout:b/c")), t) := by
    decide +kernel
  refine ⟨himport, ?_⟩
  rcases failed_import.1 s t text _ himport with ⟨hmalformed, -⟩ | ⟨cause, hcause, hinterrupted⟩
  · cases hmalformed
  · cases hcause
    exact hinterrupted

end LayoutStore

end Statescope
