-- SUMMARY: Which entries of a store the operations on layouts can change, and when seeding reads its file.
import Mathlib
import Statescope.Proofs.Store.Framed

/-!
# Entries and layouts

Loading and exporting discard what is corrupt and change nothing else. Saving and importing
write layouts under the keys of their fingerprints. Seeding is an import into a store without
layouts, and is tried once.
-/

namespace Statescope.LayoutStore

variable [BlobStore σ]

/-! ## Step by step -/

section Steps

variable {motive : LayoutStore σ → Prop} {s : LayoutStore σ}

/-- What each save keeps is kept by many, whether or not one of them is refused. -/
theorem saveAll_induction {entries : List (Fingerprint × SavedLayout)} (hs : motive s)
    (hsave : ∀ t fp l, (fp, l) ∈ entries → motive t → motive (t.save fp l).2) :
    motive (s.saveAll entries).2 := by
  induction entries generalizing s with
  | nil => exact hs
  | cons entry entries ih =>
    obtain ⟨fp, l⟩ := entry
    have hfirst := hsave s fp l List.mem_cons_self hs
    rw [saveAll]
    split <;> (rename_i hresult; rw [hresult] at hfirst)
    · exact hfirst
    · exact ih hfirst fun t fp l hmem => hsave t fp l (List.mem_cons_of_mem _ hmem)

/-- What each load keeps, an export keeps. -/
theorem exportText_induction (hs : motive s) (hload : ∀ t key fp,
      Fingerprint.ofLayoutKey? key = some fp → motive t → motive (t.load fp).2) :
    motive s.exportText.2 := by
  simp only [exportText, exportAll]
  split
  · exact hs
  · rename_i keys _
    refine List.foldlRecOn (motive := fun acc : LayoutBundle × LayoutStore σ => motive acc.2)
      keys collect hs fun acc hacc key _ => ?_
    unfold collect
    split
    · exact hacc
    · rename_i fp hkey
      exact hload acc.2 key fp hkey hacc

/-- A seeding notes the attempt and imports at most. -/
theorem seed_induction (file : Option Blob) (hs : motive { s with seedAttempted := true })
    (himport : ∀ text, motive (importText { s with seedAttempted := true } text).2) :
    motive (s.seed file).2 := by
  unfold seed
  split
  · rename_i hattempted
    cases s
    cases hattempted
    exact hs
  · simp only
    split
    · rename_i text _ _
      have htext := himport text
      split <;> (rename_i hresult; rwa [hresult] at htext)
    · exact hs

end Steps

/-! ## Seeding once -/

/-- Whether seeding would read the file. -/
def awaitsSeed (s : LayoutStore σ) : Bool := !s.seedAttempted && s.size matches .ok 0

theorem awaitsSeed_eq_true_iff {s : LayoutStore σ} :
    s.awaitsSeed = true ↔ s.seedAttempted = false ∧ s.size = .ok 0 := by
  rw [awaitsSeed, Bool.and_eq_true, Bool.not_eq_true']
  refine and_congr_right fun _ => ?_
  split <;> simp_all

/-- A seeding that does not read the file is only noted. -/
theorem seed_of_not_awaitsSeed {s : LayoutStore σ} (h : s.awaitsSeed = false) (file : Option Blob) :
    s.seed file = (0, { s with seedAttempted := true }) := by
  rw [← Bool.not_eq_true, awaitsSeed_eq_true_iff] at h
  unfold seed
  split
  · rename_i hattempted
    cases s
    cases hattempted
    rfl
  · rename_i hattempted
    simp only
    split
    · rename_i hsize _
      exact absurd ⟨Bool.eq_false_iff.2 hattempted, hsize⟩ h
    · rfl

@[simp] theorem seedAttempted_save (s : LayoutStore σ) (fp : Fingerprint) (l : SavedLayout) :
    (s.save fp l).2.seedAttempted = s.seedAttempted := rfl

@[simp] theorem seedAttempted_load (s : LayoutStore σ) (fp : Fingerprint) :
    (s.load fp).2.seedAttempted = s.seedAttempted := by
  unfold load
  split <;> rfl

@[simp] theorem seedAttempted_saveAll (s : LayoutStore σ)
    (entries : List (Fingerprint × SavedLayout)) :
    (s.saveAll entries).2.seedAttempted = s.seedAttempted :=
  saveAll_induction (motive := fun t => t.seedAttempted = s.seedAttempted) rfl
    fun t fp l _ ht => (seedAttempted_save t fp l).trans ht

@[simp] theorem seedAttempted_importText (s : LayoutStore σ) (text : String) :
    (s.importText text).2.seedAttempted = s.seedAttempted := by
  unfold importText
  split
  · rfl
  · exact seedAttempted_saveAll s _

@[simp] theorem seedAttempted_seed (s : LayoutStore σ) (file : Option Blob) :
    (s.seed file).2.seedAttempted = true :=
  seed_induction (motive := fun t => t.seedAttempted = true) file rfl
    fun text => seedAttempted_importText { s with seedAttempted := true } text

@[simp] theorem seedAttempted_exportText (s : LayoutStore σ) :
    s.exportText.2.seedAttempted = s.seedAttempted :=
  exportText_induction (motive := fun t => t.seedAttempted = s.seedAttempted) rfl
    fun t _ fp _ ht => (seedAttempted_load t fp).trans ht

/-! ## Entries -/

variable [FramedStore σ] {s t u : LayoutStore σ} {key : String} {fp : Fingerprint}

/-- What the store holds under a key. -/
def blob? (s : LayoutStore σ) (key : String) : Option Blob := FramedStore.blob? s.store key

/-- At most corrupt entries under some of the keys have been discarded. -/
def Prunes (keys : String → Prop) (s t : LayoutStore σ) : Prop :=
  ∀ key, t.blob? key = s.blob? key ∨
    keys key ∧ (∃ blob, s.blob? key = some blob ∧ SavedLayout.isCorrupt blob = true) ∧
      t.blob? key = none

theorem Prunes.of_eq {keys : String → Prop} (h : t = s) : Prunes keys s t := fun _ => .inl (h ▸ rfl)

theorem Prunes.mono {keys keys' : String → Prop} (h : Prunes keys s t)
    (hkeys : ∀ key, keys key → keys' key) : Prunes keys' s t :=
  fun key => (h key).imp_right fun ⟨hkey, hgone⟩ => ⟨hkeys key hkey, hgone⟩

theorem Prunes.trans {keys : String → Prop} (h : Prunes keys s t) (h' : Prunes keys t u) :
    Prunes keys s u := by
  intro key
  rcases h' key with hkept | ⟨hkey, ⟨blob, hblob, hcorrupt⟩, hgone⟩
  · rw [hkept]
    exact h key
  · rcases h key with hkept | ⟨-, -, hgone'⟩
    · exact .inr ⟨hkey, ⟨blob, hkept ▸ hblob, hcorrupt⟩, hgone⟩
    · rw [hgone'] at hblob
      cases hblob

/-- An entry that is no corrupt layout stays. -/
theorem Prunes.blob?_eq {keys : String → Prop} (h : Prunes keys s t)
    (hsound : ∀ key blob, keys key → s.blob? key = some blob → SavedLayout.isCorrupt blob = false)
    (key : String) : t.blob? key = s.blob? key := by
  rcases h key with hkept | ⟨hkey, ⟨blob, hblob, hcorrupt⟩, -⟩
  · exact hkept
  · rw [hsound key blob hkey hblob] at hcorrupt
    cases hcorrupt

/-! ## Loading and exporting -/

/-- Loading can discard the entry that it is for, and only if that is corrupt. -/
theorem prunes_load (s : LayoutStore σ) (fp : Fingerprint) :
    Prunes (· = fp.layoutKey) s (s.load fp).2 := by
  unfold load Documents.load
  cases hload : BlobStore.load s.store fp.layoutKey with
  | error cause =>
    cases cause with
    | notFound | io | other => exact .of_eq rfl
    | undecodable source =>
      exact absurd hload (FramedStore.load_ne_undecodable s.store fp.layoutKey source)
  | ok blob =>
    simp only
    cases hempty : blob.isEmpty with
    | true => exact .of_eq rfl
    | false =>
      cases hread : SavedLayout.decoder.read? blob.source with
      | some l => exact .of_eq rfl
      | none =>
        intro key
        rcases FramedStore.blob?_remove s.store fp.layoutKey key with hkept | ⟨rfl, hgone⟩
        · exact .inl hkept
        · have hcorrupt : SavedLayout.isCorrupt blob = true := by
            rw [SavedLayout.isCorrupt, hempty, hread]
            rfl
          exact .inr ⟨rfl, ⟨blob, FramedStore.blob?_of_load hload, hcorrupt⟩, hgone⟩

/-- Exporting can discard the entries that it collects, as far as they are corrupt. -/
theorem prunes_exportText (s : LayoutStore σ) :
    Prunes (fun key => (Fingerprint.ofLayoutKey? key).isSome = true) s s.exportText.2 := by
  refine exportText_induction (.of_eq rfl) fun t key fp hkey ht => ht.trans ((prunes_load t fp).mono ?_)
  rintro _ rfl
  rw [(Fingerprint.ofLayoutKey?_eq_some_iff.1 hkey).1, hkey]
  rfl

/-! ## Saving and importing -/

/-- At most entries of the layouts have been written, under the keys of their fingerprints. -/
def Saves (entries : List (Fingerprint × SavedLayout)) (s t : LayoutStore σ) : Prop :=
  ∀ key, t.blob? key = s.blob? key ∨
    ∃ fp l, (fp, l) ∈ entries ∧ key = fp.layoutKey ∧ t.blob? key = some l.toBlob

theorem saves_save (s : LayoutStore σ) (fp : Fingerprint) (l : SavedLayout) :
    Saves [(fp, l)] s (s.save fp l).2 := by
  intro key
  cases hsave : s.save fp l with
  | mk result t =>
    cases result with
    | error cause =>
      obtain ⟨_, -, hrefused, -⟩ := save_eq_error hsave
      exact .inl (FramedStore.blob?_of_refused hrefused key)
    | ok _ =>
      have hentry := FramedStore.blob?_of_saved (save_eq_ok hsave).1 key
      by_cases hkey : key = fp.layoutKey
      · rw [if_pos hkey] at hentry
        exact .inr ⟨fp, l, List.mem_cons_self, hkey, hentry⟩
      · rw [if_neg hkey] at hentry
        exact .inl hentry

theorem Saves.trans {entries entries' : List (Fingerprint × SavedLayout)} (h : Saves entries s t)
    (h' : Saves entries' t u) : Saves (entries ++ entries') s u := by
  intro key
  rcases h' key with hkept | ⟨fp, l, hmem, hkey, hentry⟩
  · rw [hkept]
    refine (h key).imp_right fun ⟨fp, l, hmem, hsaved⟩ => ?_
    exact ⟨fp, l, List.mem_append_left _ hmem, hsaved⟩
  · exact .inr ⟨fp, l, List.mem_append_right _ hmem, hkey, hentry⟩

theorem Saves.mono {entries entries' : List (Fingerprint × SavedLayout)} (h : Saves entries s t)
    (hentries : entries ⊆ entries') : Saves entries' s t :=
  fun key => (h key).imp_right fun ⟨fp, l, hmem, hsaved⟩ => ⟨fp, l, hentries hmem, hsaved⟩

theorem saves_saveAll (entries : List (Fingerprint × SavedLayout)) (s : LayoutStore σ) :
    Saves entries s (s.saveAll entries).2 := by
  refine saveAll_induction (fun key => .inl rfl) fun t fp l hmem ht => ?_
  refine (ht.trans (saves_save t fp l)).mono (List.append_subset.2 ⟨List.Subset.refl _, ?_⟩)
  exact List.cons_subset.2 ⟨hmem, List.nil_subset _⟩

/-- After all layouts have been saved, the entry of each of them is there. -/
theorem blob?_saveAll_of_mem {entries : List (Fingerprint × SavedLayout)}
    (h : s.saveAll entries = (.ok (), t)) {fp : Fingerprint} {l : SavedLayout}
    (hmem : (fp, l) ∈ entries) :
    ∃ l', (fp, l') ∈ entries ∧ t.blob? fp.layoutKey = some l'.toBlob := by
  induction entries generalizing s l with
  | nil => cases hmem
  | cons entry entries ih =>
    obtain ⟨fp', l'⟩ := entry
    rw [saveAll] at h
    split at h
    · cases h
    · rename_i s' hsave
      rcases List.mem_cons.1 hmem with heq | hmem
      · cases heq
        have hrest := saves_saveAll entries s'
        rw [h] at hrest
        rcases hrest fp.layoutKey with hkept | ⟨fp'', l'', hmem, hkey, hentry⟩
        · refine ⟨l, List.mem_cons_self, hkept.trans ?_⟩
          exact (FramedStore.blob?_of_saved (save_eq_ok hsave).1 _).trans (if_pos rfl)
        · cases Fingerprint.layoutKey_injective hkey
          exact ⟨l'', List.mem_cons_of_mem _ hmem, hentry⟩
      · obtain ⟨l'', hmem, hentry⟩ := ih h hmem
        exact ⟨l'', List.mem_cons_of_mem _ hmem, hentry⟩

/-- An import writes layouts of the bundle. -/
theorem exists_of_blob?_importText (s : LayoutStore σ) (text key : String) :
    (s.importText text).2.blob? key = s.blob? key ∨
      ∃ entries fp l, LayoutBundle.read? text = some entries ∧ (fp, l) ∈ entries ∧
        key = fp.layoutKey ∧ (s.importText text).2.blob? key = some l.toBlob := by
  unfold importText
  cases hread : LayoutBundle.read? text with
  | none => exact .inl rfl
  | some entries =>
    refine (saves_saveAll entries s key).imp_right ?_
    rintro ⟨fp, l, hmem, hkey, hentry⟩
    exact ⟨entries, fp, l, rfl, hmem, hkey, hentry⟩

/-! ## Seeding -/

/-- A store without any key of a layout has no entry under one. -/
theorem blob?_eq_none_of_size (h : s.size = .ok 0) (hkey : Fingerprint.isLayoutKey key = true) :
    s.blob? key = none := by
  obtain ⟨keys, hkeys, hnone⟩ := exists_keys_of_size h
  rw [← Option.not_isSome_iff_eq_none]
  exact fun hblob => hnone key hkey (FramedStore.mem_keys hkeys hblob)

/-- Seeding writes layouts of the file, if it reads it, and where there was no entry. -/
theorem exists_of_blob?_seed (s : LayoutStore σ) (file : Option Blob) (key : String) :
    (s.seed file).2.blob? key = s.blob? key ∨
      s.awaitsSeed = true ∧ ∃ text entries fp l, file >>= Blob.text? = some text ∧
        LayoutBundle.read? text = some entries ∧ (fp, l) ∈ entries ∧ key = fp.layoutKey ∧
        s.blob? key = none ∧ (s.seed file).2.blob? key = some l.toBlob := by
  cases hawaits : s.awaitsSeed with
  | false =>
    rw [seed_of_not_awaitsSeed hawaits]
    exact .inl rfl
  | true =>
    obtain ⟨hattempted, hsize⟩ := awaitsSeed_eq_true_iff.1 hawaits
    have hsize' : size { s with seedAttempted := true } = .ok 0 := hsize
    cases htext : file >>= Blob.text? with
    | none =>
      left
      simp only [seed, hattempted, hsize', htext]
      rfl
    | some text =>
      have hseed : (s.seed file).2 = (importText { s with seedAttempted := true } text).2 := by
        simp only [seed, hattempted, hsize', htext, Bool.false_eq_true, if_false]
        split <;> (rename_i himport; rw [himport])
      rw [hseed]
      refine (exists_of_blob?_importText { s with seedAttempted := true } text key).imp_right ?_
      rintro ⟨entries, fp, l, hread, hmem, rfl, hentry⟩
      exact ⟨rfl, text, entries, fp, l, rfl, hread, hmem, rfl,
        blob?_eq_none_of_size hsize fp.isPrefixOf_layoutKey, hentry⟩

end Statescope.LayoutStore
