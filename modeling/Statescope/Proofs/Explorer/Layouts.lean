-- SUMMARY: What the explorer does to the layouts in a store of its own: none is lost but by a drag that saves what is not finite.
import Mathlib
import Statescope.Proofs.Explorer.StoreChanges
import Statescope.Proofs.Store.Members
import Statescope.Proofs.Store.Memory

/-!
# Layouts in the hands of the explorer

The explorer writes to its store when it seeds and imports layouts and when a node is
dragged, and it removes what it cannot read. Everything that it imports is finite and can
be read again. What is dragged need not be: a layout with a coordinate that is infinite or
no number is stored all the same, takes the place of the one before, and counts as corrupt
from then on.
-/

namespace Statescope

/-! ## Careful changes of a store -/

namespace MemoryStore

/-- What happens to one entry when only layouts that are finite are saved, under the keys
of their fingerprints, and only what is no layout is removed. -/
inductive CarefulAt (key : String) : Option Blob → Option Blob → Prop where
  | kept {entry : Option Blob} : CarefulAt key entry entry
  | discarded {blob : Blob} (hcorrupt : SavedLayout.isCorrupt blob = true) : CarefulAt key (some blob) none
  | saved {entry : Option Blob} {fp : Fingerprint} {l : SavedLayout} (hkey : fp.layoutKey = key)
    (hfinite : l.IsFinite) : CarefulAt key entry (some l.toBlob)

theorem CarefulAt.trans {key : String} {entry entry' entry'' : Option Blob}
    (h : CarefulAt key entry entry') (h' : CarefulAt key entry' entry'') :
    CarefulAt key entry entry'' := by
  cases h' with
  | kept => exact h
  | saved hkey hfinite => exact .saved hkey hfinite
  | discarded hcorrupt =>
    cases h with
    | kept => exact .discarded hcorrupt
    | saved hkey hfinite =>
      -- What has been saved is not corrupt.
      have hread := hfinite.ofBlob?_toBlob
      rw [SavedLayout.isCorrupt, Bool.and_eq_true, Option.isNone_iff_eq_none] at hcorrupt
      rw [SavedLayout.ofBlob?, hcorrupt.2, ite_self] at hread
      cases hread

/-- Where there was a layout, there is one. -/
theorem CarefulAt.isSome_layout {key : String} {entry entry' : Option Blob}
    (h : CarefulAt key entry entry') (hsome : (entry.bind SavedLayout.ofBlob?).isSome = true) :
    (entry'.bind SavedLayout.ofBlob?).isSome = true := by
  cases h with
  | kept => exact hsome
  | saved _ hfinite => simp [hfinite.ofBlob?_toBlob]
  | discarded hcorrupt =>
    rw [SavedLayout.isCorrupt, Bool.and_eq_true, Option.isNone_iff_eq_none] at hcorrupt
    simp [SavedLayout.ofBlob?, hcorrupt.2] at hsome

def Careful (m m' : MemoryStore) : Prop :=
  ∀ key : String, CarefulAt key m.entries[key]? m'.entries[key]?

theorem Careful.refl (m : MemoryStore) : Careful m m := fun _ => .kept

theorem Careful.trans {m m' m'' : MemoryStore} (h : Careful m m') (h' : Careful m' m'') :
    Careful m m'' := fun key => (h key).trans (h' key)

theorem careful_insert (m : MemoryStore) (fp : Fingerprint) {l : SavedLayout} (h : l.IsFinite) :
    Careful m ⟨m.entries.insert fp.layoutKey l.toBlob⟩ := by
  intro key
  by_cases hkey : fp.layoutKey = key
  · subst hkey
    rw [Dict.getElem?_insert_self]
    exact .saved rfl h
  · rw [Dict.getElem?_insert_of_ne _ hkey]
    exact .kept

theorem careful_pruned (m : MemoryStore) : Careful m m.pruned := by
  intro key
  rw [getElem?_pruned]
  cases m.entries[key]? with
  | none => exact .kept
  | some b =>
    by_cases hcorrupt : ((Fingerprint.ofLayoutKey? key).isSome && SavedLayout.isCorrupt b) = true
    · rw [Option.filter_some, hcorrupt]
      exact .discarded (Bool.and_eq_true _ _ ▸ hcorrupt).2
    · rw [Bool.not_eq_true] at hcorrupt
      rw [Option.filter_some, hcorrupt]
      exact .kept

end MemoryStore

open MemoryStore

/-! ## Operations on layouts -/

namespace LayoutStore

variable (s : LayoutStore MemoryStore)

theorem careful_load (fp : Fingerprint) : Careful s.store (s.load fp).2.store := by
  intro key
  rw [load_eq, getElem?_discard]
  split
  · rename_i hkey
    obtain ⟨rfl, hcorrupt⟩ := hkey
    rw [corruptAt, Option.any_eq_true] at hcorrupt
    obtain ⟨b, hb, hcorrupt⟩ := hcorrupt
    rw [hb]
    exact .discarded hcorrupt
  · exact .kept

theorem careful_saveAll {entries : List (Fingerprint × SavedLayout)}
    (h : ∀ entry ∈ entries, SavedLayout.IsFinite entry.2) (s : LayoutStore MemoryStore) :
    Careful s.store (s.saveAll entries).2.store :=
  saveAll_induction (motive := fun t => Careful s.store t.store) (.refl _)
    fun t fp _ hmem ht => ht.trans (careful_insert t.store fp (h _ hmem))

/-- Every layout that is read from a bundle is finite. -/
theorem isFinite_of_read? {text : String} {entries : List (Fingerprint × SavedLayout)}
    (h : LayoutBundle.read? text = some entries) : ∀ entry ∈ entries, SavedLayout.IsFinite entry.2 := by
  obtain ⟨_, -, -, hentries, -⟩ := LayoutBundle.exists_members_of_read? h
  exact fun entry hmem => ((hentries entry.1 entry.2).1 hmem).isFinite

theorem careful_importText (text : String) : Careful s.store (s.importText text).2.store := by
  unfold importText
  cases hread : LayoutBundle.read? text with
  | none => exact .refl _
  | some entries => exact careful_saveAll (isFinite_of_read? hread) s

theorem careful_seed (file : Option Blob) : Careful s.store (s.seed file).2.store :=
  seed_induction (motive := fun t => Careful s.store t.store) file (.refl _)
    fun text => careful_importText { s with seedAttempted := true } text

theorem careful_exportText : Careful s.store s.exportText.2.store := by
  rw [exportText_eq]
  exact careful_pruned _

end LayoutStore

namespace Explorer

/-! ## All commands -/

variable (e : Explorer MemoryStore)

theorem careful_seedLayouts : Careful e.store.store e.seedLayouts.store.store := by
  unfold seedLayouts
  split
  · exact e.store.careful_seed _
  · exact .refl _

/-- A command is careful with the store, unless it saves a layout that is not finite. -/
theorem careful_perform {c : Command} (h : ∀ fp l, e.dragged? c = some (fp, l) → l.IsFinite) :
    Careful e.store.store (e.perform c).2.store.store := by
  have hchange := e.storeChange_perform c
  generalize (e.perform c).2.store = store at hchange
  cases hchange with
  | idle => exact .refl _
  | first hread => exact e.careful_seedLayouts.trans (LayoutStore.careful_load _ _)
  | @moved _ fp l hdragged => exact careful_insert e.store.store fp (h fp l hdragged)
  | exported hlive => exact e.store.careful_exportText
  | @imported container text hlive => exact e.store.careful_importText text
  | @restored container text fps store fp hlive himport hmem =>
    have himported := e.store.careful_importText text
    rw [himport] at himported
    exact himported.trans (store.careful_load fp)

/-- A drag stores the layout, finite or not, and touches no other entry. -/
theorem store_perform_of_dragged {c : Command} {fp : Fingerprint} {l : SavedLayout}
    (h : e.dragged? c = some (fp, l)) :
    (e.perform c).2.store.store = ⟨e.store.store.entries.insert fp.layoutKey l.toBlob⟩ := by
  cases c with
  | moveNode container id p =>
    change (e.moveNode container id p).store.store = _
    rw [store_moveNode, h]
    rfl
  | _ => cases h

/-- A layout that is there stays there in a command, unless the command drags a node of its
diagram and saves what is not finite. -/
theorem isSome_load_perform (c : Command) {fp : Fingerprint}
    (h : (e.store.load fp).1.isSome = true) :
    ((e.perform c).2.store.load fp).1.isSome = true ↔
      ∀ l, e.dragged? c = some (fp, l) → l.IsFinite := by
  rw [LayoutStore.load_fst, MemoryStore.layoutAt?] at h ⊢
  cases hdragged : e.dragged? c with
  | none =>
    have hcareful := e.careful_perform (fun _ _ hsome => by rw [hdragged] at hsome; cases hsome) fp.layoutKey
    simp only [reduceCtorEq, false_imp_iff, implies_true, iff_true]
    exact hcareful.isSome_layout h
  | some saved =>
    obtain ⟨fp', l⟩ := saved
    rw [e.store_perform_of_dragged hdragged]
    by_cases hfp : fp' = fp
    · subst hfp
      rw [Dict.getElem?_insert_self, Option.bind_some, SavedLayout.isSome_ofBlob?_toBlob]
      constructor
      · rintro hfinite l' ⟨⟩
        exact hfinite
      · exact fun hfinite => hfinite l rfl
    · have hkey : fp'.layoutKey ≠ fp.layoutKey := fun heq => hfp (Fingerprint.layoutKey_injective heq)
      rw [Dict.getElem?_insert_of_ne _ hkey]
      refine ⟨fun _ l' heq => ?_, fun _ => h⟩
      cases heq
      exact absurd rfl hfp

/-! ## Runs -/

/-- A run during which nobody else writes to the store, while the host may become
anything, with the layouts that drags have saved, oldest first. -/
inductive RunAlone [BlobStore σ] (e : Explorer σ) :
    List (Fingerprint × SavedLayout) → Explorer σ → Prop where
  | nil : RunAlone e [] e
  | perform {saved : List (Fingerprint × SavedLayout)} {e' : Explorer σ} (c : Command)
    (h : RunAlone e saved e') : RunAlone e (saved ++ (e'.dragged? c).toList) (e'.perform c).2
  | host {saved : List (Fingerprint × SavedLayout)} {e' : Explorer σ} (host : Host)
    (h : RunAlone e saved e') : RunAlone e saved { e' with host }

variable {e} {e' : Explorer MemoryStore} {saved : List (Fingerprint × SavedLayout)}

theorem RunAlone.isSome_load (h : RunAlone e saved e') {fp : Fingerprint}
    (hfinite : ∀ l, (fp, l) ∈ saved → l.IsFinite) (hsome : (e.store.load fp).1.isSome = true) :
    (e'.store.load fp).1.isSome = true := by
  induction h with
  | nil => exact hsome
  | host host _ ih => exact ih hfinite
  | @perform saved e' c _ ih =>
    have hbefore := ih fun l hl => hfinite l (List.mem_append_left _ hl)
    rw [e'.isSome_load_perform c hbefore]
    intro l hl
    exact hfinite l (List.mem_append_right _ (by simp [hl]))

/-- An entry that the explorer has written: the layout of a drag, or one that is finite. -/
def Written (saved : List (Fingerprint × SavedLayout)) (key : String) (blob : Blob) : Prop :=
  ∃ fp l, fp.layoutKey = key ∧ l.toBlob = blob ∧ ((fp, l) ∈ saved ∨ l.IsFinite)

theorem RunAlone.written (h : RunAlone e saved e') (hempty : e.store.store.entries = ∅) {key : String}
    {blob : Blob} (hblob : e'.store.store.entries[key]? = some blob) : Written saved key blob := by
  induction h generalizing blob with
  | nil => simp [hempty] at hblob
  | host host _ ih => exact ih hblob
  | @perform saved e' c _ ih =>
    have hold {blob : Blob} (hblob : e'.store.store.entries[key]? = some blob) :
        Written (saved ++ (e'.dragged? c).toList) key blob := by
      obtain ⟨fp, l, hkey, hl, hsource⟩ := ih hblob
      exact ⟨fp, l, hkey, hl, hsource.imp_left (List.mem_append_left _)⟩
    cases hdragged : e'.dragged? c with
    | none =>
      have hcareful := e'.careful_perform (fun _ _ hsome => by rw [hdragged] at hsome; cases hsome) key
      rw [hblob] at hcareful
      rw [hdragged] at hold
      generalize hentry : e'.store.store.entries[key]? = entry at hcareful
      cases hcareful with
      | kept => exact hold hentry
      | saved hkey hfinite => exact ⟨_, _, hkey, rfl, .inr hfinite⟩
    | some dragged =>
      obtain ⟨fp, l⟩ := dragged
      rw [hdragged] at hold
      rw [e'.store_perform_of_dragged hdragged] at hblob
      by_cases hkey : fp.layoutKey = key
      · subst hkey
        rw [Dict.getElem?_insert_self] at hblob
        cases hblob
        exact ⟨fp, l, rfl, rfl, .inl (by simp)⟩
      · rw [Dict.getElem?_insert_of_ne _ hkey] at hblob
        exact hold hblob

/-- No layout is lost but by a drag of its own diagram that saves what is not finite. As
long as an explorer has its store for itself, a layout that is there stays there in every
command, unless the command is such a drag, and through every run without one. Every entry
is what has been stored for some layout, and one that counts as corrupt is the layout of a
drag and not finite. -/
theorem layouts_kept {prefs : Prefs} {host : Host} {now : Int} {seeded : Bool}
    (h : RunAlone (initial ⟨({} : MemoryStore), seeded⟩ prefs host now) saved e) :
    (∀ c fp, (e.store.load fp).1.isSome = true →
      (((e.perform c).2.store.load fp).1.isSome = true ↔
        ∀ l, e.dragged? c = some (fp, l) → l.IsFinite)) ∧
    (∀ saved' e', RunAlone e saved' e' → ∀ fp, (∀ l, (fp, l) ∈ saved' → l.IsFinite) →
      (e.store.load fp).1.isSome = true → (e'.store.load fp).1.isSome = true) ∧
    ∀ key blob, e.store.store.entries[key]? = some blob →
      ∃ fp l, fp.layoutKey = key ∧ l.toBlob = blob ∧
        (SavedLayout.isCorrupt blob = true → (fp, l) ∈ saved ∧ ¬ l.IsFinite) := by
  refine ⟨fun c fp => e.isSome_load_perform c, fun saved' e' h' fp => h'.isSome_load, ?_⟩
  intro key blob hblob
  obtain ⟨fp, l, hkey, hl, hsource⟩ := h.written rfl hblob
  refine ⟨fp, l, hkey, hl, fun hcorrupt => ?_⟩
  rw [← hl, SavedLayout.isCorrupt_toBlob_iff] at hcorrupt
  exact ⟨hsource.resolve_right hcorrupt, hcorrupt⟩

/-- A drag to a place that is finite, after one that has saved the layout. -/
theorem layouts_kept_in_finite_drag :
    let e := initial (σ := MemoryStore) ⟨{}, false⟩ {} {} 0
    let e' := (e.perform (.render "c" "[[[\"a\",\"state-node\"]],[true,[]]]" true none)).2
    let e'' := (e'.perform (.moveNode "c" "a" ⟨3, 4⟩)).2
    (e''.store.load ⟨"4a12e846"⟩).1.isSome = true ∧
      ((e''.perform (.moveNode "c" "a" ⟨5, 6⟩)).2.store.load ⟨"4a12e846"⟩).1.isSome = true := by
  intro e e' e''
  have hsome : (e''.store.load ⟨"4a12e846"⟩).1.isSome = true := by decide +kernel
  have hdragged : e''.dragged? (.moveNode "c" "a" ⟨5, 6⟩) =
      some (⟨"4a12e846"⟩, Dict.ofPairs [("a", ⟨5, 6⟩)]) := by decide +kernel
  refine ⟨hsome, ((layouts_kept (.perform _ (.perform _ .nil))).1 _ _ hsome).2 ?_⟩
  intro l hl
  rw [hdragged] at hl
  cases hl
  intro id p hp
  have hmem := Dict.mem_of_getElem?_ofPairs hp
  simp only [List.mem_singleton, Prod.mk.injEq] at hmem
  rw [hmem.2]
  exact ⟨by decide, by decide⟩

/-- A drag to an infinite place loses the layout that an earlier drag has saved. -/
theorem layout_lost_in_infinite_drag :
    let e := (initial (σ := MemoryStore) ⟨{}, false⟩ {} {} 0).run
      [.render "c" "[[[\"a\",\"state-node\"]],[true,[]]]" true none, .moveNode "c" "a" ⟨3, 4⟩]
    let e' := (e.perform (.moveNode "c" "a" ⟨Float.ofBits 0x7FF0000000000000, 0⟩)).2
    (e.store.load ⟨"4a12e846"⟩).1.isSome = true ∧ (e'.store.load ⟨"4a12e846"⟩).1.isSome = false := by
  decide +kernel

end Explorer

end Statescope
