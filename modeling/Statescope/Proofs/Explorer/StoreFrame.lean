-- SUMMARY: What each command of the explorer can do to each entry of its store, and that the seed file is read at most once.
import Statescope.Proofs.Explorer.Layouts
import Statescope.Proofs.Store.LayoutFrame

/-!
# The store around the explorer

The explorer shares its store with others: preferences are kept there, and anybody may have
put anything under any key. `store_frame` says which entries a command can change, and to
what. All of them are under keys of layouts.
-/

namespace Statescope

/-- What is read from a bundle can be read again when it has been stored. -/
theorem LayoutStore.isCorrupt_of_read? {text : String} {entries : List (Fingerprint × SavedLayout)}
    (h : LayoutBundle.read? text = some entries) {fp : Fingerprint} {l : SavedLayout}
    (hmem : (fp, l) ∈ entries) : SavedLayout.isCorrupt l.toBlob = false :=
  Bool.eq_false_iff.2 fun hcorrupt =>
    SavedLayout.isCorrupt_toBlob_iff.1 hcorrupt (isFinite_of_read? h _ hmem)

namespace Explorer

section Changes

variable [BlobStore σ] (e : Explorer σ)

/-! ## Commands without a change -/

/-- Whether a command has to do with the store. -/
def usesStore : Command → Bool
  | .render _ _ isFirst _ => isFirst
  | .moveNode .. | .exportLayouts _ | .importLayouts .. => true
  | _ => false

theorem store_perform_of_not_usesStore {c : Command} (h : usesStore c = false) :
    (e.perform c).2.store = e.store := by
  have hchange := e.storeChange_perform c
  generalize (e.perform c).2.store = store at hchange
  cases hchange with
  | idle => rfl
  | first | exported | imported | restored => cases h
  | moved hdragged =>
    cases c with
    | moveNode => cases h
    | _ => cases hdragged

/-! ## Seeding once -/

/-- The file that a command seeds the layouts from. -/
def seedFile? (e : Explorer σ) : Command → Option Path
  | .render _ text true _ =>
    if (Snapshot.read text).isOk && e.store.awaitsSeed then e.prefs.seedBundle else none
  | _ => none

theorem exists_of_seedFile? {c : Command} {path : Path} (h : e.seedFile? c = some path) :
    ∃ container text now s, c = .render container text true now ∧ Snapshot.read text = .ok s ∧
      e.store.awaitsSeed = true ∧ e.prefs.seedBundle = some path := by
  unfold seedFile? at h
  split at h
  · rename_i container text now
    split at h
    · rename_i hseeds
      rw [Bool.and_eq_true] at hseeds
      cases hread : Snapshot.read text with
      | error cause => simp [hread, Except.isOk, Except.toBool] at hseeds
      | ok s => exact ⟨container, text, now, s, rfl, hread, hseeds.2, h⟩
    · cases h
  · cases h

theorem seedAttempted_seedLayouts {path : Path} (h : e.prefs.seedBundle = some path) :
    e.seedLayouts.store.seedAttempted = true := by
  unfold seedLayouts
  rw [h]
  exact LayoutStore.seedAttempted_seed e.store _

/-- An attempt at seeding is remembered. -/
theorem seedAttempted_perform (c : Command) (h : e.store.seedAttempted = true) :
    (e.perform c).2.store.seedAttempted = true := by
  have hchange := e.storeChange_perform c
  generalize (e.perform c).2.store = store at hchange
  cases hchange with
  | idle => exact h
  | moved hdragged => exact h
  | exported hlive => rwa [LayoutStore.seedAttempted_exportText]
  | @imported container text hlive => rwa [LayoutStore.seedAttempted_importText]
  | @restored container text fps store fp hlive himport hmem =>
    have hstore := LayoutStore.seedAttempted_importText e.store text
    rw [himport] at hstore
    rwa [LayoutStore.seedAttempted_load, hstore]
  | first hread =>
    rw [LayoutStore.seedAttempted_load]
    unfold seedLayouts
    split
    · exact LayoutStore.seedAttempted_seed e.store _
    · exact h

theorem Run.seedAttempted {e e' : Explorer σ} {log : Log} (h : Run e log e')
    (hattempted : e.store.seedAttempted = true) : e'.store.seedAttempted = true := by
  induction h with
  | nil => exact hattempted
  | perform c _ ih => exact seedAttempted_perform _ c ih
  | outside store host _ ih => exact ih

/-- The command that seeds has made the attempt. -/
theorem seedAttempted_of_seedFile? {c : Command} {path : Path} (h : e.seedFile? c = some path) :
    (e.perform c).2.store.seedAttempted = true := by
  obtain ⟨container, text, now, s, rfl, hread, -, hpath⟩ := e.exists_of_seedFile? h
  have hok : (e.render container text true (now.getD e.now)).1 = .ok () :=
    render_of_read hread (.inl rfl) _
  obtain ⟨s', hread', haccepts⟩ := accepts_of_render hok
  change (e.render container text true (now.getD e.now)).2.store.seedAttempted = true
  generalize (e.render container text true (now.getD e.now)).2 = e' at haccepts
  cases haccepts with
  | @first drawing restored store hfirst =>
    change store.seedAttempted = true
    rw [Drawing.store_first hfirst, LayoutStore.seedAttempted_load]
    exact e.seedAttempted_seedLayouts hpath

theorem seedFile?_eq_none (h : e.store.seedAttempted = true) (c : Command) :
    e.seedFile? c = none := by
  cases hfile : e.seedFile? c with
  | none => rfl
  | some path =>
    obtain ⟨_, _, _, _, -, -, hawaits, -⟩ := e.exists_of_seedFile? hfile
    rw [(LayoutStore.awaitsSeed_eq_true_iff.1 hawaits).1] at h
    cases h

/-! ## No other files -/

/-- The explorer on a host that has these files. -/
def withFiles (e : Explorer σ) (files : Path → Option Blob) : Explorer σ :=
  { e with host := { e.host with file? := files } }

omit [BlobStore σ] in
@[simp] theorem diagrams_withFiles (e : Explorer σ) (files : Path → Option Blob) :
    (e.withFiles files).diagrams = e.diagrams := rfl

omit [BlobStore σ] in
@[simp] theorem prefs_withFiles (e : Explorer σ) (files : Path → Option Blob) :
    (e.withFiles files).prefs = e.prefs := rfl

variable {e} {files : Path → Option Blob}

theorem seedLayouts_files (h : ∀ path, e.store.awaitsSeed = true → e.prefs.seedBundle = some path →
      files path = e.host.file? path) :
    (e.withFiles files).seedLayouts = e.seedLayouts.withFiles files := by
  unfold seedLayouts withFiles
  cases hpath : e.prefs.seedBundle with
  | none => rfl
  | some path =>
    cases hawaits : e.store.awaitsSeed with
    | false => simp only [LayoutStore.seed_of_not_awaitsSeed hawaits]
    | true => simp only [h path hawaits hpath]

theorem renderFirst_files (container : String) {text : String}
    (h : (Snapshot.read text).isOk = true → ∀ path, e.store.awaitsSeed = true →
      e.prefs.seedBundle = some path → files path = e.host.file? path) :
    (e.withFiles files).renderFirst container text
      = ((e.renderFirst container text).1, (e.renderFirst container text).2.withFiles files) := by
  unfold renderFirst
  cases hread : Snapshot.read text with
  | error cause => rfl
  | ok snapshot =>
    have hseed := seedLayouts_files (h (by rw [hread]; rfl))
    have hprepare : (e.withFiles files).prepareFirst container
        = ((e.prepareFirst container).1, (e.prepareFirst container).2.withFiles files) := by
      unfold prepareFirst
      rw [hseed]
      rfl
    simp only [hprepare]
    generalize e.prepareFirst container = prepared
    obtain ⟨wait, e'⟩ := prepared
    unfold withFiles
    generalize Drawing.first {} snapshot wait.received (.ofPrefs e'.prefs) e'.store = drawn
    obtain ⟨result, store⟩ := drawn
    cases result <;> rfl

omit [BlobStore σ] in
theorem startTimer_files (e : Explorer σ) (files : Path → Option Blob) (container : String)
    (seconds : Float) :
    (e.withFiles files).startTimer container seconds = (e.startTimer container seconds).withFiles files := by
  have hrunning : (e.withFiles files).isRunning container = e.isRunning container := rfl
  simp only [startTimer, hrunning]
  by_cases hstays : (e.isRunning container || !isDuration (clampDelay seconds)) = true
  · simp only [if_pos hstays]
  · simp only [if_neg hstays]
    rfl

/-- A command reads no file but the one that it seeds the layouts from. -/
theorem perform_files {c : Command}
    (h : ∀ path, e.seedFile? c = some path → files path = e.host.file? path) :
    (e.withFiles files).perform c = ((e.perform c).1, (e.perform c).2.withFiles files) := by
  cases c with
  | render container text isFirst now =>
    cases isFirst with
    | true =>
      have hseed (hread : (Snapshot.read text).isOk = true) (path : Path)
          (hawaits : e.store.awaitsSeed = true) (hpath : e.prefs.seedBundle = some path) :
          files path = e.host.file? path :=
        h path (by simp [seedFile?, hread, hawaits, hpath])
      have hfirst := renderFirst_files container hseed
      simp only [perform, render, if_true, hfirst]
      split <;> rfl
    | false =>
      simp only [withFiles, perform, render, renderNext, Bool.false_eq_true, if_false]
      cases e.diagrams[container]? with
      | none => rfl
      | some d =>
        cases Snapshot.read text with
        | error cause => rfl
        | ok snapshot =>
          cases hupdate : d.drawing.update snapshot (now.getD e.now) with
          | error cause =>
            simp only [hupdate]
            rfl
          | ok drawing => simp only [hupdate]
  | tap container id =>
    unfold withFiles
    simp only [perform, tap]
    split <;> rfl
  | click container t =>
    unfold withFiles
    simp only [perform, click]
    split <;> rfl
  | undo container =>
    unfold withFiles
    simp only [perform, undo]
    split <;> rfl
  | setAutoAdvance container enabled seconds =>
    have hstart := startTimer_files e files container (seconds.getD e.prefs.autoAdvanceDelay)
    simp only [perform, setAutoAdvance, diagrams_withFiles, prefs_withFiles, hstart]
    split
    · cases enabled <;> rfl
    · rfl
  | moveNode container id p =>
    unfold withFiles
    simp only [perform, moveNode]
    cases e.diagrams[container]? with
    | none => rfl
    | some d =>
      simp only
      split <;> rfl
  | selectLayout container name =>
    unfold withFiles
    simp only [perform, selectLayout]
    cases e.diagrams[container]? with
    | none => rfl
    | some d => cases LayoutKind.ofName? name <;> rfl
  | exportLayouts container =>
    unfold withFiles
    simp only [perform, exportLayouts]
    split
    · split <;> rfl
    · rfl
  | importLayouts container text =>
    unfold withFiles
    simp only [perform, importLayouts]
    cases e.diagrams[container]? with
    | none => rfl
    | some d =>
      cases e.store.importText text with
      | mk result store =>
        cases result with
        | error cause => rfl
        | ok fps => cases fps <;> rfl
  | dispose container =>
    unfold withFiles
    simp only [perform, dispose]
    split <;> rfl
  | attachOracle | publishOracle | abandonOracle | tick | advance => rfl

end Changes

/-! ## Entries after a command -/

section Frame

variable [BlobStore σ] [FramedStore σ]

/-- The layouts that a command seeds. -/
def seeds? (e : Explorer σ) (c : Command) : Option (List (Fingerprint × SavedLayout)) := do
  let path ← e.seedFile? c
  let file ← e.host.file? path
  LayoutBundle.read? (← file.text?)

/-- What a command can make of the entry under a key, if it does not leave it alone. -/
inductive Writes (e : Explorer σ) : Command → String → Option Blob → Option Blob → Prop where
  /-- A diagram starts and the layout that is saved for it is corrupt. -/
  | discarded {container text : String} {now : Option Int} {s : Snapshot} {blob : Blob}
    (hread : Snapshot.read text = .ok s) (hcorrupt : SavedLayout.isCorrupt blob = true) :
    Writes e (.render container text true now) (Fingerprint.ofElements s.elements).layoutKey
      (some blob) none
  | seeded {c : Command} {entries : List (Fingerprint × SavedLayout)} {fp : Fingerprint}
    {l : SavedLayout} (hseeds : e.seeds? c = some entries) (hmem : (fp, l) ∈ entries) :
    Writes e c fp.layoutKey none (some l.toBlob)
  | moved {c : Command} {fp : Fingerprint} {l : SavedLayout} {entry : Option Blob}
    (hdragged : e.dragged? c = some (fp, l)) : Writes e c fp.layoutKey entry (some l.toBlob)
  | exported {container key : String} {blob : Blob}
    (hkey : (Fingerprint.ofLayoutKey? key).isSome = true)
    (hcorrupt : SavedLayout.isCorrupt blob = true) :
    Writes e (.exportLayouts container) key (some blob) none
  | imported {container text : String} {entries : List (Fingerprint × SavedLayout)}
    {fp : Fingerprint} {l : SavedLayout} {entry : Option Blob}
    (hread : LayoutBundle.read? text = some entries) (hmem : (fp, l) ∈ entries) :
    Writes e (.importLayouts container text) fp.layoutKey entry (some l.toBlob)

variable (e : Explorer σ)

omit [FramedStore σ] in
theorem Writes.isLayoutKey {c : Command} {key : String} {entry entry' : Option Blob}
    (h : Writes e c key entry entry') : Fingerprint.isLayoutKey key = true := by
  cases h with
  | discarded | seeded | moved | imported => exact Fingerprint.isPrefixOf_layoutKey _
  | exported hkey =>
    obtain ⟨fp, hfp⟩ := Option.isSome_iff_exists.1 hkey
    rw [← (Fingerprint.ofLayoutKey?_eq_some_iff.1 hfp).1]
    exact fp.isPrefixOf_layoutKey

omit [FramedStore σ] in
theorem exists_of_seeds? {c : Command} {entries : List (Fingerprint × SavedLayout)}
    (h : e.seeds? c = some entries) : ∃ text, LayoutBundle.read? text = some entries := by
  simp only [seeds?, Option.bind_eq_bind, Option.bind_eq_some_iff] at h
  obtain ⟨_, -, _, -, text, -, hread⟩ := h
  exact ⟨text, hread⟩

theorem exists_of_blob?_seedLayouts {text : String} {s : Snapshot}
    (hread : Snapshot.read text = .ok s) (container : String) (now : Option Int) (key : String) :
    e.seedLayouts.store.blob? key = e.store.blob? key ∨
      ∃ entries fp l, e.seeds? (.render container text true now) = some entries ∧
        (fp, l) ∈ entries ∧ key = fp.layoutKey ∧ e.store.blob? key = none ∧
        e.seedLayouts.store.blob? key = some l.toBlob := by
  unfold seedLayouts
  cases hpath : e.prefs.seedBundle with
  | none => exact .inl rfl
  | some path =>
    refine (e.store.exists_of_blob?_seed (e.host.file? path) key).imp_right ?_
    rintro ⟨hawaits, bundle, entries, fp, l, htext, hbundle, hmem, hkey, hnone, hentry⟩
    obtain ⟨file, hfile, htext⟩ := Option.bind_eq_some_iff.1 htext
    refine ⟨entries, fp, l, ?_, hmem, hkey, hnone, hentry⟩
    simp [seeds?, seedFile?, hread, hawaits, hpath, hfile, htext, hbundle, Except.isOk, Except.toBool]

/-- A layout that has just been imported is not discarded when it is loaded. -/
theorem blob?_load_of_importText {s t : LayoutStore σ} {text : String} {fps : List Fingerprint}
    {fp : Fingerprint} (himport : s.importText text = (.ok fps, t)) (hmem : fp ∈ fps) (key : String) :
    (t.load fp).2.blob? key = t.blob? key := by
  refine (LayoutStore.prunes_load t fp).blob?_eq ?_ key
  rintro _ blob rfl hblob
  obtain ⟨entries, hread, rfl, hsaved⟩ := LayoutStore.exists_saveAll_of_importText himport
  obtain ⟨⟨fp, l⟩, hentry, rfl⟩ := List.mem_map.1 hmem
  obtain ⟨l', hl', hstored⟩ := LayoutStore.blob?_saveAll_of_mem hsaved hentry
  cases hblob.symm.trans hstored
  exact LayoutStore.isCorrupt_of_read? hread hl'

/-- What a command does to one entry. -/
theorem writes_perform (c : Command) (key : String) :
    (e.perform c).2.store.blob? key = e.store.blob? key ∨
      e.Writes c key (e.store.blob? key) ((e.perform c).2.store.blob? key) := by
  have hchange := e.storeChange_perform c
  generalize (e.perform c).2.store = store at hchange
  cases hchange with
  | idle => exact .inl rfl
  | @moved _ fp l hdragged =>
    refine (LayoutStore.saves_save e.store fp l key).imp_right ?_
    rintro ⟨fp', l', hmem, rfl, hentry⟩
    cases List.mem_singleton.1 hmem
    rw [hentry]
    exact .moved hdragged
  | exported hlive =>
    refine (LayoutStore.prunes_exportText e.store key).imp_right ?_
    rintro ⟨hkey, ⟨blob, hblob, hcorrupt⟩, hgone⟩
    rw [hblob, hgone]
    exact .exported hkey hcorrupt
  | @imported container text hlive =>
    refine (LayoutStore.exists_of_blob?_importText e.store text key).imp_right ?_
    rintro ⟨entries, fp, l, hread, hmem, rfl, hentry⟩
    rw [hentry]
    exact .imported hread hmem
  | @restored container text fps store fp hlive himport hmem =>
    have himported := LayoutStore.exists_of_blob?_importText e.store text key
    rw [himport] at himported
    rw [blob?_load_of_importText himport hmem]
    refine himported.imp_right ?_
    rintro ⟨entries, fp, l, hread, hmem, rfl, hentry⟩
    rw [hentry]
    exact .imported hread hmem
  | @first container text now s hread =>
    have hseeded := e.exists_of_blob?_seedLayouts hread container now key
    rcases LayoutStore.prunes_load e.seedLayouts.store (.ofElements s.elements) key with
      hkept | ⟨rfl, ⟨blob, hblob, hcorrupt⟩, hgone⟩
    · rw [hkept]
      refine hseeded.imp_right ?_
      rintro ⟨entries, fp, l, hseeds, hmem, rfl, hnone, hentry⟩
      rw [hnone, hentry]
      exact .seeded hseeds hmem
    · rcases hseeded with hkept | ⟨entries, fp, l, hseeds, hmem, -, -, hentry⟩
      · rw [hgone, ← hkept, hblob]
        exact .inr (.discarded hread hcorrupt)
      · obtain ⟨bundle, hbundle⟩ := e.exists_of_seeds? hseeds
        cases hblob.symm.trans hentry
        rw [LayoutStore.isCorrupt_of_read? hbundle hmem] at hcorrupt
        cases hcorrupt

theorem blob?_perform_of_not_isLayoutKey (c : Command) {key : String}
    (h : Fingerprint.isLayoutKey key = false) :
    (e.perform c).2.store.blob? key = e.store.blob? key := by
  refine (e.writes_perform c key).resolve_right fun hwrites => ?_
  rw [hwrites.isLayoutKey] at h
  cases h

theorem RunAlone.blob?_eq {e e' : Explorer σ} {saved : List (Fingerprint × SavedLayout)}
    (h : RunAlone e saved e') {key : String} (hkey : Fingerprint.isLayoutKey key = false) :
    e'.store.blob? key = e.store.blob? key := by
  induction h with
  | nil => rfl
  | host host _ ih => exact ih
  | perform c _ ih => exact (blob?_perform_of_not_isLayoutKey _ c hkey).trans ih

/-- Which entries of its store the explorer changes, whatever the store holds. A command
leaves every entry as it is or makes of it what `Writes` allows, and most commands leave
the whole store. Keys that are not of layouts keep their entries through every run during
which nobody else writes to the store. A command that seeds does so for the first time and
into a store without layouts, and no command after it seeds; no other file is read. -/
theorem store_frame :
    (∀ c key, (e.perform c).2.store.blob? key = e.store.blob? key ∨
      e.Writes c key (e.store.blob? key) ((e.perform c).2.store.blob? key)) ∧
    (∀ c, usesStore c = false → (e.perform c).2.store = e.store) ∧
    (∀ saved e', RunAlone e saved e' → ∀ key, Fingerprint.isLayoutKey key = false →
      e'.store.blob? key = e.store.blob? key) ∧
    (∀ c path, e.seedFile? c = some path → e.store.seedAttempted = false ∧
      (∀ key, Fingerprint.isLayoutKey key = true → e.store.blob? key = none) ∧
      ∀ log e', Run (e.perform c).2 log e' → ∀ c', e'.seedFile? c' = none) ∧
    ∀ c files, (∀ path, e.seedFile? c = some path → files path = e.host.file? path) →
      (e.withFiles files).perform c = ((e.perform c).1, (e.perform c).2.withFiles files) := by
  refine ⟨e.writes_perform, fun c => e.store_perform_of_not_usesStore,
    fun saved e' h key => h.blob?_eq, fun c path h => ?_, fun c files => perform_files⟩
  obtain ⟨_, _, _, _, -, -, hawaits, -⟩ := e.exists_of_seedFile? h
  obtain ⟨hattempted, hsize⟩ := LayoutStore.awaitsSeed_eq_true_iff.1 hawaits
  refine ⟨hattempted, fun key => LayoutStore.blob?_eq_none_of_size hsize, fun log e' hrun => ?_⟩
  exact e'.seedFile?_eq_none (hrun.seedAttempted (e.seedAttempted_of_seedFile? h))

end Frame

/-- A store with preferences and no layouts, from which a diagram is seeded, tapped and
dragged. -/
theorem store_frame_of_prefs :
    let seed := Path.ofText "seed"
    let e := initial (σ := MemoryStore) ⟨⟨Dict.ofPairs [("prefs", .ofText "{}")]⟩, false⟩
      { seedBundle := some seed }
      { file? := fun path => if path = seed then some (.ofText "{}") else none } 0
    let c := Command.render "c" "[[[\"a\",\"state-node\"]],[true,[]]]" true none
    let e' := (e.perform c).2
    let files (path : Path) := if path = .ofText "other" then some (.ofText "") else e.host.file? path
    (e'.perform (.tap "c" "a")).2.store = e'.store ∧
      (e'.perform (.moveNode "c" "a" ⟨3, 4⟩)).2.store.blob? "prefs" = e.store.blob? "prefs" ∧
      e.seedFile? c = some seed ∧ e.store.blob? "layout:4a12e846" = none ∧
      e'.seedFile? c = none ∧
      (e.withFiles files).perform c = ((e.perform c).1, e'.withFiles files) := by
  intro seed e c e' files
  have hseed : e.seedFile? c = some seed := by decide +kernel
  obtain ⟨-, -, halone, hseeds, hfiles⟩ := store_frame e
  obtain ⟨-, hnone, honce⟩ := hseeds c seed hseed
  refine ⟨(store_frame e').2.1 (.tap "c" "a") rfl,
    halone _ _ (.perform (.moveNode "c" "a" ⟨3, 4⟩) (.perform c .nil)) "prefs" (by decide), hseed,
    hnone _ (by decide), honce _ _ .nil c, hfiles c files fun path hpath => ?_⟩
  cases hseed.symm.trans hpath
  exact if_neg (by decide)

end Explorer

end Statescope
