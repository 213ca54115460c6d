-- SUMMARY: When the export of a replay holds every layout of the store.
import Statescope.Proofs.Replay.Accepted
import Statescope.Proofs.Store.Exported

/-!
# Exports of replays

The export of a replay goes through the diagram that has been rendered. Once there is one, the
export file holds all layouts that the store has then, whichever diagrams they belong to. If no
line of the file has been accepted there is none, and nothing is exported, whatever the store
has (`Replay.exportsAll_iff`).
-/

namespace Statescope

/-! ## Exports of an explorer -/

section Explorer

variable [BlobStore σ] {e : Explorer σ} {container : String}

theorem Explorer.exportLayouts_of_not_contains (h : e.diagrams.contains container = false) :
    e.exportLayouts container = (none, e) := by
  rw [exportLayouts, if_neg (by simp [h])]

/-- Once there is a diagram, the text of all layouts is exported, unless there are none. -/
theorem Explorer.exists_exportLayouts [FramedStore σ] [SteadyStore σ]
    (h : e.diagrams.contains container = true) :
    ∃ b e', e.store.Bundles b ∧
      e.exportLayouts container = (if b.isEmpty then none else some b.toJson.indented, e') ∧
      ∀ fp, (e'.store.load fp).1 = (e.store.load fp).1 := by
  obtain ⟨b, t, hbundles, hexport, hloads⟩ := e.store.exists_exportText
  rw [exportLayouts, if_pos h, hexport]
  cases hempty : b.isEmpty with
  | true => exact ⟨b, _, hbundles, by simp only [hempty, if_true]; rfl, hloads⟩
  | false => exact ⟨b, _, hbundles, by simp only [hempty, Bool.false_eq_true, if_false]; rfl, hloads⟩

end Explorer

namespace Replay

/-! ## What has been rendered -/

section Rendered

variable [BlobStore σ] {r : Replay σ}

/-- Whether some line of the text spells a snapshot. -/
def HasSnapshot (text : String) : Prop :=
  ∃ line ∈ Text.lines text.toList, accepts (trimmed line) = true

theorem filter_accepts_eq_nil_iff {text : String} :
    ((snapshotLines text).map (·.2)).filter accepts = [] ↔ ¬ HasSnapshot text := by
  rw [filter_snapshotLines, List.map_eq_nil_iff, List.filter_eq_nil_iff]
  simp [HasSnapshot]

theorem alike_run_of_not_hasSnapshot (hr : r.Steady) (clock : Nat → Int) {text : String}
    (h : ¬ HasSnapshot text) : (r.run clock text).explorer.Alike r.explorer := by
  have halike : Alike (r.feedAll clock (snapshotLines text)) (r.feedAll clock []) :=
    alike_feedAll hr clock clock (filter_accepts_eq_nil_iff.2 h)
  exact halike.explorer

/-- There is a diagram at the end exactly if some line spells a snapshot. -/
theorem contains_run_iff (hr : r.Steady) (h : r.rendered = 0)
    (hnone : r.explorer.diagrams.contains container = false) (clock : Nat → Int) (text : String) :
    (r.run clock text).explorer.diagrams.contains container = true ↔ HasSnapshot text := by
  by_cases hsnapshot : HasSnapshot text
  · refine iff_of_true ?_ hsnapshot
    have hrendered : (r.feedAll clock (snapshotLines text)).rendered ≠ 0 := by
      rw [rendered_feedAll hr, h, Nat.zero_add, ne_eq, List.length_eq_zero_iff,
        filter_accepts_eq_nil_iff]
      exact not_not_intro hsnapshot
    have hdiagram := (hr.feedAll clock (snapshotLines text)).live.resolve_left hrendered
    rwa [diagram?, Std.ExtTreeMap.isSome_getElem?_eq_contains] at hdiagram
  · refine iff_of_false ?_ hsnapshot
    rw [(alike_run_of_not_hasSnapshot hr clock hsnapshot).contains container, hnone]
    exact Bool.false_ne_true

end Rendered

/-! ## Exports -/

/-- All layouts of the store have been exported, if there are any: to import the text into an
empty store, in memory or in a directory, brings them back. -/
def ExportsAll [BlobStore σ] (s : LayoutStore σ) (exported : Option String) : Prop :=
  (s.HasLayouts → ∃ text, exported = some text ∧
    s.RestoredIn text ({} : MemoryStore) ∧ s.RestoredIn text ({} : Directory)) ∧
  (¬ s.HasLayouts → exported = none)

/-- A file that can be written is written, if there is something to write. -/
theorem conclude_of_bundle [BlobStore σ] {r r' : Replay σ} {exported : Option String}
    (h : r.bundle = (exported, r')) (path : String) :
    (r.conclude (some path) true).exported = exported ∧ (r.conclude (some path) true).code = 0 ∧
      (r.conclude (some path) true).replay.explorer = r'.explorer := by
  simp only [conclude, h]
  cases exported <;> exact ⟨rfl, rfl, rfl⟩

theorem exportsAll_of_bundles {s : LayoutStore Directory} {b : LayoutBundle} (h : s.Bundles b) :
    ExportsAll s (if b.isEmpty then none else some b.toJson.indented) := by
  constructor
  · intro hlayouts
    rw [← h.isEmpty_eq_false_iff] at hlayouts
    exact ⟨_, by rw [hlayouts]; rfl, h.restoredIn_memory, h.restoredIn_directory⟩
  · intro hlayouts
    rw [← h.isEmpty_eq_false_iff, Bool.not_eq_false] at hlayouts
    rw [if_pos hlayouts]

/-- A replay that can write its export file succeeds, and leaves the layouts of the store as they
are, whatever the clock says. The file holds all of them exactly if some line of the snapshots is accepted or there are
none. Otherwise there is no file, and the store is the one that the replay began with. -/
theorem exportsAll_iff (o : Options) (place : String) (d : Directory) (host : Host)
    (clock : Nat → Int) (text path : String) :
    let r := (start o place d host).run clock text
    let out := r.conclude (some path) true
    out.code = 0 ∧
    (∀ fp, (out.replay.explorer.store.load fp).1 = (r.explorer.store.load fp).1) ∧
    (ExportsAll r.explorer.store out.exported ↔ HasSnapshot text ∨ ¬ r.explorer.store.HasLayouts) ∧
    (HasSnapshot text ∨ out.exported = none ∧ r.explorer.store.store = d) := by
  intro r out
  have hcontains : r.explorer.diagrams.contains container = true ↔ HasSnapshot text :=
    contains_run_iff (steady_start o place d host) rfl rfl clock text
  by_cases hsnapshot : HasSnapshot text
  · obtain ⟨b, e', hbundles, hexport, hloads⟩ :=
      Explorer.exists_exportLayouts (hcontains.2 hsnapshot)
    have hbundle : r.bundle
        = (if b.isEmpty then none else some b.toJson.indented, { r with explorer := e' }) := by
      rw [bundle, hexport]
    obtain ⟨hexported, hcode, hexplorer⟩ := conclude_of_bundle hbundle path
    refine ⟨hcode, fun fp => ?_, ?_, .inl hsnapshot⟩
    · rw [hexplorer]
      exact hloads fp
    · rw [hexported]
      exact iff_of_true (exportsAll_of_bundles hbundles) (.inl hsnapshot)
  · have hexport : r.explorer.exportLayouts container = (none, r.explorer) :=
      Explorer.exportLayouts_of_not_contains (Bool.eq_false_iff.2 (mt hcontains.1 hsnapshot))
    have hbundle : r.bundle = (none, r) := by rw [bundle, hexport]
    obtain ⟨hexported, hcode, hexplorer⟩ := conclude_of_bundle hbundle path
    have hstore : r.explorer.store.store = d :=
      congrArg LayoutStore.store (alike_run_of_not_hasSnapshot (steady_start o place d host) clock hsnapshot).store
    refine ⟨hcode, fun fp => by rw [hexplorer], ?_, .inr ⟨hexported, hstore⟩⟩
    rw [hexported, or_iff_right hsnapshot]
    refine ⟨fun hall hlayouts => ?_, fun hlayouts => ⟨fun h => absurd h hlayouts, fun _ => rfl⟩⟩
    obtain ⟨text', heq, -⟩ := hall.1 hlayouts
    cases heq

/-- The directory of a store that has one layout. -/
def stored : Directory :=
  .ofFiles [("layout/abc.json", Blob.ofText "\x7b\"a\":\x7b\"x\":1.0,\"y\":2.0\x7d\x7d")]

theorem exportsAll_iff_of_snapshot :
    let text := "no snapshot\n [[],[true,[]]]\n"
    let r := (start { snapshots := "log" } "place" stored {}).run (fun _ => 0) text
    HasSnapshot text ∧ r.explorer.store.HasLayouts ∧
    ExportsAll r.explorer.store (r.conclude (some "out") true).exported := by
  intro text r
  have hsnapshot : HasSnapshot text := ⟨" [[],[true,[]]]".toList, by decide +kernel, by decide +kernel⟩
  have hlayouts : r.explorer.store.HasLayouts := ⟨⟨"abc"⟩, by decide, by decide +kernel⟩
  obtain ⟨-, -, hexports, -⟩ := exportsAll_iff { snapshots := "log" } "place" stored {} (fun _ => 0) text "out"
  exact ⟨hsnapshot, hlayouts, hexports.2 (.inl hsnapshot)⟩

theorem not_exportsAll_of_empty_text :
    let r := (start { snapshots := "log" } "place" stored {}).run (fun _ => 0) ""
    let out := r.conclude (some "out") true
    out.code = 0 ∧ r.explorer.store.HasLayouts ∧ out.exported = none ∧
    ¬ ExportsAll r.explorer.store out.exported := by
  intro r out
  have hlayouts : r.explorer.store.HasLayouts := ⟨⟨"abc"⟩, by decide, by decide +kernel⟩
  have hexported : out.exported = none := by decide +kernel
  refine ⟨by decide +kernel, hlayouts, hexported, fun hall => ?_⟩
  obtain ⟨text, heq, -⟩ := hall.1 hlayouts
  rw [hexported] at heq
  cases heq

end Replay

end Statescope
