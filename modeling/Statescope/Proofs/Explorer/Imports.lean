-- SUMMARY: An import in front of a diagram: the nodes that the bundle names go where it has them, and nothing else changes.
import Mathlib
import Statescope.Proofs.Explorer.Drags
import Statescope.Proofs.Explorer.Isolation
import Statescope.Proofs.Explorer.StoreChanges
import Statescope.Proofs.Graph.Fingerprint
import Statescope.Proofs.Store.Imported

/-!
# Imports in front of a diagram

After an import the layout of the diagram is read back from the store, if the bundle had one.
It is the layout that the bundle brings, and its positions are applied one by one, so that one
that fits no node is passed over (`importLayouts_effect`).
-/

namespace Statescope

/-! ## Drawings -/

theorem Drawing.restore_of_load [BlobStore σ] {d : Drawing}
    (hnodup : (d.surface.elements.map (·.id)).Nodup) {s t : LayoutStore σ} {l : SavedLayout}
    (hload : s.load d.fingerprint = (some l, t)) :
    d.restore s = (true, { d with surface := d.surface.laidOut l }, t) := by
  simp only [restore, hload, Surface.fit_applyPositions hnodup]

namespace Explorer

open LayoutBundle

variable [BlobStore σ] {e : Explorer σ} {container text : String} {d : Diagram} {t : LayoutStore σ}

/-! ## Answers -/

theorem importLayouts_of_error (hd : e.diagrams[container]? = some d) {cause : LayoutError}
    (himport : e.store.importText text = (.error cause, t)) :
    (e.importLayouts container text).1 = none ∧
      (e.importLayouts container text).2.diagrams = e.diagrams := by
  simp only [importLayouts, hd, himport, notify, and_self]

/-- A diagram whose fingerprint is among those imported is restored from the store. -/
theorem importLayouts_of_ok (hd : e.diagrams[container]? = some d) {fps : List Fingerprint}
    (himport : e.store.importText text = (.ok fps, t)) :
    (e.importLayouts container text).1 = some fps.length ∧
      (e.importLayouts container text).2.diagrams = e.diagrams.insert container
        { d with drawing :=
          if d.drawing.fingerprint ∈ fps then (d.drawing.restore t).2.1 else d.drawing } := by
  simp only [importLayouts, hd, himport, true_and]
  split <;> split <;> rfl

/-! ## Effects -/

variable [FramedStore σ]

/-- The layout that the bundle brings for the diagram is the one that it is restored from. -/
theorem getElem?_importLayouts_of_brings (hd : e.diagrams[container]? = some d)
    (hnodup : (d.drawing.surface.elements.map (·.id)).Nodup) {l : SavedLayout}
    (hsome : (e.importLayouts container text).1.isSome = true)
    (hbrings : Brings text d.drawing.fingerprint l)
    (hreads : (e.store.importText text).2.Readable) :
    (e.importLayouts container text).2.diagrams[container]?
      = some { d with drawing := { d.drawing with surface := d.drawing.surface.laidOut l } } := by
  cases himport : e.store.importText text with
  | mk result t =>
    cases result with
    | error cause =>
      rw [(importLayouts_of_error hd himport).1] at hsome
      cases hsome
    | ok fps =>
      rw [himport] at hreads
      obtain ⟨entries, hread, rfl, hsave⟩ := LayoutStore.exists_saveAll_of_importText himport
      obtain ⟨_, -, -, hentries, -⟩ := exists_members_of_read? hread
      have hmem : d.drawing.fingerprint ∈ entries.map (·.1) :=
        List.mem_map.2 ⟨_, (hentries _ l).2 hbrings, rfl⟩
      have hload : t.load d.drawing.fingerprint = (some l, t) :=
        LayoutStore.load_of_brings hbrings (LayoutStore.blob?_of_saveAll hread hsave hbrings) hreads
      rw [(importLayouts_of_ok hd himport).2, Dict.getElem?_insert_self, if_pos hmem,
        Drawing.restore_of_load hnodup hload]

omit [FramedStore σ] in
theorem getElem?_importLayouts_of_not_brings (hd : e.diagrams[container]? = some d)
    (h : (∀ l, ¬ Brings text d.drawing.fingerprint l) ∨ (e.importLayouts container text).1 = none) :
    (e.importLayouts container text).2.diagrams[container]? = some d := by
  cases himport : e.store.importText text with
  | mk result t =>
    cases result with
    | error cause => rw [(importLayouts_of_error hd himport).2, hd]
    | ok fps =>
      obtain ⟨hreply, hdiagrams⟩ := importLayouts_of_ok hd himport
      have hnone : ∀ l, ¬ Brings text d.drawing.fingerprint l :=
        h.resolve_right fun hnone => by
          rw [hreply] at hnone
          cases hnone
      obtain ⟨entries, hread, rfl, -⟩ := LayoutStore.exists_saveAll_of_importText himport
      obtain ⟨_, -, -, hentries, -⟩ := exists_members_of_read? hread
      have hmem : d.drawing.fingerprint ∉ entries.map (·.1) := by
        intro hmem
        obtain ⟨⟨_, l⟩, hentry, hfp⟩ := List.mem_map.1 hmem
        subst hfp
        exact hnone l ((hentries _ l).1 hentry)
      rw [hdiagrams, Dict.getElem?_insert_self, if_neg hmem]

/-- Whatever an explorer has done to a sound directory, it can read there what it imports. -/
theorem readable_importText_run {e : Explorer Directory} (h : e.store.store.Sound) (cs : List Command)
    (text : String) : ((e.run cs).store.importText text).2.Readable :=
  LayoutStore.readable_importText_directory (stable_run Directory.stable_sound h cs) text

variable {store : LayoutStore σ} {prefs : Prefs} {host : Host} {now : Int} {log : Log}

/-- An import in front of a diagram. Where it succeeds, the bundle brings a layout for the
diagram and what is stored can be read, the nodes that the layout names go where it has them,
whatever else it names, and the view is fitted once more. Where the bundle brings none, or
the import fails, the diagram is as it was. No timer, no call and no other diagram is touched,
not even one with the same fingerprint. -/
theorem importLayouts_effect (h : Run (initial store prefs host now) log e)
    (hd : e.diagrams[container]? = some d) (text : String) :
    let fp := d.drawing.fingerprint
    let surface := d.drawing.surface
    let reply := (e.importLayouts container text).1
    let e' := (e.importLayouts container text).2
    fp.text ≠ "" ∧
    (∀ n l, reply = some n → Brings text fp l → (e.store.importText text).2.Readable →
      e'.diagrams[container]?
        = some { d with drawing := { d.drawing with surface := surface.laidOut l } }) ∧
    ((∀ l, ¬ Brings text fp l) ∨ reply = none → e'.diagrams[container]? = some d) ∧
    e'.timers = e.timers ∧ e'.calls = e.calls ∧
    ∀ other, other ≠ container → e'.diagrams[other]? = e.diagrams[other]? := by
  intro fp surface reply e'
  obtain ⟨_, s, -, -, hfp⟩ := exists_started_of_run h hd
  obtain ⟨_, -, hwf, hshows⟩ := exists_shows_of_run h hd
  have hnodup := (hshows.drawing.wellFormed hwf).nodup
  refine ⟨?_, fun n l hreply hbrings hreads => ?_, getElem?_importLayouts_of_not_brings hd, ?_⟩
  · change d.drawing.fingerprint.text ≠ ""
    rw [hfp]
    exact Fingerprint.text_ofElements_ne_empty s.elements
  · have hsome := Option.isSome_iff_exists.2 ⟨n, hreply⟩
    exact getElem?_importLayouts_of_brings hd hnodup hsome hbrings hreads
  · obtain ⟨diagrams, store', notices, heq⟩ := e.importLayouts_eq container text
    have htimers : (e.importLayouts container text).2.timers = e.timers := by rw [heq]
    have hcalls : (e.importLayouts container text).2.calls = e.calls := by rw [heq]
    exact ⟨htimers, hcalls, (e.onlyIn_importLayouts container text).diagram⟩

/-- Two diagrams with the same fingerprint, and an entry for a node, one for an edge and one for
nothing that is loaded. Another bundle is for another diagram, and a third one is no object. -/
theorem importLayouts_effect_of_two_diagrams :
    let text := "[[[\"a\",\"state-node\"],[\"l\",\"connector-edge\",\"\",[],\"a\",\"a\"]],[true,[]]]"
    let bundle := "\x7b\"layout:1c37c80c\":\x7b\"a\":[3,4],\"l\":[1,1],\"z\":[2,2]\x7d\x7d"
    let foreign := "\x7b\"layout:deadbeef\":\x7b\"a\":[70,70]\x7d,\"theme\":\"dark\"\x7d"
    let saved := Dict.ofPairs [("a", (⟨3, 4⟩ : Position)), ("l", ⟨1, 1⟩), ("z", ⟨2, 2⟩)]
    let e := (initial (σ := MemoryStore) ⟨{}, false⟩ {} {} 0).run
      [.render "c" text true none, .render "d" text true none]
    ∃ d, e.diagrams["c"]? = some d ∧
      (e.diagrams["d"]?.any (·.drawing.fingerprint = d.drawing.fingerprint)) = true ∧
      (e.importLayouts "c" bundle).1 = some 1 ∧
      (e.importLayouts "c" bundle).2.diagrams["c"]? = some { d with drawing :=
        { d.drawing with surface := d.drawing.surface.laidOut saved } } ∧
      (e.importLayouts "c" bundle).2.diagrams["d"]? = e.diagrams["d"]? ∧
      (e.importLayouts "c" foreign).1 = some 1 ∧
      (e.importLayouts "c" foreign).2.diagrams["c"]? = some d ∧
      (e.importLayouts "c" "[]").1 = none ∧ (e.importLayouts "c" "[]").2.diagrams["c"]? = some d := by
  intro text bundle foreign saved e
  have hrun : Run (initial (σ := MemoryStore) ⟨{}, false⟩ {} {} 0) _ e := run_transcript _ _
  have hshown : (e.diagrams["c"]?.any fun d => d.drawing.fingerprint = ⟨"1c37c80c"⟩ &&
      e.diagrams["d"]?.any (·.drawing.fingerprint = d.drawing.fingerprint)) = true := by
    decide +kernel
  obtain ⟨d, hd, hfingerprints⟩ := (Option.any_eq_true _ _).1 hshown
  rw [Bool.and_eq_true, decide_eq_true_iff] at hfingerprints
  obtain ⟨hfp, hsame⟩ := hfingerprints
  have hread : read? bundle = some [(⟨"1c37c80c"⟩, saved)] := by decide +kernel
  have hread' : read? foreign = some [(⟨"deadbeef"⟩, Dict.ofPairs [("a", ⟨70, 70⟩)])] := by
    decide +kernel
  have hmalformed : Malformed "[]" := malformed_of_read? (by decide +kernel)
  obtain ⟨_, hsave⟩ := (LayoutStore.accepts_memory e.store bundle).exists_saveAll hread
  obtain ⟨_, hsave'⟩ := (LayoutStore.accepts_memory e.store foreign).exists_saveAll hread'
  have hreply := (importLayouts_of_ok hd (LayoutStore.importText_of_saveAll hread hsave)).1
  have hforeign := (importLayouts_of_ok hd (LayoutStore.importText_of_saveAll hread' hsave')).1
  have hrejected :=
    (importLayouts_of_error hd (LayoutStore.importText_of_malformed hmalformed e.store)).1
  obtain ⟨_, -, -, hentries, -⟩ := exists_members_of_read? hread
  obtain ⟨_, -, -, hentries', -⟩ := exists_members_of_read? hread'
  obtain ⟨-, hmoved, -, -, -, hothers⟩ := importLayouts_effect hrun hd bundle
  obtain ⟨-, -, hkept, -⟩ := importLayouts_effect hrun hd foreign
  obtain ⟨-, -, hkept', -⟩ := importLayouts_effect hrun hd "[]"
  rw [hfp] at hmoved hkept
  refine ⟨d, hd, hsame, hreply, ?_, hothers "d" (by decide), hforeign,
    hkept (.inl fun l hbrings => ?_), hrejected, hkept' (.inr hrejected)⟩
  · exact hmoved 1 saved hreply ((hentries _ _).1 (List.mem_singleton.2 rfl))
      (LayoutStore.readable_memory _)
  · have hmem := (hentries' _ l).2 hbrings
    rw [List.mem_singleton, Prod.mk.injEq] at hmem
    exact absurd hmem.1 (by decide)

end Explorer

end Statescope
