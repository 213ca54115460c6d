-- SUMMARY: Every kind of document is read back from what is written for it, and whatever is read can be written again.
import Mathlib
import Statescope.Prefs
import Statescope.Proofs.Store.Bundle

/-!
# Documents

The documents of the program are snapshots and what they are made of, preferences,
saved layouts, and bundles of layouts. Each of them is read back from its text
(`documents_faithful`).
-/

namespace Statescope

open Decoder

/-! ## Preferences -/

namespace Prefs

/-- The delay is finite, and the times are counted with 64 bits. -/
structure Fits (p : Prefs) : Prop where
  autoAdvanceSeconds : Binary64.isFinite p.autoAdvanceSeconds = true
  flashMillis : p.flashMillis < 1 <<< 64
  oracleMillis : p.oracleMillis < 1 <<< 64

/-- The path, if there is one, can be written into a document. -/
def HasTextPath (p : Prefs) : Prop := p.seedBundle.all (·.text?.isSome) = true

theorem isSome_toJson? (p : Prefs) : p.toJson?.isSome = true ↔ p.HasTextPath := by
  rw [HasTextPath, toJson?]
  cases p.seedBundle with
  | none => simp [pathToJson?]
  | some path => cases hpath : path.text? <;> simp [pathToJson?, hpath]

/-- The path `a\xFF` is no text. -/
example : ({ seedBundle := some ⟨⟨⟨#[0x61, 0xFF]⟩⟩⟩ } : Prefs).toJson?.isNone = true := by decide

/-- What is written for a path, or for none, is read back. -/
theorem optional_seedBundle {f : Fields} {path : Option Path} {j : Json}
    (hwrite : pathToJson? path = some j) (hfind : f.find? "seed_bundle" = some j) :
    ∃ name, f.optional "seed_bundle" text = some name ∧ name.map Path.ofText = path := by
  cases path with
  | none =>
    cases hwrite
    exact ⟨none, default_eq_some .null hfind rfl, rfl⟩
  | some path =>
    obtain ⟨name, hname, rfl⟩ := Option.map_eq_some_iff.1 hwrite
    rw [Path.text?_eq_some_iff.1 hname]
    exact ⟨some name, default_eq_some (.text name) hfind rfl, rfl⟩

theorem decoder_of_toJson? {depth : Nat} {p : Prefs} {j : Json} (hdepth : 1 ≤ depth) (hp : p.Fits)
    (hj : p.toJson? = some j) : decoder depth j = some p := by
  obtain ⟨depth, rfl⟩ := Nat.exists_eq_add_one.2 hdepth
  simp only [toJson?, Option.bind_eq_bind, Option.bind_eq_some_iff] at hj
  obtain ⟨path, hwrite, hj⟩ := hj
  cases hj
  rw [decoder, record_record]
  · generalize hf : Fields.mk depth _ = f
    have hseconds : f.default "auto_advance_secs" float 1 = some p.autoAdvanceSeconds :=
      default_eq_some (.float p.autoAdvanceSeconds) (by rw [← hf]; rfl)
        (roundTrips_float.reads (Nat.zero_le _) hp.autoAdvanceSeconds)
    have hflash : f.default "flash_ms" (natural (1 <<< 64)) 1000 = some p.flashMillis :=
      default_eq_some (.integer p.flashMillis) (by rw [← hf]; rfl) (natural_integer _ hp.flashMillis)
    have horacle : f.default "oracle_timeout_ms" (natural (1 <<< 64)) 5000 = some p.oracleMillis :=
      default_eq_some (.integer p.oracleMillis) (by rw [← hf]; rfl) (natural_integer _ hp.oracleMillis)
    have hlayout : f.default "layout" text "dagre" = some p.layout :=
      default_eq_some (.text p.layout) (by rw [← hf]; rfl) rfl
    have hfind : f.find? "seed_bundle" = some path := by
      rw [← hf]
      rfl
    obtain ⟨name, hname, hseed⟩ := optional_seedBundle hwrite hfind
    simp only [hseconds, hflash, horacle, hlayout, hname]
    exact congrArg (fun path => some { p with seedBundle := path }) hseed
  · exact .refl _
  · decide

/-- What is read fits, and its path is a text. -/
theorem fits_of_decoder {depth : Nat} {j : Json} {p : Prefs} (h : decoder depth j = some p) :
    p.Fits ∧ p.HasTextPath := by
  obtain ⟨f, -, hbuild⟩ := exists_of_record h
  simp only [Option.bind_eq_bind, Option.bind_eq_some_iff] at hbuild
  obtain ⟨seconds, hseconds, flash, hflash, oracle, horacle, layout, -, path, -, heq⟩ := hbuild
  cases heq
  have hmillis {name : String} {n n' : Nat} (hn' : n' < 1 <<< 64)
      (hn : f.default name (natural (1 <<< 64)) n' = some n) : n < 1 <<< 64 := by
    unfold Fields.default at hn
    split at hn
    · cases hn
      exact hn'
    · exact lt_of_natural hn
  refine ⟨⟨roundTrips_float.fits_of_default hseconds (by decide), hmillis (by decide) hflash,
    hmillis (by decide) horacle⟩, ?_⟩
  cases path <;> simp [HasTextPath]

theorem partlyFaithful : PartlyFaithful toJson? decoder Fits HasTextPath :=
  .of_reads isSome_toJson? (decoder_of_toJson? (by decide)) fits_of_decoder

end Prefs

/-! ## All documents -/

/-- Documents of every kind are read back from their compact and from their indented
texts. Whatever is read from any text at all, in object or in array form, with members
unknown or left out, is read again from the text that is written for it, which leads to
the same text again; a snapshot that is accepted is accepted again. Every value has a
document but for preferences whose path is no text. -/
theorem documents_faithful :
    Faithful Element.toJson Element.decoder Element.IsFinite ∧
    Faithful Position.toJson Position.decoder Position.IsFinite ∧
    Faithful ElementKind.toJson ElementKind.decoder (fun _ => True) ∧
    Faithful Transition.toJson Transition.decoder (fun _ => True) ∧
    Faithful EnabledTransition.toJson EnabledTransition.decoder (fun _ => True) ∧
    Faithful PanelData.toJson PanelData.decoder (PanelData.Fits depthLimit) ∧
    Faithful StepKind.toJson StepKind.decoder (fun _ => True) ∧
    Faithful Snapshot.toJson Snapshot.decoder (Snapshot.Fits depthLimit) ∧
    PartlyFaithful Prefs.toJson? Prefs.decoder Prefs.Fits Prefs.HasTextPath ∧
    Faithful SavedLayout.toJson SavedLayout.decoder SavedLayout.IsFinite ∧
    Faithful LayoutBundle.toJson LayoutBundle.decoder LayoutBundle.IsFinite ∧
    ∀ text s style, Snapshot.read text = .ok s →
      Snapshot.read (Json.written Snapshot.toJson style s) = .ok s :=
  ⟨Element.roundTrips.faithful (by decide), Position.roundTrips.faithful (by decide),
    ElementKind.roundTrips.faithful (by decide), Transition.roundTrips.faithful (by decide),
    EnabledTransition.roundTrips.faithful (by decide), PanelData.roundTrips.faithful (by decide),
    StepKind.roundTrips.faithful (by decide), Snapshot.roundTrips.faithful (by decide),
    Prefs.partlyFaithful, SavedLayout.roundTrips.faithful (by decide),
    LayoutBundle.roundTrips.faithful (by decide), fun _ _ style h => Snapshot.read_written h style⟩

/-- A lamp that is off and may be switched on, with a clock and a variable. -/
def Snapshot.lamp : Snapshot where
  elements := [{ id := "off", kind := .state, label := "Off", position := some ⟨0.5, -3⟩ },
    { id := "on", kind := .state, label := "On" },
    { id := "edge", kind := .connector, source := some "off", target := some "on" }]
  panel := {
    canUndo := true
    enabled := [⟨⟨"off", "on", "press", false⟩, "Press"⟩]
    clocks := Dict.ofPairs [("t", 1.5)]
    vars := Dict.ofPairs [("uses", .list [.integer 3, .float 0.25])] }
  declaredKind := some .reset

theorem documents_faithful_lamp :
    Snapshot.Fits depthLimit Snapshot.lamp ∧
      Snapshot.read (Json.written Snapshot.toJson .indented Snapshot.lamp) = .ok Snapshot.lamp ∧
      Snapshot.read (Json.written Snapshot.toJson .compact Snapshot.lamp) = .ok Snapshot.lamp := by
  have hfits : Snapshot.Fits depthLimit Snapshot.lamp := by
    refine ⟨?_, ?_, ?_⟩
    · intro e he p hp
      simp only [Snapshot.lamp, List.mem_cons, List.not_mem_nil, or_false] at he
      obtain rfl | rfl | rfl := he
      · cases hp
        exact ⟨by decide, by decide⟩
      · cases hp
      · cases hp
    · intro key x hx
      have hmem := Dict.mem_of_getElem?_ofPairs hx
      simp only [List.mem_singleton] at hmem
      cases hmem
      decide
    · intro key v hv
      have hmem := Dict.mem_of_getElem?_ofPairs hv
      simp only [List.mem_singleton] at hmem
      cases hmem
      apply Value.Fits.list
      simp only [List.forall_mem_cons]
      exact ⟨.integer (by decide) (by decide), .float (by decide), nofun⟩
  obtain ⟨-, -, -, -, -, -, -, hsnapshot, -, -, -, hread⟩ := documents_faithful
  have hlamp : Snapshot.read (Json.written Snapshot.toJson .indented Snapshot.lamp) = .ok Snapshot.lamp := by
    have hwell : Snapshot.elementsError? Snapshot.lamp.elements = none := by decide
    rw [Snapshot.read, hsnapshot.read_written _ _ hfits]
    simp only [hwell]
  exact ⟨hfits, hlamp, hread _ _ _ hlamp⟩

end Statescope
