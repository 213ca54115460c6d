-- SUMMARY: Layouts and bundles are read back from their documents, directly and by way of free-form data.
import Mathlib
import Statescope.Store.Layouts
import Statescope.Proofs.Graph.Snapshot

/-!
# Layouts and bundles as documents

A stored layout is read as such, but a bundle is read as free-form data first and taken
apart then. Both ways lead back to the layouts that were written, provided that all
coordinates are finite.
-/

namespace Statescope

open Decoder

/-! ## Keys -/

namespace Fingerprint

@[simp] theorem toList_layoutKey (fp : Fingerprint) : fp.layoutKey.toList = keyPrefix ++ fp.text.toList :=
  String.toList_ofList

theorem isPrefixOf_layoutKey (fp : Fingerprint) : keyPrefix.isPrefixOf fp.layoutKey.toList = true := by
  rw [toList_layoutKey, List.isPrefixOf_iff_prefix]
  exact List.prefix_append _ _

theorem layoutKey_injective : Function.Injective layoutKey := by
  intro fp fp' h
  have htext : keyPrefix ++ fp.text.toList = keyPrefix ++ fp'.text.toList := by
    rw [← toList_layoutKey, ← toList_layoutKey, h]
  cases fp
  cases fp'
  exact congrArg mk (String.toList_inj.1 (List.append_cancel_left htext))

/-- A key belongs to a fingerprint if it is the key of this fingerprint, and the
fingerprint is not empty. -/
theorem ofLayoutKey?_eq_some_iff {key : String} {fp : Fingerprint} :
    ofLayoutKey? key = some fp ↔ fp.layoutKey = key ∧ fp.text ≠ "" := by
  constructor
  · intro h
    unfold ofLayoutKey? at h
    split at h
    · rename_i c cs hprefix hdrop
      cases h
      rw [List.isPrefixOf_iff_prefix] at hprefix
      obtain ⟨rest, hrest⟩ := hprefix
      rw [← hrest, List.drop_left] at hdrop
      refine ⟨?_, fun hempty => ?_⟩
      · rw [← String.toList_inj, toList_layoutKey, String.toList_ofList, ← hdrop, hrest]
      · simpa using congrArg String.toList hempty
    · cases h
  · rintro ⟨rfl, hne⟩
    unfold ofLayoutKey?
    rw [isPrefixOf_layoutKey, toList_layoutKey, List.drop_left]
    obtain ⟨text⟩ := fp
    cases hchars : text.toList with
    | nil => exact absurd (String.toList_inj.1 (by rw [hchars]; rfl)) hne
    | cons c cs => simp [← hchars]

end Fingerprint

/-! ## Documents -/

/-- All coordinates are finite. -/
def SavedLayout.IsFinite (l : SavedLayout) : Prop := ∀ (id : String) p, l[id]? = some p → p.IsFinite

theorem SavedLayout.roundTrips :
    RoundTrips SavedLayout.toJson SavedLayout.decoder (fun _ l => l.IsFinite) 2 :=
  Position.roundTrips.dict

/-- All coordinates of all layouts are finite. -/
def LayoutBundle.IsFinite (b : LayoutBundle) : Prop :=
  ∀ (key : String) l, b[key]? = some l → SavedLayout.IsFinite l

theorem LayoutBundle.roundTrips :
    RoundTrips LayoutBundle.toJson LayoutBundle.decoder (fun _ b => b.IsFinite) 3 :=
  SavedLayout.roundTrips.dict

/-! ## Free-form data -/

namespace Position

/-- The position as free-form data. -/
def toValue (p : Position) : Value := .record [("x", .float p.x), ("y", .float p.y)]

@[simp] theorem toJson_toValue (p : Position) : p.toValue.toJson = p.toJson := by
  rw [toValue, Value.toJson, Value.membersToJson_eq_map]
  simp [toJson, Json.record, Value.toJson]

theorem IsFinite.fits_toValue {p : Position} (h : p.IsFinite) (depth : Nat) :
    Value.Fits (depth + 1) p.toValue := by
  apply Value.Fits.record_of_sorted
  · simp only [List.pairwise_cons, List.mem_singleton, forall_eq, List.not_mem_nil, false_imp_iff,
      implies_true, List.Pairwise.nil, and_true]
    decide
  · simp only [List.forall_mem_cons, List.not_mem_nil, false_imp_iff, implies_true, and_true]
    exact ⟨.float h.1, .float h.2⟩

end Position

namespace SavedLayout

/-- The layout as free-form data. -/
def toValue (l : SavedLayout) : Value := .record (l.map fun _ p => p.toValue).toList

@[simp] theorem toJson_toValue (l : SavedLayout) : l.toValue.toJson = l.toJson := by
  rw [toValue, Value.toJson, Value.membersToJson_eq_map, Std.ExtTreeMap.toList_map]
  simp [toJson, Json.dict, Json.record, Function.comp_def]

theorem IsFinite.fits_toValue {l : SavedLayout} (h : l.IsFinite) (depth : Nat) :
    Value.Fits (depth + 2) l.toValue := by
  apply Value.Fits.record
  rintro ⟨id, v⟩ hmem
  rw [Std.ExtTreeMap.toList_map, List.mem_map] at hmem
  obtain ⟨⟨id', p⟩, hp, heq⟩ := hmem
  cases heq
  exact (h id' p (Std.ExtTreeMap.mem_toList_iff_getElem?_eq_some.1 hp)).fits_toValue depth

end SavedLayout

/-! ## Bundles -/

namespace LayoutBundle

/-- The layouts of a bundle under keys that belong to a fingerprint. -/
def entries (b : LayoutBundle) : List (Fingerprint × SavedLayout) :=
  b.toList.filterMap fun (key, l) => (Fingerprint.ofLayoutKey? key).map (·, l)

theorem entries?_of_isFinite {b : LayoutBundle} (h : b.IsFinite) :
    entries? (b.map fun _ l => SavedLayout.toValue l).toList = some b.entries := by
  rw [entries?, Std.ExtTreeMap.toList_map, List.filterMap_map]
  have hentries : (b.toList.filterMap fun e => (Fingerprint.ofLayoutKey? e.1).map (·, e.2.toValue)) =
      b.entries.map fun e => (e.1, e.2.toValue) := by
    simp [entries, List.map_filterMap, Function.comp_def]
  change List.mapM _ (b.toList.filterMap fun e =>
    (Fingerprint.ofLayoutKey? e.1).map (·, e.2.toValue)) = _
  rw [hentries]
  apply mapM_map_eq_some
  rintro ⟨fp, l⟩ hmem
  obtain ⟨⟨key, l'⟩, hl, heq⟩ := List.mem_filterMap.1 hmem
  obtain ⟨fp', -, heq⟩ := Option.map_eq_some_iff.1 heq
  cases heq
  have hfinite := h key l (Std.ExtTreeMap.mem_toList_iff_getElem?_eq_some.1 hl)
  have hread : SavedLayout.decoder depthLimit l.toJson = some l :=
    SavedLayout.roundTrips.reads (by decide) hfinite
  simp [hread]

/-- A bundle is read back from its text, apart from what stands under other keys. -/
theorem read?_indented {b : LayoutBundle} (h : b.IsFinite) :
    read? b.toJson.indented = some b.entries := by
  have hjson : b.toJson = Json.dict Value.toJson (b.map fun _ l => SavedLayout.toValue l) := by
    rw [toJson, Json.dict, Json.dict, Std.ExtTreeMap.toList_map, List.map_map]
    simp [Function.comp_def]
  have hread : (Decoder.dict Value.decoder).readText? b.toJson.indented
      = some (b.map fun _ l => SavedLayout.toValue l) := by
    rw [hjson]
    apply (Value.roundTrips.dict.faithful (by decide)).read_written _ .indented
    intro key v hv
    rw [Std.ExtTreeMap.getElem?_map, Option.map_eq_some_iff] at hv
    obtain ⟨l, hl, rfl⟩ := hv
    exact (h key l hl).fits_toValue 124
  rw [read?, hread]
  exact entries?_of_isFinite h

end LayoutBundle

/-! ## Blobs -/

/-- No document is written as an empty text. -/
@[simp] theorem Json.isEmpty_indented (j : Json) : (Blob.ofText j.indented).isEmpty = false := by
  obtain ⟨c, cs, hrender, -⟩ := exists_cons_render .indented 0 j
  have hne : j.indented ≠ "" := by
    rw [indented, hrender]
    intro hempty
    simpa using congrArg String.toList hempty
  rw [Blob.isEmpty, Blob.ofText, ByteArray.isEmpty, String.toUTF8]
  simpa [beq_eq_false_iff_ne] using hne

namespace SavedLayout

/-- The layout that a blob holds; an empty one holds none. -/
def ofBlob? (b : Blob) : Option SavedLayout := if b.isEmpty then none else decoder.read? b.source

/-- A blob that is neither empty nor a layout. -/
def isCorrupt (b : Blob) : Bool := !b.isEmpty && (decoder.read? b.source).isNone

theorem isFinite_of_ofBlob? {b : Blob} {l : SavedLayout} (h : ofBlob? b = some l) : l.IsFinite := by
  unfold ofBlob? at h
  split at h
  · cases h
  · rw [Decoder.read?, Option.bind_eq_bind, Option.bind_eq_some_iff] at h
    obtain ⟨j, -, hj⟩ := h
    exact roundTrips.fits hj

/-- What is stored for a layout. -/
def toBlob (l : SavedLayout) : Blob := Blob.ofText l.toJson.indented

/-- What is stored for a layout holds it. -/
theorem IsFinite.ofBlob?_toBlob {l : SavedLayout} (h : l.IsFinite) : ofBlob? l.toBlob = some l := by
  have hread : decoder.readText? l.toJson.indented = some l :=
    (roundTrips.faithful (by decide)).read_written l .indented h
  rw [toBlob, ofBlob?, Json.isEmpty_indented, Blob.source_ofText]
  exact hread

/-- A layout can be read back from what is stored for it just if it is finite. -/
@[simp] theorem isSome_ofBlob?_toBlob {l : SavedLayout} : (ofBlob? l.toBlob).isSome = true ↔ l.IsFinite := by
  constructor
  · intro h id p hp
    obtain ⟨l', hl'⟩ := Option.isSome_iff_exists.1 h
    rw [ofBlob?, toBlob, Json.isEmpty_indented, if_neg Bool.false_ne_true, Blob.source_ofText] at hl'
    have hread : decoder.readText? (Json.written toJson .indented l) = some l' := hl'
    rw [Decoder.readText?_written, decoder, Decoder.dict, Option.map_eq_some_iff] at hread
    obtain ⟨ps, hps, -⟩ := hread
    have hmem : (some id, p.toJson) ∈
        (l.toList.map fun e => (e.1, Position.toJson e.2)).map fun e => (some e.1, e.2) := by
      simpa [Std.ExtTreeMap.mem_toList_iff_getElem?_eq_some] using ⟨p, hp, rfl⟩
    obtain ⟨pair, hpair⟩ := Decoder.exists_of_mapM hps hmem
    simp only [Option.bind_eq_bind, Option.bind_eq_some_iff] at hpair
    obtain ⟨-, -, p', hp', -⟩ := hpair
    exact Position.isFinite_of_decoder hp'
  · intro h
    rw [h.ofBlob?_toBlob]
    rfl

@[simp] theorem isCorrupt_toBlob_iff {l : SavedLayout} : isCorrupt l.toBlob = true ↔ ¬ l.IsFinite := by
  rw [← isSome_ofBlob?_toBlob, isCorrupt, ofBlob?, toBlob, Json.isEmpty_indented]
  simp

end SavedLayout

end Statescope
