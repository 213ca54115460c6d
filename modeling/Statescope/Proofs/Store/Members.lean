-- SUMMARY: What the text of a bundle says: the last value under each key, and which of these are layouts.
import Mathlib
import Statescope.Proofs.Store.Bundle

/-!
# Members of bundles

A bundle is read in two steps, and the layouts among its members are collected in the order of
their keys. `Malformed` and `Brings` say what comes of it, by the members as they are written.
-/

namespace Statescope

/-- The layout that free-form data are read as. -/
def Value.layout? (v : Value) : Option SavedLayout := SavedLayout.decoder Decoder.depthLimit v.toJson

namespace LayoutBundle

/-- The members of the object that a text spells, in the order in which they are written. -/
def members? (text : String) : Option (List (String × Value)) :=
  (Decoder.members Value.decoder).readText? text

/-- The value under the key of a fingerprint. Of several values the last one counts. -/
def valueOf? (ms : List (String × Value)) (fp : Fingerprint) : Option Value :=
  ms.reverse.lookup fp.layoutKey

/-- The text spells no object, or the object has something else than a layout under the key of
a fingerprint. -/
inductive Malformed (text : String) : Prop where
  | noObject (h : members? text = none)
  | noLayout {ms : List (String × Value)} {fp : Fingerprint} {v : Value}
    (hmembers : members? text = some ms) (hfp : fp.text ≠ "") (hvalue : valueOf? ms fp = some v)
    (hlayout : v.layout? = none)

/-- The text has this layout for the fingerprint. -/
def Brings (text : String) (fp : Fingerprint) (l : SavedLayout) : Prop :=
  ∃ ms v, members? text = some ms ∧ fp.text ≠ "" ∧ valueOf? ms fp = some v ∧ v.layout? = some l

variable {text : String} {fp : Fingerprint} {l : SavedLayout}
  {entries : List (Fingerprint × SavedLayout)}

theorem Brings.unique {l' : SavedLayout} (h : Brings text fp l) (h' : Brings text fp l') :
    l' = l := by
  obtain ⟨ms, v, hmembers, -, hvalue, hlayout⟩ := h
  obtain ⟨ms', v', hmembers', -, hvalue', hlayout'⟩ := h'
  cases hmembers.symm.trans hmembers'
  cases hvalue.symm.trans hvalue'
  exact Option.some_inj.1 (hlayout'.symm.trans hlayout)

/-- What a bundle brings is finite, as is all that is read. -/
theorem Brings.isFinite (h : Brings text fp l) : l.IsFinite := by
  obtain ⟨_, _, -, -, -, hlayout⟩ := h
  exact SavedLayout.roundTrips.fits hlayout

/-! ## Values -/

/-- The values under the keys of fingerprints, in the order of the keys. -/
def values (document : Dict Value) : List (Fingerprint × Value) :=
  document.toList.filterMap fun p => (Fingerprint.ofLayoutKey? p.1).map (·, p.2)

theorem mem_values {ms : List (String × Value)} {v : Value} :
    (fp, v) ∈ values (Dict.ofPairs ms) ↔ fp.text ≠ "" ∧ valueOf? ms fp = some v := by
  rw [values, List.mem_filterMap, valueOf?, ← Dict.getElem?_ofPairs]
  constructor
  · rintro ⟨⟨key, v'⟩, hmem, hkey⟩
    obtain ⟨fp', hfp, heq⟩ := Option.map_eq_some_iff.1 hkey
    cases heq
    obtain ⟨rfl, hne⟩ := Fingerprint.ofLayoutKey?_eq_some_iff.1 hfp
    exact ⟨hne, Std.ExtTreeMap.mem_toList_iff_getElem?_eq_some.1 hmem⟩
  · rintro ⟨hne, hv⟩
    have hkey := Fingerprint.ofLayoutKey?_eq_some_iff.2 ⟨rfl, hne⟩
    exact ⟨(fp.layoutKey, v), Std.ExtTreeMap.mem_toList_iff_getElem?_eq_some.2 hv, by simp [hkey]⟩

theorem pairwise_values (document : Dict Value) :
    ((values document).map (·.1)).Pairwise fun fp fp' =>
      compare fp.layoutKey fp'.layoutKey = .lt := by
  rw [values, List.pairwise_map, List.pairwise_filterMap]
  refine Std.ExtTreeMap.ordered_keys_toList.imp fun {p p'} hlt e he e' he' => ?_
  obtain ⟨fp, hfp, rfl⟩ := Option.map_eq_some_iff.1 he
  obtain ⟨fp', hfp', rfl⟩ := Option.map_eq_some_iff.1 he'
  rwa [(Fingerprint.ofLayoutKey?_eq_some_iff.1 hfp).1,
    (Fingerprint.ofLayoutKey?_eq_some_iff.1 hfp').1]

/-! ## Reading -/

/-- An object is read, and then the layouts among its values. -/
theorem read?_eq (text : String) :
    read? text = (members? text).bind fun ms =>
      (values (Dict.ofPairs ms)).mapM fun e => e.2.layout?.map (e.1, ·) := by
  have hdocument : (Decoder.dict Value.decoder).readText? text
      = (members? text).map Dict.ofPairs := by
    simp only [members?, Decoder.readText?, Decoder.read?, Decoder.dict, Option.bind_eq_bind]
    exact (Option.map_bind ..).symm
  rw [read?, hdocument]
  cases members? text with
  | none => rfl
  | some ms =>
    simp only [Option.map_some, Option.bind_eq_bind, Option.bind_some]
    rw [entries?, values]
    congr 1
    funext e
    simp only [Value.layout?]
    cases SavedLayout.decoder Decoder.depthLimit e.2.toJson <;> rfl

theorem read?_of_malformed (h : Malformed text) : read? text = none := by
  rw [read?_eq]
  cases h with
  | noObject h => rw [h, Option.bind_none]
  | @noLayout ms fp v hmembers hfp hvalue hlayout =>
    rw [hmembers, Option.bind_some, Option.eq_none_iff_forall_ne_some]
    intro entries hentries
    obtain ⟨_, hread⟩ := Decoder.exists_of_mapM hentries (mem_values.2 ⟨hfp, hvalue⟩)
    rw [hlayout] at hread
    cases hread

theorem malformed_of_read? (h : read? text = none) : Malformed text := by
  rw [read?_eq] at h
  cases hmembers : members? text with
  | none => exact .noObject hmembers
  | some ms =>
    rw [hmembers, Option.bind_some] at h
    obtain ⟨⟨fp, v⟩, hmem, hlayout⟩ := Decoder.exists_of_mapM_eq_none h
    obtain ⟨hfp, hvalue⟩ := mem_values.1 hmem
    exact .noLayout hmembers hfp hvalue (Option.map_eq_none_iff.1 hlayout)

/-- What is read are the layouts that the text brings, in the order of their keys. -/
theorem exists_members_of_read? (h : read? text = some entries) :
    ∃ ms, members? text = some ms ∧
      (∀ fp, fp ∈ entries.map (·.1) ↔ fp.text ≠ "" ∧ ∃ v, valueOf? ms fp = some v) ∧
      (∀ fp l, (fp, l) ∈ entries ↔ Brings text fp l) ∧
      (entries.map (·.1)).Pairwise fun fp fp' => compare fp.layoutKey fp'.layoutKey = .lt := by
  rw [read?_eq, Option.bind_eq_some_iff] at h
  obtain ⟨ms, hmembers, hentries⟩ := h
  have hrelated := Decoder.forall₂_of_mapM hentries
  have hfps : entries.map (·.1) = (values (Dict.ofPairs ms)).map (·.1) := by
    refine map_eq_of_forall₂ hrelated fun e e' he => ?_
    obtain ⟨l, -, rfl⟩ := Option.map_eq_some_iff.1 he
    rfl
  refine ⟨ms, hmembers, fun fp => ?_, fun fp l => ⟨fun hmem => ?_, ?_⟩, hfps ▸ pairwise_values _⟩
  · rw [hfps, List.mem_map]
    constructor
    · rintro ⟨⟨fp, v⟩, hmem, rfl⟩
      obtain ⟨hfp, hvalue⟩ := mem_values.1 hmem
      exact ⟨hfp, v, hvalue⟩
    · rintro ⟨hfp, v, hvalue⟩
      exact ⟨(fp, v), mem_values.2 ⟨hfp, hvalue⟩, rfl⟩
  · obtain ⟨⟨fp', v⟩, hvalue, hread⟩ := exists_left_of_mem hrelated hmem
    obtain ⟨l', hlayout, heq⟩ := Option.map_eq_some_iff.1 hread
    cases heq
    obtain ⟨hfp, hvalue⟩ := mem_values.1 hvalue
    exact ⟨ms, v, hmembers, hfp, hvalue, hlayout⟩
  · rintro ⟨ms', v, hmembers', hfp, hvalue, hlayout⟩
    cases hmembers.symm.trans hmembers'
    obtain ⟨entry, hmem, hread⟩ := exists_right_of_mem hrelated (mem_values.2 ⟨hfp, hvalue⟩)
    rw [hlayout, Option.map_some, Option.some_inj] at hread
    exact hread ▸ hmem

end LayoutBundle

end Statescope
