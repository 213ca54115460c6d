-- SUMMARY: Free-form data is read back from what is written for it, as long as it is not nested too deeply.
import Mathlib
import Statescope.Json.Value
import Statescope.Proofs.Dict
import Statescope.Proofs.Json.Decoding

/-!
# Free-form data that is written and read

`Value.Fits` says which data can be written: integers of 64 bits, finite numbers, and
records whose members are those of a dictionary, nested not too deeply. All of it is
read back (`Value.roundTrips`), and nothing else is ever read.
-/

namespace Statescope.Value

/-- Data that a document can hold if `depth` arrays and objects may be opened. -/
inductive Fits : Nat → Value → Prop
  | null : Fits depth .null
  | bool : Fits depth (.bool b)
  | integer (hlow : -9223372036854775808 ≤ n) (hhigh : n < 18446744073709551616) :
    Fits depth (.integer n)
  | float (hfinite : Binary64.isFinite x = true) : Fits depth (.float x)
  | text : Fits depth (.text s)
  | list (hitems : ∀ v ∈ items, Fits depth v) : Fits (depth + 1) (.list items)
  | record (members : Dict Value) (hmembers : ∀ p ∈ members.toList, Fits depth p.2) :
    Fits (depth + 1) (.record members.toList)

/-- A record can be written whose members are in the order of their keys. -/
theorem Fits.record_of_sorted {depth : Nat} {members : List (String × Value)}
    (hsorted : members.Pairwise fun p q => compare p.1 q.1 = .lt)
    (h : ∀ p ∈ members, Fits depth p.2) : Fits (depth + 1) (.record members) := by
  rw [← Dict.toList_ofPairs hsorted] at h ⊢
  exact .record _ h

/-! ## Reading what is written -/

theorem membersToJson_eq_map (members : List (String × Value)) :
    membersToJson members = members.map fun (key, v) => (some key, v.toJson) := by
  induction members with
  | nil => rfl
  | cons p ps ih => rw [membersToJson, ih, List.map_cons]

theorem itemsOfJson_itemsToJson {depth : Nat} {items : List Value}
    (h : ∀ v ∈ items, decoder depth v.toJson = some v) :
    itemsOfJson depth (itemsToJson items) = some items := by
  induction items with
  | nil => rfl
  | cons v vs ih =>
    rw [List.forall_mem_cons] at h
    simp [itemsToJson, itemsOfJson, h.1, ih h.2]

theorem membersOfJson_membersToJson {depth : Nat} {members : List (String × Value)}
    (h : ∀ p ∈ members, decoder depth p.2.toJson = some p.2) :
    membersOfJson depth (membersToJson members) = some members := by
  induction members with
  | nil => rfl
  | cons p ps ih =>
    rw [List.forall_mem_cons] at h
    obtain ⟨key, v⟩ := p
    simp [membersToJson, membersOfJson, h.1, ih h.2]

/-- A finite number is read back as this very number. -/
theorem decoder_float (depth : Nat) {x : Float} (h : Binary64.isFinite x = true) :
    decoder depth (.float x) = some (.float x) := by
  obtain ⟨n, hwrite, hread, hinteger⟩ := Numeral.exists_ofFloat? Json.floatStyle (by decide) h
  simp [Json.float, hwrite, decoder, ofNumeral?, hinteger, hread]

theorem Fits.decoder_toJson {depth : Nat} {v : Value} (h : Fits depth v) :
    decoder depth v.toJson = some v := by
  induction h with
  | null => simp [toJson, decoder]
  | bool => simp [toJson, decoder]
  | integer hlow hhigh => simp [toJson, Json.integer, decoder, ofNumeral?, hlow, hhigh]
  | float hfinite => rw [toJson, decoder_float _ hfinite]
  | text => simp [toJson, Json.text, decoder]
  | list _ ih => simp [toJson, decoder, itemsOfJson_itemsToJson ih]
  | record members _ ih => simp [toJson, decoder, membersOfJson_membersToJson ih]

/-! ## What is read -/

theorem fits_of_ofNumeral? {n : Numeral} {v : Value} (h : ofNumeral? n = some v) (depth : Nat) :
    Fits depth v := by
  have hfloat {v : Value} (h : n.toFloat?.map .float = some v) : Fits depth v := by
    rw [Option.map_eq_some_iff] at h
    obtain ⟨x, hx, rfl⟩ := h
    exact .float (Numeral.isFinite_of_toFloat? hx)
  unfold ofNumeral? at h
  split at h
  · split at h
    · rename_i hbounds
      cases h
      exact .integer hbounds.1 hbounds.2
    · exact hfloat h
  · exact hfloat h

mutual

theorem fits_of_decoder (depth : Nat) (j : Json) {v : Value} (h : decoder depth j = some v) :
    Fits depth v := by
  match depth, j with
  | depth, .null =>
    simp only [decoder, Option.some.injEq] at h
    exact h ▸ .null
  | depth, .bool b =>
    simp only [decoder, Option.some.injEq] at h
    exact h ▸ .bool
  | depth, .number n =>
    simp only [decoder] at h
    exact fits_of_ofNumeral? h depth
  | depth, .string s =>
    simp only [decoder, Option.map_eq_some_iff] at h
    obtain ⟨s, -, rfl⟩ := h
    exact .text
  | 0, .array items => simp [decoder] at h
  | 0, .object members => simp [decoder] at h
  | depth + 1, .array items =>
    simp only [decoder, Option.map_eq_some_iff] at h
    obtain ⟨vs, hvs, rfl⟩ := h
    exact .list (fits_of_itemsOfJson depth items hvs)
  | depth + 1, .object members =>
    simp only [decoder, Option.map_eq_some_iff] at h
    obtain ⟨ps, hps, rfl⟩ := h
    refine .record _ ?_
    rintro ⟨key, v⟩ hmem
    have hread := Std.ExtTreeMap.mem_toList_iff_getElem?_eq_some.1 hmem
    exact fits_of_membersOfJson depth members hps _ (Dict.mem_of_getElem?_ofPairs hread)

theorem fits_of_itemsOfJson (depth : Nat) (js : List Json) {vs : List Value}
    (h : itemsOfJson depth js = some vs) : ∀ v ∈ vs, Fits depth v := by
  match js with
  | [] =>
    simp only [itemsOfJson, Option.some.injEq] at h
    simp [← h]
  | j :: js =>
    simp only [itemsOfJson, Option.bind_eq_bind, Option.bind_eq_some_iff] at h
    obtain ⟨v, hv, vs', hvs, heq⟩ := h
    cases heq
    rw [List.forall_mem_cons]
    exact ⟨fits_of_decoder depth j hv, fits_of_itemsOfJson depth js hvs⟩

theorem fits_of_membersOfJson (depth : Nat) (ms : List (Option String × Json))
    {ps : List (String × Value)} (h : membersOfJson depth ms = some ps) :
    ∀ p ∈ ps, Fits depth p.2 := by
  match ms with
  | [] =>
    simp only [membersOfJson, Option.some.injEq] at h
    simp [← h]
  | (key, j) :: ms =>
    simp only [membersOfJson, Option.bind_eq_bind, Option.bind_eq_some_iff] at h
    obtain ⟨key', -, v, hv, ps', hps, heq⟩ := h
    cases heq
    rw [List.forall_mem_cons]
    exact ⟨fits_of_decoder depth j hv, fits_of_membersOfJson depth ms hps⟩

end

/-- Free-form data is read back from what is written for it, and only such data is read. -/
theorem roundTrips : Decoder.RoundTrips toJson decoder Fits 0 :=
  ⟨fun _ hv => hv.decoder_toJson, fun h => fits_of_decoder _ _ h⟩

end Statescope.Value
