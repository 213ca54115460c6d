-- SUMMARY: Diagrams, panels and snapshots are read back from what is written for them.
import Mathlib
import Statescope.Graph.Snapshot
import Statescope.Proofs.Graph.Transition
import Statescope.Proofs.Json.Value

/-!
# Snapshots that are written and read

Every type that a snapshot is made of is read back from its documents, as long as its
numbers are finite and its free-form data can be written.
-/

namespace Statescope

open Decoder

/-! ## Positions and elements -/

theorem Json.float_of_not_isFinite {x : Float} (h : Binary64.isFinite x = false) :
    Json.float x = .null := by
  simp [Json.float, Numeral.ofFloat?, h]

namespace Position

def IsFinite (p : Position) : Prop := Binary64.isFinite p.x = true ∧ Binary64.isFinite p.y = true

@[simp] theorem toJson_ne_null (p : Position) : p.toJson ≠ .null := nofun

theorem roundTrips : RoundTrips toJson decoder (fun _ p => p.IsFinite) 1 where
  reads {depth p} hdepth hp := by
    obtain ⟨depth, rfl⟩ := Nat.exists_eq_add_one.2 hdepth
    have hx : float depth (.float p.x) = some p.x := roundTrips_float.reads (Nat.zero_le _) hp.1
    have hy : float depth (.float p.y) = some p.y := roundTrips_float.reads (Nat.zero_le _) hp.2
    rw [decoder, toJson, record_record]
    · simp [Fields.required, List.lookup, hx, hy]
    · exact .refl _
    · decide
  fits {depth j p} h := by
    obtain ⟨f, -, hbuild⟩ := exists_of_record h
    simp only [Option.bind_eq_bind, Option.bind_eq_some_iff] at hbuild
    obtain ⟨x, hx, y, hy, heq⟩ := hbuild
    cases heq
    exact ⟨roundTrips_float.fits_of_required hx, roundTrips_float.fits_of_required hy⟩

/-- What is written for a position can only be read if it is finite. -/
theorem isFinite_of_decoder {depth : Nat} {p p' : Position}
    (h : decoder depth p.toJson = some p') : p.IsFinite := by
  have hnull {depth : Nat} {x y : Float} (hread : float depth (.float x) = some y) :
      Binary64.isFinite x = true := by
    by_contra hx
    rw [Json.float_of_not_isFinite (Bool.eq_false_of_not_eq_true hx)] at hread
    cases hread
  cases depth with
  | zero => cases h
  | succ depth =>
    rw [decoder, toJson, record_record] at h
    · simp only [Option.bind_eq_bind, Option.bind_eq_some_iff] at h
      obtain ⟨x, hx, y, hy, -⟩ := h
      exact ⟨hnull hx, hnull hy⟩
    · exact .refl _
    · decide

end Position

theorem ElementKind.roundTrips :
    RoundTrips ElementKind.toJson ElementKind.decoder (fun _ _ => True) 0 where
  reads {_ k} _ _ := by cases k <;> rfl
  fits _ := trivial

namespace Element

/-- The position is finite, if there is one. -/
def IsFinite (e : Element) : Prop := ∀ p, e.position = some p → p.IsFinite

theorem roundTrips : RoundTrips toJson decoder (fun _ e => e.IsFinite) 2 where
  reads {depth e} hdepth he := by
    obtain ⟨depth, rfl⟩ := Nat.exists_eq_add_of_le' hdepth
    rw [decoder, toJson, record_record]
    · generalize hf : Fields.mk (depth + 1) _ = f
      have hdepth : f.depth = depth + 1 := by rw [← hf]
      have hid : f.required "id" text = some e.id :=
        required_eq_some (.text e.id) (by rw [← hf]; rfl) rfl
      have hkind : f.required "kind" ElementKind.decoder = some e.kind :=
        required_eq_some e.kind.toJson (by rw [← hf]; rfl)
          (ElementKind.roundTrips.reads (Nat.zero_le _) trivial)
      have hlabel : f.default "label" text "" = some e.label :=
        default_eq_some (.text e.label) (by rw [← hf]; rfl) rfl
      have hclasses : f.default "classes" (.list text) [] = some e.classes.toList :=
        default_eq_some (.array (e.classes.toList.map .text)) (by rw [← hf]; rfl)
          (roundTrips_text.list.reads (by omega) fun _ _ => trivial)
      have hsource : f.optional "source" text = some e.source :=
        optional_eq_some .text (by simp [← hf, List.lookup_append, List.lookup_cons, lookup_optional])
          nofun fun _ _ => rfl
      have htarget : f.optional "target" text = some e.target :=
        optional_eq_some .text (by simp [← hf, List.lookup_append, List.lookup_cons, lookup_optional])
          nofun fun _ _ => rfl
      have hposition : f.optional "position" Position.decoder = some e.position :=
        optional_eq_some Position.toJson
          (by simp [← hf, List.lookup_append, List.lookup_cons, lookup_optional])
          Position.toJson_ne_null fun p hp => Position.roundTrips.reads (by omega) (he p hp)
      simp [hid, hkind, hlabel, hclasses, hsource, htarget, hposition]
    · simp only [List.map_append]
      exact (((List.Sublist.refl _).append (optional_sublist _ _ _)).append
        (optional_sublist _ _ _)).append (optional_sublist _ _ _)
    · decide
  fits {depth j e} h := by
    obtain ⟨f, -, hbuild⟩ := exists_of_record h
    simp only [Option.bind_eq_bind, Option.bind_eq_some_iff] at hbuild
    obtain ⟨id, -, kind, -, label, -, classes, -, source, -, target, -, position, hposition, heq⟩ :=
      hbuild
    cases heq
    rintro p rfl
    exact Position.roundTrips.fits_of_optional hposition

end Element

/-! ## Transitions -/

theorem Transition.roundTrips :
    RoundTrips Transition.toJson Transition.decoder (fun _ _ => True) 1 where
  reads {depth t} hdepth _ := by
    obtain ⟨depth, rfl⟩ := Nat.exists_eq_add_one.2 hdepth
    exact t.decoder_toJson depth
  fits _ := trivial

@[simp] theorem Transition.toJson_ne_null (t : Transition) : t.toJson ≠ .null := nofun

/-- The caption is a member among those of the transition, and under a name of its own. -/
theorem EnabledTransition.roundTrips :
    RoundTrips EnabledTransition.toJson EnabledTransition.decoder (fun _ _ => True) 1 where
  reads {depth e} hdepth _ := by
    obtain ⟨depth, rfl⟩ := Nat.exists_eq_add_one.2 hdepth
    obtain ⟨⟨source, target, label, isDelay⟩, caption⟩ := e
    cases isDelay <;> rfl
  fits _ := trivial

/-! ## Panels -/

namespace PanelData

/-- Clocks are finite, and variables can be written where `depth` arrays and objects may
be opened for the panel. -/
structure Fits (depth : Nat) (p : PanelData) : Prop where
  clocks : ∀ (key : String) x, p.clocks[key]? = some x → Binary64.isFinite x = true
  vars : ∀ (key : String) v, p.vars[key]? = some v → Value.Fits (depth - 2) v

theorem roundTrips : RoundTrips toJson decoder Fits 3 where
  reads {depth p} hdepth hp := by
    obtain ⟨depth, rfl⟩ := Nat.exists_eq_add_of_le' hdepth
    rw [decoder, toJson, record_record]
    · generalize hf : Fields.mk (depth + 2) _ = f
      have hdepth : f.depth = depth + 2 := by rw [← hf]
      have hundo : f.required "canUndo" bool = some p.canUndo :=
        required_eq_some (.bool p.canUndo) (by rw [← hf]; rfl) rfl
      have henabled : f.required "enabled" (.list EnabledTransition.decoder) = some p.enabled :=
        required_eq_some (.array (p.enabled.map (·.toJson))) (by rw [← hf]; rfl)
          (EnabledTransition.roundTrips.list.reads (by omega) fun _ _ => trivial)
      have hclocks : f.default "clocks" (.dict float) ∅ = some p.clocks :=
        default_eq_some (.dict .float p.clocks) (by rw [← hf]; rfl)
          (roundTrips_float.dict.reads (by omega) hp.clocks)
      have hvars : f.default "variables" (.dict Value.decoder) ∅ = some p.vars :=
        default_eq_some (.dict Value.toJson p.vars) (by rw [← hf]; rfl)
          (Value.roundTrips.dict.reads (by omega) (by rw [hdepth]; exact hp.vars))
      simp [hundo, henabled, hclocks, hvars]
    · exact .refl _
    · decide
  fits {depth j p} h := by
    obtain ⟨f, hdepth, hbuild⟩ := exists_of_record h
    simp only [Option.bind_eq_bind, Option.bind_eq_some_iff] at hbuild
    obtain ⟨canUndo, -, enabled, -, clocks, hclocks, vars, hvars, heq⟩ := hbuild
    cases heq
    have hvars := Value.roundTrips.dict.fits_of_default hvars (by simp)
    rw [← hdepth]
    exact ⟨roundTrips_float.dict.fits_of_default hclocks (by simp), hvars⟩

end PanelData

/-! ## Snapshots -/

theorem StepKind.roundTrips :
    RoundTrips StepKind.toJson StepKind.decoder (fun _ _ => True) 0 where
  reads {_ k} _ _ := by cases k <;> rfl
  fits _ := trivial

@[simp] theorem StepKind.toJson_ne_null (k : StepKind) : k.toJson ≠ .null := nofun

namespace Snapshot

/-- Positions are finite, and the panel can be written. -/
structure Fits (depth : Nat) (s : Snapshot) : Prop where
  elements : ∀ e ∈ s.elements, e.IsFinite
  panel : s.panel.Fits (depth - 1)

theorem roundTrips : RoundTrips toJson decoder Fits 4 where
  reads {depth s} hdepth hs := by
    obtain ⟨depth, rfl⟩ := Nat.exists_eq_add_of_le' hdepth
    rw [decoder, toJson, record_record]
    · generalize hf : Fields.mk (depth + 3) _ = f
      have hdepth : f.depth = depth + 3 := by rw [← hf]
      have helements : f.required "graphElements" (.list Element.decoder) = some s.elements :=
        required_eq_some (.array (s.elements.map (·.toJson))) (by rw [← hf]; rfl)
          (Element.roundTrips.list.reads (by omega) hs.elements)
      have hpanel : f.required "panelData" PanelData.decoder = some s.panel :=
        required_eq_some s.panel.toJson (by rw [← hf]; rfl)
          (PanelData.roundTrips.reads (by omega) (by rw [hdepth]; exact hs.panel))
      have htransition : f.optional "lastTransition" Transition.decoder = some s.lastTransition :=
        optional_eq_some Transition.toJson
          (by simp [← hf, List.lookup_append, List.lookup_cons, lookup_optional])
          Transition.toJson_ne_null fun _ _ => Transition.roundTrips.reads (by omega) trivial
      have hkind : f.optional "transitionKind" StepKind.decoder = some s.declaredKind :=
        optional_eq_some StepKind.toJson
          (by simp [← hf, List.lookup_append, List.lookup_cons, lookup_optional])
          StepKind.toJson_ne_null fun _ _ => StepKind.roundTrips.reads (Nat.zero_le _) trivial
      simp [helements, hpanel, htransition, hkind]
    · simp only [List.map_append]
      exact ((List.Sublist.refl _).append (optional_sublist _ _ _)).append (optional_sublist _ _ _)
    · decide
  fits {depth j s} h := by
    obtain ⟨f, hdepth, hbuild⟩ := exists_of_record h
    simp only [Option.bind_eq_bind, Option.bind_eq_some_iff] at hbuild
    obtain ⟨elements, helements, panel, hpanel, transition, -, kind, -, heq⟩ := hbuild
    cases heq
    rw [← hdepth]
    exact ⟨Element.roundTrips.list.fits_of_required helements,
      PanelData.roundTrips.fits_of_required hpanel⟩

/-- A snapshot that has been read is read again from what is written for it, and is
found to be well formed again. -/
theorem read_written {text : String} {s : Snapshot} (h : read text = .ok s) (style : Json.Style) :
    read (Json.written toJson style s) = .ok s := by
  unfold read at h ⊢
  cases hread : decoder.readText? text with
  | none =>
    rw [hread] at h
    cases h
  | some s' =>
    rw [hread] at h
    cases herror : elementsError? s'.elements with
    | some e =>
      simp only [herror] at h
      cases h
    | none =>
      simp only [herror, Except.ok.injEq] at h
      subst h
      have hfaithful := roundTrips.faithful (by decide)
      rw [hfaithful.read_rewritten text s' style hread]
      simp only [herror]

end Snapshot

end Statescope
