-- SUMMARY: The payload of a transition spells that transition and no other.
import Statescope.Graph.Transition
import Statescope.Proofs.Json.RoundTrip

/-!
# Payloads

What the model is told to take can be read back as the very transition, so that two
transitions never have the same payload.
-/

namespace Statescope.Transition

@[simp] theorem decoder_toJson (depth : Nat) (t : Transition) : decoder (depth + 1) t.toJson = some t := by
  obtain ⟨source, target, label, isDelay⟩ := t
  cases isDelay <;> rfl

/-- A payload reads back as the transition it was made from. -/
@[simp] theorem readText?_payload (t : Transition) : decoder.readText? t.payload = some t := by
  rw [payload, Decoder.readText?_compact]
  exact decoder_toJson _ t

end Statescope.Transition
