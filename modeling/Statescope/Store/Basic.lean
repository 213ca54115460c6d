-- SUMMARY: Key-value stores of blobs: the operations, their errors, and a store in memory.
import Statescope.Dict
import Statescope.Json.Wording
import Statescope.Store.Blob

/-!
# Stores

A store keeps blobs under keys. Every operation may fail; one that writes gives
back the store as it is afterwards, whether it failed or not.
-/

namespace Statescope

inductive StoreError where
  | notFound
  /-- The medium refused, for the reason that it gives. -/
  | io (reason : String)
  /-- What is stored is no document of the wanted type. -/
  | undecodable (source : Json.Source)
  | other (reason : String)
deriving DecidableEq

def StoreError.message (w : Wording) : StoreError → String
  | .notFound => "not found"
  | .io reason => "io error: " ++ reason
  | .undecodable source => "serde error: " ++ w.document source
  | .other reason => "other: " ++ reason

class BlobStore (σ : Type) where
  load : σ → String → Except StoreError Blob
  save : σ → String → Blob → Except StoreError Unit × σ
  /-- Removing what is not there is no error. -/
  remove : σ → String → Except StoreError Unit × σ
  /-- The keys in order. -/
  keys : σ → Except StoreError (List String)

/-! ## Memory -/

/-- A store that never fails. -/
structure MemoryStore where
  entries : Dict Blob := ∅
deriving DecidableEq

namespace MemoryStore

instance : BlobStore MemoryStore where
  load s key := match s.entries[key]? with
    | some blob => .ok blob
    | none => .error .notFound
  save s key blob := (.ok (), ⟨s.entries.insert key blob⟩)
  remove s key := (.ok (), ⟨s.entries.erase key⟩)
  keys s := .ok s.entries.keys

end MemoryStore

end Statescope
