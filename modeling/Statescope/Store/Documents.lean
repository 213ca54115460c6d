-- SUMMARY: JSON documents in a store: typed loading and saving, and the keys of a namespace.
import Statescope.Json.Decoder
import Statescope.Json.Printer
import Statescope.Store.Basic

/-!
# Documents in stores

Blobs that hold JSON. An empty blob counts as no document. What is saved is
written with indentation.
-/

namespace Statescope

namespace Documents

variable [BlobStore σ]

/-- The document under a key, if there is one. -/
def load (store : σ) (key : String) (d : Decoder α) : Except StoreError (Option α) :=
  match BlobStore.load store key with
  | .error .notFound => .ok none
  | .error e => .error e
  | .ok blob =>
    if blob.isEmpty then .ok none
    else match d.read? blob.source with
      | some a => .ok (some a)
      | none => .error (.undecodable blob.source)

def save (store : σ) (key : String) (j : Json) : Except StoreError Unit × σ :=
  BlobStore.save store key (Blob.ofText j.indented)

/-- The keys that start with the given characters. -/
def keysFrom (store : σ) (start : List Char) : Except StoreError (List String) :=
  (BlobStore.keys store).map fun keys => keys.filter fun key => start.isPrefixOf key.toList

end Documents

end Statescope
