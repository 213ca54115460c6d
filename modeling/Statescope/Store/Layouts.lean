-- SUMMARY: Saved layouts by fingerprint, and bundles of them for export, import and seeding.
import Statescope.Graph.Fingerprint
import Statescope.Json.Value
import Statescope.Store.Documents

/-!
# Saved layouts

A saved layout holds the positions of the nodes of one diagram and is stored
under the key of the diagram's fingerprint. A bundle is a JSON object of layouts
by key. An import is read as a whole before anything is written.
-/

namespace Statescope

/-! ## Layouts and bundles -/

/-- The positions of nodes by id. -/
abbrev SavedLayout := Dict Position

namespace SavedLayout

def toJson (l : SavedLayout) : Json := .dict Position.toJson l

def decoder : Decoder SavedLayout := .dict Position.decoder

end SavedLayout

/-- Saved layouts by key. -/
abbrev LayoutBundle := Dict SavedLayout

namespace LayoutBundle

def toJson (b : LayoutBundle) : Json := .dict SavedLayout.toJson b

/-- A bundle whose entries are all layouts, whatever their keys. -/
def decoder : Decoder LayoutBundle := .dict SavedLayout.decoder

/-- The layouts among the entries of a document, in the order of their keys. Entries
under other keys may hold anything. -/
def entries? (entries : List (String × Value)) : Option (List (Fingerprint × SavedLayout)) :=
  (entries.filterMap fun (key, v) => (Fingerprint.ofLayoutKey? key).map (·, v)).mapM
    fun (fp, v) => do return (fp, ← SavedLayout.decoder Decoder.depthLimit v.toJson)

/-- The layouts of a bundle. The document is read as free-form data first, so of a
repeated key the last value counts on every level. -/
def read? (text : String) : Option (List (Fingerprint × SavedLayout)) := do
  let document ← (Decoder.dict Value.decoder).readText? text
  entries? document.toList

end LayoutBundle

inductive LayoutError where
  /-- There is nothing to export. -/
  | empty
  /-- The text is no bundle. -/
  | malformed (text : String)
  | store (cause : StoreError)
deriving DecidableEq

def LayoutError.message (w : Wording) : LayoutError → String
  | .empty => "no saved layouts to export"
  | .malformed text => "malformed layout bundle: " ++ w.bundle text
  | .store cause => "layout store error: " ++ cause.message w

/-! ## The store -/

structure LayoutStore (σ : Type) where
  store : σ
  /-- Whether the one attempt at seeding has been made. -/
  seedAttempted : Bool := false
deriving DecidableEq

namespace LayoutStore

variable [BlobStore σ]

/-- Saves a layout, in place of any other one of the fingerprint. -/
def save (s : LayoutStore σ) (fp : Fingerprint) (l : SavedLayout) :
    Except LayoutError Unit × LayoutStore σ :=
  let (r, store) := Documents.save s.store fp.layoutKey l.toJson
  (r.mapError .store, { s with store })

/-- The layout of a fingerprint. An entry that cannot be read is removed and counts as
absent. -/
def load (s : LayoutStore σ) (fp : Fingerprint) : Option SavedLayout × LayoutStore σ :=
  match Documents.load s.store fp.layoutKey SavedLayout.decoder with
  | .ok found => (found, s)
  | .error (.undecodable _) => (none, { s with store := (BlobStore.remove s.store fp.layoutKey).2 })
  | .error _ => (none, s)

/-- The number of keys in the namespace of layouts. -/
def size (s : LayoutStore σ) : Except LayoutError Nat :=
  ((Documents.keysFrom s.store Fingerprint.keyPrefix).map List.length).mapError .store

/-! ## Export -/

/-- Adds the layout under a key to a bundle, if it can be read. -/
def collect (acc : LayoutBundle × LayoutStore σ) (key : String) : LayoutBundle × LayoutStore σ :=
  match Fingerprint.ofLayoutKey? key with
  | none => acc
  | some fp =>
    let (found, s) := acc.2.load fp
    (match found with
      | some l => acc.1.insert key l
      | none => acc.1, s)

/-- All layouts that can be read. -/
def exportAll (s : LayoutStore σ) : Except LayoutError LayoutBundle × LayoutStore σ :=
  match Documents.keysFrom s.store Fingerprint.keyPrefix with
  | .error e => (.error (.store e), s)
  | .ok keys =>
    let (bundle, s) := keys.foldl collect (∅, s)
    (if bundle.isEmpty then .error .empty else .ok bundle, s)

/-- The text of the bundle of all layouts. -/
def exportText (s : LayoutStore σ) : Except LayoutError String × LayoutStore σ :=
  let (r, s) := s.exportAll
  (r.map fun bundle => bundle.toJson.indented, s)

/-! ## Import -/

/-- Saves layouts one after the other, up to the first one that is refused. -/
def saveAll (s : LayoutStore σ) :
    List (Fingerprint × SavedLayout) → Except LayoutError Unit × LayoutStore σ
  | [] => (.ok (), s)
  | (fp, l) :: rest =>
    match s.save fp l with
    | (.error e, s) => (.error e, s)
    | (.ok (), s) => s.saveAll rest

/-- Saves the layouts of a bundle and names their fingerprints. -/
def importText (s : LayoutStore σ) (text : String) :
    Except LayoutError (List Fingerprint) × LayoutStore σ :=
  match LayoutBundle.read? text with
  | none => (.error (.malformed text), s)
  | some entries =>
    let (r, s) := s.saveAll entries
    (r.map fun _ => entries.map (·.1), s)

/-- Imports the bundle of a file, once only and only if there are no layouts. Gives the
number of layouts imported. -/
def seed (s : LayoutStore σ) (file : Option Blob) : Nat × LayoutStore σ :=
  if s.seedAttempted then (0, s)
  else
    let s := { s with seedAttempted := true }
    match s.size, file >>= Blob.text? with
    | .ok 0, some text =>
      match s.importText text with
      | (.ok fps, s) => (fps.length, s)
      | (.error _, s) => (0, s)
    | _, _ => (0, s)

end LayoutStore

end Statescope
