-- SUMMARY: A store some of whose operations are out of order.
import Statescope.Store.Basic

/-!
# Unreliable stores

A store around another one, in which the operations of a given set fail without
doing anything.
-/

namespace Statescope

inductive StoreOperation where
  | load
  | save
  | remove
  | keys
deriving DecidableEq

def StoreOperation.name : StoreOperation → String
  | .load => "load"
  | .save => "save"
  | .remove => "remove"
  | .keys => "keys"

structure UnreliableStore (σ : Type) where
  store : σ
  failing : List StoreOperation := []

namespace UnreliableStore

def failure (op : StoreOperation) : StoreError := .other (op.name ++ " failed")

instance [BlobStore σ] : BlobStore (UnreliableStore σ) where
  load s key := if .load ∈ s.failing then .error (failure .load) else BlobStore.load s.store key
  save s key blob :=
    if .save ∈ s.failing then (.error (failure .save), s)
    else let (r, store) := BlobStore.save s.store key blob; (r, { s with store })
  remove s key :=
    if .remove ∈ s.failing then (.error (failure .remove), s)
    else let (r, store) := BlobStore.remove s.store key; (r, { s with store })
  keys s := if .keys ∈ s.failing then .error (failure .keys) else BlobStore.keys s.store

end UnreliableStore

end Statescope
