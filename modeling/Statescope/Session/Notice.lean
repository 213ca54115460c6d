-- SUMMARY: The queue of notices shown to the user: bounded, without near duplicates, each for a limited time.
import Statescope.Clock.Units
import Statescope.FirstMatch

/-!
# Notices

A notice is shown for its time to live. The queue keeps a limited number of
them and lets go of the oldest. A notice with the same content as one that is at
most half a second old renews that one instead of joining the queue. Clock
readings need not come in order; a notice from the future counts as new.
-/

namespace Statescope

inductive NoticeKind where
  | info
  | warning
  | error
deriving DecidableEq

/-- Who is to see a notice. -/
inductive NoticeScope where
  | everywhere
  | container (name : String)
deriving DecidableEq

/-- What a notice says. -/
structure NoticeContent where
  kind : NoticeKind
  scope : NoticeScope
  title : String
  body : Option String
deriving DecidableEq

structure Notice where
  id : Nat
  content : NoticeContent
  /-- How long the notice is shown. -/
  ttl : Nat
  created : Int
deriving DecidableEq

namespace Notice

/-- The time since the notice was created or renewed. -/
def age (n : Notice) (now : Int) : Nat := (now - n.created).toNat

def isVisible (n : Notice) (now : Int) : Bool := n.age now < n.ttl

/-- A span of time in seconds, in single precision. -/
def seconds (span : Nat) : Float32 :=
  Float32.ofNat (span / 1000000000) + Float32.ofNat (span % 1000000000) / Float32.ofNat 1000000000

/-- The part of its time that a notice has left, from one down to zero. -/
def progress (n : Notice) (now : Int) : Float32 := 1 - seconds (n.age now) / seconds n.ttl

/-- Whether the notice is meant for the container. -/
def concerns (n : Notice) (container : String) : Bool :=
  match n.content.scope with
  | .everywhere => true
  | .container name => name = container

end Notice

structure NoticeQueue where
  /-- The notices, oldest entry first. -/
  entries : List Notice := []
  capacity : Nat
  nextId : Nat := 1
deriving DecidableEq

namespace NoticeQueue

/-- A queue for at most `capacity` notices, but at least one. -/
def empty (capacity : Nat) : NoticeQueue := { capacity := max 1 capacity }

/-- How long a notice keeps its like out of the queue. -/
def window : Nat := millis 500

/-- Whether a new notice of this content renews the given one. -/
def isRepeated (content : NoticeContent) (now : Int) (n : Notice) : Bool :=
  n.content = content && n.age now ≤ window

/-- Shows a notice from now on. Gives its id. -/
def push (q : NoticeQueue) (content : NoticeContent) (ttl : Nat) (now : Int) :
    Nat × NoticeQueue :=
  match q.entries.find? (isRepeated content now) with
  | some n =>
    (n.id, { q with
      entries := modifyFirst (isRepeated content now) (fun n => { n with ttl, created := now })
        q.entries })
  | none =>
    let kept := if q.entries.length = q.capacity then q.entries.drop 1 else q.entries
    (q.nextId, { q with
      entries := kept ++ [⟨q.nextId, content, ttl, now⟩]
      nextId := q.nextId + 1 })

/-- Lets go of the notices whose time is over. -/
def retainVisible (q : NoticeQueue) (now : Int) : NoticeQueue :=
  { q with entries := q.entries.filter (·.isVisible now) }

def visible (q : NoticeQueue) (now : Int) : List Notice := q.entries.filter (·.isVisible now)

/-- The visible notices that are meant for a container. -/
def visibleFor (q : NoticeQueue) (container : String) (now : Int) : List Notice :=
  (q.visible now).filter (·.concerns container)

end NoticeQueue

end Statescope
