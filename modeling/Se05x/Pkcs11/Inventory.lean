import Se05x.Interaction.Watching
import Se05x.Pkcs11.Lifecycle
import Se05x.Pkcs11.Listings
import Se05x.Pkcs11.Operations

/-!
# Inventory of a module

The token slots, mechanisms and objects a module holds, how its list calls tell them, and
what a run shows of them.
-/

set_option autoImplicit false

namespace Se05x.Pkcs11

open Interaction

namespace Listed

variable {capacity : Nat}

/-- The module wrote this cell. -/
def Written (fetched : Listed capacity) (i : Nat) : Prop :=
  ∃ value, fetched.cells[i]? = some (some value)

/-- These values stand in the first cells, the count tells how many they are, and no other
cell is written. -/
def Holds (fetched : Listed capacity) (values : List Nat) : Prop :=
  fetched.count = values.length ∧
    fetched.cells.toList = values.map some ++ List.replicate (capacity - values.length) none

/-- The call was answered as a list call is, not by a failure of another kind. -/
def Answered (fetched : Listed capacity) : Prop :=
  fetched.rv = ckrOk ∨ fetched.rv = ckrBufferTooSmall

/-- Too small an array is left as it is, and its count set to the true number. -/
structure Fetches (fetched : Listed capacity) (values : List Nat) : Prop where
  filled : fetched.rv = ckrOk → values.length ≤ capacity ∧ fetched.Holds values
  refused : fetched.rv = ckrBufferTooSmall → capacity < values.length ∧
    fetched.count = values.length ∧ ∀ i, ¬fetched.Written i

/-- The next handles of a search, at most as many as there are cells. -/
def HandsOut (fetched : Listed capacity) (remaining : List Nat) : Prop :=
  fetched.rv = ckrOk → fetched.count ≤ capacity ∧ fetched.Holds (remaining.take fetched.count)

end Listed

structure Holdings where
  slots : List SlotId
  mechanisms : SlotId → List Nat
  objects : List ObjectHandle

namespace Holdings

/-- Slots may gain and lose their tokens between any two calls of the module. -/
def MayBecome (before : Holdings) (kind : Kind) (after : Holdings) : Prop :=
  match kind with
  | .host => after = before
  | .general | .working _ _ =>
    after.mechanisms = before.mechanisms ∧ after.objects = before.objects
  | _ => after.mechanisms = before.mechanisms

end Holdings

/-- What a module holds, the handles its search has not handed out, the token slots at their
latest count or listing, and whether a session has been asked for. -/
structure Inventory where
  held : Holdings
  remaining : List ObjectHandle
  listed : List SlotId
  opened : Bool

namespace Inventory

def start (held : Holdings) : Inventory := ⟨held, [], [], false⟩

def Conforms (s : Inventory) : Event cryptoki → Prop
  | ⟨.countSlots true, counted⟩ => counted.rv = ckrOk → counted.count = s.held.slots.length
  | ⟨.getSlotList true _, fetched⟩ => fetched.Fetches s.held.slots
  | ⟨.countMechanisms slot, counted⟩ =>
    counted.rv = ckrOk → counted.count = (s.held.mechanisms slot).length
  | ⟨.getMechanismList slot _, fetched⟩ => fetched.Fetches (s.held.mechanisms slot)
  | ⟨.findObjects _ _, fetched⟩ => fetched.HandsOut s.remaining
  | _ => True

def next (s : Inventory) : Event cryptoki → Inventory
  | ⟨.countSlots true, _⟩ | ⟨.getSlotList true _, _⟩ => { s with listed := s.held.slots }
  | ⟨.openSession _, _⟩ => { s with opened := true }
  | ⟨.findObjectsInit _, rv⟩ => if rv = ckrOk then { s with remaining := s.held.objects } else s
  | ⟨.findObjects _ _, fetched⟩ =>
    if fetched.rv = ckrOk then { s with remaining := s.remaining.drop fetched.count } else s
  | _ => s

end Inventory

def conforming : Contract cryptoki Inventory where
  allows _ _ := True
  moves s event after := s.Conforms event ∧ ∃ held, s.held.MayBecome event.request.kind held ∧
    after = { s.next event with held := held }

/-- What a run has been given and has read: the slots written into its arrays, and whether it
opened only such a slot and read only written cells. -/
structure Handling where
  written : List SlotId
  careful : Bool
deriving DecidableEq, Repr

namespace Handling

def start : Handling := ⟨[], true⟩

def record (handling : Handling) : Event cryptoki → Handling
  | ⟨.getSlotList _ _, fetched⟩ =>
    { handling with written := handling.written ++ fetched.cells.toList.reduceOption }
  | ⟨.openSession slot, _⟩ =>
    { handling with careful := handling.careful && decide (slot ∈ handling.written) }
  | ⟨.readCell _ .unwritten, _⟩ | ⟨.readCell _ .outside, _⟩ => { handling with careful := false }
  | _ => handling

def of (trace : List (Event cryptoki)) : Handling := trace.foldl record start

end Handling

/-- The step gives what is read after it: before the session, a first slot; in the search,
the cells it counts. -/
def Served (s : Inventory) : Event cryptoki → Prop
  | ⟨.getSlotList true count, fetched⟩ => s.opened = false →
    (fetched.Answered → s.held.slots ≠ [] ∧ s.held.slots.length ≤ count) ∧
    (¬fetched.Answered → fetched.Written 0)
  | ⟨.findObjects _ _, fetched⟩ => fetched.rv ≠ ckrOk → ∀ i < fetched.count, fetched.Written i
  | _ => True

/-- What a run visits of a module: a slot it asks about, a mechanism it reads from the fetched
list to look up its name, an object it asks about. -/
inductive Visit where
  | slot (slot : SlotId)
  | mechanism (mechanism : Nat)
  | object (handle : ObjectHandle)
deriving DecidableEq, Repr

def visit : Event cryptoki → Option Visit
  | ⟨.getSlotInfo slot, _⟩ => some (.slot slot)
  | ⟨.readCell .mechBuf (.written mechanism), _⟩ => some (.mechanism mechanism)
  | ⟨.getObjectClass _ handle, _⟩ => some (.object handle)
  | _ => none

def Holdings.mechanismVisits (held : Holdings) (slot : SlotId) : List Visit :=
  (held.mechanisms slot).map .mechanism

/-- Each of these slots with all its mechanisms, and all objects. -/
def Holdings.everything (held : Holdings) (slots : List SlotId) : List Visit :=
  slots.flatMap (fun slot => .slot slot :: held.mechanismVisits slot) ++ held.objects.map .object

/-- The return code of a call that looks into the module. -/
def lookRv : Event cryptoki → CkRv
  | ⟨.getInfo, info⟩ => info.rv
  | ⟨.countSlots _, counted⟩ | ⟨.countMechanisms _, counted⟩ => counted.rv
  | ⟨.getSlotList _ _, fetched⟩ | ⟨.getMechanismList _ _, fetched⟩
  | ⟨.findObjects _ _, fetched⟩ => fetched.rv
  | ⟨.getSlotInfo _, info⟩ => info.rv
  | ⟨.getTokenInfo _, info⟩ => info.rv
  | ⟨.getObjectClass _ _, read⟩ => read.rv
  | ⟨.findObjectsInit _, rv⟩ | ⟨.findObjectsFinal _, rv⟩ => rv
  | _ => ckrOk

/-- No call fails but a list call with too small an array. -/
def Succeeds : Event cryptoki → Prop
  | ⟨.getSlotList _ _, fetched⟩ | ⟨.getMechanismList _ _, fetched⟩ => fetched.Answered
  | event => lookRv event = ckrOk

def succeeding : Contract cryptoki Inventory := conforming.meeting fun _ event => Succeeds event

/-- The step leaves nothing out of the visits: tokens are counted wherever there are objects,
a list fits the count that is passed, and the search is over at once. -/
def Complete (s : Inventory) : Event cryptoki → Prop
  | ⟨.countSlots true, _⟩ => s.held.slots = [] → s.held.objects = []
  | ⟨.getSlotList true count, _⟩ => s.held.slots.length ≤ count
  | ⟨.getMechanismList slot count, _⟩ => (s.held.mechanisms slot).length ≤ count
  | ⟨.findObjects _ _, fetched⟩ => fetched.count = s.remaining.length
  | _ => True

end Se05x.Pkcs11
