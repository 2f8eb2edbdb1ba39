import OpenDnp3.App.Encoding
import OpenDnp3.Lib.Picking
import OpenDnp3.Outstation.ResponseSeries

/-!
# The events that a read selects

Every header of a read for events has a limit: a count, or that of all objects. It selects the first
events of its type or class, in the order in which they came, that no header before it has selected.
The fragments of the response report these events and no others.
-/

namespace OpenDnp3.Outstation

open App Picking EventBuffer

variable {α : Type*}

/-! ## One header -/

/-- The record is selected. -/
def EventRecord.select (r : EventRecord) : EventRecord := { r with state := .selected }

/-- The nodes with a record of the type or the class that is not selected yet. -/
def EventBuffer.EventSelection.accepts (selection : EventSelection) (n : ℕ × EventRecord) : Bool :=
  n.2.state = .unselected &&
    match selection with
    | .byType type _ => n.2.type = type
    | .byClass clazz => n.2.clazz = clazz

namespace EventLists

/-- The change of a node that is selected. -/
def selectEntry (n : ℕ × EventRecord) : ℕ × EventRecord := (n.1, n.2.select)

end EventLists

open EventLists

/-! ## The headers of a read -/

/-- What a header of a read selects from the events, with its limit. -/
def eventHeader : HeaderCall → Option (EventSelection × ℕ)
  | .allObjects record =>
    if record.type = .EVENT then
      (eventSelection record.enumeration).map fun selection => (selection, 2 ^ 32 - 1)
    else none
  | .count record count =>
    (eventSelection record.enumeration).map fun selection => (selection, count)
  | _ => none

/-- A header selects the first records that it accepts, up to its limit. -/
def selectFirst (nodes : List (ℕ × EventRecord)) (header : EventSelection × ℕ) :
    List (ℕ × EventRecord) :=
  Picking.pick header.1.accepts selectEntry header.2 nodes

/-- The numbers of the events that a read with these headers asks for, in the order in which the
events came: one header after the other selects, from records none of which is selected. -/
def asked (headers : List HeaderCall) (s : EventLists α) : List ℕ :=
  (((headers.filterMap eventHeader).foldl selectFirst
    (s.events.used.map fun n => (n.1, { n.2 with state := .unselected }))).filter
      fun n => n.2.state = .selected).map fun n => n.2.id

variable [MeasurementSpec α]

/-- The headers of a read request, where the parser accepts it. -/
def readHeaders (objects : List UInt8) : Option (List HeaderCall) :=
  let (result, handled) := APDUParser.parse everyHeader .noContents objects ()
  if result = .OK then some handled.calls else none

/-- The handler is called with the headers one after the other. -/
theorem ReadHandler.parse_eq {objects : List UInt8} {headers : List HeaderCall}
    (h : readHeaders objects = some headers) (state : ReadHandler α) :
    APDUParser.parse ReadHandler.handler .noContents objects state =
      (.OK, { state := headers.foldl ReadHandler.onHeader state, calls := headers }) := by
  unfold readHeaders at h
  have hparsed := (APDUParser.parse_parsed everyHeader .noContents objects ()).1
  generalize APDUParser.parse everyHeader .noContents objects () = outcome at hparsed h
  cases hparsed with
  | refused hresult _ => exact absurd ((if_neg hresult).symm.trans h) (by simp)
  | accepted hsegments _ =>
    obtain rfl := Option.some.inj h
    exact APDUParser.parse_of_segments ReadHandler.handler hsegments
      (allows_of_forall (fun _ _ _ _ => rfl) state _)

namespace OContext

open DatabaseBuffers

/-! ## The fragments of the response -/

/-- What is loaded for the first fragment. -/
structure Selected (config : EventBufferConfig) (s s₁ : OContext α) (headers : List HeaderCall) :
    Prop where
  inv : s₁.eventBuffer.storage.Inv config
  contained : Contained s₁.database
  events : s₁.eventBuffer.storage.selectedIds = asked headers s.eventBuffer.storage
  fragmentCount : s₁.fragmentCount = 0
  params : s₁.params = s.params
  log : s₁.log = s.log
  isOnline : s₁.isOnline = s.isOnline
  deferred : s₁.deferred = s.deferred

end OContext

end OpenDnp3.Outstation
