import OpenDnp3.App.GroupVariation
import OpenDnp3.Lib.NodeList

/-!
# The event storage of the outstation

The classes of `outstation/event`. The records of all events are in one list in the order in which
they came, and the values are in one list for each type. The two point to each other. Pointers are
addresses of nodes; to follow one that points to no node is undefined in the source, and the model
then stops or leaves the lists as they are.
-/

namespace OpenDnp3.Outstation

open App

/-- `EventType`. -/
inductive EventType where
  | Binary
  | Analog
  | Counter
  | FrozenCounter
  | DoubleBitBinary
  | BinaryOutputStatus
  | AnalogOutputStatus
  | OctetString
  deriving DecidableEq, Repr

/-- All types of events. -/
def EventType.all : List EventType :=
  [Binary, Analog, Counter, FrozenCounter, DoubleBitBinary, BinaryOutputStatus,
    AnalogOutputStatus, OctetString]

/-- `EventClass`. -/
inductive EventClass where
  | EC1
  | EC2
  | EC3
  deriving DecidableEq, Repr

/-- `ClassField`, a set of classes. -/
structure ClassField where
  class0 : Bool := false
  class1 : Bool := false
  class2 : Bool := false
  class3 : Bool := false
  deriving DecidableEq, Repr

namespace ClassField

/-- `ClassField::ClassField(EventClass)`. -/
def ofEventClass (ec : EventClass) : ClassField where
  class1 := ec = .EC1
  class2 := ec = .EC2
  class3 := ec = .EC3

/-- `ClassField::HasEventType`. -/
def hasEventType (field : ClassField) : EventClass → Bool
  | .EC1 => field.class1
  | .EC2 => field.class2
  | .EC3 => field.class3

/-- `ClassField::Intersects`. -/
def intersects (a b : ClassField) : Bool :=
  a.class0 && b.class0 || a.class1 && b.class1 || a.class2 && b.class2 || a.class3 && b.class3

end ClassField

/-- `EventBufferConfig`: the number of events of each type. -/
structure EventBufferConfig where
  maxBinaryEvents : UInt16 := 0
  maxDoubleBinaryEvents : UInt16 := 0
  maxAnalogEvents : UInt16 := 0
  maxCounterEvents : UInt16 := 0
  maxFrozenCounterEvents : UInt16 := 0
  maxBinaryOutputStatusEvents : UInt16 := 0
  maxAnalogOutputStatusEvents : UInt16 := 0
  maxOctetStringEvents : UInt16 := 0
  deriving DecidableEq, Repr

namespace EventBufferConfig

/-- The capacity of the list of a type. -/
def capacity (config : EventBufferConfig) : EventType → ℕ
  | .Binary => config.maxBinaryEvents.toNat
  | .Analog => config.maxAnalogEvents.toNat
  | .Counter => config.maxCounterEvents.toNat
  | .FrozenCounter => config.maxFrozenCounterEvents.toNat
  | .DoubleBitBinary => config.maxDoubleBinaryEvents.toNat
  | .BinaryOutputStatus => config.maxBinaryOutputStatusEvents.toNat
  | .AnalogOutputStatus => config.maxAnalogOutputStatusEvents.toNat
  | .OctetString => config.maxOctetStringEvents.toNat

/-- `EventBufferConfig::TotalEvents`. The sum of eight `uint16_t` does not leave `uint32_t`. -/
def totalEvents (config : EventBufferConfig) : ℕ :=
  config.maxBinaryEvents.toNat + config.maxDoubleBinaryEvents.toNat +
    config.maxAnalogEvents.toNat + config.maxCounterEvents.toNat +
    config.maxFrozenCounterEvents.toNat + config.maxBinaryOutputStatusEvents.toNat +
    config.maxAnalogOutputStatusEvents.toNat + config.maxOctetStringEvents.toNat

end EventBufferConfig

/-- `EventState`. -/
inductive EventState where
  | unselected
  | selected
  | written
  deriving DecidableEq, Repr

/-- `ClazzCount`. -/
structure ClazzCount where
  numClass1 : UInt32 := 0
  numClass2 : UInt32 := 0
  numClass3 : UInt32 := 0
  deriving DecidableEq, Repr

namespace ClazzCount

/-- `ClazzCount::Get`. -/
def get (c : ClazzCount) : EventClass → UInt32
  | .EC1 => c.numClass1
  | .EC2 => c.numClass2
  | .EC3 => c.numClass3

/-- `ClazzCount::Increment`. -/
def increment (c : ClazzCount) : EventClass → ClazzCount
  | .EC1 => { c with numClass1 := c.numClass1 + 1 }
  | .EC2 => { c with numClass2 := c.numClass2 + 1 }
  | .EC3 => { c with numClass3 := c.numClass3 + 1 }

/-- `ClazzCount::Decrement`. -/
def decrement (c : ClazzCount) : EventClass → ClazzCount
  | .EC1 => { c with numClass1 := c.numClass1 - 1 }
  | .EC2 => { c with numClass2 := c.numClass2 - 1 }
  | .EC3 => { c with numClass3 := c.numClass3 - 1 }

end ClazzCount

/-- `EventClassCounters`. -/
structure EventClassCounters where
  total : ClazzCount := {}
  written : ClazzCount := {}
  selected : UInt32 := 0
  deriving DecidableEq, Repr

namespace EventClassCounters

/-- `EventClassCounters::OnAdd`. -/
def onAdd (c : EventClassCounters) (clazz : EventClass) : EventClassCounters :=
  { c with total := c.total.increment clazz }

/-- `EventClassCounters::OnSelect`. -/
def onSelect (c : EventClassCounters) : EventClassCounters :=
  { c with selected := c.selected + 1 }

/-- `EventClassCounters::OnWrite`. -/
def onWrite (c : EventClassCounters) (clazz : EventClass) : EventClassCounters :=
  { c with selected := c.selected - 1, written := c.written.increment clazz }

/-- `EventClassCounters::ResetOnFail`. -/
def resetOnFail (c : EventClassCounters) : EventClassCounters :=
  { c with selected := 0, written := {} }

/-- `EventClassCounters::OnRemove`. -/
def onRemove (c : EventClassCounters) (clazz : EventClass) (state : EventState) :
    EventClassCounters :=
  let c : EventClassCounters :=
    match state with
    | .selected => { c with selected := c.selected - 1 }
    | .written => { c with written := c.written.decrement clazz }
    | .unselected => c
  { c with total := c.total.decrement clazz }

end EventClassCounters

/-- `Event`, with the type that is its template parameter. -/
structure Event (α : Type*) where
  type : EventType
  value : α
  index : UInt16
  clazz : EventClass
  variation : GroupVariation
  deriving DecidableEq, Repr

/-- `EventRecord`. The number `id` is not in the source: it tells the records apart that use the
same node one after the other. -/
structure EventRecord where
  id : ℕ
  index : UInt16
  clazz : EventClass
  state : EventState := .unselected
  type : EventType
  storageNode : ℕ := 0
  deriving DecidableEq, Repr

/-- `TypedEventRecord`. -/
structure TypedEventRecord (α : Type*) where
  value : α
  defaultVariation : GroupVariation
  selectedVariation : GroupVariation
  record : ℕ
  deriving DecidableEq, Repr

/-- `EventLists`. The number of records made so far, `made`, is not in the source. -/
structure EventLists (α : Type*) where
  events : NodeList EventRecord
  lists : EventType → NodeList (TypedEventRecord α)
  counters : EventClassCounters := {}
  made : ℕ := 0

namespace EventLists

variable {α ω : Type*}

/-- `EventLists::EventLists`. -/
def ofConfig (config : EventBufferConfig) : EventLists α where
  events := NodeList.empty config.totalEvents
  lists := fun type => NodeList.empty (config.capacity type)

/-- `EventLists::GetList`. -/
def getList (s : EventLists α) (type : EventType) : NodeList (TypedEventRecord α) := s.lists type

/-- Put back the list of a type. -/
def setList (s : EventLists α) (type : EventType) (list : NodeList (TypedEventRecord α)) :
    EventLists α :=
  { s with lists := fun t => if t = type then list else s.lists t }

/-- `EventLists::IsAnyTypeFull`. -/
def isAnyTypeFull (s : EventLists α) : Bool :=
  (s.getList .Binary).isFull || (s.getList .DoubleBitBinary).isFull ||
    (s.getList .Counter).isFull || (s.getList .FrozenCounter).isFull ||
    (s.getList .Analog).isFull || (s.getList .BinaryOutputStatus).isFull ||
    (s.getList .AnalogOutputStatus).isFull || (s.getList .OctetString).isFull

/-! ## Updates -/

/-- The part of `EventUpdate::Update` that makes space: the first record of the type goes. -/
def removeFirst (s : EventLists α) (type : EventType) : EventLists α :=
  match (s.getList type).used with
  | [] => s
  | (first, data) :: _ =>
    match s.events.get? data.record with
    | none => s
    | some record =>
      { s with
        counters := s.counters.onRemove record.clazz record.state
        events := s.events.remove data.record }.setList type ((s.getList type).remove first)

/-- The part of `EventUpdate::Update` that creates the two records. -/
def append (s : EventLists α) (event : Event α) : EventLists α :=
  let record : EventRecord :=
    { id := s.made, index := event.index, clazz := event.clazz, type := event.type }
  match s.events.add record with
  | none => s
  | some (recordNode, events) =>
    let typed : TypedEventRecord α :=
      { value := event.value, defaultVariation := event.variation
        selectedVariation := event.variation, record := recordNode }
    match (s.getList event.type).add typed with
    | none => { s with events }
    | some (typedNode, list) =>
      { s with
        events := events.modify recordNode (fun r => { r with storageNode := typedNode })
        counters := s.counters.onAdd event.clazz
        made := s.made + 1 }.setList event.type list

/-- `EventUpdate::Update`, which says whether an event was lost. -/
def update (s : EventLists α) (event : Event α) : Bool × EventLists α :=
  if (s.getList event.type).capacity = 0 then (false, s)
  else
    let overflow := (s.getList event.type).isFull
    let s := if overflow then s.removeFirst event.type else s
    (overflow, s.append event)

/-! ## Selection -/

/-- The step of `EventSelection::SelectByTypeGeneric` for a node that is not selected yet. Without
a variation the default of the record is used. -/
def selectNode (s : EventLists α) (type : EventType) (variation : Option GroupVariation)
    (node : ℕ) (data : TypedEventRecord α) : EventLists α :=
  { s with
    events := s.events.modify data.record (fun r => { r with state := .selected })
    counters := s.counters.onSelect }.setList type
      ((s.getList type).modify node fun d =>
        { d with selectedVariation := variation.getD d.defaultVariation })

/-- The loop of `EventSelection::SelectByTypeGeneric` over the nodes of the list. -/
def selectTypeNodes (type : EventType) (variation : Option GroupVariation) (max : ℕ) :
    List ℕ → ℕ → EventLists α → ℕ × EventLists α
  | [], numSelected, s => (numSelected, s)
  | node :: nodes, numSelected, s =>
    if numSelected = max then (numSelected, s)
    else
      match (s.getList type).get? node with
      | none => selectTypeNodes type variation max nodes numSelected s
      | some data =>
        match s.events.get? data.record with
        | none => selectTypeNodes type variation max nodes numSelected s
        | some record =>
          if record.state = .unselected then
            selectTypeNodes type variation max nodes (numSelected + 1)
              (s.selectNode type variation node data)
          else selectTypeNodes type variation max nodes numSelected s

/-- `EventSelection::SelectByTypeGeneric`. -/
def selectByTypeGeneric (s : EventLists α) (type : EventType) (variation : Option GroupVariation)
    (max : ℕ) : ℕ × EventLists α :=
  selectTypeNodes type variation max (s.getList type).addresses 0 s

/-- The step of `EventSelection::SelectByClass` for a record that is not selected yet. The variation
of the record stays as it is. -/
def selectRecord (s : EventLists α) (node : ℕ) : EventLists α :=
  { s with
    events := s.events.modify node (fun r => { r with state := .selected })
    counters := s.counters.onSelect }

/-- The loop of `EventSelection::SelectByClass` over the nodes of the list. -/
def selectClassNodes (clazz : ClassField) (max : ℕ) :
    List ℕ → ℕ → EventLists α → ℕ × EventLists α
  | [], numSelected, s => (numSelected, s)
  | node :: nodes, numSelected, s =>
    if numSelected < max then
      match s.events.get? node with
      | none => selectClassNodes clazz max nodes numSelected s
      | some record =>
        if record.state = .unselected ∧ clazz.hasEventType record.clazz then
          selectClassNodes clazz max nodes (numSelected + 1) (s.selectRecord node)
        else selectClassNodes clazz max nodes numSelected s
    else (numSelected, s)

/-- `EventSelection::SelectByClass`. -/
def selectByClass (s : EventLists α) (clazz : ClassField) (max : ℕ) : ℕ × EventLists α :=
  selectClassNodes clazz max s.events.addresses 0 s

/-! ## Writing -/

/-- `IEventWriteHandler` over the state of the object. `Write` of the handler makes a writer from
the variation and the first value (`start`), hands it to `WriteSome` of the collection, which calls
it for one event after the other (`write`), and lets it go (`finish`). -/
structure IEventWriteHandler (α ω : Type*) where
  start : ω → GroupVariation → α → ω
  write : ω → α → UInt16 → Option ω
  finish : ω → ω

/-- The state of `EventWriting::Write`: the nodes from the position of the iterator on, the lists,
the handler, and the records written so far. -/
structure Writing (α ω : Type*) where
  iterator : List ℕ
  lists : EventLists α
  handler : ω
  ids : List ℕ := []

/-- The last part of `EventCollection::WriteOne`: the record is written. -/
def markWritten (s : EventLists α) (node : ℕ) (record : EventRecord) : EventLists α :=
  { s with
    counters := s.counters.onWrite record.clazz
    events := s.events.modify node (fun r => { r with state := .written }) }

/-- `EventCollection::WriteSome`, which calls `WriteOne` until it fails. The nodes that are not
selected are those that `FindNextSelected` passes over. -/
def writeSomeOf (handler : IEventWriteHandler α ω) (type : EventType) (variation : GroupVariation) :
    List ℕ → EventLists α → ω → List ℕ → Writing α ω
  | [], s, w, ids => { iterator := [], lists := s, handler := w, ids }
  | node :: nodes, s, w, ids =>
    let stop : Writing α ω := { iterator := node :: nodes, lists := s, handler := w, ids }
    if s.counters.selected = 0 then stop
    else
      match s.events.get? node with
      | none => stop
      | some record =>
        if record.state ≠ .selected then writeSomeOf handler type variation nodes s w ids
        else if record.type ≠ type then stop
        else
          match (s.getList type).get? record.storageNode with
          | none => stop
          | some data =>
            if data.selectedVariation ≠ variation then stop
            else
              match handler.write w data.value record.index with
              | none => stop
              | some w =>
                writeSomeOf handler type variation nodes (s.markWritten node record) w
                  (ids ++ [record.id])

/-- The record of the node is selected. -/
def isSelected (s : EventLists α) (node : ℕ) : Bool :=
  match s.events.get? node with
  | none => false
  | some record => record.state = .selected

/-- `EventWriting::WriteSome`, with `WriteSome` of the type that it finds. -/
def writeSome (handler : IEventWriteHandler α ω) (p : Writing α ω) : Writing α ω :=
  if p.lists.counters.selected = 0 then p
  else
    match p.iterator.dropWhile fun node => !p.lists.isSelected node with
    | [] => { p with iterator := [] }
    | node :: nodes =>
      let p : Writing α ω := { p with iterator := node :: nodes }
      match p.lists.events.get? node with
      | none => p
      | some record =>
        match (p.lists.getList record.type).get? record.storageNode with
        | none => p
        | some data =>
          let w := handler.start p.handler data.selectedVariation data.value
          let p := writeSomeOf handler record.type data.selectedVariation (node :: nodes) p.lists w
            p.ids
          { p with handler := handler.finish p.handler }

/-- The loop of `EventWriting::Write`. Every round that writes moves the iterator, so the number of
nodes bounds the number of rounds. -/
def writeLoop (handler : IEventWriteHandler α ω) : ℕ → Writing α ω → Writing α ω
  | 0, p => p
  | fuel + 1, p =>
    if (writeSome handler p).ids.length = p.ids.length then writeSome handler p
    else writeLoop handler fuel (writeSome handler p)

/-- `EventWriting::Write`. -/
def write (s : EventLists α) (handler : IEventWriteHandler α ω) (w : ω) : Writing α ω :=
  writeLoop handler (s.events.size + 1) { iterator := s.events.addresses, lists := s, handler := w }

/-! ## Removal -/

/-- The step of `EventStorage::ClearWritten` for a record that is written. -/
def removeNode (s : EventLists α) (node : ℕ) (record : EventRecord) : EventLists α :=
  { s with
    counters := s.counters.onRemove record.clazz record.state
    events := s.events.remove node }.setList record.type
      ((s.getList record.type).remove record.storageNode)

/-- `List::RemoveAll` with the predicate of `EventStorage::ClearWritten`. -/
def clearNodes : List ℕ → EventLists α → EventLists α
  | [], s => s
  | node :: nodes, s =>
    match s.events.get? node with
    | none => clearNodes nodes s
    | some record =>
      if record.state = .written then clearNodes nodes (s.removeNode node record)
      else clearNodes nodes s

/-- `EventStorage::ClearWritten`. -/
def clearWritten (s : EventLists α) : EventLists α := clearNodes s.events.addresses s

/-- `EventStorage::Unselect`. -/
def unselect (s : EventLists α) : EventLists α :=
  { s with
    events := s.events.map (fun r => { r with state := .unselected })
    counters := s.counters.resetOnFail }

/-- `EventStorage::NumSelected`. -/
def numSelected (s : EventLists α) : UInt32 := s.counters.selected

/-- `EventStorage::NumUnwritten`. -/
def numUnwritten (s : EventLists α) (clazz : EventClass) : UInt32 :=
  s.counters.total.get clazz - s.counters.written.get clazz

end EventLists

end OpenDnp3.Outstation
