import OpenDnp3.App.Encoding
import OpenDnp3.Outstation.EventBuffer
import OpenDnp3.Outstation.EventWriting

/-!
# The bytes of events

What a load of the event buffer leaves in the fragment, and what the parser makes of it: the events
that are written, each with its index and the wire form of its value, unless one of them is an octet
string without bytes.
-/

namespace OpenDnp3.Outstation

open App EventLists

/-- The enumeration of the variations of a type, `EventBinaryVariation` and so on. -/
def EventType.variations : EventType → List GroupVariation
  | .Binary => [.Group2Var1, .Group2Var2, .Group2Var3]
  | .DoubleBitBinary => [.Group4Var1, .Group4Var2, .Group4Var3]
  | .Counter => [.Group22Var1, .Group22Var2, .Group22Var5, .Group22Var6]
  | .FrozenCounter => [.Group23Var1, .Group23Var2, .Group23Var5, .Group23Var6]
  | .Analog => [.Group32Var1, .Group32Var2, .Group32Var3, .Group32Var4, .Group32Var5, .Group32Var6,
      .Group32Var7, .Group32Var8]
  | .BinaryOutputStatus => [.Group11Var1, .Group11Var2]
  | .AnalogOutputStatus => [.Group42Var1, .Group42Var2, .Group42Var3, .Group42Var4, .Group42Var5,
      .Group42Var6, .Group42Var7, .Group42Var8]
  | .OctetString => [.Group111Var0]

/-- The argument of an overload of `IEventReceiver::Update`, whose variation is of the enumeration
of its type. -/
structure TypedEvent (α : Type*) extends Event α where
  typed : variation ∈ type.variations

namespace EventLists

variable {α ω : Type*}

/-- The variations of the values in the list of a type are of its enumeration. -/
def Typed (s : EventLists α) : Prop :=
  ∀ type, ∀ n ∈ (s.getList type).used,
    n.2.defaultVariation ∈ type.variations ∧ n.2.selectedVariation ∈ type.variations

/-- The operation is one that the types of the source allow. -/
def Operation.Typed : Operation α ω → Prop
  | .update event => event.variation ∈ event.type.variations
  | .selectByType type variation _ => ∀ gv ∈ variation, gv ∈ type.variations
  | _ => True

/-- The empty storage is typed. -/
theorem ofConfig_typed (config : EventBufferConfig) : (ofConfig config : EventLists α).Typed :=
  fun _ _ hn => absurd hn List.not_mem_nil

/-- The types depend on the lists only. -/
theorem Typed.of_lists {s s' : EventLists α} (h : s.Typed) (hlists : s'.lists = s.lists) :
    s'.Typed := by
  intro type n hn
  rw [getList, hlists] at hn
  exact h type n hn

/-- A list that has lost values. -/
theorem Typed.of_sublist {s s' : EventLists α} (h : s.Typed)
    (hsub : ∀ type, (s'.getList type).used ⊆ (s.getList type).used) : s'.Typed :=
  fun type n hn => h type n (hsub type hn)

/-- A record of its type keeps the storage typed. -/
theorem Appends.typed {s s' : EventLists α} {event : Event α} {a b : ℕ} (h : s.Typed)
    (happends : s.Appends event s' a b) (hevent : event.variation ∈ event.type.variations) :
    s'.Typed := by
  intro type n hn
  by_cases htype : type = event.type
  · subst htype
    rw [happends.list, List.mem_append, List.mem_singleton] at hn
    obtain hn | rfl := hn
    · exact h _ n hn
    · exact ⟨hevent, hevent⟩
  · rw [happends.others type htype] at hn
    exact h type n hn

/-- An update with an event of its type keeps the storage typed. -/
theorem update_typed {config : EventBufferConfig} {s : EventLists α} (hinv : s.Inv config)
    (h : s.Typed) {event : Event α} (hevent : event.variation ∈ event.type.variations) :
    (s.update event).2.Typed := by
  obtain ⟨hupdates, -⟩ := update_spec hinv event
  generalize s.update event = r at hupdates ⊢
  cases hupdates with
  | ignored _ => exact h
  | appended _ _ happends => exact happends.typed h hevent
  | @evicted s₁ s' a b _ _ hevicts happends =>
    refine happends.typed (h.of_sublist fun type n hn => ?_) hevent
    by_cases htype : type = event.type
    · subst htype
      rw [hevicts.list] at hn
      exact List.mem_of_mem_tail hn
    · rwa [hevicts.others type htype] at hn

/-- A selection with a variation of the type keeps the storage typed. -/
theorem selectTypeNodes_typed (type : EventType) {variation : Option GroupVariation}
    (hvariation : ∀ gv ∈ variation, gv ∈ type.variations) (max : ℕ) (nodes : List ℕ)
    (numSelected : ℕ) {s : EventLists α} (h : s.Typed) :
    (selectTypeNodes type variation max nodes numSelected s).2.Typed := by
  induction nodes generalizing numSelected s with
  | nil => exact h
  | cons node nodes ih =>
    unfold selectTypeNodes
    split_ifs
    · exact h
    · split
      · exact ih _ h
      case h_2 data hdata =>
        split
        · exact ih _ h
        · split_ifs
          · -- Only the list of this type changes.
            refine ih _ fun t n hn => ?_
            rw [selectNode, getList_setList] at hn
            split_ifs at hn with ht
            · -- The value of the node takes the variation, or its default one.
              subst ht
              obtain ⟨m, hm, rfl⟩ := List.mem_map.mp hn
              obtain ⟨hdefault, hselected⟩ := h t m hm
              split_ifs
              · refine ⟨hdefault, ?_⟩
                cases variation with
                | none => exact hdefault
                | some gv => exact hvariation gv rfl
              · exact ⟨hdefault, hselected⟩
            · exact h t n hn
          · exact ih _ h

/-- A selection by class leaves the lists. -/
theorem selectClassNodes_lists (clazz : ClassField) (max : ℕ) (nodes : List ℕ) (numSelected : ℕ)
    (s : EventLists α) : (selectClassNodes clazz max nodes numSelected s).2.lists = s.lists := by
  induction nodes generalizing numSelected s with
  | nil => rfl
  | cons node nodes ih =>
    unfold selectClassNodes
    split_ifs
    · split
      · exact ih _ s
      · split_ifs
        · exact ih _ (s.selectRecord node)
        · exact ih _ s
    · rfl

/-- A clearing adds no node. -/
theorem clearNodes_used_subset (nodes : List ℕ) (s : EventLists α) (type : EventType) :
    ((clearNodes nodes s).getList type).used ⊆ (s.getList type).used := by
  induction nodes generalizing s with
  | nil => exact List.Subset.refl _
  | cons node nodes ih =>
    unfold clearNodes
    split
    · exact ih s
    case h_2 record hrecord =>
      split_ifs
      · refine List.Subset.trans (ih _) ?_
        rw [removeNode, getList_setList]
        split_ifs with htype
        · subst htype
          unfold NodeList.remove
          split_ifs
          · exact List.filter_sublist.subset
          · exact List.Subset.refl _
        · exact List.Subset.refl _
      · exact ih s

/-- Every operation keeps the storage typed. -/
theorem step_typed {config : EventBufferConfig} {s : EventLists α} (hinv : s.Inv config)
    (h : s.Typed) {op : Operation α ω} (hop : op.Typed) : (s.step op).Typed := by
  cases op with
  | update event => exact update_typed hinv h hop
  | selectByType type variation max => exact selectTypeNodes_typed type hop max _ 0 h
  | selectByClass clazz max => exact h.of_lists (selectClassNodes_lists clazz max _ 0 s)
  | write handler w =>
    obtain ⟨-, -, -, -, -, -, -, -, hlists, -⟩ := write_emits hinv handler w
    exact h.of_lists hlists
  | clearWritten => exact h.of_sublist (clearNodes_used_subset _ s)
  | unselect => exact h.of_lists rfl

/-- What is reported of a type has a variation of its enumeration. -/
theorem Typed.reports {s : EventLists α} (h : s.Typed) {nodes : List (ℕ × EventRecord)}
    {e : Report α} (he : e ∈ s.reports nodes) : e.variation ∈ e.type.variations := by
  obtain ⟨n, -, hreport⟩ := List.mem_filterMap.mp he
  obtain ⟨data, hdata, rfl⟩ := Option.map_eq_some_iff.mp hreport
  exact (h n.2.type _ (NodeList.get?_eq_some_iff.mp hdata)).2

end EventLists

/-! ## Runs of the buffer -/

namespace EventBuffer

variable {α : Type*} [MeasurementSpec α]

/-- The operations of `EventBuffer`. -/
inductive Operation (α : Type*) where
  | update (event : TypedEvent α)
  | selectAll (gv : GroupVariation)
  | selectCount (gv : GroupVariation) (count : UInt32)
  | selectAllByClass (clazz : ClassField)
  | unselect
  | load (size : ℕ)
  | isOverflown
  | clearWritten

/-- One operation on the buffer. -/
def step (b : EventBuffer α) : Operation α → EventBuffer α
  | .update event => b.update event.toEvent
  | .selectAll gv => (b.selectAll gv).2
  | .selectCount gv count => (b.selectCount gv count.toNat).2
  | .selectAllByClass clazz => b.selectAllByClass clazz
  | .unselect => b.unselect
  | .load size => (b.load { remaining := size }).2.1
  | .isOverflown => b.isOverflown.2
  | .clearWritten => b.clearWritten

/-- `EventBuffer::EventBuffer`. -/
def ofConfig (config : EventBufferConfig) : EventBuffer α where
  storage := EventLists.ofConfig config

/-- The invariant of the buffer. -/
structure Inv (config : EventBufferConfig) (b : EventBuffer α) : Prop where
  storage : b.storage.Inv config
  typed : b.storage.Typed

omit [MeasurementSpec α] in
/-- An operation on the storage keeps the invariant of the buffer. -/
theorem Inv.step_storage {config : EventBufferConfig} {b b' : EventBuffer α} (h : b.Inv config)
    {o : EventLists.Operation α (EventWriter α)} (ho : o.Typed)
    (hstorage : b'.storage = b.storage.step o) : b'.Inv config := by
  constructor
  · rw [hstorage]
    exact step_inv h.storage o
  · rw [hstorage]
    exact step_typed h.storage h.typed ho

/-- What a header selects of a type has a variation of its enumeration. -/
theorem eventSelection_typed {gv : GroupVariation} {type : EventType}
    {variation : Option GroupVariation}
    (h : eventSelection gv = some (.byType type variation)) :
    ∀ v ∈ variation, v ∈ type.variations := by
  revert h
  cases gv <;> intro h <;> cases h <;> simp [EventType.variations]

omit [MeasurementSpec α] in
/-- A selection with a count keeps the invariant of the buffer. -/
theorem Inv.selectMaxCount {config : EventBufferConfig} {b : EventBuffer α} (h : b.Inv config)
    (gv : GroupVariation) (maximum : ℕ) : (b.selectMaxCount gv maximum).2.Inv config := by
  unfold EventBuffer.selectMaxCount
  split
  case h_1 type variation hselection =>
    exact h.step_storage (o := .selectByType type variation maximum)
      (eventSelection_typed hselection) rfl
  case h_2 clazz hselection =>
    exact h.step_storage (o := .selectByClass (.ofEventClass clazz) maximum) trivial rfl
  case h_3 => exact h

/-- Every operation keeps the invariant of the buffer. -/
theorem step_inv {config : EventBufferConfig} {b : EventBuffer α} (h : b.Inv config)
    (op : Operation α) : (b.step op).Inv config := by
  cases op with
  | update event => exact h.step_storage (o := .update event.toEvent) event.typed rfl
  | selectAll gv => exact h.selectMaxCount gv _
  | selectCount gv count => exact h.selectMaxCount gv _
  | selectAllByClass clazz =>
    exact h.step_storage (o := .selectByClass clazz (2 ^ 32 - 1)) trivial rfl
  | unselect => exact h.step_storage (o := .unselect) trivial rfl
  | load size =>
    exact h.step_storage (o := .write asduEventWriteHandler { writer := { remaining := size } })
      trivial rfl
  | isOverflown => exact ⟨h.storage, h.typed⟩
  | clearWritten => exact h.step_storage (o := .clearWritten) trivial rfl

/-- The invariant holds after any operations on a buffer of any configuration. -/
theorem run_inv (config : EventBufferConfig) (ops : List (Operation α)) :
    (Machine.run step (ofConfig config : EventBuffer α) ops).Inv config := by
  have hstep : ∀ (b : EventBuffer α) (op : Operation α), b.Inv config → (b.step op).Inv config :=
    fun b op h => step_inv h op
  exact Machine.run_of_step step hstep ⟨ofConfig_inv config, ofConfig_typed config⟩ ops

end EventBuffer

/-! ## The headers of a load -/

section Headers

variable {α : Type*}

/-- A header with prefixes is started where the first object fits. -/
theorem iterateOverCountWithPrefix_spec (w : HeaderWriter α) (serializer : DNP3Serializer) :
    PrefixedWriteIterator.iterateOverCountWithPrefix w serializer .UInt16 =
      if w.remaining < 7 + serializer.size then (w, none)
      else ({ w with remaining := w.remaining - 5 },
        some { serializer, index := .UInt16, objects := [] }) := by
  unfold PrefixedWriteIterator.iterateOverCountWithPrefix HeaderWriter.writeHeaderWithReserve
  by_cases hless : w.remaining < 7 + serializer.size
  · rw [if_pos hless, if_pos (by simp [IndexType.size]; omega)]
  · rw [if_neg hless, if_neg (by simp [IndexType.size]; omega)]
    dsimp only [HeaderWriter.advance]
    rw [if_pos (by simp [IndexType.size]; omega)]
    simp [IndexType.size, Nat.sub_sub]

/-- A header with a common time is started where the first object fits. -/
theorem iterateOverCountWithPrefixAndCTO_spec (w : HeaderWriter α) (serializer : DNP3Serializer)
    (time : List UInt8) :
    PrefixedWriteIterator.iterateOverCountWithPrefixAndCTO w serializer .UInt16 .Group51Var1 time =
      if w.remaining < 10 + (7 + serializer.size) then (w, none)
      else ({ remaining := w.remaining - 15,
              headers := w.headers ++ [.single .Group51Var1 .UInt8 time] },
        some { serializer, index := .UInt16, objects := [] }) := by
  have hsize : (3 : ℕ) + (IndexType.UInt8.size + GroupVariation.Group51Var1.size) = 10 := rfl
  unfold PrefixedWriteIterator.iterateOverCountWithPrefixAndCTO HeaderWriter.writeSingleValue
    HeaderWriter.writeHeaderWithReserve
  rw [hsize]
  by_cases hsingle : w.remaining < 10
  · rw [if_pos hsingle, if_pos (by omega)]
    rfl
  · rw [if_neg hsingle]
    dsimp only [Option.map_some, HeaderWriter.advance, HeaderWriter.push]
    rw [iterateOverCountWithPrefix_spec]
    have hrest : w.remaining - 3 - (IndexType.UInt8.size + GroupVariation.Group51Var1.size) =
        w.remaining - 10 := Nat.sub_sub ..
    dsimp only
    rw [hrest]
    by_cases hless : w.remaining < 10 + (7 + serializer.size)
    · -- The common time is rolled back.
      rw [if_pos hless, if_pos (by omega)]
    · rw [if_neg hless, if_neg (by omega), Nat.sub_sub]

variable [MeasurementSpec α]

/-- The variations whose events follow a common time of occurrence. -/
def usesCTO : GroupVariation → Bool
  | .Group2Var3 | .Group4Var3 => true
  | _ => false

/-- The serializer for the events of a variation, which has the size of the first one for octet
strings. -/
def serializerOf (variation : GroupVariation) (first : α) : DNP3Serializer :=
  if variation = .Group111Var0 then
    { gv := .Group111Var0, size := (MeasurementSpec.octetSize first).toNat }
  else variation.inst

/-- The serializer has the variation it was asked for. -/
theorem gv_serializerOf (variation : GroupVariation) (first : α) :
    (serializerOf variation first).gv = variation := by
  unfold serializerOf
  split_ifs with h111
  · exact h111.symm
  · rfl

/-- The header with the common time, where the variation has one. -/
def ctoHeaders (variation : GroupVariation) (first : α) : List (ObjectHeader α) :=
  if usesCTO variation then
    [.single .Group51Var1 .UInt8 (writeUInt48 (MeasurementSpec.time first))]
  else []

/-- What is written of a value: its time is relative to the common one. -/
def encoded (variation : GroupVariation) (first value : α) : α :=
  if usesCTO variation then
    MeasurementSpec.withTime value (MeasurementSpec.time value - MeasurementSpec.time first)
  else value

/-- A value may stand behind the first one of its header: its time is at most 65535 ms later, and it
has the size of the first one. -/
def Follows (variation : GroupVariation) (first value : α) : Prop :=
  (usesCTO variation → MeasurementSpec.time first ≤ MeasurementSpec.time value ∧
    MeasurementSpec.time value ≤ MeasurementSpec.time first + 65535) ∧
  (variation = .Group111Var0 → MeasurementSpec.octetSize value = MeasurementSpec.octetSize first)

/-- The space that a header takes, with its first event. -/
def startSize (variation : GroupVariation) (first : α) : ℕ :=
  (if usesCTO variation then 10 else 0) + (7 + (serializerOf variation first).size)

namespace EventWriter

/-- The writer of a header for the events of this variation, with the objects so far. -/
structure Writes (variation : GroupVariation) (first : α) (headers : List (ObjectHeader α))
    (objects : List (ℕ × α)) (w : EventWriter α) : Prop where
  iterator : w.iterator =
    some { serializer := serializerOf variation first, index := .UInt16, objects }
  headers_eq : w.writer.headers = headers
  cto : w.cto = if usesCTO variation then some (MeasurementSpec.time first) else none
  size : w.size = if variation = .Group111Var0 then some (MeasurementSpec.octetSize first) else none

/-- A header is started if there is the space for it and its first event. -/
theorem start_spec (w : EventWriter α) (variation : GroupVariation) (first : α) :
    if w.writer.remaining < startSize variation first then
      (w.start variation first).iterator = none ∧ (w.start variation first).writer = w.writer
    else
      Writes variation first (w.writer.headers ++ ctoHeaders variation first) []
          (w.start variation first) ∧
        (w.start variation first).writer.remaining + startSize variation first =
          w.writer.remaining + 2 + (serializerOf variation first).size := by
  -- With a common time the header of the time comes first.
  by_cases hcto : usesCTO variation
  · have hserializer : serializerOf variation first = variation.inst := by
      refine if_neg ?_
      rintro rfl
      cases hcto
    have hstart : w.start variation first =
        ⟨(PrefixedWriteIterator.iterateOverCountWithPrefixAndCTO w.writer variation.inst .UInt16
          .Group51Var1 (writeUInt48 (MeasurementSpec.time first))).1,
        (PrefixedWriteIterator.iterateOverCountWithPrefixAndCTO w.writer variation.inst .UInt16
          .Group51Var1 (writeUInt48 (MeasurementSpec.time first))).2,
        some (MeasurementSpec.time first), none⟩ := by
      revert hcto
      cases variation <;> intro hcto <;> first | rfl | cases hcto
    rw [hstart, iterateOverCountWithPrefixAndCTO_spec]
    unfold startSize
    rw [if_pos hcto, hserializer]
    by_cases hless : w.writer.remaining < 10 + (7 + variation.inst.size)
    · rw [if_pos hless, if_pos hless]
      exact ⟨rfl, rfl⟩
    · rw [if_neg hless, if_neg hless]
      refine ⟨⟨?_, ?_, (if_pos hcto).symm, ?_⟩, ?_⟩
      · rw [hserializer]
      · rw [ctoHeaders, if_pos hcto]
      · refine (if_neg ?_).symm
        rintro rfl
        cases hcto
      · dsimp only
        omega
  · have hstart : w.start variation first =
        ⟨(PrefixedWriteIterator.iterateOverCountWithPrefix w.writer (serializerOf variation first)
          .UInt16).1,
        (PrefixedWriteIterator.iterateOverCountWithPrefix w.writer (serializerOf variation first)
          .UInt16).2,
        none, if variation = .Group111Var0 then
          some (MeasurementSpec.octetSize first) else none⟩ := by
      revert hcto
      cases variation <;> intro hcto <;> first | rfl | exact absurd rfl hcto
    rw [hstart, iterateOverCountWithPrefix_spec]
    unfold startSize
    rw [if_neg hcto, Nat.zero_add]
    by_cases hless : w.writer.remaining < 7 + (serializerOf variation first).size
    · rw [if_pos hless, if_pos hless]
      exact ⟨rfl, rfl⟩
    · rw [if_neg hless, if_neg hless]
      refine ⟨⟨rfl, ?_, (if_neg hcto).symm, rfl⟩, ?_⟩
      · rw [ctoHeaders, if_neg hcto, List.append_nil]
      · dsimp only
        omega

/-- What a value has to be for the writer to take it. -/
theorem Writes.prepare_eq {variation : GroupVariation} {first : α} {headers : List (ObjectHeader α)}
    {objects : List (ℕ × α)} {w : EventWriter α} (h : w.Writes variation first headers objects)
    (value : α) :
    (Follows variation first value ∧ w.prepare value = some (encoded variation first value)) ∨
      (¬Follows variation first value ∧ w.prepare value = none) := by
  unfold prepare
  rw [h.cto, h.size]
  by_cases hcto : usesCTO variation
  · have hne : variation ≠ .Group111Var0 := by
      rintro rfl
      cases hcto
    rw [if_pos hcto]
    dsimp only
    -- The time must be within 16 bits after the common one.
    by_cases htime : MeasurementSpec.time value < MeasurementSpec.time first ∨
        65535 < MeasurementSpec.time value - MeasurementSpec.time first
    · right
      refine ⟨fun hfollows => ?_, if_pos htime⟩
      obtain ⟨hle, hlt⟩ := hfollows.1 hcto
      omega
    · left
      refine ⟨⟨fun _ => ⟨by omega, by omega⟩, fun h111 => absurd h111 hne⟩, ?_⟩
      rw [if_neg htime, encoded, if_pos hcto]
  · have hencoded : encoded variation first value = value := if_neg hcto
    rw [if_neg hcto, hencoded]
    by_cases h111 : variation = .Group111Var0
    · rw [if_pos h111]
      dsimp only
      -- A string must be as long as the first one of the header.
      by_cases hsize : MeasurementSpec.octetSize value = MeasurementSpec.octetSize first
      · left
        exact ⟨⟨fun h => absurd h hcto, fun _ => hsize⟩, if_neg (not_not.mpr hsize)⟩
      · right
        exact ⟨fun hfollows => hsize (hfollows.2 h111), if_pos hsize⟩
    · rw [if_neg h111]
      left
      exact ⟨⟨fun h => absurd h hcto, fun h => absurd h h111⟩, rfl⟩

/-- The writer takes a value that follows the first one, if there is the space for it. -/
theorem Writes.write {variation : GroupVariation} {first : α} {headers : List (ObjectHeader α)}
    {objects : List (ℕ × α)} {w : EventWriter α} (h : w.Writes variation first headers objects)
    (value : α) (index : UInt16) :
    (∃ w', w.write value index = some w' ∧ Follows variation first value ∧
      w'.Writes variation first headers
        (objects ++ [(index.toNat, encoded variation first value)]) ∧
      w'.writer.remaining + 2 + (serializerOf variation first).size = w.writer.remaining) ∨
    (w.write value index = none ∧ (Follows variation first value →
      w.writer.remaining < 2 + (serializerOf variation first).size)) := by
  have hcast : IndexType.UInt16.cast index.toNat = index.toNat :=
    cast_of_le (Nat.le_of_lt_succ index.toNat_lt)
  unfold EventWriter.write
  rw [h.iterator]
  obtain ⟨hfollows, hprepare⟩ | ⟨hnot, hprepare⟩ := h.prepare_eq value
  · rw [hprepare]
    dsimp only [PrefixedWriteIterator.write]
    rw [hcast]
    by_cases hspace : (serializerOf variation first).size + IndexType.UInt16.size ≤
        w.writer.remaining
    · left
      rw [if_pos hspace]
      refine ⟨_, rfl, hfollows, ⟨rfl, h.headers_eq, h.cto, h.size⟩, ?_⟩
      dsimp only [HeaderWriter.advance, IndexType.size] at hspace ⊢
      omega
    · right
      rw [if_neg hspace]
      refine ⟨rfl, fun _ => ?_⟩
      dsimp only [IndexType.size] at hspace
      omega
  · right
    rw [hprepare]
    exact ⟨rfl, fun hfollows => absurd hfollows hnot⟩

/-- The writer takes events that follow the first one. -/
theorem Writes.writeAll {variation : GroupVariation} {first : α} {headers : List (ObjectHeader α)}
    {objects : List (ℕ × α)} {w w' : EventWriter α} (h : w.Writes variation first headers objects)
    {events : List (Report α)} (hall : asduEventWriteHandler.writeAll w events = some w') :
    (∀ e ∈ events, Follows variation first e.value) ∧
      w'.Writes variation first headers
        (objects ++ events.map fun e => (e.index.toNat, encoded variation first e.value)) ∧
      w'.writer.remaining + events.length * (2 + (serializerOf variation first).size) =
        w.writer.remaining := by
  induction events generalizing w objects with
  | nil =>
    cases hall
    exact ⟨List.forall_mem_nil _, by simpa using h, by simp⟩
  | cons e events ih =>
    obtain ⟨w₁, hwrite, hrest⟩ := Option.bind_eq_some_iff.mp hall
    obtain ⟨w₂, hw₂, hfollows, hwrites, hspace⟩ | ⟨hnone, -⟩ := h.write e.value e.index
    · have heq : w₂ = w₁ := Option.some.inj (hw₂.symm.trans hwrite)
      subst heq
      obtain ⟨hfollows', hwrites', hspace'⟩ := ih hwrites hrest
      refine ⟨List.forall_mem_cons.mpr ⟨hfollows, hfollows'⟩, ?_, ?_⟩
      · rw [List.append_assoc] at hwrites'
        exact hwrites'
      · rw [List.length_cons, Nat.succ_mul]
        omega
    · change w.write e.value e.index = some w₁ at hwrite
      rw [hnone] at hwrite
      cases hwrite

end EventWriter

/-- The headers that the events of a group make. -/
def groupHeaders : List (Report α) → List (ObjectHeader α)
  | [] => []
  | e :: events => ctoHeaders e.variation e.value ++
      [.prefixed (serializerOf e.variation e.value) .UInt16
        ((e :: events).map fun x => (x.index.toNat, encoded e.variation e.value x.value))]

/-- The events of a group have the variation of the first one and follow it. -/
def IsGroup : List (Report α) → Prop
  | [] => False
  | e :: events => ∀ x ∈ e :: events, x.variation = e.variation ∧
    Follows e.variation e.value x.value

/-- The bytes that the headers of a group take. -/
def groupSize : List (Report α) → ℕ
  | [] => 0
  | e :: events => startSize e.variation e.value +
      events.length * (2 + (serializerOf e.variation e.value).size)

/-- A value follows itself. -/
theorem Follows.refl (variation : GroupVariation) (value : α) : Follows variation value value :=
  ⟨fun _ => ⟨le_rfl, by omega⟩, fun _ => rfl⟩

/-- The headers that a load writes and the space that they take. An event is left only when there is
no space for a header with it. -/
theorem emits_spec {w w' : EventWriter α} {events left : List (Report α)}
    {groups : List (List (Report α))} (h : asduEventWriteHandler.Emits w events groups left w') :
    w'.writer.headers = w.writer.headers ++ groups.flatMap groupHeaders ∧
      w'.writer.remaining + (groups.map groupSize).sum = w.writer.remaining ∧
      (∀ group ∈ groups, IsGroup group) ∧
      ∀ e rest, left = e :: rest → w'.writer.remaining < startSize e.variation e.value := by
  induction h with
  | done w => exact ⟨by simp, by simp, List.forall_mem_nil _, fun e rest h => by cases h⟩
  | @refused w e events hwrite =>
    have hstart := w.start_spec e.variation e.value
    by_cases hless : w.writer.remaining < startSize e.variation e.value
    · rw [if_pos hless] at hstart
      obtain ⟨hiterator, hwriter⟩ := hstart
      have hfinish : (asduEventWriteHandler.finish
          (asduEventWriteHandler.start w e.variation e.value)).writer = w.writer := by
        change (w.start e.variation e.value).finish.writer = w.writer
        unfold EventWriter.finish
        rw [hiterator]
        exact hwriter
      rw [hfinish]
      refine ⟨by simp, by simp, List.forall_mem_nil _, fun e' rest heq => ?_⟩
      cases heq
      exact hless
    · -- The space for the first event has been reserved.
      rw [if_neg hless] at hstart
      obtain ⟨hwrites, hspace⟩ := hstart
      obtain ⟨w', hsome, -⟩ | ⟨-, hfull⟩ := hwrites.write e.value e.index
      · change (w.start e.variation e.value).write e.value e.index = none at hwrite
        rw [hsome] at hwrite
        cases hwrite
      · have hlt := hfull (.refl e.variation e.value)
        omega
  | @header w w' w'' e events rest left groups hsame hwrite hrest ih =>
    obtain ⟨hheaders, hsum, hgroups, hleft⟩ := ih
    have hstart := w.start_spec e.variation e.value
    by_cases hless : w.writer.remaining < startSize e.variation e.value
    · -- Without an iterator nothing is written.
      rw [if_pos hless] at hstart
      have hnone : (w.start e.variation e.value).write e.value e.index = none := by
        unfold EventWriter.write
        rw [hstart.1]
        split <;> first | rfl | contradiction
      obtain ⟨w₁, hfirst, -⟩ := Option.bind_eq_some_iff.mp hwrite
      change (w.start e.variation e.value).write e.value e.index = some w₁ at hfirst
      rw [hnone] at hfirst
      cases hfirst
    · rw [if_neg hless] at hstart
      obtain ⟨hwrites, hspace⟩ := hstart
      obtain ⟨hfollows, hdone, hspace'⟩ := hwrites.writeAll hwrite
      -- The finished header holds the whole group.
      have hfinish : (asduEventWriteHandler.finish w').writer =
          w'.writer.push (.prefixed (serializerOf e.variation e.value) .UInt16
            ((e :: events).map fun x => (x.index.toNat, encoded e.variation e.value x.value))) := by
        change w'.finish.writer = _
        unfold EventWriter.finish
        rw [hdone.iterator]
        rfl
      rw [hfinish] at hheaders hsum
      dsimp only [HeaderWriter.push] at hheaders hsum
      refine ⟨?_, ?_, List.forall_mem_cons.mpr ⟨fun x hx => ?_, hgroups⟩, hleft⟩
      · rw [hheaders, hdone.headers_eq, List.flatMap_cons, groupHeaders]
        simp only [List.append_assoc]
      · rw [List.map_cons, List.sum_cons, groupSize]
        rw [List.length_cons, Nat.succ_mul] at hspace'
        omega
      · refine ⟨?_, hfollows x hx⟩
        obtain rfl | hx := List.mem_cons.mp hx
        · rfl
        · exact (hsame x hx).2

/-! ## The bytes of a load -/

/-- What the serializers of the events write for a value: as many bytes as the object takes, and for
an octet string its bytes. -/
structure EventSerializers (α : Type*) [MeasurementSpec α] where
  write : GroupVariation → α → List UInt8
  length_write : ∀ variation value, variation ≠ .Group111Var0 →
    (write variation value).length = variation.size
  length_octets : ∀ value, (write .Group111Var0 value).length =
    (MeasurementSpec.octetSize value).toNat

namespace EventSerializers

variable (s : EventSerializers α)

/-- The bytes of a header of events. -/
def bytesOf : ObjectHeader α → List UInt8
  | .prefixed serializer index objects =>
    countIndexBytes serializer index (objects.map fun o => (o.1, s.write serializer.gv o.2))
  | .single gv index object => singleBytes gv index object
  -- The writers of events make no other headers.
  | _ => []

/-- The bytes that a load writes. -/
def objectBytes (headers : List (ObjectHeader α)) : List UInt8 := headers.flatMap s.bytesOf

end EventSerializers

/-- An event of a fragment: its object with the bytes, and the common time that stands before it. -/
structure DecodedEvent where
  variation : GroupVariation
  index : ℕ
  object : List UInt8
  cto : Option (List UInt8) := none
  deriving DecidableEq, Repr

/-- The events of the headers of a fragment. A common time is for the headers behind it whose times
are relative. -/
def decodeEvents (cto : Option (List UInt8)) : List HeaderCall → List DecodedEvent
  | [] => []
  | .countValues record _ values :: calls =>
    if record.enumeration = .Group51Var1 then decodeEvents (values.head?.map Value.bytes) calls
    else decodeEvents cto calls
  | .prefixValues record _ values :: calls =>
    (values.map fun value =>
      { variation := record.enumeration, index := value.index, object := value.value.bytes,
        cto := if usesCTO record.enumeration then cto else none }) ++ decodeEvents cto calls
  | _ :: calls => decodeEvents cto calls

/-- The event is decoded from its wire form: the object of its value, or for a relative time the
object of the value with the time since the common one. -/
def EventSerializers.Decodes (s : EventSerializers α) (d : DecodedEvent) (e : Report α) : Prop :=
  d.variation = e.variation ∧ d.index = e.index.toNat ∧
    if usesCTO e.variation then
      ∃ cto, d.cto = some (writeUInt48 cto) ∧ cto ≤ MeasurementSpec.time e.value ∧
        MeasurementSpec.time e.value ≤ cto + 65535 ∧
        d.object = s.write e.variation
          (MeasurementSpec.withTime e.value (MeasurementSpec.time e.value - cto))
    else d.cto = none ∧ d.object = s.write e.variation e.value

/-- The event has an object that the parser knows. -/
def IsEncodable (e : Report α) : Prop :=
  (e.variation = .Group111Var0 ∧ MeasurementSpec.octetSize e.value ≠ 0) ∨
    (e.variation ≠ .Group111Var0 ∧ CountIndexParser.supports e.variation)

/-- The objects of a group with their index prefixes, behind this first event. -/
def wireObjects (s : EventSerializers α) (first : Report α) (group : List (Report α)) :
    List (ℕ × List UInt8) :=
  group.map fun x =>
    (x.index.toNat, s.write first.variation (encoded first.variation first.value x.value))

/-- The header calls of a group. -/
def groupCalls (s : EventSerializers α) (place : ℕ) : List (Report α) → List HeaderCall
  | [] => []
  | e :: events =>
    let serializer := serializerOf e.variation e.value
    let values := prefixedValues (wireObjects s e (e :: events))
    if usesCTO e.variation then
      [.countValues (headerRecord GroupVariation.Group51Var1.inst (countCode .UInt8) place) 1
          [.object (writeUInt48 (MeasurementSpec.time e.value))],
        .prefixValues (headerRecord serializer (countIndexCode .UInt16) (place + 1))
          (e :: events).length values]
    else
      [.prefixValues (headerRecord serializer (countIndexCode .UInt16) place) (e :: events).length
        values]

/-- The serializer of an event that can be encoded writes with prefixes. -/
theorem isPrefixed_serializerOf {e : Report α} (h : IsEncodable e) :
    (serializerOf e.variation e.value).IsPrefixed := by
  unfold serializerOf
  obtain ⟨h111, hsize⟩ | ⟨hne, hsupports⟩ := h
  · rw [if_pos h111]
    refine .inl ⟨rfl, Nat.pos_of_ne_zero fun hzero => hsize ?_, UInt8.toNat_lt _⟩
    exact UInt8.toNat_inj.mp hzero
  · rw [if_neg hne]
    exact .inr ⟨hne, hsupports, rfl⟩

/-- The objects of a group have the size of its serializer. -/
theorem fitsIn_group (s : EventSerializers α) {e : Report α} {events : List (Report α)}
    (hgroup : IsGroup (e :: events)) :
    FitsIn (serializerOf e.variation e.value) .UInt16 (wireObjects s e (e :: events)) := by
  intro object hobject
  obtain ⟨x, hx, rfl⟩ := List.mem_map.mp hobject
  refine ⟨Nat.le_of_lt_succ x.index.toNat_lt, ?_⟩
  unfold serializerOf
  by_cases h111 : e.variation = .Group111Var0
  · have hencoded : encoded e.variation e.value x.value = x.value := by
      rw [encoded, h111]
      exact if_neg (by decide)
    rw [if_pos h111, hencoded, h111, s.length_octets, (hgroup x hx).2.2 h111]
  · rw [if_neg h111]
    exact s.length_write _ _ h111

/-- The bytes of the header with the objects of a group. -/
theorem bytesOf_group (s : EventSerializers α) (e : Report α) (events : List (Report α)) :
    s.bytesOf (.prefixed (serializerOf e.variation e.value) .UInt16
        ((e :: events).map fun x => (x.index.toNat, encoded e.variation e.value x.value))) =
      countIndexBytes (serializerOf e.variation e.value) .UInt16
        (wireObjects s e (e :: events)) := by
  rw [EventSerializers.bytesOf, List.map_map, gv_serializerOf]
  rfl

/-- The parser takes the bytes of a group. -/
theorem groupCalls_segments (s : EventSerializers α) (place : ℕ) {group : List (Report α)}
    (hgroup : IsGroup group) (hlen : group.length < 2 ^ 16)
    (hencodable : ∀ e ∈ group, IsEncodable e) :
    Reader.Segments (APDUParser.headerReader {}) place (s.objectBytes (groupHeaders group))
      (groupCalls s place group) := by
  cases group with
  | nil => exact .nil place
  | cons e events =>
    have hprefixed := isPrefixed_serializerOf (hencodable e (List.mem_cons_self ..))
    have hfits := fitsIn_group s hgroup
    -- The header with the events, at any place.
    have hsegment : ∀ place, Reader.Segments (APDUParser.headerReader {}) place
        (s.objectBytes [.prefixed (serializerOf e.variation e.value) .UInt16
          ((e :: events).map fun x => (x.index.toNat, encoded e.variation e.value x.value))])
        [.prefixValues (headerRecord (serializerOf e.variation e.value)
          (countIndexCode .UInt16) place)
          (e :: events).length (prefixedValues (wireObjects s e (e :: events)))] := by
      intro place
      have hlength : (wireObjects s e (e :: events)).length = (e :: events).length :=
        List.length_map ..
      have hne : wireObjects s e (e :: events) ≠ [] := List.cons_ne_nil _ _
      have htakes := takes_countIndexBytes hprefixed hne
        (by rw [hlength]; exact Nat.le_of_lt_succ hlen) hfits {} place
      rw [hlength] at htakes
      rw [EventSerializers.objectBytes, List.flatMap_singleton, bytesOf_group, ← List.append_nil
        (countIndexBytes ..)]
      exact .cons (by simp [countIndexBytes, headerBytes]) htakes (.nil _)
    rw [groupHeaders, groupCalls, ctoHeaders]
    by_cases hcto : usesCTO e.variation
    · rw [if_pos hcto, if_pos hcto]
      have htime : (writeUInt48 (MeasurementSpec.time e.value)).length =
          GroupVariation.Group51Var1.size := rfl
      have htakes := @takes_singleBytes .Group51Var1 rfl .UInt8 _ htime place
      have hne : singleBytes .Group51Var1 .UInt8
        (writeUInt48 (MeasurementSpec.time e.value)) ≠ [] := by
        simp [singleBytes, headerBytes]
      exact .cons hne htakes (hsegment (place + 1))
    · rw [if_neg hcto, if_neg hcto]
      exact hsegment place

/-- The calls of a group are decoded as the events of the group. -/
theorem decodeEvents_groupCalls (s : EventSerializers α) (place : ℕ) {group : List (Report α)}
    (hgroup : IsGroup group) (cto : Option (List UInt8)) (calls : List HeaderCall) :
    ∃ cto' decoded, decodeEvents cto (groupCalls s place group ++ calls) =
        decoded ++ decodeEvents cto' calls ∧ List.Forall₂ s.Decodes decoded group := by
  cases group with
  | nil => exact ⟨cto, [], rfl, .nil⟩
  | cons e events =>
    have hgv := gv_serializerOf e.variation e.value
    by_cases hcto : usesCTO e.variation
    · refine ⟨some (writeUInt48 (MeasurementSpec.time e.value)), (e :: events).map fun x =>
        { variation := e.variation, index := x.index.toNat
          object := s.write e.variation (encoded e.variation e.value x.value)
          cto := some (writeUInt48 (MeasurementSpec.time e.value)) }, ?_, ?_⟩
      · rw [groupCalls]
        rw [if_pos hcto, List.cons_append, decodeEvents, enumeration_headerRecord,
          if_pos (show GroupVariation.Group51Var1.inst.gv = .Group51Var1 from rfl),
            List.cons_append, decodeEvents, enumeration_headerRecord, hgv, if_pos hcto, wireObjects,
          prefixedValues, List.map_map, List.map_map]
        rfl
      · -- The time of each event is the common one and its difference.
        refine List.forall₂_map_left_iff.mpr (List.forall₂_same.mpr fun x hx => ?_)
        obtain ⟨hvariation, hfollows⟩ := hgroup x hx
        obtain ⟨hle, hlt⟩ := hfollows.1 hcto
        refine ⟨hvariation.symm, rfl, ?_⟩
        rw [hvariation, if_pos hcto]
        refine ⟨_, rfl, hle, hlt, ?_⟩
        rw [encoded, if_pos hcto]
    · refine ⟨cto, (e :: events).map fun x =>
        { variation := e.variation, index := x.index.toNat
          object := s.write e.variation (encoded e.variation e.value x.value) }, ?_, ?_⟩
      · rw [groupCalls]
        rw [if_neg hcto, List.cons_append, decodeEvents, enumeration_headerRecord, hgv, if_neg hcto,
          wireObjects, prefixedValues, List.map_map, List.map_map]
        rfl
      · refine List.forall₂_map_left_iff.mpr (List.forall₂_same.mpr fun x hx => ?_)
        obtain ⟨hvariation, -⟩ := hgroup x hx
        refine ⟨hvariation.symm, rfl, ?_⟩
        rw [hvariation, if_neg hcto, encoded, if_neg hcto]
        exact ⟨rfl, rfl⟩

/-- The header calls of groups that follow each other. -/
def callsOf (s : EventSerializers α) (place : ℕ) : List (List (Report α)) → List HeaderCall
  | [] => []
  | group :: groups =>
    groupCalls s place group ++ callsOf s (place + (groupCalls s place group).length) groups

/-- The parser calls the headers of the groups one after the other. -/
theorem callsOf_segments (s : EventSerializers α) (place : ℕ) {groups : List (List (Report α))}
    (hgroups : ∀ group ∈ groups, IsGroup group ∧ group.length < 2 ^ 16 ∧
      ∀ e ∈ group, IsEncodable e) :
    Reader.Segments (APDUParser.headerReader {}) place (s.objectBytes (groups.flatMap groupHeaders))
      (callsOf s place groups) := by
  induction groups generalizing place with
  | nil => exact .nil place
  | cons group groups ih =>
    obtain ⟨⟨hgroup, hlen, hencodable⟩, hrest⟩ := List.forall_mem_cons.mp hgroups
    have hbytes : s.objectBytes ((group :: groups).flatMap groupHeaders) =
        s.objectBytes (groupHeaders group) ++ s.objectBytes (groups.flatMap groupHeaders) := by
      rw [List.flatMap_cons, EventSerializers.objectBytes, List.flatMap_append]
      rfl
    rw [hbytes, callsOf]
    exact (groupCalls_segments s place hgroup hlen hencodable).append (ih _ hrest)

/-- The calls of all groups are decoded as all events. -/
theorem decodeEvents_callsOf (s : EventSerializers α) (place : ℕ) (cto : Option (List UInt8))
    {groups : List (List (Report α))} (hgroups : ∀ group ∈ groups, IsGroup group) :
    List.Forall₂ s.Decodes (decodeEvents cto (callsOf s place groups)) groups.flatten := by
  induction groups generalizing place cto with
  | nil => exact .nil
  | cons group groups ih =>
    obtain ⟨hgroup, hrest⟩ := List.forall_mem_cons.mp hgroups
    obtain ⟨cto', decoded, hdecoded, hall⟩ := decodeEvents_groupCalls s place hgroup cto
      (callsOf s (place + (groupCalls s place group).length) groups)
    rw [callsOf, hdecoded, List.flatten_cons]
    exact List.rel_append hall (ih _ cto' hrest)

/-- The number of objects that a header counts. -/
def objectCount : HeaderCall → ℕ
  | .countValues _ count _ | .prefixValues _ count _ | .count _ count => count
  | .rangeValues _ range _ | .range _ range => range.count
  | .freeFormat _ count _ _ => count
  | .allObjects _ => 0

/-- Every header of the calls has an object. -/
theorem objectCount_callsOf (s : EventSerializers α) (place : ℕ) (groups : List (List (Report α))) :
    ∀ call ∈ callsOf s place groups, 0 < objectCount call := by
  induction groups generalizing place with
  | nil => exact List.forall_mem_nil _
  | cons group groups ih =>
    rw [callsOf]
    refine List.forall_mem_append.mpr ⟨?_, ih _⟩
    cases group with
    | nil => exact List.forall_mem_nil _
    | cons e events =>
      rw [groupCalls]
      split_ifs
      · exact List.forall_mem_cons.mpr ⟨Nat.one_pos, List.forall_mem_singleton.mpr (Nat.succ_pos _)⟩
      · exact List.forall_mem_singleton.mpr (Nat.succ_pos _)

end Headers

end OpenDnp3.Outstation
