import OpenDnp3.App.CheckedParserSpec
import OpenDnp3.Outstation.EventEncoding

/-!
# The events of a fragment

What a load writes decodes to the events that become written, for every space, if and only if no
octet string without bytes is selected (`load_decodes_iff`).
-/

namespace OpenDnp3.Outstation

open App EventLists

section Headers

variable {α : Type*} [MeasurementSpec α]

/-- What a load writes decodes to the events that become written. -/
def LoadDecodes (s : EventSerializers α) (b : EventBuffer α) (size : ℕ) : Prop :=
  let (_, b', writer, _) := b.load { remaining := size }
  ∃ calls written, parsedHeaders (s.objectBytes writer.headers) = some calls ∧
    (∀ call ∈ calls, 0 < objectCount call) ∧
    List.Forall₂ s.Decodes (decodeEvents none calls) written ∧
    written <+: b.storage.selectedReports ∧
    b'.storage.events.used = b.storage.events.used.map fun n =>
      if n.2.id ∈ written.map Report.id then (n.1, { n.2 with state := .written }) else n

omit [MeasurementSpec α] in
/-- The parser takes the variations of the types with an index prefix. -/
theorem EventType.supports_variations (type : EventType) :
    ∀ gv ∈ type.variations, type = .OctetString ∨
      (gv ≠ .Group111Var0 ∧ CountIndexParser.supports gv) := by
  cases type <;> decide

/-- An octet string without bytes. -/
def IsEmptyString (e : Report α) : Prop :=
  e.variation = .Group111Var0 ∧ MeasurementSpec.octetSize e.value = 0

/-- A selected event can be encoded, unless it is an octet string without bytes. -/
theorem isEncodable_or_empty {b : EventBuffer α} (h : b.storage.Typed) :
    ∀ e ∈ b.storage.selectedReports, IsEncodable e ∨ IsEmptyString e := by
  intro e he
  have hvariation := h.reports he
  by_cases htype : e.type = .OctetString
  · rw [htype] at hvariation
    have h111 := List.mem_singleton.mp hvariation
    by_cases hzero : MeasurementSpec.octetSize e.value = 0
    · exact .inr ⟨h111, hzero⟩
    · exact .inl (.inl ⟨h111, hzero⟩)
  · exact .inl (.inr ((e.type.supports_variations _ hvariation).resolve_left htype))

/-- All selected events can be encoded where no octet string without bytes is among them. -/
theorem isEncodable_of_typed {b : EventBuffer α} (h : b.storage.Typed)
    (hoctets : ∀ e ∈ b.storage.selectedReports, e.type = .OctetString →
      MeasurementSpec.octetSize e.value ≠ 0) :
    ∀ e ∈ b.storage.selectedReports, IsEncodable e := by
  intro e he
  refine (isEncodable_or_empty h e he).resolve_right fun hempty => ?_
  have hvariation := h.reports he
  have hstring : e.type = .OctetString := by
    by_contra htype
    exact ((e.type.supports_variations _ hvariation).resolve_left htype).1 hempty.1
  exact hoctets e he hstring hempty.2

/-- The room for a header with a common time and with the largest object, an octet string of 255
bytes. -/
def maxReportSpace : ℕ := 10 + 7 + 255

/-- A serializer writes at most 255 bytes. -/
theorem size_serializerOf_le (variation : GroupVariation) (first : α) :
    (serializerOf variation first).size ≤ 255 := by
  unfold serializerOf
  split_ifs
  · exact Nat.le_of_lt_succ (UInt8.toNat_lt _)
  · exact (Checked.size_le variation).trans (by decide)

/-- No header with its first object needs more than the largest report. -/
theorem startSize_le (variation : GroupVariation) (first : α) :
    startSize variation first ≤ maxReportSpace := by
  have hsize := size_serializerOf_le variation first
  unfold startSize maxReportSpace
  split_ifs <;> omega

/-- Each event of a group takes no more than a header with the largest object. -/
theorem groupSize_le (group : List (Report α)) :
    groupSize group ≤ group.length * maxReportSpace := by
  cases group with
  | nil => exact Nat.zero_le _
  | cons e events =>
    have hstart := startSize_le e.variation e.value
    have hsize : 2 + (serializerOf e.variation e.value).size ≤ maxReportSpace := by
      have hle := size_serializerOf_le e.variation e.value
      unfold maxReportSpace
      omega
    have hrest := Nat.mul_le_mul_left events.length hsize
    rw [groupSize, List.length_cons, Nat.add_mul, Nat.one_mul]
    omega

/-- The groups need no more space than their events one by one. -/
theorem sum_groupSize_le (groups : List (List (Report α))) :
    (groups.map groupSize).sum ≤ groups.flatten.length * maxReportSpace := by
  induction groups with
  | nil => exact Nat.zero_le _
  | cons group groups ih =>
    have hgroup := groupSize_le group
    rw [List.map_cons, List.sum_cons, List.flatten_cons, List.length_append, Nat.add_mul]
    omega

/-- What a load writes: the headers of groups of the first selected events, and of all of them where
there is room. These and no others become written. -/
theorem load_groups {config : EventBufferConfig} {b : EventBuffer α} (h : b.Inv config) (size : ℕ) :
    ∃ groups : List (List (Report α)),
      (b.load { remaining := size }).2.2.1.headers = groups.flatMap groupHeaders ∧
      (∀ group ∈ groups, IsGroup group ∧ group.length < 2 ^ 16) ∧
      groups.flatten <+: b.storage.selectedReports ∧
      ((b.storage.selectedReports.length + 1) * maxReportSpace ≤ size →
        groups.flatten = b.storage.selectedReports) ∧
      (b.load { remaining := size }).2.1.storage.events.used = b.storage.events.used.map fun n =>
        if n.2.id ∈ groups.flatten.map Report.id then
          (n.1, { n.2 with state := .written }) else n := by
  obtain ⟨passed, rest, groups, hused, hemits, hheaders, hids, hmarked, -, hsame⟩ :=
    write_emits h.storage asduEventWriteHandler { writer := { remaining := size } }
  obtain ⟨hwritten, hspace, hgroups, hleft⟩ := emits_spec hemits
  have hall := hemits.eq_append
  refine ⟨groups, hwritten, fun group hgroup => ⟨hgroups group hgroup, (hsame group hgroup).1⟩, ?_,
    fun hroom => ?_, ?_⟩
  · rw [hall]
    exact List.prefix_append ..
  · cases hrest : b.storage.reports rest with
    | nil => rw [hall, hrest, List.append_nil]
    | cons e events =>
      -- There was space for one more event than there are.
      have hless := (hleft e events hrest).trans_le (startSize_le e.variation e.value)
      have hsum := sum_groupSize_le groups
      have hcount : groups.flatten.length ≤ b.storage.selectedReports.length := by
        rw [hall, List.length_append]
        exact Nat.le_add_right ..
      have hmul := Nat.mul_le_mul_right maxReportSpace hcount
      rw [Nat.add_mul, Nat.one_mul] at hroom
      dsimp only at hspace
      omega
  · change (b.storage.write asduEventWriteHandler
      { writer := { remaining := size } }).lists.events.used = _
    rw [hmarked, map_markNode h.storage hused, hheaders]

/-- What a load writes into any space is accepted by the parser, in headers that are not empty, and
decodes to the events that become written, where all selected events can be encoded. -/
theorem load_decodes_of_encodable (s : EventSerializers α) {config : EventBufferConfig}
    {b : EventBuffer α} (hinv : b.Inv config)
    (hencodable : ∀ e ∈ b.storage.selectedReports, IsEncodable e) (size : ℕ) :
    LoadDecodes s b size := by
  obtain ⟨groups, hheaders, hgroups, hfirst, -, hmarked⟩ := load_groups hinv size
  have hall : ∀ group ∈ groups, IsGroup group ∧ group.length < 2 ^ 16 ∧
      ∀ e ∈ group, IsEncodable e := by
    refine fun group hgroup => ⟨(hgroups group hgroup).1, (hgroups group hgroup).2, fun e he => ?_⟩
    exact hencodable e (hfirst.subset (List.mem_flatten_of_mem hgroup he))
  refine ⟨callsOf s 0 groups, groups.flatten, ?_, objectCount_callsOf s 0 groups,
    decodeEvents_callsOf s 0 none fun group hgroup => (hgroups group hgroup).1, hfirst, hmarked⟩
  refine parsedHeaders_of_segments ?_
  change Reader.Segments _ 0 (s.objectBytes (b.load { remaining := size }).2.2.1.headers) _
  rw [hheaders]
  exact callsOf_segments s 0 hall

/-! ## Octet strings without bytes -/

/-- The header of the strings without bytes is an error at any place. -/
theorem headerReader_emptyString {serializer : DNP3Serializer}
    (hgv : serializer.gv = .Group111Var0) (hsize : serializer.size = 0)
    {objects : List (ℕ × List UInt8)} (hne : objects ≠ []) (hlen : objects.length < 2 ^ 16)
    (place : ℕ) (rest : List UInt8) :
    APDUParser.headerReader {} place (countIndexBytes serializer .UInt16 objects ++ rest) =
      .error .INVALID_OBJECT := by
  have hpos := List.length_pos_iff.mpr hne
  have hle : objects.length ≤ IndexType.UInt16.max := by
    change objects.length ≤ 65535
    omega
  have hknown : serializer.gv ≠ .UNKNOWN := by
    rw [hgv]
    decide
  have hvariation : (headerRecord serializer (countIndexCode .UInt16) place).variation = 0 := by
    apply UInt8.toNat_inj.mp
    rw [variation_headerRecord (.inr hgv) (by omega), hsize]
    rfl
  simp only [countIndexBytes, List.append_assoc, APDUParser.headerReader, Reader.bind,
    recordReader_headerBytes hknown, qualifierReader_countIndexCode, CountIndexParser.reader,
      cast_of_le hle,
    countReader_writeNum hpos hle]
  -- The variation of the header is the size of the strings.
  unfold CountIndexParser.objects
  rw [enumeration_headerRecord, if_pos hgv, if_pos hvariation]
  rfl

/-- The parser refuses the header of a group with a string without bytes. -/
theorem headerReader_emptyGroup (s : EventSerializers α) {group : List (Report α)}
    (hgroup : IsGroup group) (hlen : group.length < 2 ^ 16) (hempty : ∃ e ∈ group, IsEmptyString e)
    (place : ℕ) (rest : List UInt8) :
    s.objectBytes (groupHeaders group) ≠ [] ∧
      APDUParser.headerReader {} place (s.objectBytes (groupHeaders group) ++ rest) =
        .error .INVALID_OBJECT := by
  obtain ⟨x, hx, hvariation, hsize⟩ := hempty
  cases group with
  | nil => cases hx
  | cons e events =>
    -- The group is of strings without bytes from its first event on.
    obtain ⟨hsame, hfollows⟩ := hgroup x hx
    have h111 : e.variation = .Group111Var0 := hsame.symm.trans hvariation
    have hzero : MeasurementSpec.octetSize e.value = 0 := (hfollows.2 h111).symm.trans hsize
    have hserializer : (serializerOf e.variation e.value).size = 0 := by
      unfold serializerOf
      rw [if_pos h111, hzero]
      rfl
    have hcto : ctoHeaders e.variation e.value = [] := by
      rw [ctoHeaders, h111]
      exact if_neg (by decide)
    have hheaders : s.objectBytes (groupHeaders (e :: events)) =
        countIndexBytes (serializerOf e.variation e.value) .UInt16
          (wireObjects s e (e :: events)) := by
      rw [groupHeaders, hcto, List.nil_append, EventSerializers.objectBytes,
        List.flatMap_singleton, bytesOf_group]
    have hlength : (wireObjects s e (e :: events)).length < 2 ^ 16 := by
      rw [wireObjects, List.length_map]
      exact hlen
    rw [hheaders]
    refine ⟨?_, headerReader_emptyString ((gv_serializerOf _ _).trans h111) hserializer
      (List.cons_ne_nil _ _) hlength _ _⟩
    simp [countIndexBytes, headerBytes]

/-- Groups are not parsed where one of them has strings without bytes. -/
theorem parsedHeaders_emptyString (s : EventSerializers α) {groups : List (List (Report α))}
    (hgroups : ∀ group ∈ groups, IsGroup group ∧ group.length < 2 ^ 16)
    (hencodable : ∀ e ∈ groups.flatten, IsEncodable e ∨ IsEmptyString e)
    (hempty : ∃ e ∈ groups.flatten, IsEmptyString e) {before : List UInt8}
    {headers : List HeaderCall}
    (hbefore : Reader.Segments (APDUParser.headerReader {}) 0 before headers) :
    parsedHeaders (before ++ s.objectBytes (groups.flatMap groupHeaders)) = none := by
  induction groups generalizing before headers with
  | nil =>
    obtain ⟨e, hmem, -⟩ := hempty
    cases hmem
  | cons group groups ih =>
    obtain ⟨⟨hgroup, hlen⟩, hrest⟩ := List.forall_mem_cons.mp hgroups
    rw [List.flatten_cons] at hencodable hempty
    have hbytes : s.objectBytes ((group :: groups).flatMap groupHeaders) =
        s.objectBytes (groupHeaders group) ++ s.objectBytes (groups.flatMap groupHeaders) := by
      rw [List.flatMap_cons, EventSerializers.objectBytes, List.flatMap_append]
      rfl
    rw [hbytes]
    by_cases hnone : ∃ e ∈ group, IsEmptyString e
    · -- The parser stops at the first such group.
      obtain ⟨hbytes, herror⟩ := headerReader_emptyGroup s hgroup hlen hnone headers.length
        (s.objectBytes (groups.flatMap groupHeaders))
      exact parsedHeaders_append_of_error hbefore (by simp [hbytes]) herror
    · -- The group is parsed, and the strings come later.
      have hencodable' : ∀ e ∈ group, IsEncodable e := by
        intro e he
        refine (hencodable e (List.mem_append_left _ he)).resolve_right fun h => ?_
        exact hnone ⟨e, he, h⟩
      obtain ⟨x, hx, hxempty⟩ := hempty
      have hx' : x ∈ groups.flatten :=
        (List.mem_append.mp hx).resolve_left fun h => hnone ⟨x, h, hxempty⟩
      have hsegments := groupCalls_segments s headers.length hgroup hlen hencodable'
      rw [← Nat.zero_add headers.length] at hsegments
      rw [← List.append_assoc]
      exact ih hrest (fun e he => hencodable e (List.mem_append_right _ he)) ⟨x, hx', hxempty⟩
        (hbefore.append hsegments)

/-- After any operations on a buffer of any configuration: what a load writes is, for every space,
accepted by the parser, in headers that are not empty, and decodes to the events that become
written, if and only if no octet string without bytes is selected. -/
theorem load_decodes_iff (s : EventSerializers α) (config : EventBufferConfig)
    (ops : List (EventBuffer.Operation α)) :
    let b := Machine.run EventBuffer.step (EventBuffer.ofConfig config) ops
    (∀ size, LoadDecodes s b size) ↔
      ∀ e ∈ b.storage.selectedReports, e.type = .OctetString →
        MeasurementSpec.octetSize e.value ≠ 0 := by
  intro b
  have hinv : b.Inv config := EventBuffer.run_inv config ops
  generalize b = b at hinv
  constructor
  · intro hdecodes e he htype hzero
    have hvariation := hinv.typed.reports he
    rw [htype] at hvariation
    have hempty : IsEmptyString e := ⟨List.mem_singleton.mp hvariation, hzero⟩
    -- A space with room for everything that is selected.
    obtain ⟨groups, hheaders, hgroups, -, hroom, -⟩ :=
      load_groups hinv ((b.storage.selectedReports.length + 1) * maxReportSpace)
    have hall := hroom le_rfl
    obtain ⟨calls, written, hparsed, -⟩ :=
      hdecodes ((b.storage.selectedReports.length + 1) * maxReportSpace)
    change parsedHeaders (s.objectBytes (b.load { remaining := _ }).2.2.1.headers) = _ at hparsed
    have hnone := parsedHeaders_emptyString s hgroups (fun e he => by
      rw [hall] at he
      exact isEncodable_or_empty hinv.typed e he) ⟨e, by rw [hall]; exact he, hempty⟩ (.nil 0)
    rw [List.nil_append, ← hheaders, hparsed] at hnone
    cases hnone
  · intro hoctets size
    exact load_decodes_of_encodable s hinv (isEncodable_of_typed hinv.typed hoctets) size

end Headers

/-! ## Octet strings and binaries -/

/-- `Binary`, `DoubleBitBinary` and `OctetString`: the flags, with the state of the point in them,
the time, and the bytes of a string. -/
structure Measurement where
  flags : UInt8 := 0
  time : ℤ := 0
  octets : List UInt8 := []
  deriving DecidableEq, Repr

/-- `BinarySpec` and `OctetStringSpec`. A string is cut off at its maximal size. -/
instance Measurement.spec : MeasurementSpec Measurement where
  isEvent _ last value _ := last.flags != value.flags || last.octets != value.octets
  isQualityOnlineOnly value := value.flags &&& 0x7F = 1
  bit value := value.flags &&& 0x80 ≠ 0
  octetSize value := UInt8.ofNat (min 255 value.octets.length)
  time value := value.time
  withTime value time := { value with time }
  withFlags value flags := { value with flags }

/-- A number in little-endian bytes. -/
def littleEndian (n : ℕ) (value : ℤ) : List UInt8 :=
  (List.range n).map fun i => UInt8.ofNat (value / 256 ^ i % 256).toNat

/-- The serializers: the flags with the time, if there is one, in the bytes behind them. -/
def Measurement.serializers : EventSerializers Measurement where
  write variation value :=
    if variation = .Group111Var0 then value.octets.take 255
    else (value.flags :: littleEndian (variation.size - 1) value.time).take variation.size
  length_write variation value h := by
    rw [if_neg h, List.length_take, List.length_cons, littleEndian, List.length_map,
      List.length_range]
    omega
  length_octets value := by
    change (value.octets.take 255).length = (UInt8.ofNat (min 255 value.octets.length)).toNat
    rw [List.length_take, UInt8.toNat_ofNat_of_lt' (by change _ < 256; omega)]

/-- A binary, a double-bit binary 65536 ms before it, and a string. -/
def threeEvents : List (EventBuffer.Operation Measurement) :=
  [.update ⟨⟨.Binary, { flags := 0x81, time := 70000 }, 3, .EC1, .Group2Var3⟩, by decide⟩,
    .update ⟨⟨.DoubleBitBinary, { flags := 0x41, time := 4464 }, 4, .EC2, .Group4Var3⟩, by decide⟩,
    .update ⟨⟨.OctetString, { octets := [1, 2] }, 5, .EC1, .Group111Var0⟩, by decide⟩,
    .selectAllByClass ⟨false, true, true, true⟩]

/-- Of three events the first two fit the space. -/
theorem load_decodes_threeEvents :
    LoadDecodes Measurement.serializers (Machine.run EventBuffer.step (EventBuffer.ofConfig
      { maxBinaryEvents := 1, maxDoubleBinaryEvents := 1, maxOctetStringEvents := 1 }) threeEvents)
      45 :=
  (load_decodes_iff Measurement.serializers _ threeEvents).mpr (by decide +kernel) 45

/-- A string without bytes is reported with an object that the parser does not know. -/
theorem load_not_decodes_emptyString :
    ¬LoadDecodes Measurement.serializers (Machine.run EventBuffer.step (EventBuffer.ofConfig
      { maxOctetStringEvents := 1 })
      [.update ⟨⟨.OctetString, {}, 5, .EC1, .Group111Var0⟩, by decide⟩, .selectAll .Group111Var0])
      100 := by
  rintro ⟨calls, written, hparsed, -⟩
  have hnone : parsedHeaders [111, 0, 0x28, 1, 0, 5, 0] = none := by decide +kernel
  cases hnone.symm.trans hparsed

end OpenDnp3.Outstation
