import OpenDnp3.Master.MeasurementHandler
import OpenDnp3.Outstation.EventDecoding

/-!
# The common time of occurrence

What the master makes of the binaries and double-bit binaries that the outstation reports with times
relative to a common one: each has its index, its flags and its absolute time again.
-/

namespace OpenDnp3.EndToEnd

open App Outstation EventLists
open Master (SOECall MeasurementHandler)

/-- A binary or a double-bit binary with its index, as the `ISOEHandler` receives it. -/
structure TimedBinary where
  variation : GroupVariation
  index : ℕ
  flags : UInt8
  time : ℤ
  deriving DecidableEq, Repr

/-- `ReadTarget` of `Group2Var3` and `Group4Var3`, with the common time added. -/
def readTarget (variation : GroupVariation) (commonTime : ℕ)
    (value : Indexed Value) : TimedBinary where
  variation := variation
  index := value.index
  flags := value.value.bytes.getD 0 0
  time := (readUInt16 (value.value.bytes.drop 1)).toNat + commonTime

/-- The values that come with a common time. -/
def received : SOECall → List TimedBinary
  | .process info values (some commonTime) => values.map (readTarget info.gv commonTime)
  | _ => []

/-- What the outstation reports. -/
def reported (e : Report Measurement) : TimedBinary where
  variation := e.variation
  index := e.index.toNat
  flags := e.value.flags
  time := e.value.time

/-- The time can be written into six bytes. -/
def IsTimed (e : Report Measurement) : Prop :=
  usesCTO e.variation ∧ 0 ≤ e.value.time ∧ e.value.time < 2 ^ 48

/-- A relative time is written as a number of two bytes. -/
theorem littleEndian_eq {time : ℤ} (hnonneg : 0 ≤ time) (hle : time ≤ 65535) :
    littleEndian 2 time = writeUInt16 (UInt16.ofNat time.toNat) := by
  have hlt : time.toNat < 2 ^ 16 := by omega
  have hlow : UInt8.ofNat (time % 256).toNat = (UInt16.ofNat time.toNat).toUInt8 := by
    apply UInt8.toNat_inj.mp
    rw [UInt8.toNat_ofNat_of_lt' (by change _ < 256; omega), UInt16.toNat_toUInt8,
      UInt16.toNat_ofNat_of_lt' hlt]
    omega
  have hhigh : UInt8.ofNat (time / 256 % 256).toNat = (UInt16.ofNat time.toNat >>> 8).toUInt8 := by
    apply UInt8.toNat_inj.mp
    rw [UInt8.toNat_ofNat_of_lt' (by change _ < 256; omega), UInt16.toNat_toUInt8,
      UInt16.toNat_shiftRight, UInt16.toNat_ofNat_of_lt' hlt, Nat.shiftRight_eq_div_pow]
    change _ = time.toNat / 2 ^ 8 % 2 ^ 8
    omega
  rw [writeUInt16, ← hlow, ← hhigh]
  simp [littleEndian, List.range_succ]

/-- The bytes of a binary with a relative time are read as its flags and this time. -/
theorem readTarget_write {variation : GroupVariation} (hcto : usesCTO variation) (index : ℕ)
    (value : Measurement) {commonTime : ℕ} (hle : commonTime ≤ value.time)
    (hlt : value.time ≤ commonTime + 65535) :
    readTarget variation commonTime
        { value := .object (Measurement.serializers.write variation
            (MeasurementSpec.withTime value (value.time - commonTime))), index } =
      { variation, index, flags := value.flags, time := value.time } := by
  have hbytes : Measurement.serializers.write variation
      (MeasurementSpec.withTime value (value.time - commonTime)) =
        value.flags :: littleEndian 2 (value.time - commonTime) := by
    revert hcto
    cases variation <;> intro hcto <;> first | rfl | cases hcto
  have hread := readUInt16_writeUInt16 (UInt16.ofNat (value.time - commonTime).toNat) []
  rw [List.append_nil] at hread
  unfold readTarget
  rw [hbytes, littleEndian_eq (by omega) (by omega)]
  simp only [Value.bytes, List.getD_cons_zero, List.drop_one, List.tail_cons, hread]
  rw [UInt16.toNat_ofNat_of_lt' (by change _ < 2 ^ 16; omega)]
  congr 1
  omega

/-! ## The handler -/

/-- The values of a header with a relative time, with the common time before it. -/
theorem received_wireObjects {e : Report Measurement} {group : List (Report Measurement)}
    (htimed : IsTimed e) (hgroup : ∀ x ∈ group, x.variation = e.variation ∧
      Follows e.variation e.value x.value) :
    (prefixedValues (wireObjects Measurement.serializers e group)).map
        (readTarget e.variation (readUInt48 (writeUInt48 e.value.time))) = group.map reported := by
  obtain ⟨hcto, hnonneg, hlt⟩ := htimed
  have htime := readUInt48_writeUInt48 hnonneg hlt
  rw [prefixedValues, wireObjects, List.map_map, List.map_map]
  refine List.map_congr_left fun x hx => ?_
  obtain ⟨hvariation, hfollows⟩ := hgroup x hx
  obtain ⟨hfirst, hlast⟩ := hfollows.1 hcto
  have hencoded : encoded e.variation e.value x.value = MeasurementSpec.withTime x.value
      (x.value.time - (readUInt48 (writeUInt48 e.value.time) : ℤ)) := by
    rw [encoded, if_pos hcto, htime]
    rfl
  have hread := readTarget_write hcto x.index.toNat x.value
    (by rw [htime]; exact hfirst) (by rw [htime]; exact hlast)
  dsimp only [Function.comp_apply]
  rw [hencoded, hread, reported, hvariation]

/-- The values of a header are received with the common time added to their own. -/
theorem received_loadValues (h : MeasurementHandler) (record : HeaderRecord)
    (tsmode : Master.TimestampMode) (values : List (Indexed Value)) (commonTime : ℕ) :
    (h.loadValues record tsmode values (some commonTime)).soe.flatMap received =
      h.soe.flatMap received ++ values.map (readTarget record.enumeration commonTime) := by
  have hstart : h.checkForTxStart.soe.flatMap received = h.soe.flatMap received := by
    unfold MeasurementHandler.checkForTxStart
    split_ifs
    · rfl
    · rw [List.flatMap_append]
      exact List.append_nil _
  change (h.checkForTxStart.soe ++
    [SOECall.process _ values (some commonTime)]).flatMap received = _
  rw [List.flatMap_append, hstart, List.flatMap_singleton]
  rfl

/-- The handler applies the common time to the header behind it. -/
theorem foldl_groupCalls (h : MeasurementHandler) (place : ℕ) {group : List (Report Measurement)}
    (hgroup : IsGroup group) (htimed : ∀ e ∈ group, IsTimed e) :
    ((groupCalls Measurement.serializers place group).foldl MeasurementHandler.onHeader
      h).soe.flatMap received = h.soe.flatMap received ++ group.map reported := by
  cases group with
  | nil => simp [groupCalls]
  | cons e events =>
    have hfirst := htimed e (List.mem_cons_self ..)
    have hcto := hfirst.1
    -- The header of the common time keeps it, and the header behind it uses it.
    have htime : ∀ values,
        h.onHeader (.countValues (headerRecord GroupVariation.Group51Var1.inst
          (countCode .UInt8) place)
          1 values) = h.processCTO .SYNCHRONIZED values := by
      intro values
      unfold MeasurementHandler.onHeader
      dsimp only
      rw [enumeration_headerRecord]
      rfl
    have hvalues : ∀ (h : MeasurementHandler) record count values,
        record.enumeration = e.variation → h.ctoMode = .SYNCHRONIZED →
          h.onHeader (.prefixValues record count values) =
            h.loadValues record .SYNCHRONIZED values (some h.commonTimeOccurence) := by
      intro h record count values hrecord hmode
      have hvariation : e.variation = .Group2Var3 ∨ e.variation = .Group4Var3 := by
        revert hcto
        generalize e.variation = variation
        cases variation <;> simp [usesCTO]
      unfold MeasurementHandler.onHeader
      dsimp only
      rw [hrecord, if_pos hvariation, MeasurementHandler.processWithCTO, hmode, if_neg (by decide)]
    have henumeration : (headerRecord (serializerOf e.variation e.value) (countIndexCode .UInt16)
        (place + 1)).enumeration = e.variation := by
      rw [enumeration_headerRecord, gv_serializerOf]
    rw [groupCalls, if_pos hcto, List.foldl_cons, List.foldl_cons, List.foldl_nil, htime,
      hvalues _ _ _ _ henumeration rfl, received_loadValues, henumeration]
    congr 1
    exact received_wireObjects hfirst hgroup

/-- After the headers of groups the handler has delivered their events. -/
theorem foldl_callsOf (h : MeasurementHandler) (place : ℕ)
    {groups : List (List (Report Measurement))}
    (hgroups : ∀ group ∈ groups, IsGroup group ∧ ∀ e ∈ group, IsTimed e) :
    ((callsOf Measurement.serializers place groups).foldl MeasurementHandler.onHeader
      h).soe.flatMap received = h.soe.flatMap received ++ groups.flatten.map reported := by
  induction groups generalizing h place with
  | nil => exact (List.append_nil _).symm
  | cons group groups ih =>
    obtain ⟨⟨hgroup, htimed⟩, hrest⟩ := List.forall_mem_cons.mp hgroups
    rw [callsOf, List.foldl_append, ih _ _ hrest, foldl_groupCalls h place hgroup htimed,
      List.flatten_cons, List.map_append, List.append_assoc]

/-- The end of a transaction receives no values. -/
theorem received_destroy (h : MeasurementHandler) :
    h.destroy.flatMap received = h.soe.flatMap received := by
  unfold MeasurementHandler.destroy
  split_ifs
  · rw [List.flatMap_append]
    exact List.append_nil _
  · rfl

/-- What a load writes, the master reads. -/
def RoundTrips (b : EventBuffer Measurement) (size : ℕ) : Prop :=
  let (_, b', writer, _) := b.load { remaining := size }
  ∃ soe written, MeasurementHandler.processMeasurements
      (Measurement.serializers.objectBytes writer.headers) = (.OK, soe) ∧
    soe.flatMap received = written.map reported ∧
    written <+: b.storage.selectedReports ∧
    b'.storage.events.used = b.storage.events.used.map fun n =>
      if n.2.id ∈ written.map Report.id then (n.1, { n.2 with state := .written }) else n

/-- After any operations on a buffer of any configuration, with binaries and double-bit binaries
selected whose times are relative, the master reads from what a load writes into any space the
events that become written: each with its index, its flags and its time. -/
theorem cto_roundTrips (config : EventBufferConfig)
    (ops : List (EventBuffer.Operation Measurement))
    (htimed : ∀ e ∈ (Machine.run EventBuffer.step (EventBuffer.ofConfig config)
      ops).storage.selectedReports, IsTimed e) (size : ℕ) :
    RoundTrips (Machine.run EventBuffer.step (EventBuffer.ofConfig config) ops) size := by
  have hinv := EventBuffer.run_inv config ops
  generalize Machine.run EventBuffer.step (EventBuffer.ofConfig config) ops = b at hinv htimed ⊢
  obtain ⟨groups, hheaders, hgroups, hfirst, -, hmarked⟩ := load_groups hinv size
  have hmem : ∀ group ∈ groups, ∀ e ∈ group, IsTimed e := fun group hgroup e he =>
    htimed e (hfirst.subset (List.mem_flatten_of_mem hgroup he))
  have hencodable : ∀ e, IsTimed e → IsEncodable e := by
    rintro ⟨id, type, variation, value, index⟩ ⟨hcto, -⟩
    right
    revert hcto
    dsimp only
    cases variation <;> simp [usesCTO, CountIndexParser.supports]
  have hsegments := callsOf_segments Measurement.serializers 0 fun group hgroup =>
    ⟨(hgroups group hgroup).1, (hgroups group hgroup).2, fun e he =>
      hencodable e (hmem group hgroup e he)⟩
  rw [← hheaders] at hsegments
  have hparse := APDUParser.parse_of_segments MeasurementHandler.handler hsegments
    (allows_of_forall (fun _ _ _ _ => rfl) {} _)
  refine ⟨_, groups.flatten, congrArg (fun r => (r.1, r.2.state.destroy)) hparse, ?_, hfirst,
    hmarked⟩
  rw [received_destroy]
  exact foldl_callsOf {} 0 fun group hgroup => ⟨(hgroups group hgroup).1, hmem group hgroup⟩

/-- Binaries may be reported with relative times. -/
theorem relative_binary : GroupVariation.Group2Var3 ∈ EventType.Binary.variations := by decide

/-- So may double-bit binaries. -/
theorem relative_doubleBitBinary :
    GroupVariation.Group4Var3 ∈ EventType.DoubleBitBinary.variations := by decide

/-- Of three binaries the third is before the second, and the second is more than 65535 ms behind
the first. -/
def relativeTimes : List (EventBuffer.Operation Measurement) :=
  [.update ⟨⟨.Binary, { flags := 0x81, time := 70000 }, 3, .EC1, .Group2Var3⟩, relative_binary⟩,
    .update ⟨⟨.Binary, { flags := 0x01, time := 200000 }, 4, .EC1, .Group2Var3⟩, relative_binary⟩,
    .update ⟨⟨.DoubleBitBinary, { flags := 0x41, time := 70000 }, 3, .EC2, .Group4Var3⟩,
      relative_doubleBitBinary⟩,
    .selectAllByClass ⟨false, true, true, true⟩]

/-- Two binaries and a double-bit binary, whose times differ. -/
theorem cto_roundTrips_threeBinaries :
    RoundTrips (Machine.run EventBuffer.step (EventBuffer.ofConfig
      { maxBinaryEvents := 2, maxDoubleBinaryEvents := 1 }) relativeTimes) 60 := by
  refine cto_roundTrips _ relativeTimes ?_ 60
  unfold IsTimed
  decide +kernel

end OpenDnp3.EndToEnd
