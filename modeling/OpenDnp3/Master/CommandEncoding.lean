import OpenDnp3.App.Encoding
import OpenDnp3.Master.CommandSpec

/-!
# The bytes of a command header

What the parser makes of a header that `TypedCommandHeader::Write` has put into a request. A command
is read from its object as it was written (`readTarget_writeTarget`), and a header with index
prefixes is read as it was written as long as the count is not too large for its prefix. Nothing
stops the iterator there: `PrefixedWriteIterator` counts in the type of the prefix, so that a header
with more records is written with a count that has come round (`headerReader_countIndexBytes`).
-/

namespace OpenDnp3.Outstation

/-- A status is read as it was written. -/
@[simp]
theorem CommandStatus.fromType_toType (status : CommandStatus) :
    fromType status.toType = status := by
  cases status <;> rfl

end OpenDnp3.Outstation

namespace OpenDnp3.Master

open App
open Outstation (CommandStatus)

/-! ## Commands and their objects -/

namespace CommandType

/-- Both codes of a control relay output block are of one command, as its constructors leave them.
-/
def Coherent : (t : CommandType) → t.Command → Prop
  | ControlRelayOutputBlock, value => value.functionCode = .fromType value.rawCode
  | AnalogOutputInt32, _ => True
  | AnalogOutputInt16, _ => True
  | AnalogOutputFloat32, _ => True
  | AnalogOutputDouble64, _ => True

/-- A command is read as it was written, but for the function code of a control relay output block,
which is read from the raw code. -/
theorem readTarget_writeTarget_iff (t : CommandType) (value : t.Command) :
    t.readTarget (t.writeTarget value) = value ↔ t.Coherent value := by
  -- Only a control relay output block has a field that is read from another one.
  cases t with
  | ControlRelayOutputBlock =>
    obtain ⟨functionCode, rawCode, count, onTimeMS, offTimeMS, status⟩ := value
    have hon := readUInt32_writeUInt32 onTimeMS (writeUInt32 offTimeMS ++ [status.toType])
    have hoff := readUInt32_writeUInt32 offTimeMS [status.toType]
    have hread : readTarget ControlRelayOutputBlock (writeTarget ControlRelayOutputBlock
        { functionCode, rawCode, count, onTimeMS, offTimeMS, status }) =
          { functionCode := .fromType rawCode, rawCode, count
            onTimeMS := readUInt32 (writeUInt32 onTimeMS ++
              (writeUInt32 offTimeMS ++ [status.toType]))
            offTimeMS := readUInt32 (writeUInt32 offTimeMS ++ [status.toType])
            status := .fromType status.toType } := rfl
    rw [hread, hon, hoff, CommandStatus.fromType_toType]
    simp only [Coherent, ControlRelayOutputBlock.mk.injEq, and_true]
    exact eq_comm
  | AnalogOutputInt32 =>
    obtain ⟨value, status⟩ := value
    have hvalue := readUInt32_writeUInt32 value.toUInt32 [status.toType]
    have hread : readTarget AnalogOutputInt32 (writeTarget AnalogOutputInt32 { value, status }) =
        { value := (readUInt32 (writeUInt32 value.toUInt32 ++ [status.toType])).toInt32
          status := .fromType status.toType } := rfl
    rw [hread, hvalue, CommandStatus.fromType_toType, Int32.toInt32_toUInt32]
    exact iff_of_true rfl trivial
  | AnalogOutputInt16 =>
    obtain ⟨value, status⟩ := value
    have hvalue := readUInt16_writeUInt16 value.toUInt16 [status.toType]
    have hread : readTarget AnalogOutputInt16 (writeTarget AnalogOutputInt16 { value, status }) =
        { value := (readUInt16 (writeUInt16 value.toUInt16 ++ [status.toType])).toInt16
          status := .fromType status.toType } := rfl
    rw [hread, hvalue, CommandStatus.fromType_toType, Int16.toInt16_toUInt16]
    exact iff_of_true rfl trivial
  | AnalogOutputFloat32 =>
    obtain ⟨⟨bits⟩, status⟩ := value
    have hbits := readUInt32_writeUInt32 bits [status.toType]
    have hread : readTarget AnalogOutputFloat32 (writeTarget AnalogOutputFloat32 ⟨⟨bits⟩, status⟩) =
        { value := ⟨readUInt32 (writeUInt32 bits ++ [status.toType])⟩
          status := .fromType status.toType } := rfl
    rw [hread, hbits, CommandStatus.fromType_toType]
    exact iff_of_true rfl trivial
  | AnalogOutputDouble64 =>
    obtain ⟨⟨bits⟩, status⟩ := value
    have hbits := readUInt64_writeUInt64 bits [status.toType]
    have hread : readTarget AnalogOutputDouble64
      (writeTarget AnalogOutputDouble64 ⟨⟨bits⟩, status⟩) =
        { value := ⟨readUInt64 (writeUInt64 bits ++ [status.toType])⟩
          status := .fromType status.toType } := rfl
    rw [hread, hbits, CommandStatus.fromType_toType]
    exact iff_of_true rfl trivial

/-- A command takes the bytes of its object. -/
theorem length_writeTarget (t : CommandType) (value : t.Command) :
    (t.writeTarget value).length = t.gv.size := by
  cases t <;> rfl

/-- The objects of the commands stand in headers with index prefixes. -/
theorem isPrefixed (t : CommandType) : t.gv.inst.IsPrefixed := by
  cases t <;> exact .inr ⟨by decide, rfl, rfl⟩

end CommandType

/-! ## Counts that come round -/

/-- Whatever the number of objects, the parser reads as many as the count in the header says. -/
theorem headerReader_countIndexBytes {s : DNP3Serializer} (hs : s.IsPrefixed) {index : IndexType}
    {objects : List (ℕ × List UInt8)} (hfits : FitsIn s index objects)
    (hcount : index.cast objects.length ≠ 0) (settings : ParserSettings) (place : ℕ) :
    APDUParser.headerReader settings place (countIndexBytes s index objects) =
      .ok (.prefixValues (headerRecord s (countIndexCode index) place) (index.cast objects.length)
          (prefixedValues (objects.take (index.cast objects.length))),
        prefixedBytes index (objects.drop (index.cast objects.length))) := by
  have hmax : index.cast objects.length ≤ index.max := cast_le index objects.length
  have hle : index.cast objects.length ≤ objects.length := Nat.mod_le ..
  have hcast : index.cast (index.cast objects.length) = index.cast objects.length := cast_of_le hmax
  have hlen : (objects.take (index.cast objects.length)).length = index.cast objects.length :=
    List.length_take_of_le hle
  have hne : objects.take (index.cast objects.length) ≠ [] := by
    rw [← List.length_pos_iff, hlen]
    exact Nat.pos_of_ne_zero hcount
  -- The bytes are those of the objects that are counted, with the other objects behind them.
  have hbytes : countIndexBytes s index objects =
      countIndexBytes s index (objects.take (index.cast objects.length)) ++
        prefixedBytes index (objects.drop (index.cast objects.length)) := by
    unfold countIndexBytes
    rw [hlen, hcast, List.append_assoc, List.append_assoc, ← prefixedBytes_append,
      List.take_append_drop]
  have htakes := takes_countIndexBytes hs hne (by rwa [hlen])
    (fun object hobject => hfits object (List.mem_of_mem_take hobject)) settings place
    (prefixedBytes index (objects.drop (index.cast objects.length)))
  rw [hlen] at htakes
  rw [hbytes, htakes]

/-- A count that has come round to zero is refused. -/
theorem headerReader_countIndexBytes_zero {s : DNP3Serializer} (hs : s.IsPrefixed)
    {index : IndexType}
    {objects : List (ℕ × List UInt8)} (hcount : index.cast objects.length = 0)
    (settings : ParserSettings) (place : ℕ) :
    APDUParser.headerReader settings place (countIndexBytes s index objects) =
      .error .COUNT_OF_ZERO := by
  have hread := readNum_writeNum (Nat.zero_le index.max) (prefixedBytes index objects)
  have hreader : (numParser index).countReader (writeNum index 0 ++ prefixedBytes index objects) =
      .error .COUNT_OF_ZERO := by
    rw [← NumParser.parseCount_eq]
    unfold NumParser.parseCount
    rw [if_neg (by simp), hread]
    rfl
  simp only [countIndexBytes, APDUParser.headerReader, Reader.bind,
    recordReader_headerBytes hs.ne_unknown, qualifierReader_countIndexCode, CountIndexParser.reader,
    hcount, hreader]

/-- Objects with index prefixes parse to one header with as many values if and only if their number
fits the prefix. -/
theorem parsedHeaders_countIndexBytes_iff {s : DNP3Serializer} (hs : s.IsPrefixed)
    {index : IndexType}
    {objects : List (ℕ × List UInt8)} (hfits : FitsIn s index objects) (hne : objects ≠ [])
    (P : HeaderRecord → List (Indexed Value) → Prop)
    (hlength : ∀ record values, P record values → values.length = objects.length) :
    (∃ record count values,
        parsedHeaders (countIndexBytes s index objects) = some [.prefixValues record count values] ∧
          P record values) ↔
      objects.length ≤ index.max ∧
        P (headerRecord s (countIndexCode index) 0) (prefixedValues objects) := by
  constructor
  · rintro ⟨record, count, values, hparsed, hP⟩
    have hvalues := hlength record values hP
    obtain ⟨rest, hread⟩ := headerReader_of_parsedHeaders hparsed
    by_cases hcount : index.cast objects.length = 0
    · rw [headerReader_countIndexBytes_zero hs hcount] at hread
      cases hread
    rw [headerReader_countIndexBytes hs hfits hcount] at hread
    obtain ⟨rfl, -, rfl⟩ : headerRecord s (countIndexCode index) 0 = record ∧ _ ∧ _ = values := by
      simpa using (Prod.mk.inj (Except.ok.inj hread)).1
    -- As many values as objects were read, so the count has not come round.
    have hround : objects.length ≤ index.cast objects.length := by
      simpa [prefixedValues] using hvalues.ge
    refine ⟨hround.trans (cast_le index _), ?_⟩
    rwa [List.take_of_length_le hround] at hP
  · rintro ⟨hle, hP⟩
    have htakes := takes_countIndexBytes hs hne hle hfits {} 0
    refine ⟨_, objects.length, _, parsedHeaders_of_segments ?_, hP⟩
    rw [← List.append_nil (countIndexBytes s index objects)]
    exact .cons (by simp [countIndexBytes, App.headerBytes]) htakes (.nil _)

/-! ## Headers in use -/

/-- What is done to a header of a command set. -/
inductive HeaderUse (t : CommandType) where
  | add (command : t.Command) (index : UInt16)
  | write (mode : IndexQualifierMode) (w : HeaderWriter (List UInt8))
  | applySelectResponse (code : QualifierCode) (commands : List (Indexed t.Command))
  | applyOperateResponse (code : QualifierCode) (commands : List (Indexed t.Command))

namespace TypedCommandHeader

variable {t : CommandType}

/-- A header after a use of it. -/
def use (h : TypedCommandHeader t) : HeaderUse t → TypedCommandHeader t
  | .add command index => h.add command index
  | .write mode w => (h.write mode w).2
  | .applySelectResponse code commands => h.applySelectResponse code commands
  | .applyOperateResponse code commands => h.applyOperateResponse code commands

/-- A header after all uses of it. -/
def run (uses : List (HeaderUse t)) : TypedCommandHeader t := uses.foldl use {}

/-- Single byte indices are left to headers whose indices have a single byte. -/
def Sized (h : TypedCommandHeader t) : Prop :=
  h.use_single_byte_index = true → ∀ command ∈ h.wire.2, command.2.toNat ≤ 255

/-- The records as the parser should deliver them. -/
def items (h : TypedCommandHeader t) : List (Indexed t.Command) :=
  h.records.map fun rec => { value := rec.command, index := rec.index.toNat }

/-- The bytes that a writer has put behind those of another. -/
def writtenBytes (w w' : HeaderWriter (List UInt8)) : List UInt8 :=
  (w'.headers.drop w.headers.length).flatMap headerBytes

/-- The bytes parse to one object header, with the records of a command header. -/
def ParsesTo (h : TypedCommandHeader t) (bytes : List UInt8) : Prop :=
  ∃ record count values, parsedHeaders bytes = some [.prefixValues record count values] ∧
    record.enumeration = t.gv ∧ values.map (readCommand t) = h.items

/-- Where `Write` returns true, the parser takes the records back from what it wrote. -/
def RoundTrips (h : TypedCommandHeader t) (mode : IndexQualifierMode)
    (w : HeaderWriter (List UInt8)) : Prop :=
  ∀ w', (h.write mode w).1 = some w' → h.ParsesTo (writtenBytes w w')

/-- Whether a header is sized depends on what it is written from. -/
theorem Sized.of_wire {h h' : TypedCommandHeader t} (hsized : h.Sized) (hwire : h'.wire = h.wire) :
    h'.Sized := by
  have hflag : h'.use_single_byte_index = h.use_single_byte_index := congrArg Prod.fst hwire
  unfold Sized
  rw [hwire, hflag]
  exact hsized

/-- A use of a header keeps it sized. -/
theorem sized_use {h : TypedCommandHeader t} (hsized : h.Sized) (u : HeaderUse t) :
    (h.use u).Sized := by
  cases u with
  | add command index =>
    intro hflag
    have hindex : ¬255 < index.toNat ∧ h.use_single_byte_index = true := by
      simpa [use, add] using hflag
    have hwire : (h.use (.add command index)).wire.2 = h.wire.2 ++ [(command, index)] := by
      simp [use, add, wire]
    rw [hwire]
    intro item hitem
    obtain hitem | hitem := List.mem_append.mp hitem
    · exact hsized hindex.2 item hitem
    · obtain rfl := List.mem_singleton.mp hitem
      exact Nat.le_of_not_lt hindex.1
  | write mode w =>
    unfold use write
    split_ifs
    · exact hsized
    · intro hflag
      exact hsized (Bool.and_eq_true_iff.mp hflag).1
  | applySelectResponse code commands =>
    exact hsized.of_wire (wire_applySelectResponse code commands h)
  | applyOperateResponse code commands =>
    exact hsized.of_wire (wire_applyOperateResponse code commands h)

/-- Whatever was done to a header, its indices fit the width that it is written with. -/
theorem sized_run (uses : List (HeaderUse t)) : (run uses).Sized := by
  have hfold : ∀ h : TypedCommandHeader t, h.Sized → (uses.foldl use h).Sized := by
    induction uses with
    | nil => exact fun h hsized => hsized
    | cons u uses ih => exact fun h hsized => ih _ (sized_use hsized u)
  exact hfold {} fun _ command hcommand => absurd hcommand (List.not_mem_nil)

/-- The indices of a header fit the type that it is written with. -/
theorem index_le_max {h : TypedCommandHeader t} (hsized : h.Sized) (mode : IndexQualifierMode)
    {rec : CommandRecord t} (hrec : rec ∈ h.records) :
    rec.index.toNat ≤ (h.indexType mode).max := by
  unfold indexType
  split_ifs with hsingle
  · exact hsized (Bool.and_eq_true_iff.mp hsingle).1 (rec.command, rec.index)
      (List.mem_map.mpr ⟨rec, hrec, rfl⟩)
  · exact Nat.le_of_lt_succ rec.index.toNat_lt

/-- The objects of a header as they are written. -/
def objects (mode : IndexQualifierMode) (h : TypedCommandHeader t) : List (ℕ × List UInt8) :=
  h.records.map fun rec => ((h.indexType mode).cast rec.index.toNat, t.writeTarget rec.command)

/-- The request of a header is a count with index prefixes. -/
theorem headerBytes_request (mode : IndexQualifierMode) (h : TypedCommandHeader t) :
    headerBytes (h.request mode) =
      countIndexBytes t.gv.inst (h.indexType mode) (h.objects mode) := by
  have hhead : commandID t.gv ++ [(prefixQualifier (h.indexType mode)).toType] =
      App.headerBytes t.gv.inst (countIndexCode (h.indexType mode)) := by
    cases t <;> cases h.indexType mode <;> rfl
  have hindex : indexBytes (h.indexType mode) = writeNum (h.indexType mode) := by
    cases h.indexType mode <;> rfl
  show commandID t.gv ++ [(prefixQualifier (h.indexType mode)).toType] ++
    indexBytes (h.indexType mode) ((h.indexType mode).cast (h.objects mode).length) ++
      (h.objects mode).flatMap (fun object =>
        indexBytes (h.indexType mode) object.1 ++ object.2) = _
  rw [hhead, hindex, List.append_assoc]
  rfl

/-- The objects of a header have the sizes and the indices that its bytes have room for. -/
theorem fitsIn_objects (mode : IndexQualifierMode) (h : TypedCommandHeader t) :
    FitsIn t.gv.inst (h.indexType mode) (h.objects mode) := by
  intro object hobject
  obtain ⟨rec, -, rfl⟩ := List.mem_map.mp hobject
  exact ⟨cast_le .., t.length_writeTarget rec.command⟩

/-- The objects are read as the records if and only if their commands are read as they were
written. -/
theorem readCommand_objects_iff {h : TypedCommandHeader t} (hsized : h.Sized)
    (mode : IndexQualifierMode) :
    (prefixedValues (h.objects mode)).map (readCommand t) = h.items ↔
      ∀ rec ∈ h.records, t.Coherent rec.command := by
  unfold prefixedValues objects items
  rw [List.map_map, List.map_map, List.map_inj_left]
  refine forall₂_congr fun rec hrec => ?_
  have hindex := cast_of_le (index_le_max hsized mode hrec)
  rw [← t.readTarget_writeTarget_iff]
  constructor
  · intro hread
    exact congrArg Indexed.value hread
  · intro hread
    show ({ value := t.readTarget (t.writeTarget rec.command)
            index := (h.indexType mode).cast rec.index.toNat } : Indexed t.Command) = _
    rw [hread, hindex]

/-- The count of a header is not too large for its prefix, and its commands are coherent. -/
def Countable (h : TypedCommandHeader t) (mode : IndexQualifierMode) : Prop :=
  h.records.length ≤ (h.indexType mode).max ∧ ∀ rec ∈ h.records, t.Coherent rec.command

/-- The bytes of a header are parsed as its commands if their number can be counted. -/
theorem parsesTo_iff {h : TypedCommandHeader t} (hsized : h.Sized) (mode : IndexQualifierMode)
    (hne : h.records ≠ []) : h.ParsesTo (headerBytes (h.request mode)) ↔ h.Countable mode := by
  have hlen : (h.objects mode).length = h.records.length := List.length_map _
  have hobjects : h.objects mode ≠ [] := by
    rwa [← List.length_pos_iff, hlen, List.length_pos_iff]
  have hiff := parsedHeaders_countIndexBytes_iff t.isPrefixed (h.fitsIn_objects mode) hobjects
    (fun record values => record.enumeration = t.gv ∧ values.map (readCommand t) = h.items)
    fun record values hP => by
      have hvalues := congrArg List.length hP.2
      rw [List.length_map] at hvalues
      rw [hvalues, hlen]
      exact List.length_map _
  unfold ParsesTo Countable
  rw [headerBytes_request, hiff, hlen, readCommand_objects_iff hsized]
  exact and_congr_right fun _ => and_iff_right (enumeration_headerRecord ..)

/-- `Write` is taken back by the parser exactly where it does not return true or the header is
countable. -/
theorem roundTrips_iff {h : TypedCommandHeader t} (hsized : h.Sized) (mode : IndexQualifierMode)
    (w : HeaderWriter (List UInt8)) :
    h.RoundTrips mode w ↔ h.records = [] ∨ w.remaining < h.size mode ∨ h.Countable mode := by
  unfold RoundTrips
  rw [write_eq]
  by_cases hnone : h.records = [] ∨ w.remaining < h.size mode
  · rw [if_pos hnone]
    refine iff_of_true (fun w' hw' => by cases hw') ?_
    exact or_assoc.mp (.inl hnone)
  · obtain ⟨hne, hspace⟩ := not_or.mp hnone
    rw [if_neg hnone, or_iff_right hne, or_iff_right hspace, ← parsesTo_iff hsized mode hne]
    have hbytes : writtenBytes w ((w.advance (h.size mode)).push (h.request mode)) =
        headerBytes (h.request mode) := by
      show ((w.headers ++ [h.request mode]).drop w.headers.length).flatMap headerBytes = _
      rw [List.drop_left]
      exact List.flatMap_singleton ..
    rw [← hbytes]
    constructor
    · exact fun hround => hround _ rfl
    · rintro hparses w' hw'
      rwa [← Option.some.inj hw']

/-- After every use of a header, in either mode and whatever the space: the parser takes back the
records that were written if and only if their number fits the prefix and they are coherent, unless
there is nothing to write or no space for it. -/
theorem run_roundTrips_iff (uses : List (HeaderUse t)) (mode : IndexQualifierMode)
    (w : HeaderWriter (List UInt8)) :
    (run uses).RoundTrips mode w ↔
      (run uses).records = [] ∨ w.remaining < (run uses).size mode ∨ (run uses).Countable mode :=
  roundTrips_iff (sized_run uses) mode w

/-- The uses of a header with 256 commands for the same point. -/
def manyCommands : List (HeaderUse .AnalogOutputInt16) := List.replicate 256 (.add ⟨0, .SUCCESS⟩ 0)

/-- The count of the header is zero then, which the parser refuses. There is space for the header in
a request of the default size. -/
theorem not_roundTrips_manyCommands :
    ¬(run manyCommands).RoundTrips .allow_one_byte { remaining := 2046 } := by
  have hlen : (run manyCommands).records.length = 256 := by decide +kernel
  have hindex : (run manyCommands).indexType .allow_one_byte = .UInt8 := by decide +kernel
  have hsize : (run manyCommands).size .allow_one_byte = 3 + 1 + 256 * (3 + 1) := by
    rw [size, hlen, hindex]
    rfl
  rw [roundTrips_iff (sized_run manyCommands)]
  rintro (hnil | hspace | hcountable)
  · rw [hnil] at hlen
    cases hlen
  · rw [hsize] at hspace
    exact absurd hspace (by decide)
  · have hcount := hcountable.1
    rw [hlen, hindex] at hcount
    exact absurd hcount (by decide)

end TypedCommandHeader

end OpenDnp3.Master
