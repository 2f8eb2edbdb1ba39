import OpenDnp3.App.ParserSpec
import OpenDnp3.Master.Command

/-!
# What a command set does

A set that has been written is written in the same way again, whatever the responses to it were. A
response selects a whole set only when it echoes every header and every command of it.
-/

namespace OpenDnp3.Master

open App
open Outstation (CommandStatus)

/-! ## Writing a set -/

namespace TypedCommandHeader

variable {t : CommandType}

/-- What a header is written from. -/
def wire (h : TypedCommandHeader t) : Bool × List (t.Command × UInt16) :=
  (h.use_single_byte_index, h.records.map fun rec => (rec.command, rec.index))

/-- What is written depends on the commands and the indices alone. -/
theorem writeRecords_congr {records records' : List (CommandRecord t)}
    (h : (records.map fun rec => (rec.command, rec.index)) =
      records'.map fun rec => (rec.command, rec.index)) (w : HeaderWriter (List UInt8))
    (iter : PrefixedWriteIterator (List UInt8)) :
    writeRecords records w iter = writeRecords records' w iter := by
  induction records generalizing records' w iter with
  | nil =>
    obtain rfl : records' = [] := by simpa using h.symm
    rfl
  | cons rec records ih =>
    cases records' with
    | nil => cases h
    | cons rec' records' =>
      rw [List.map_cons, List.map_cons, List.cons.injEq, Prod.mk.injEq] at h
      obtain ⟨⟨hcommand, hindex⟩, hrest⟩ := h
      rw [writeRecords, writeRecords, hcommand, hindex]
      split
      · exact ih hrest _ _
      · rfl

/-- So does whether anything is written. -/
theorem isEmpty_eq_of_wire {h h' : TypedCommandHeader t} (hwire : h.wire = h'.wire) :
    h.records.isEmpty = h'.records.isEmpty := by
  have hmap := congrArg (fun wire => wire.2.isEmpty) hwire
  simpa [wire] using hmap

/-- So does the size of the indices. -/
theorem wire_restrict {h h' : TypedCommandHeader t} (hwire : h.wire = h'.wire)
    (mode : IndexQualifierMode) : (h.restrict mode).wire = (h'.restrict mode).wire := by
  have hflag : h.use_single_byte_index = h'.use_single_byte_index := congrArg Prod.fst hwire
  have hrecords : h.wire.2 = h'.wire.2 := congrArg Prod.snd hwire
  refine Prod.ext ?_ hrecords
  show (h.use_single_byte_index && _) = (h'.use_single_byte_index && _)
  rw [hflag]

/-- Headers that are alike on the wire are written alike. -/
theorem writePrefixed_congr {h h' : TypedCommandHeader t} (hwire : h.wire = h'.wire)
    (w : HeaderWriter (List UInt8)) : h.writePrefixed w = h'.writePrefixed w := by
  have hflag : h.use_single_byte_index = h'.use_single_byte_index := congrArg Prod.fst hwire
  have hrecords := writeRecords_congr (congrArg Prod.snd hwire)
  unfold writePrefixed
  rw [hflag]
  dsimp only
  split
  · rfl
  · rw [hrecords]

/-- So does the header that is written. -/
theorem write_congr {h h' : TypedCommandHeader t} (hwire : h.wire = h'.wire)
    (mode : IndexQualifierMode) (w : HeaderWriter (List UInt8)) :
    (h.write mode w).1 = (h'.write mode w).1 := by
  unfold write
  rw [isEmpty_eq_of_wire hwire]
  split_ifs
  · rfl
  · exact writePrefixed_congr (wire_restrict hwire mode) w

/-- The size of the indices is restricted once. -/
theorem restrict_restrict (mode : IndexQualifierMode) (h : TypedCommandHeader t) :
    (h.restrict mode).restrict mode = h.restrict mode := by
  unfold restrict
  dsimp only
  rw [Bool.and_assoc, Bool.and_self]

/-- A header that has been written stays as it is. -/
theorem write_again (h : TypedCommandHeader t) (mode : IndexQualifierMode)
    (w : HeaderWriter (List UInt8)) : (h.write mode w).2.write mode w = h.write mode w := by
  by_cases hempty : h.records.isEmpty = true
  · have hsame : h.write mode w = (none, h) := if_pos hempty
    rw [hsame]
    exact hsame
  · have hwrite : h.write mode w = ((h.restrict mode).writePrefixed w, h.restrict mode) :=
      if_neg hempty
    have hagain : (h.restrict mode).write mode w =
      (((h.restrict mode).restrict mode).writePrefixed w,
        (h.restrict mode).restrict mode) := if_neg hempty
    rw [hwrite, hagain, restrict_restrict]

/-- A header without commands is not written. -/
theorem records_ne_nil_of_write {h : TypedCommandHeader t} {mode : IndexQualifierMode}
    {w w' : HeaderWriter (List UInt8)} (hwrite : (h.write mode w).1 = some w') :
    h.records ≠ [] := by
  intro hnil
  rw [write, hnil, List.isEmpty_nil, if_pos rfl] at hwrite
  cases hwrite

/-- The index type that a header is written with. -/
def indexType (mode : IndexQualifierMode) (h : TypedCommandHeader t) : IndexType :=
  if h.use_single_byte_index && mode = .allow_one_byte then .UInt8 else .UInt16

/-- The header that is written. -/
def request (mode : IndexQualifierMode) (h : TypedCommandHeader t) : ObjectHeader (List UInt8) :=
  .prefixed t.gv.inst (h.indexType mode) (h.records.map fun rec =>
    ((h.indexType mode).cast rec.index.toNat, t.writeTarget rec.command))

/-- The space that a header takes. -/
def size (mode : IndexQualifierMode) (h : TypedCommandHeader t) : ℕ :=
  3 + (h.indexType mode).size + h.records.length * (t.gv.size + (h.indexType mode).size)

/-- The loop stops at the first record that there is no space for. -/
theorem writeRecords_eq (records : List (CommandRecord t)) (w : HeaderWriter (List UInt8))
    (iter : PrefixedWriteIterator (List UInt8)) :
    writeRecords records w iter =
      if w.remaining < records.length * (iter.serializer.size + iter.index.size) then none
      else some (w.advance (records.length * (iter.serializer.size + iter.index.size)),
        { iter with objects := iter.objects ++ records.map fun rec =>
            (iter.index.cast rec.index.toNat, t.writeTarget rec.command) }) := by
  induction records generalizing w iter with
  | nil => simp [writeRecords, HeaderWriter.advance]
  | cons rec records ih =>
    unfold writeRecords PrefixedWriteIterator.write
    rw [List.length_cons, Nat.succ_mul]
    by_cases hfits : iter.serializer.size + iter.index.size ≤ w.remaining
    · rw [if_pos hfits]
      refine (ih (w.advance (iter.serializer.size + iter.index.size)) _).trans ?_
      by_cases hrest : w.remaining - (iter.serializer.size + iter.index.size) <
          records.length * (iter.serializer.size + iter.index.size)
      · exact (if_pos hrest).trans (if_pos (by omega)).symm
      · rw [if_neg (by omega : ¬ w.remaining < _)]
        refine (if_neg hrest).trans ?_
        dsimp only
        rw [HeaderWriter.advance_advance, Nat.add_comm, List.append_assoc]
        rfl
    · rw [if_neg hfits, if_pos (by omega)]

/-- A header is begun where there is space for its start and one object. -/
theorem iterateOverCountWithPrefix_eq (w : HeaderWriter (List UInt8)) (s : DNP3Serializer)
    (index : IndexType) :
    PrefixedWriteIterator.iterateOverCountWithPrefix w s index =
      if w.remaining < 3 + (2 * index.size + s.size) then (w, none)
      else (w.advance (3 + index.size), some { serializer := s, index }) := by
  unfold PrefixedWriteIterator.iterateOverCountWithPrefix HeaderWriter.writeHeaderWithReserve
  by_cases hreserve : w.remaining < 3 + (2 * index.size + s.size)
  · rw [if_pos hreserve, if_pos hreserve]
  · rw [if_neg hreserve, if_neg hreserve]
    refine (if_pos (Nat.le_sub_of_add_le (by omega))).trans ?_
    rw [← HeaderWriter.advance_advance]
    rfl

/-- A header is written exactly where it has records and there is space for all of them. -/
theorem write_eq (h : TypedCommandHeader t) (mode : IndexQualifierMode)
    (w : HeaderWriter (List UInt8)) :
    (h.write mode w).1 =
      if h.records = [] ∨ w.remaining < h.size mode then none
      else some ((w.advance (h.size mode)).push (h.request mode)) := by
  by_cases hempty : h.records = []
  · rw [if_pos (.inl hempty), write, hempty, List.isEmpty_nil, if_pos rfl]
  have hwrite : (h.write mode w).1 = (h.restrict mode).writePrefixed w :=
    congrArg Prod.fst (if_neg (by simpa using hempty))
  have hindex : (if (h.restrict mode).use_single_byte_index = true then IndexType.UInt8
      else .UInt16) = h.indexType mode := rfl
  -- The first record takes at least what is reserved for it.
  have hfirst : t.gv.size + (h.indexType mode).size ≤
      h.records.length * (t.gv.size + (h.indexType mode).size) :=
    Nat.le_mul_of_pos_left _ (List.length_pos_iff.mpr hempty)
  rw [hwrite, writePrefixed, hindex, iterateOverCountWithPrefix_eq]
  have hinst : t.gv.inst.size = t.gv.size := rfl
  have hsize : h.size mode = 3 + (h.indexType mode).size +
      h.records.length * (t.gv.size + (h.indexType mode).size) := rfl
  by_cases hreserve : w.remaining < 3 + (2 * (h.indexType mode).size + t.gv.inst.size)
  · have hnone : h.records = [] ∨ w.remaining < h.size mode := .inr (by omega)
    rw [if_pos hreserve, if_pos hnone]
  · rw [if_neg hreserve]
    dsimp only
    rw [writeRecords_eq]
    by_cases hspace : w.remaining - (3 + (h.indexType mode).size) <
        h.records.length * (t.gv.size + (h.indexType mode).size)
    · have hnone : h.records = [] ∨ w.remaining < h.size mode := .inr (by omega)
      rw [if_pos hnone]
      exact congrArg _ (if_pos hspace)
    · have hsome : ¬(h.records = [] ∨ w.remaining < h.size mode) := not_or.mpr ⟨hempty, by omega⟩
      rw [if_neg hsome]
      refine (congrArg _ (if_neg hspace)).trans ?_
      rw [hsize, HeaderWriter.advance_advance]
      rfl

end TypedCommandHeader

/-- What a header of any type is written from. -/
def ICommandHeader.wire (h : ICommandHeader) :
    (t : CommandType) × Bool × List (t.Command × UInt16) :=
  ⟨h.type, h.header.wire⟩

namespace CommandSetOps

/-- The headers that are written depend on the commands and the indices alone. -/
theorem writeHeaders_congr {headers headers' : List ICommandHeader}
    (hwire : headers.map ICommandHeader.wire = headers'.map ICommandHeader.wire)
    (mode : IndexQualifierMode) (w : HeaderWriter (List UInt8)) :
    (writeHeaders mode headers w).1 = (writeHeaders mode headers' w).1 := by
  induction headers generalizing headers' w with
  | nil =>
    obtain rfl : headers' = [] := by simpa using hwire.symm
    rfl
  | cons h headers ih =>
    cases headers' with
    | nil => cases hwire
    | cons h' headers' =>
      obtain ⟨t, header⟩ := h
      obtain ⟨t', header'⟩ := h'
      rw [List.map_cons, List.map_cons, List.cons.injEq] at hwire
      obtain ⟨hfirst, hrest⟩ := hwire
      obtain rfl : t = t' := congrArg Sigma.fst hfirst
      have hwrite := TypedCommandHeader.write_congr (eq_of_heq (Sigma.mk.inj hfirst).2) mode w
      rw [writeHeaders, writeHeaders]
      dsimp only at hwrite ⊢
      generalize header.write mode w = first at hwrite ⊢
      generalize header'.write mode w = first' at hwrite ⊢
      obtain ⟨result, written⟩ := first
      obtain ⟨result', written'⟩ := first'
      obtain rfl : result = result' := hwrite
      cases result with
      | none => rfl
      | some w => exact ih hrest w

/-- The headers that have been written are written again in the same way. -/
theorem writeHeaders_again {headers : List ICommandHeader} {mode : IndexQualifierMode}
    {w w' : HeaderWriter (List UInt8)} (hwrite : (writeHeaders mode headers w).1 = some w') :
    (writeHeaders mode (writeHeaders mode headers w).2 w).1 = some w' ∧
      ∀ h ∈ (writeHeaders mode headers w).2, h.header.records ≠ [] := by
  induction headers generalizing w with
  | nil => exact ⟨hwrite, fun h hmem => absurd hmem List.not_mem_nil⟩
  | cons h headers ih =>
    have hagain := h.header.write_again mode w
    have hrecords : (h.header.write mode w).1.isSome = true →
        (h.header.write mode w).2.records ≠ [] := by
      intro hsome
      obtain ⟨w'', hw''⟩ := Option.isSome_iff_exists.mp hsome
      rw [← hagain] at hw''
      exact TypedCommandHeader.records_ne_nil_of_write hw''
    obtain ⟨result, written, hpair⟩ : ∃ result written, h.header.write mode w = (result, written) :=
      ⟨_, _, rfl⟩
    rw [hpair] at hagain hrecords
    rw [writeHeaders, hpair] at hwrite ⊢
    cases result with
    | none => cases hwrite
    | some w'' =>
      obtain ⟨hsame, hrest⟩ := ih hwrite
      dsimp only at hagain ⊢
      rw [writeHeaders, hagain]
      refine ⟨hsame, fun h' hmem => ?_⟩
      rcases List.mem_cons.mp hmem with rfl | hmem
      · exact hrecords rfl
      · exact hrest h' hmem

/-- A set that is alike on the wire to one that has been written is written to the same bytes. -/
theorem write_twice {set set' : CommandSet} {space : ℕ} {mode : IndexQualifierMode}
    {objects : List UInt8} (hwrite : (write set space mode).1 = some objects)
    (hwire : set'.m_headers.map ICommandHeader.wire =
      (write set space mode).2.m_headers.map ICommandHeader.wire) :
    (write set' space mode).1 = some objects := by
  obtain ⟨w, hw, hobjects⟩ := Option.map_eq_some_iff.mp hwrite
  have hagain := (writeHeaders_again hw).1
  have hcongr := writeHeaders_congr hwire mode { remaining := space }
  have hsecond : (writeHeaders mode set'.m_headers { remaining := space }).1 = some w :=
    hcongr.trans hagain
  show (writeHeaders mode set'.m_headers { remaining := space }).1.map _ = some objects
  rw [hsecond, Option.map_some, hobjects]

end CommandSetOps

/-! ## The response to a SELECT -/

/-- An item of a response echoes a command and its index. -/
structure CommandType.Echoes (t : CommandType) (command : t.Command × UInt16)
    (item : Indexed t.Command) : Prop where
  index : item.index = command.2.toNat
  value : t.valuesEqual item.value command.1 = true
  status : t.status item.value = .SUCCESS

namespace TypedCommandHeader

variable {t : CommandType}

/-- A record is visited with the value in its place. -/
theorem visit_getElem? (f : Indexed t.Command → CommandRecord t → CommandRecord t)
    (items : List (Indexed t.Command)) (records : List (CommandRecord t)) (i : ℕ) :
    (visit f items records)[i]? = records[i]?.map fun rec =>
      items[i]?.elim rec fun item => f item rec := by
  induction items generalizing records i with
  | nil => cases h : records[i]? <;> simp [visit, h]
  | cons item items ih =>
    cases records with
    | nil => rfl
    | cons rec records =>
      cases i with
      | zero => rfl
      | succ i => exact ih records i

/-- A visit leaves the commands and the indices. -/
theorem visit_map {f : Indexed t.Command → CommandRecord t → CommandRecord t}
    (hf : ∀ item rec, (f item rec).command = rec.command ∧ (f item rec).index = rec.index)
    (items : List (Indexed t.Command)) (records : List (CommandRecord t)) :
    ((visit f items records).map fun rec => (rec.command, rec.index)) =
      records.map fun rec => (rec.command, rec.index) := by
  apply List.ext_getElem?
  intro i
  rw [List.getElem?_map, List.getElem?_map, visit_getElem?]
  cases records[i]? with
  | none => rfl
  | some rec =>
    cases items[i]? with
    | none => rfl
    | some item =>
      obtain ⟨hcommand, hindex⟩ := hf item rec
      simp [hcommand, hindex]

/-- A response that keeps the commands and the indices of the records changes nothing that a header
is written from. -/
theorem wire_applyResponse {f : Indexed t.Command → CommandRecord t → CommandRecord t}
    (hf : ∀ item rec, (f item rec).command = rec.command ∧ (f item rec).index = rec.index)
    (code : QualifierCode) (commands : List (Indexed t.Command)) (h : TypedCommandHeader t) :
    (h.applyResponse f code commands).wire = h.wire := by
  unfold applyResponse
  split_ifs
  · rfl
  · rfl
  · exact Prod.ext rfl (visit_map hf commands h.records)

/-- A response to a SELECT changes nothing that a header is written from. -/
theorem wire_applySelectResponse (code : QualifierCode) (commands : List (Indexed t.Command))
    (h : TypedCommandHeader t) : (h.applySelectResponse code commands).wire = h.wire := by
  refine wire_applyResponse (fun item rec => ?_) code commands h
  unfold selectRecord
  split_ifs <;> exact ⟨rfl, rfl⟩

/-- A response to an OPERATE changes nothing that a header is written from. -/
theorem wire_applyOperateResponse (code : QualifierCode) (commands : List (Indexed t.Command))
    (h : TypedCommandHeader t) : (h.applyOperateResponse code commands).wire = h.wire := by
  refine wire_applyResponse (fun item rec => ?_) code commands h
  unfold operateRecord
  split_ifs <;> exact ⟨rfl, rfl⟩

/-- A record is selected where the value echoes its command. -/
theorem selectRecord_selected {item : Indexed t.Command} {rec : CommandRecord t}
    (hinit : rec.state = .INIT) (h : (selectRecord item rec).state = .SELECT_SUCCESS) :
    t.Echoes (rec.command, rec.index) item := by
  unfold selectRecord at h
  split_ifs at h with hindex hequal hstatus
  · rw [hinit] at h
    cases h
  · exact ⟨not_not.mp hindex, by simpa using hequal, not_not.mp hstatus⟩

/-- A header whose commands wait for their selection is not selected. -/
theorem not_areAllSelected {h : TypedCommandHeader t} (hinit : ∀ rec ∈ h.records, rec.state = .INIT)
    (hne : h.records ≠ []) : ¬ h.areAllSelected = true := by
  obtain ⟨rec, hrec⟩ := List.exists_mem_of_ne_nil _ hne
  intro hall
  have hselected := of_decide_eq_true (List.all_eq_true.mp hall rec hrec)
  rw [hinit rec hrec] at hselected
  cases hselected

/-- A response selects all of a header only when it echoes every command of it. -/
theorem applySelectResponse_selected {h : TypedCommandHeader t} {code : QualifierCode}
    {commands : List (Indexed t.Command)} (hinit : ∀ rec ∈ h.records, rec.state = .INIT)
    (hne : h.records ≠ []) (hall : (h.applySelectResponse code commands).areAllSelected = true) :
    code = h.expectedQualfier ∧ List.Forall₂ t.Echoes h.wire.2 commands := by
  have hunchanged := not_areAllSelected hinit hne
  unfold applySelectResponse applyResponse at hall
  split_ifs at hall with hcode hcount
  · exact absurd hall hunchanged
  · exact absurd hall hunchanged
  have hitem : ∀ (i : ℕ) (rec : CommandRecord t), h.records[i]? = some rec →
      ∃ item : Indexed t.Command, commands[i]? = some item ∧
        t.Echoes (rec.command, rec.index) item := by
    intro i rec hrec
    have hinit' := hinit rec (List.mem_of_getElem? hrec)
    have hvisit := visit_getElem? selectRecord commands h.records i
    rw [hrec, Option.map_some] at hvisit
    have hselected := of_decide_eq_true
      (List.all_eq_true.mp hall _ (List.mem_of_getElem? hvisit))
    cases hcommand : commands[i]? with
    | none =>
      -- A command that is not echoed is not selected.
      rw [hcommand, Option.elim_none, hinit'] at hselected
      cases hselected
    | some item =>
      rw [hcommand, Option.elim_some] at hselected
      exact ⟨item, rfl, selectRecord_selected hinit' hselected⟩
  have hlength : h.records.length = commands.length := by
    refine le_antisymm (not_lt.mp fun hlt => ?_) (not_lt.mp hcount)
    obtain ⟨item, hnone, -⟩ := hitem commands.length _ (List.getElem?_eq_getElem hlt)
    rw [List.getElem?_eq_none le_rfl] at hnone
    cases hnone
  refine ⟨not_not.mp hcode, List.forall₂_iff_get.mpr ⟨by simpa [wire] using hlength, ?_⟩⟩
  intro i hi hi'
  have hi'' : i < h.records.length := hlength ▸ hi'
  obtain ⟨item, hcommand, hechoes⟩ := hitem i _ (List.getElem?_eq_getElem hi'')
  obtain rfl : commands[i] = item := by
    rw [List.getElem?_eq_getElem hi'] at hcommand
    exact Option.some.inj hcommand
  simpa [wire] using hechoes

end TypedCommandHeader

/-- What a call of the handler does to the header of its number. -/
def ICommandHeader.onCall (mode : CommandMode) (call : HeaderCall) (h : ICommandHeader) :
    ICommandHeader :=
  match call with
  | .prefixValues record _ values =>
    match mode with
    | .Select => h.applySelectResponse record values
    | .Operate => h.applyOperateResponse record values
  | _ => h

/-- A call selects all of a header only when it echoes the header. -/
theorem ICommandHeader.onCall_selected {h : ICommandHeader} {call : HeaderCall}
    (hinit : ∀ rec ∈ h.header.records, rec.state = .INIT) (hne : h.header.records ≠ [])
    (hall : (h.onCall .Select call).header.areAllSelected = true) :
    ∃ record count values, call = .prefixValues record count values ∧
      record.enumeration = h.type.gv ∧ record.getQualifierCode = h.header.expectedQualfier ∧
      List.Forall₂ h.type.Echoes h.header.wire.2 (values.map (readCommand h.type)) := by
  have hunchanged := TypedCommandHeader.not_areAllSelected hinit hne
  cases call with
  | prefixValues record count values =>
    have happly : h.onCall .Select (.prefixValues record count values) =
        h.applySelectResponse record values := rfl
    rw [happly] at hall
    unfold ICommandHeader.applySelectResponse at hall
    by_cases htype : record.enumeration = h.type.gv
    · rw [if_pos htype] at hall
      exact ⟨record, count, values, rfl, htype,
        TypedCommandHeader.applySelectResponse_selected hinit hne hall⟩
    · rw [if_neg htype] at hall
      exact absurd hall hunchanged
  | _ => exact absurd hall hunchanged

/-- A call changes nothing that a header is written from. -/
theorem ICommandHeader.wire_onCall (mode : CommandMode) (call : HeaderCall) (h : ICommandHeader) :
    (h.onCall mode call).wire = h.wire := by
  cases call with
  | prefixValues record count values =>
    cases mode with
    | Select =>
      change (h.applySelectResponse record values).wire = h.wire
      unfold ICommandHeader.applySelectResponse
      split_ifs
      · exact congrArg (Sigma.mk h.type) (TypedCommandHeader.wire_applySelectResponse ..)
      · rfl
    | Operate =>
      change (h.applyOperateResponse record values).wire = h.wire
      unfold ICommandHeader.applyOperateResponse
      split_ifs
      · exact congrArg (Sigma.mk h.type) (TypedCommandHeader.wire_applyOperateResponse ..)
      · rfl
  | _ => rfl

namespace CommandSetOps

/-- A header of the response is compared with the one in its place. -/
theorem onHeader_eq (mode : CommandMode) (set : CommandSet) (call : HeaderCall) :
    (onHeader mode set call).m_headers =
      set.m_headers.modify call.record.headerIndex (ICommandHeader.onCall mode call) := by
  unfold onHeader
  split
  · rfl
  next hcall =>
    cases call with
    | prefixValues record index values => exact absurd rfl (hcall record index values)
    | _ => exact (List.modify_id ..).symm

/-- The comparison leaves what has been written. -/
theorem wire_onHeader (mode : CommandMode) (set : CommandSet) (call : HeaderCall) :
    (onHeader mode set call).m_headers.map ICommandHeader.wire =
      set.m_headers.map ICommandHeader.wire := by
  apply List.ext_getElem?
  intro i
  rw [onHeader_eq, List.getElem?_map, List.getElem?_map, List.getElem?_modify]
  cases set.m_headers[i]? with
  | none => rfl
  | some h =>
    rw [Option.map_eq_map, Option.map_some, Option.map_some, Option.map_some]
    split_ifs
    · rw [ICommandHeader.wire_onCall]
    · rfl

/-- A response to a SELECT changes nothing that a set is written from. -/
theorem wire_processSelectResponse (set : CommandSet) (objects : List UInt8) :
    (processSelectResponse set objects).2.m_headers.map ICommandHeader.wire =
      set.m_headers.map ICommandHeader.wire := by
  have hkeep : ∀ (state : CommandSet) (call : HeaderCall),
      state.m_headers.map ICommandHeader.wire = set.m_headers.map ICommandHeader.wire →
        ((handler .Select).onHeader state call).m_headers.map ICommandHeader.wire =
          set.m_headers.map ICommandHeader.wire :=
    fun state call h => (wire_onHeader .Select state call).trans h
  have hallowed : ∀ (state : CommandSet) (count : ℕ) (gv : GroupVariation) (qc : QualifierCode),
      state.m_headers.map ICommandHeader.wire = set.m_headers.map ICommandHeader.wire →
        ((handler .Select).isAllowed state count gv qc).2.m_headers.map ICommandHeader.wire =
          set.m_headers.map ICommandHeader.wire :=
    fun _ _ _ _ h => h
  exact APDUParser.parse_invariant (P := fun state : CommandSet =>
      state.m_headers.map ICommandHeader.wire = set.m_headers.map ICommandHeader.wire)
    hallowed hkeep {} objects rfl

/-- Every header of a set receives the call of its number, if there is one. -/
theorem foldl_onHeader (mode : CommandMode) (calls : List HeaderCall) (start : ℕ)
    (hindex : calls.map (fun call => call.record.headerIndex) = List.range' start calls.length)
    (set : CommandSet) (k : ℕ) :
    (calls.foldl (onHeader mode) set).m_headers[k]? = set.m_headers[k]?.map fun h =>
      if k < start then h
      else calls[k - start]?.elim h fun call => h.onCall mode call := by
  induction calls generalizing start set with
  | nil => simp
  | cons call calls ih =>
    rw [List.map_cons, List.length_cons, List.range'_succ, List.cons.injEq] at hindex
    obtain ⟨hcall, hrest⟩ := hindex
    rw [List.foldl_cons, ih (start + 1) hrest, onHeader_eq, hcall, List.getElem?_modify]
    cases set.m_headers[k]? with
    | none => rfl
    | some h =>
      rw [Option.map_eq_map, Option.map_some, Option.map_some, Option.map_some]
      congr 1
      rcases lt_trichotomy k start with hlt | rfl | hlt
      · rw [if_pos (by omega), if_pos hlt, if_neg (by omega)]
      · rw [if_pos (by omega), if_neg (lt_irrefl k), if_pos rfl, Nat.sub_self]
        rfl
      · obtain ⟨n, hn⟩ : ∃ n, k - start = n + 1 := ⟨k - start - 1, by omega⟩
        rw [if_neg (by omega), if_neg (by omega), if_neg (by omega), hn, List.getElem?_cons_succ,
          show k - (start + 1) = n by omega]

end CommandSetOps

/-! ## The request for some commands -/

/-- The index type of the header of some commands. -/
def CommandItems.indexType (mode : IndexQualifierMode) (items : CommandItems) : IndexType :=
  if (∀ item ∈ items.items, item.2.toNat ≤ 255) ∧ mode = .allow_one_byte then .UInt8 else .UInt16

/-- The header of a request for some commands. -/
def CommandItems.request (mode : IndexQualifierMode) (items : CommandItems) :
    ObjectHeader (List UInt8) :=
  .prefixed items.type.gv.inst (items.indexType mode) (items.items.map fun item =>
    ((items.indexType mode).cast item.2.toNat, items.type.writeTarget item.1))

/-- The objects of a request for some commands. -/
def requestBytes (mode : IndexQualifierMode) (headers : List CommandItems) : List UInt8 :=
  (headers.map fun items => items.request mode).flatMap headerBytes

/-- A header of a response echoes a header of the request. -/
inductive CommandItems.EchoedBy (mode : IndexQualifierMode) (items : CommandItems) :
    HeaderCall → Prop where
  | intro {record : HeaderRecord} {count : ℕ} {values : List (Indexed Value)}
      (htype : record.enumeration = items.type.gv)
      (hqualifier : record.getQualifierCode = prefixQualifier (items.indexType mode))
      (hitems : List.Forall₂ items.type.Echoes items.items (values.map (readCommand items.type))) :
      EchoedBy mode items (.prefixValues record count values)

namespace CommandItems

/-- Commands are added one after the other. -/
theorem foldl_add {t : CommandType} (items : List (t.Command × UInt16)) (h : TypedCommandHeader t) :
    items.foldl (fun h item => h.add item.1 item.2) h =
      { use_single_byte_index :=
          h.use_single_byte_index && decide (∀ item ∈ items, item.2.toNat ≤ 255)
        records := h.records ++ items.map fun item => { index := item.2, command := item.1 } } := by
  induction items generalizing h with
  | nil => simp
  | cons item rest ih =>
    rw [List.foldl_cons, ih]
    have hflag : (h.add item.1 item.2).use_single_byte_index =
        (h.use_single_byte_index && decide (item.2.toNat ≤ 255)) := by
      show (if 255 < item.2.toNat then false else h.use_single_byte_index) = _
      split_ifs with hlarge
      · rw [decide_eq_false (by omega), Bool.and_false]
      · rw [decide_eq_true (by omega), Bool.and_true]
    have hsmall : decide (∀ item' ∈ item :: rest, item'.2.toNat ≤ 255) =
        (decide (item.2.toNat ≤ 255) && decide (∀ item' ∈ rest, item'.2.toNat ≤ 255)) := by
      rw [← Bool.decide_and]
      exact decide_eq_decide.mpr List.forall_mem_cons
    rw [hflag, hsmall, Bool.and_assoc]
    simp [TypedCommandHeader.add]

/-- The header of some commands, before it is written. -/
theorem start_header (items : CommandItems) : items.start.header =
    { use_single_byte_index := decide (∀ item ∈ items.items, item.2.toNat ≤ 255)
      records := items.items.map fun item => { index := item.2, command := item.1 } } :=
  (foldl_add items.items {}).trans rfl

/-- The header of some commands after it has been written. -/
def written (mode : IndexQualifierMode) (items : CommandItems) : ICommandHeader :=
  { items.start with header := items.start.header.restrict mode }

/-- The records of a header that has been written. -/
theorem written_records (mode : IndexQualifierMode) (items : CommandItems) :
    (items.written mode).header.records =
      items.items.map fun item => { index := item.2, command := item.1 } :=
  congrArg TypedCommandHeader.records items.start_header

/-- The size of its indices. -/
theorem written_flag (mode : IndexQualifierMode) (items : CommandItems) :
    (items.written mode).header.use_single_byte_index =
      decide (items.indexType mode = .UInt8) := by
  show (items.start.header.use_single_byte_index && decide (mode = .allow_one_byte)) = _
  rw [start_header, ← Bool.decide_and]
  unfold indexType
  split_ifs with hsmall
  · exact decide_eq_true hsmall
  · exact decide_eq_false hsmall

/-- A header is written with the index type of its commands. -/
theorem indexType_start (mode : IndexQualifierMode) (items : CommandItems) :
    items.start.header.indexType mode = items.indexType mode := by
  rw [start_header]
  unfold TypedCommandHeader.indexType indexType
  simp only [decide_eq_true_eq, Bool.and_eq_true]

/-- A header is written as the request for its commands. -/
theorem request_start (mode : IndexQualifierMode) (items : CommandItems) :
    items.start.header.request mode = items.request mode := by
  unfold TypedCommandHeader.request request
  rw [indexType_start, start_header, List.map_map]
  rfl

/-- The qualifier that the response to it is to have. -/
theorem written_expectedQualfier (mode : IndexQualifierMode) (items : CommandItems) :
    (items.written mode).header.expectedQualfier = prefixQualifier (items.indexType mode) := by
  unfold TypedCommandHeader.expectedQualfier
  rw [written_flag]
  cases items.indexType mode <;> rfl

end CommandItems

/-- A header that is written adds its request, and is restricted. -/
theorem CommandItems.write_eq {mode : IndexQualifierMode} {items : CommandItems}
    {w w' : HeaderWriter (List UInt8)} {header : TypedCommandHeader items.type}
    (h : items.start.header.write mode w = (some w', header)) :
    w'.headers = w.headers ++ [items.request mode] ∧ header = (items.written mode).header := by
  have hwrite : (items.start.header.write mode w).1 = some w' := by rw [h]
  have hheader : (items.start.header.write mode w).2 = header := by rw [h]
  have hne := TypedCommandHeader.records_ne_nil_of_write hwrite
  rw [TypedCommandHeader.write_eq] at hwrite
  split_ifs at hwrite
  rw [← Option.some.inj hwrite, ← hheader]
  constructor
  · rw [← items.request_start]
    rfl
  · exact congrArg Prod.snd (if_neg (by simpa using hne))

namespace CommandSetOps

/-- The headers that are written add their requests, in order. -/
theorem writeHeaders_eq {mode : IndexQualifierMode} {headers : List CommandItems}
    {w w' : HeaderWriter (List UInt8)} {written : List ICommandHeader}
    (h : writeHeaders mode (headers.map CommandItems.start) w = (some w', written)) :
    w'.headers = w.headers ++ headers.map (fun items => items.request mode) ∧
      written = headers.map fun items => items.written mode := by
  induction headers generalizing w written with
  | nil =>
    cases h
    simp
  | cons items headers ih =>
    rw [List.map_cons, writeHeaders] at h
    split at h
    · cases h
    case h_2 w₁ header hwrite =>
      obtain ⟨hheaders, rfl⟩ := CommandItems.write_eq hwrite
      obtain ⟨w₂, rest, hrest⟩ : ∃ w₂ rest,
          writeHeaders mode (headers.map CommandItems.start) w₁ = (w₂, rest) := ⟨_, _, rfl⟩
      rw [hrest] at h
      obtain ⟨rfl, rfl⟩ := Prod.mk.inj h
      obtain ⟨hall, rfl⟩ := ih hrest
      rw [hall, hheaders, List.append_assoc]
      exact ⟨rfl, rfl⟩

/-- What a set that a user builds is written to, and how it is left. -/
theorem write_eq {headers : List CommandItems} {space : ℕ} {mode : IndexQualifierMode}
    {objects : List UInt8} {set : CommandSet}
    (h : write (.build headers) space mode = (some objects, set)) :
    objects = requestBytes mode headers ∧
      set.m_headers = headers.map fun items => items.written mode := by
  obtain ⟨w, written, hwrite⟩ : ∃ w written, writeHeaders mode (headers.map CommandItems.start)
      { remaining := space } = (w, written) := ⟨_, _, rfl⟩
  have hset : write (.build headers) space mode =
      (w.map fun w => w.headers.flatMap headerBytes, { m_headers := written }) := by
    unfold write CommandSet.build
    rw [hwrite]
  rw [hset] at h
  obtain ⟨hw, rfl⟩ := Prod.mk.inj h
  obtain ⟨w', rfl, rfl⟩ := Option.map_eq_some_iff.mp hw
  obtain ⟨hheaders, rfl⟩ := writeHeaders_eq hwrite
  rw [hheaders]
  exact ⟨rfl, rfl⟩

/-! ## The echo of a request -/

/-- The white-list leaves the commands alone. -/
theorem eq_of_allows {mode : CommandMode} {set set' : CommandSet} {calls : List HeaderCall}
    (h : APDUParser.Allows (handler mode) set calls set') : set' = set := by
  induction calls with
  | nil => exact h.symm
  | cons call calls ih =>
    obtain ⟨next, hallowed, hrest⟩ := h
    obtain rfl : set = next := congrArg Prod.snd hallowed
    exact ih hrest

/-- The headers of a response that has been parsed echo the headers of the request, in order. -/
structure EchoedBy (mode : IndexQualifierMode) (headers : List CommandItems)
    (parsed : ParseResult × Handled CommandSet) : Prop where
  result : parsed.1 = .OK
  header : ∀ (k : ℕ) (items : CommandItems), headers[k]? = some items →
    ∃ call, parsed.2.calls[k]? = some call ∧ items.EchoedBy mode call

/-- A response selects the set only when it echoes the whole request. -/
theorem echoedBy_of_selected {mode : IndexQualifierMode} {headers : List CommandItems}
    {set : CommandSet} {objects : List UInt8}
    (hwritten : set.m_headers = headers.map fun items => items.written mode)
    (hrecords : ∀ h ∈ set.m_headers, h.header.records ≠ [])
    (h : (processSelectResponse set objects).1 = .OK) :
    EchoedBy mode headers (APDUParser.parse (handler .Select) {} objects set) := by
  obtain ⟨hparsed, -⟩ := APDUParser.parse_parsed (handler .Select) {} objects set
  have hindex := hparsed.headerIndex_eq_range
  unfold processSelectResponse at h
  generalize APDUParser.parse (handler .Select) {} objects set = parsed at hparsed hindex h ⊢
  cases hparsed with
  | refused hresult _ =>
    dsimp only at h
    rw [if_pos hresult] at h
    cases h
  | @accepted calls allowed _ hallows =>
    obtain rfl := eq_of_allows hallows
    dsimp only at h hindex
    rw [if_neg (not_not.mpr rfl)] at h
    split_ifs at h with hall
    refine ⟨rfl, fun k items hitems => ?_⟩
    have hheader : allowed.m_headers[k]? = some (items.written mode) := by
      rw [hwritten, List.getElem?_map, hitems, Option.map_some]
    have hinit : ∀ rec ∈ (items.written mode).header.records, rec.state = .INIT := by
      rw [items.written_records mode]
      intro rec hrec
      obtain ⟨item, -, rfl⟩ := List.mem_map.mp hrec
      rfl
    have hne := hrecords _ (List.mem_of_getElem? hheader)
    have hfolded := foldl_onHeader .Select calls 0 (hindex.trans List.range_eq_range') allowed k
    rw [hheader, Option.map_some, if_neg (Nat.not_lt_zero k), Nat.sub_zero] at hfolded
    have hselected := List.all_eq_true.mp hall _ (List.mem_of_getElem? hfolded)
    cases hcall : calls[k]? with
    | none =>
      -- A header without an echo keeps its records.
      rw [hcall, Option.elim_none] at hselected
      exact absurd hselected (TypedCommandHeader.not_areAllSelected hinit hne)
    | some call =>
      rw [hcall, Option.elim_some] at hselected
      obtain ⟨record, count, values, rfl, htype, hqualifier, hechoes⟩ :=
        ICommandHeader.onCall_selected hinit hne hselected
      refine ⟨_, rfl, .intro htype (hqualifier.trans (items.written_expectedQualfier mode)) ?_⟩
      have hwire : (items.written mode).header.wire.2 = items.items := by
        show (items.written mode).header.records.map _ = _
        rw [items.written_records mode, List.map_map]
        exact List.map_id _
      rwa [hwire] at hechoes

end CommandSetOps

end OpenDnp3.Master
