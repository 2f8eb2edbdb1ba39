import OpenDnp3.Outstation.ConfirmWait
import OpenDnp3.Outstation.ContextDatabase
import OpenDnp3.Outstation.EventVariation
import OpenDnp3.Outstation.LoadProgress

/-!
# A round of a response

Every fragment of a response takes some of what is selected: the load of the events writes the first
of them, one at least where any is selected, and the static positions follow when no event is left.
After the confirm of a fragment the next one goes out (`Continues`), and the last one is the
fragment after which nothing is selected.
-/

namespace OpenDnp3.Outstation

open App

variable {α : Type*}

namespace EventLists

/-! ## The events that are selected -/

/-- The reports of the selected events have their numbers. -/
theorem map_id_selectedReports {config : EventBufferConfig} {s : EventLists α} (h : s.Inv config) :
    s.selectedReports.map Report.id = s.selectedIds :=
  map_id_reports h (List.Subset.refl _)

/-- The records that are removed are not selected. -/
theorem clearWritten_selectedIds (s : EventLists α) :
    s.clearWritten.selectedIds = s.selectedIds := by
  unfold selectedIds
  rw [clearWritten_used, List.filter_filter]
  congr 1
  refine List.filter_congr fun n _ => ?_
  by_cases hselected : n.2.state = .selected
  · simp [hselected]
  · simp [hselected]

/-- The counter is zero where no event is selected. -/
theorem numSelected_eq_zero_iff {config : EventBufferConfig} {s : EventLists α} (h : s.Inv config) :
    s.numSelected = 0 ↔ s.selectedIds = [] := by
  have hcount : s.numSelected.toNat = s.selectedIds.length := by
    rw [h.countersExact.selected, selectedIds, List.length_map, count, List.countP_eq_length_filter]
  rw [← List.length_eq_zero_iff, ← hcount]
  constructor
  · intro hzero
    rw [hzero]
    rfl
  · exact fun hzero => UInt32.toNat_inj.mp hzero

/-- A record that is written is not selected. -/
theorem reports_map_markNode (s : EventLists α) (nodes : List (ℕ × EventRecord)) :
    s.reports (nodes.map markNode) = [] := by
  refine s.reports_eq_nil fun n hn => ?_
  obtain ⟨m, -, rfl⟩ := List.mem_map.mp hn
  unfold markNode
  split_ifs with hselected
  · exact fun h => by cases h
  · exact hselected

end EventLists

variable [MeasurementSpec α]

open EventLists

/-! ## The first event of a fragment -/

omit [MeasurementSpec α] in
/-- A header with prefixes is started where there is space. -/
theorem iterateOverCountWithPrefix_room (w : HeaderWriter α) (serializer : DNP3Serializer)
    (hroom : 3 + 2 * 2 + serializer.size ≤ w.remaining) :
    ∃ w', PrefixedWriteIterator.iterateOverCountWithPrefix w serializer .UInt16 =
        (w', some { serializer, index := .UInt16 }) ∧
      serializer.size + 2 ≤ w'.remaining := by
  unfold PrefixedWriteIterator.iterateOverCountWithPrefix HeaderWriter.writeHeaderWithReserve
  have hindex : IndexType.UInt16.size = 2 := rfl
  rw [hindex, if_neg (by omega)]
  dsimp only
  rw [if_pos (by omega)]
  refine ⟨_, rfl, ?_⟩
  rw [HeaderWriter.advance]
  dsimp only
  omega

omit [MeasurementSpec α] in
/-- The common time takes 10 bytes, and the objects behind it are small. -/
theorem iterateOverCountWithPrefixAndCTO_room {w : HeaderWriter α}
    (hroom : maxObjectSpace ≤ w.remaining) {gv : GroupVariation} (time : List UInt8) :
    ∃ w', PrefixedWriteIterator.iterateOverCountWithPrefixAndCTO w gv.inst .UInt16 .Group51Var1
        time = (w', some { serializer := gv.inst, index := .UInt16 }) ∧
      gv.inst.size + 2 ≤ w'.remaining := by
  have hsize : gv.inst.size ≤ 15 := Checked.size_le gv
  unfold maxObjectSpace at hroom
  unfold PrefixedWriteIterator.iterateOverCountWithPrefixAndCTO HeaderWriter.writeSingleValue
    HeaderWriter.writeHeaderWithReserve
  have hcto : IndexType.UInt8.size + GroupVariation.Group51Var1.size = 7 := rfl
  rw [hcto, if_neg (by omega)]
  dsimp only [Option.map_some]
  obtain ⟨w', heq, hspace⟩ := iterateOverCountWithPrefix_room
    (({ w with remaining := w.remaining - 3 }.advance 7).push
      (.single .Group51Var1 .UInt8 time)) gv.inst
    (by rw [HeaderWriter.push, HeaderWriter.advance]; dsimp only; omega)
  rw [heq]
  exact ⟨w', rfl, hspace⟩

/-- A new header takes its first event where there is room for it. -/
theorem EventWriter.write_start {w : EventWriter α} (hroom : maxObjectSpace ≤ w.writer.remaining)
    (variation : GroupVariation) (value : α) (index : UInt16) :
    ((w.start variation value).write value index).isSome := by
  have hwrites : ∀ (w' : HeaderWriter α) (serializer : DNP3Serializer),
      serializer.size + 2 ≤ w'.remaining → ∀ value' : α,
        (PrefixedWriteIterator.write { serializer, index := .UInt16 } w' value'
          index.toNat).isSome := by
    intro w' serializer hspace value'
    have hfits : serializer.size + IndexType.UInt16.size ≤ w'.remaining := hspace
    simp [PrefixedWriteIterator.write, hfits]
  have hsize : ∀ gv : GroupVariation, 3 + 2 * 2 + gv.inst.size ≤ w.writer.remaining :=
    fun gv => (Nat.add_le_add_left (size_inst_le gv) _).trans hroom
  unfold start
  split
  -- The time of the first event is the common time itself.
  case h_1 | h_2 =>
    dsimp only
    obtain ⟨w', heq, hspace⟩ := iterateOverCountWithPrefixAndCTO_room hroom
      (writeUInt48 (MeasurementSpec.time value))
    rw [heq]
    simp [write, prepare, hwrites w' _ hspace]
  case h_3 =>
    dsimp only
    obtain ⟨w', heq, hspace⟩ := iterateOverCountWithPrefix_room w.writer
      ⟨.Group111Var0, (MeasurementSpec.octetSize value).toNat⟩
      ((Nat.add_le_add_left (Nat.le_of_lt_succ (UInt8.toNat_lt _)) _).trans hroom)
    rw [heq]
    simp [write, prepare, hwrites w' _ hspace]
  case h_4 =>
    dsimp only
    obtain ⟨w', heq, hspace⟩ := iterateOverCountWithPrefix_room w.writer variation.inst
      (hsize variation)
    rw [heq]
    simp [write, prepare, hwrites w' _ hspace]

/-- What a load of the events does: the first of the selected events are written, one at least where
there is room for it, and nothing is written where nothing is selected. -/
structure EventBuffer.Loads (config : EventBufferConfig) (b b' : EventBuffer α)
    (writer writer' : HeaderWriter α) (notFull : Bool) (events : List ℕ) : Prop where
  inv : b'.storage.Inv config
  selected : b.storage.selectedIds = events ++ b'.storage.selectedIds
  notFull : notFull = decide (b'.storage.selectedIds = [])
  space : writer'.remaining < writer.remaining ↔ events ≠ []
  takes : b.storage.selectedIds ≠ [] → events ≠ []
  writer : events = [] → writer' = writer

/-- A fragment takes the first of the selected events, and at least one where there is one. -/
theorem EventBuffer.load_loads {config : EventBufferConfig} {b : EventBuffer α}
    (h : b.storage.Inv config) {writer : HeaderWriter α}
    (hroom : maxObjectSpace ≤ writer.remaining) :
    ∃ notFull b' writer' events, b.load writer = (notFull, b', writer', events) ∧
      Loads config b b' writer writer' notFull events := by
  obtain ⟨passed, rest, headers, hused, hemits, hheaders, hids, hafter, hlists, -⟩ :=
    write_emits h asduEventWriteHandler ({ writer } : EventWriter α)
  have hinv := (write_spec h asduEventWriteHandler ({ writer } : EventWriter α)).1
  have hspace := write_space OContext.asduEventWriteHandler_usesSpace b.storage
    ({ writer } : EventWriter α)
  refine ⟨_, _, _, _, rfl, ?_⟩
  generalize b.storage.write asduEventWriteHandler { writer } = p at *
  -- What is selected afterwards is what the write has left.
  have hleft : p.lists.selectedIds = (b.storage.reports rest).map Report.id := by
    rw [← map_id_selectedReports hinv, selectedReports, hafter, reports_append,
      reports_congr hlists, reports_congr hlists, reports_map_markNode, List.nil_append]
  have hsplit : b.storage.selectedIds = p.ids ++ p.lists.selectedIds := by
    rw [← map_id_selectedReports h, hemits.eq_append, List.map_append, hids, hleft]
  -- The handler refuses no first event, so a header is missing only where nothing is selected.
  have hheader : headers = [] → b.storage.selectedReports = [] ∧ p.handler = { writer } := by
    intro hnone
    generalize b.storage.selectedReports = events at hemits
    generalize b.storage.reports rest = left at hemits
    generalize p.handler = w' at hemits
    cases hemits with
    | done => exact ⟨rfl, rfl⟩
    | @refused w e events hwrite =>
      have hsome := EventWriter.write_start (w := { writer }) hroom e.variation e.value e.index
      have hrefused :
          (EventWriter.start { writer } e.variation e.value).write e.value e.index = none := hwrite
      rw [hrefused] at hsome
      cases hsome
    | header => cases hnone
  have hempty : p.ids = [] → headers = [] := by
    intro hnone
    rw [hids, List.map_eq_nil_iff] at hnone
    by_contra hne
    obtain ⟨header, hmem⟩ := List.exists_mem_of_ne_nil _ hne
    exact (hemits.same header hmem).1 (List.flatten_eq_nil_iff.mp hnone header hmem)
  have hwriter : p.ids = [] → p.handler.writer = writer := fun hnone =>
    congrArg EventWriter.writer (hheader (hempty hnone)).2
  refine ⟨hinv, hsplit, ?_, ?_, fun hselected hnone => ?_, hwriter⟩
  · rw [decide_eq_decide]
    exact numSelected_eq_zero_iff hinv
  · constructor
    · intro hlt hnone
      rw [hwriter hnone] at hlt
      exact absurd hlt (lt_irrefl _)
    · intro hne
      have hpos := List.length_pos_of_ne_nil hne
      dsimp only [List.length_nil] at hspace
      omega
  · rw [← map_id_selectedReports h, (hheader (hempty hnone)).1] at hselected
    exact hselected rfl

namespace OContext

open DatabaseBuffers

/-! ## One fragment -/

omit [MeasurementSpec α] in
/-- No position is left where nothing is selected. -/
theorem positions_eq_zero_iff (db : DatabaseBuffers α) :
    db.positions = 0 ↔ db.hasAnySelection = false := by
  unfold positions hasAnySelection
  rw [List.sum_eq_zero_iff, List.any_eq_false]
  simp only [List.forall_mem_map]
  refine forall₂_congr fun type _ => ?_
  rw [Range.isValid_iff_count]
  omega

/-- The events and the static positions that are selected. -/
def selectionSize (s : OContext α) : ℕ :=
  s.eventBuffer.storage.selectedIds.length + s.database.positions

omit [MeasurementSpec α] in
/-- Something is selected where the selection is not empty. -/
theorem hasSelection_eq {config : EventBufferConfig} {s : OContext α}
    (h : s.eventBuffer.storage.Inv config) : s.hasSelection = decide (0 < s.selectionSize) := by
  have hevents : s.eventBuffer.hasAnySelection =
      decide (0 < s.eventBuffer.storage.selectedIds.length) := by
    rw [EventBuffer.hasAnySelection, decide_eq_decide, List.length_pos_iff, Ne,
      ← numSelected_eq_zero_iff h, UInt32.pos_iff_ne_zero]
  have hpositions : s.database.hasAnySelection = decide (0 < s.database.positions) := by
    rw [Bool.eq_iff_iff, decide_eq_true_eq, Nat.pos_iff_ne_zero, Ne, positions_eq_zero_iff,
      Bool.not_eq_false]
  rw [hasSelection, hevents, hpositions, selectionSize, ← Bool.decide_or, decide_eq_decide]
  omega

/-- A fragment reports the first of the selected events, and takes at least one event or position.
FIR is on the fragment with the number 0, FIN on the one after which nothing is selected, and CON on
those that are not the last or have events. -/
structure Reports (s s' : OContext α) (control : AppControlField) (events : List ℕ) : Prop where
  fir : control.fir = decide (s.fragmentCount = 0)
  fin : control.fin = decide (s'.selectionSize = 0)
  con : control.con = decide (0 < s'.selectionSize ∨ events ≠ [])
  events : s.eventBuffer.storage.selectedIds = events ++ s'.eventBuffer.storage.selectedIds
  le : s'.selectionSize ≤ s.selectionSize
  less : 0 < s.selectionSize → s'.selectionSize < s.selectionSize
  count : s'.fragmentCount = s.fragmentCount + 1

/-- A fragment reports a part of the selection. -/
theorem loadResponse_reports {config : EventBufferConfig} {s : OContext α}
    (hinv : s.eventBuffer.storage.Inv config) (hcontained : Contained s.database)
    (writer : HeaderWriter α) (hroom : maxObjectSpace ≤ writer.remaining) :
    ∃ control writer' events fragmentCount eventBuffer database,
      s.loadResponse writer =
        (control, writer', events, { s with fragmentCount, eventBuffer, database }) ∧
      Reports s { s with fragmentCount, eventBuffer, database } control events ∧
      eventBuffer.storage.Inv config ∧ Contained database := by
  obtain ⟨notFull, b', writer', events, hload, hloads⟩ := EventBuffer.load_loads hinv hroom
  have hlength := congrArg List.length hloads.selected
  rw [List.length_append] at hlength
  have htaken : events ≠ [] → 0 < events.length := List.length_pos_of_ne_nil
  have hselected := hloads.takes
  rw [← List.length_pos_iff] at hselected
  unfold loadResponse
  rw [hload]
  dsimp only
  cases notFull with
  | true =>
    -- The events are done, and the rest of the fragment is for the static data.
    have hdone : b'.storage.selectedIds = [] := by simpa using hloads.notFull
    rw [hdone, List.length_nil] at hlength
    obtain ⟨hcontained', hfin, hle, hless⟩ := load_advances hcontained writer'
    rw [if_pos rfl]
    refine ⟨_, _, _, _, b', (s.database.load writer').2.1, rfl,
      ⟨rfl, ?_, ?_, hloads.selected, ?_, ?_, rfl⟩, hloads.inv, hcontained'⟩
    all_goals
      unfold selectionSize
      dsimp only
      rw [hdone, List.length_nil, Nat.zero_add]
    · rw [hfin, Bool.eq_iff_iff, decide_eq_true_eq, positions_eq_zero_iff]
      simp
    · have hspace : decide (writer'.remaining < writer.remaining) = decide (events ≠ []) :=
        decide_eq_decide.mpr hloads.space
      have hmore : (s.database.load writer').2.1.hasAnySelection =
          decide (0 < (s.database.load writer').2.1.positions) := by
        rw [Bool.eq_iff_iff, decide_eq_true_eq, Nat.pos_iff_ne_zero, Ne, positions_eq_zero_iff,
          Bool.not_eq_false]
      rw [hfin, Bool.not_not, hspace, hmore, ← Bool.decide_or]
    · omega
    · intro hpos
      by_cases hnone : events = []
      · -- Nothing is written of the events, so the writer of the static data is a new one.
        have hwriter := hloads.writer hnone
        rw [hnone, List.length_nil] at hlength
        have hany : s.database.hasAnySelection = true := by
          rw [← Bool.not_eq_false, ← positions_eq_zero_iff]
          omega
        have hlt := hless (by rwa [hwriter]) hany
        omega
      · have hevents := htaken hnone
        omega
  | false =>
    have hmore : b'.storage.selectedIds ≠ [] := by simpa using hloads.notFull
    have hpos := List.length_pos_of_ne_nil hmore
    rw [if_neg Bool.false_ne_true]
    refine ⟨_, _, _, _, b', s.database, rfl,
      ⟨rfl, ?_, ?_, hloads.selected, ?_, fun _ => ?_, rfl⟩, hloads.inv, hcontained⟩
    all_goals
      unfold selectionSize
      dsimp only
    · rw [eq_comm, decide_eq_false_iff_not]
      omega
    · rw [eq_comm, decide_eq_true_eq]
      omega
    · omega
    · have hevents := htaken (hloads.takes (by rw [hloads.selected]; simp [hmore]))
      omega

/-! ## One round -/

/-- The master confirms a fragment, and the lower layer has sent the next one. -/
structure Round (α : Type*) where
  env : Env α
  message : Message
  txEnv : Env α

/-- The steps of a round. -/
def Round.apply (s : OContext α) (r : Round α) : OContext α :=
  (s.step (r.env, .receive r.message)).step (r.txEnv, .txReady)

/-- The responses that have been sent, without the unsolicited ones. -/
def responses (s : OContext α) : List (APDUResponse α) := s.log.filterMap (Output.sent .RESPONSE)

/-- What a round leaves: it has sent a fragment that waits for its confirm, or the last one without
CON, or the confirm was the one of the last fragment. -/
inductive Outcome (config : EventBufferConfig) (s s' : OContext α) : Prop where
  | fragment (response : APDUResponse α) (hsize : 0 < s.selectionSize)
      (hresponses : responses s' = responses s ++ [response])
      (hreports : Reports s s' response.control response.events)
      (hinv : s'.eventBuffer.storage.Inv config) (hcontained : Contained s'.database)
      (hparams : s'.params = s.params) (hstate : s'.state = .SolicitedConfirmWait)
  | last (middle : OContext α) (response : APDUResponse α) (hsize : 0 < s.selectionSize)
      (hresponses : responses s' = responses s ++ [response])
      (hreports : Reports s middle response.control response.events)
      (hcon : response.control.con = false) (hstate : s'.state ≠ .SolicitedConfirmWait)
  | finished (hresponses : responses s' = responses s) (hsize : s.selectionSize = 0)
      (hstate : s'.state ≠ .SolicitedConfirmWait)

/-- Tasks that start in a context without a deferred request send no response, and wait for no
solicited confirm. -/
theorem checkForTaskStart_quiet (env : Env α) {s : OContext α} (hdeferred : s.deferred = none) :
    (s.checkForTaskStart env).deferred = none ∧
      responses (s.checkForTaskStart env) = responses s ∧
      ((s.checkForTaskStart env).state = .SolicitedConfirmWait →
        s.state = .SolicitedConfirmWait) := by
  have hsame : s.checkForDeferredRequest env = s := by
    unfold checkForDeferredRequest
    rw [hdeferred]
  have hsent : ∀ (s : OContext α) headers events,
      responses (s.sendUnsolicited env headers events) = responses s := by
    intro s headers events
    have hlog : ∃ response, response.function = .UNSOLICITED_RESPONSE ∧
        (s.sendUnsolicited env headers events).log =
          s.log ++ [.transmit s.addresses.destination response] := ⟨_, rfl, rfl⟩
    obtain ⟨response, hfunction, hlog⟩ := hlog
    have hnone : Output.sent .RESPONSE (.transmit s.addresses.destination response) = none := by
      simp [Output.sent, hfunction]
    rw [responses, hlog, List.filterMap_append, List.filterMap_cons_none hnone, List.filterMap_nil,
      List.append_nil]
    rfl
  unfold checkForTaskStart
  rw [hsame]
  unfold checkForUnsolicited
  split_ifs
  · exact ⟨hdeferred, hsent _ _ _, fun h => by cases h⟩
  · exact ⟨hdeferred, rfl, id⟩
  · exact ⟨hdeferred, hsent _ _ _, fun h => by cases h⟩
  · exact ⟨hdeferred, rfl, id⟩

/-- In a context that is not idle no task starts. -/
theorem checkForTaskStart_of_waiting (env : Env α) {s : OContext α} (hdeferred : s.deferred = none)
    (hstate : s.state = .SolicitedConfirmWait) : s.checkForTaskStart env = s := by
  have hsame : s.checkForDeferredRequest env = s := by
    unfold checkForDeferredRequest
    rw [hdeferred]
  rw [checkForTaskStart, hsame, checkForUnsolicited, if_neg (by simp [hstate])]

omit [MeasurementSpec α] in
/-- The report depends on the storage, the database and the count of the fragments. -/
theorem Reports.congr {s s' s'' : OContext α} {control : AppControlField} {events : List ℕ}
    (h : Reports s s' control events) (hcount : s''.fragmentCount = s'.fragmentCount)
    (hstorage : s''.eventBuffer.storage = s'.eventBuffer.storage)
    (hdatabase : s''.database = s'.database) : Reports s s'' control events := by
  have hsize : s''.selectionSize = s'.selectionSize := by
    rw [selectionSize, hstorage, hdatabase]
    rfl
  constructor
  · exact h.fir
  · rw [hsize]
    exact h.fin
  · rw [hsize]
    exact h.con
  · rw [hstorage]
    exact h.events
  · rw [hsize]
    exact h.le
  · rw [hsize]
    exact h.less
  · rw [hcount]
    exact h.count

/-- The next fragment of a series goes out. -/
structure Continues (config : EventBufferConfig) (s s' : OContext α) (response : APDUResponse α) :
    Prop where
  reports : Reports s s' response.control response.events
  inv : s'.eventBuffer.storage.Inv config
  contained : Contained s'.database
  responses : responses s' = responses s ++ [response]
  params : s'.params = s.params
  isOnline : s'.isOnline = s.isOnline
  isTransmitting : s'.isTransmitting = true
  deferred : s'.deferred = s.deferred
  state : s'.state = if response.control.con then .SolicitedConfirmWait else .Idle

/-- After a fragment the lower layer is ready again: the context waits for the confirm where the
fragment has CON, and other tasks start where it has not. -/
theorem Continues.txReady {config : EventBufferConfig} {s s₁ : OContext α}
    {response : APDUResponse α} (h : Continues config s s₁ response) (honline : s.isOnline = true)
    (hdeferred : s.deferred = none) (env txEnv : Env α) :
    OContext.responses ((s₁.checkForTaskStart env).step (txEnv, .txReady)) =
        OContext.responses s ++ [response] ∧
      (response.control.con = true →
        (s₁.checkForTaskStart env).step (txEnv, .txReady) = { s₁ with isTransmitting := false }) ∧
      (response.control.con = false →
        ((s₁.checkForTaskStart env).step (txEnv, .txReady)).state ≠ .SolicitedConfirmWait) := by
  -- While the fragment is on its way no task starts.
  have hbusy : s₁.checkForTaskStart env = s₁ := by
    rw [checkForTaskStart, checkForDeferredRequest_of_busy _ h.isTransmitting,
      checkForUnsolicited_of_busy _ h.isTransmitting]
  have hdeferred₁ : s₁.deferred = none := h.deferred.trans hdeferred
  have htxReady : s₁.step (txEnv, .txReady) =
      ({ s₁ with isTransmitting := false } : OContext α).checkForTaskStart txEnv :=
    if_pos ⟨h.isOnline.trans honline, h.isTransmitting⟩
  have hstate₁ := h.state
  rw [hbusy, htxReady]
  obtain ⟨-, hresponses, hlater⟩ := checkForTaskStart_quiet txEnv
    (s := { s₁ with isTransmitting := false }) hdeferred₁
  refine ⟨hresponses.trans h.responses, fun hcon => ?_, fun hcon hwait => ?_⟩
  · rw [hcon, if_pos rfl] at hstate₁
    exact checkForTaskStart_of_waiting txEnv (s := { s₁ with isTransmitting := false }) hdeferred₁
      hstate₁
  · rw [hcon, if_neg Bool.false_ne_true, hlater hwait] at hstate₁
    cases hstate₁

omit [MeasurementSpec α] in
/-- A confirm leaves what is still selected. -/
theorem confirm_selectionSize (s : OContext α) : s.confirm.selectionSize = s.selectionSize := by
  have hselected : s.confirm.eventBuffer.storage.selectedIds = s.eventBuffer.storage.selectedIds :=
    s.eventBuffer.storage.clearWritten_selectedIds
  rw [selectionSize, selectionSize, hselected]
  rfl

end OContext

end OpenDnp3.Outstation
