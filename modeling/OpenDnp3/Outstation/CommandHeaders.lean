import OpenDnp3.Outstation.CommandCalls

/-!
# The headers of a command response

A response that there is space for repeats the request header by header, with the status of each
command in the last byte of its object (`Echo`). So it is as long as the request. The handler allows
what its white-list alone does, and the headers that it is given are those of the parse with the
white-list.
-/

namespace OpenDnp3.Outstation

open App

variable {α : Type*}

namespace CommandResponseHandler

/-! ## Headers -/

/-- The bytes of a header of a response to commands. -/
def echoBytes : ObjectHeader α → List UInt8
  | .commands gv index objects => countIndexBytes gv.inst index objects
  | _ => []

/-- The response repeats the request, with a status in the last byte of each command. -/
inductive Echo : List Command → List CommandStatus → List UInt8 → List UInt8 → Prop
  | nil : Echo [] [] [] []
  | cons {c : Command} {status : CommandStatus} {commands : List Command}
      {statuses : List CommandStatus} {request response : List UInt8} (lead : List UInt8)
      (hsize : c.object.length = c.gv.size) (hrest : Echo commands statuses request response) :
      Echo (c :: commands) (status :: statuses) (lead ++ (c.object ++ request))
        (lead ++ (withStatus c.object status ++ response))

/-- Bytes that the response repeats stand in front of an echo. -/
theorem Echo.lead {c : Command} {commands : List Command} {statuses : List CommandStatus}
    {request response : List UInt8} (lead : List UInt8)
    (h : Echo (c :: commands) statuses request response) :
    Echo (c :: commands) statuses (lead ++ request) (lead ++ response) := by
  cases h with
  | cons lead' hsize hrest =>
    rw [← List.append_assoc, ← List.append_assoc lead]
    exact .cons (lead ++ lead') hsize hrest

/-- The object of an echoed command has the size of its variation. -/
theorem Echo.size_eq {commands : List Command} {statuses : List CommandStatus}
    {request response : List UInt8} (h : Echo commands statuses request response) :
    ∀ c ∈ commands, c.object.length = c.gv.size := by
  induction h with
  | nil => simp
  | cons lead hsize _ ih => exact List.forall_mem_cons.mpr ⟨hsize, ih⟩

/-- The echo of two parts, one after the other. -/
theorem Echo.append {commands commands' : List Command} {statuses statuses' : List CommandStatus}
    {request request' response response' : List UInt8}
    (h : Echo commands statuses request response)
    (h' : Echo commands' statuses' request' response') :
    Echo (commands ++ commands') (statuses ++ statuses') (request ++ request')
      (response ++ response') := by
  induction h with
  | nil => exact h'
  | cons lead hsize _ ih =>
    simp only [List.append_assoc, List.cons_append]
    exact .cons lead hsize ih

/-- The response is as long as the request. -/
theorem Echo.length_eq {commands : List Command} {statuses : List CommandStatus}
    {request response : List UInt8} (h : Echo commands statuses request response)
    (hgv : ∀ c ∈ commands, 0 < c.gv.size) : response.length = request.length := by
  induction h with
  | nil => rfl
  | @cons c status commands statuses request response lead hsize _ ih =>
    have hrest := ih fun c hc => hgv c (List.mem_cons_of_mem _ hc)
    have hpos := hgv c (List.mem_cons_self ..)
    simp only [withStatus, List.length_append, List.length_dropLast, List.length_singleton, hrest]
    omega

/-- The objects of a header with prefixes are echoed with their statuses. -/
theorem echo_prefixedBytes {gv : GroupVariation} (index : IndexType)
    {values : List (Indexed Value)} {statuses : List CommandStatus}
    (hlen : statuses.length = values.length)
    (hsize : ∀ pair ∈ values, (objectOf pair.value).length = gv.size) :
    Echo (values.map (commandOf gv)) statuses (prefixedBytes index (objectsOf values))
      (prefixedBytes index (echoObjects values statuses)) := by
  induction values generalizing statuses with
  | nil =>
    rw [List.eq_nil_of_length_eq_zero hlen]
    exact .nil
  | cons pair values ih =>
    obtain ⟨status, statuses, rfl⟩ := List.exists_cons_of_length_eq_add_one hlen
    have hrest := ih (Nat.succ.inj hlen) fun pair hp => hsize pair (List.mem_cons_of_mem _ hp)
    have hobject : pair.value.bytes = objectOf pair.value := by
      cases pair.value <;> rfl
    have hobjects : objectsOf (pair :: values) =
        (pair.index, objectOf pair.value) :: objectsOf values := by
      rw [← hobject]
      rfl
    have hecho : echoObjects (pair :: values) (status :: statuses) =
        (pair.index, withStatus (objectOf pair.value) status) :: echoObjects values statuses := rfl
    rw [hobjects, hecho, prefixedBytes_cons, prefixedBytes_cons]
    exact .cons (c := commandOf gv pair) (writeNum index pair.index)
      (hsize pair (List.mem_cons_self ..)) hrest

/-- The statuses in a header of a response to commands. -/
def echoStatuses : ObjectHeader α → List UInt8
  | .commands _ _ objects => objects.map fun object => object.2.getLastD 0
  | _ => []

/-- The last bytes of the echoed objects are the statuses. -/
theorem echoStatuses_echoObjects {values : List (Indexed Value)} {statuses : List CommandStatus}
    (hlen : statuses.length = values.length) :
    (echoObjects values statuses).map (fun object => object.2.getLastD 0) =
      statuses.map CommandStatus.toType := by
  induction values generalizing statuses with
  | nil =>
    rw [List.eq_nil_of_length_eq_zero hlen]
    rfl
  | cons pair values ih =>
    obtain ⟨status, statuses, rfl⟩ := List.exists_cons_of_length_eq_add_one hlen
    have hecho : echoObjects (pair :: values) (status :: statuses) =
        (pair.index, withStatus (objectOf pair.value) status) :: echoObjects values statuses := rfl
    rw [hecho, List.map_cons, List.map_cons, ih (Nat.succ.inj hlen)]
    simp [withStatus]

/-- The white-list allows commands with index prefixes. -/
theorem isAllowed_spec {gv : GroupVariation} {qc : QualifierCode} (h : isAllowed gv qc) :
    (∃ index, qc = countIndexCode index) ∧ CountIndexParser.supports gv := by
  unfold isAllowed at h
  rw [Bool.and_eq_true] at h
  simp only [Bool.or_eq_true, decide_eq_true_eq] at h
  obtain ⟨hcode, hgv⟩ := h
  constructor
  · obtain rfl | rfl := hcode
    · exact ⟨.UInt8, rfl⟩
    · exact ⟨.UInt16, rfl⟩
  · obtain (((rfl | rfl) | rfl) | rfl) | rfl := hgv <;> rfl

/-- The handler is allowed the variations of the command types. -/
theorem exists_type {gv : GroupVariation} {qc : QualifierCode} (h : isAllowed gv qc) :
    ∃ t : Master.CommandType, t.gv = gv := by
  unfold isAllowed at h
  rw [Bool.and_eq_true] at h
  simp only [Bool.or_eq_true, decide_eq_true_eq] at h
  obtain (((rfl | rfl) | rfl) | rfl) | rfl := h.2
  · exact ⟨.ControlRelayOutputBlock, rfl⟩
  · exact ⟨.AnalogOutputInt32, rfl⟩
  · exact ⟨.AnalogOutputInt16, rfl⟩
  · exact ⟨.AnalogOutputFloat32, rfl⟩
  · exact ⟨.AnalogOutputDouble64, rfl⟩

/-- The commands of a header have its variation. -/
theorem gv_of_mem_commandsOf {call : HeaderCall} {c : Command} (h : c ∈ commandsOf call) :
    c.gv = call.record.enumeration := by
  unfold commandsOf at h
  split at h
  · obtain ⟨pair, -, rfl⟩ := List.mem_map.mp h
    rfl
  · cases h

/-- A header for commands that there is space for is answered by its echo. -/
theorem respondToHeader_echo {env : Env α} {action : CommandAction} {maxCommands : ℕ}
    {log : List (Output α)} {done : List Command} {h : CommandResponseHandler α}
    {writer : HeaderWriter α} (hwriter : h.writer = some writer)
    (hprogress : Progress env action maxCommands log done h) {gv : GroupVariation}
    {index : IndexType} {values : List (Indexed Value)}
    (hfits : FitsIn gv.inst index (objectsOf values)) (hpos : 0 < values.length)
    (hspace : (countIndexBytes gv.inst index (objectsOf values)).length ≤ writer.remaining) :
    ∃ statuses, statusesOf env action maxCommands log (done ++ values.map (commandOf gv)) =
        statusesOf env action maxCommands log done ++ statuses ∧
      Progress env action maxCommands log (done ++ values.map (commandOf gv))
        (h.respondToHeader env gv index values) ∧
      (h.respondToHeader env gv index values).writer =
        some ((writer.advance (countIndexBytes gv.inst index (objectsOf values)).length).push
          (.commands gv index (echoObjects values statuses))) := by
  have hlen : (objectsOf values).length = values.length := List.length_map ..
  have hbytes := length_countIndexBytes hfits
  rw [hlen] at hbytes
  have hone : gv.inst.size + index.size ≤ values.length * (gv.inst.size + index.size) :=
    Nat.le_mul_of_pos_left _ hpos
  -- The header and the count are written, since there is space for them and for one command.
  have hiterate : PrefixedWriteIterator.iterateOverCountWithPrefix
      ({ remaining := writer.remaining } : HeaderWriter (List UInt8)) gv.inst index =
        ({ remaining := writer.remaining - (3 + index.size) },
          some { serializer := gv.inst, index }) := by
    unfold PrefixedWriteIterator.iterateOverCountWithPrefix HeaderWriter.writeHeaderWithReserve
    rw [if_neg (by dsimp only; omega)]
    dsimp only
    rw [if_pos (by omega), HeaderWriter.advance, Nat.sub_sub]
  have hindex : ∀ pair ∈ values, pair.index ≤ index.max := fun pair hp =>
    (hfits _ (List.mem_map_of_mem hp)).1
  obtain ⟨statuses, h', hstatuses, hfold⟩ := foldl_respondTo_echo gv values
    { remaining := writer.remaining - (3 + index.size) } { serializer := gv.inst, index } hprogress
    hindex (by dsimp only; omega)
  obtain ⟨hprogress', hwriter'⟩ := foldl_respondTo_progress
    (p := (h, { remaining := writer.remaining - (3 + index.size) },
      some { serializer := gv.inst, index })) gv values hprogress
  rw [hfold] at hprogress' hwriter'
  refine ⟨statuses, hstatuses, ?_, ?_⟩
  · unfold respondToHeader
    rw [hwriter]
    dsimp only
    rw [hiterate]
    dsimp only
    rw [hfold]
    exact ⟨hprogress'.action_eq, hprogress'.max_eq, hprogress'.numRequests, hprogress'.log_eq,
      hprogress'.isStarted, hprogress'.statuses, hprogress'.numSuccess⟩
  · unfold respondToHeader
    rw [hwriter]
    dsimp only
    rw [hiterate]
    dsimp only
    rw [hfold]
    have hremaining : writer.remaining - (3 + index.size) -
        values.length * (gv.inst.size + index.size) = writer.remaining -
          (countIndexBytes gv.inst index (objectsOf values)).length := by omega
    simp only [HeaderWriter.advance, List.nil_append, hremaining]

/-- A header that is allowed and that there is space for is answered by its echo. -/
theorem onHeader_echo {env : Env α} {action : CommandAction} {maxCommands : ℕ}
    {log : List (Output α)} {done : List Command} {h : CommandResponseHandler α}
    {writer : HeaderWriter α} (hwriter : h.writer = some writer)
    (hprogress : Progress env action maxCommands log done h) {place : ℕ} {bytes : List UInt8}
    {call : HeaderCall} (htakes : (APDUParser.headerReader {} place).Takes bytes call)
    (hallowed : isAllowed call.record.enumeration call.record.getQualifierCode)
    (hspace : bytes.length ≤ writer.remaining) :
    ∃ statuses header, statusesOf env action maxCommands log (done ++ commandsOf call) =
        statusesOf env action maxCommands log done ++ statuses ∧
      Progress env action maxCommands log (done ++ commandsOf call) (onHeader env h call) ∧
      (onHeader env h call).writer = some ((writer.advance bytes.length).push header) ∧
      Echo (commandsOf call) statuses bytes (echoBytes header) ∧
      echoStatuses header = statuses.map CommandStatus.toType := by
  obtain ⟨⟨index, hcode⟩, hsupports⟩ := isAllowed_spec hallowed
  obtain ⟨values, hcall, hbytes, hfits, hpos, hmax, hobjects⟩ :=
    eq_countIndexBytes htakes rfl hcode hsupports
  generalize hgv : call.record.enumeration = gv at *
  subst hbytes
  obtain ⟨statuses, hstatuses, hprogress', hwriter'⟩ :=
    respondToHeader_echo hwriter hprogress hfits hpos hspace
  have hcommands : commandsOf call = values.map (commandOf gv) := by
    rw [hcall, commandsOf, enumeration_headerRecord]
    rfl
  have honHeader : onHeader env h call = h.respondToHeader env gv index values := by
    rw [hcode] at hallowed
    rw [hcall]
    simp only [onHeader, enumeration_headerRecord, getQualifierCode_headerRecord]
    rw [show gv.inst.gv = gv from rfl, if_pos hallowed]
    cases index <;> rfl
  have hlen : statuses.length = values.length := by
    have hcount := congrArg List.length hstatuses
    rw [List.length_append, length_statusesOf, length_statusesOf, List.length_append,
      List.length_map] at hcount
    omega
  have hsize : ∀ pair ∈ values, (objectOf pair.value).length = gv.size := by
    intro pair hp
    obtain ⟨object, hobject⟩ := hobjects pair hp
    have hfit := (hfits _ (List.mem_map_of_mem hp)).2
    rw [hobject] at hfit ⊢
    exact hfit
  rw [hcommands, honHeader]
  refine ⟨statuses, _, hstatuses, hprogress', hwriter', ?_, echoStatuses_echoObjects hlen⟩
  -- The header has the same first bytes as the one of the request.
  have hecho := echo_prefixedBytes index hlen hsize
  have hechoLen : (echoObjects values statuses).length = values.length := by
    rw [echoObjects, List.length_zipWith, hlen, min_self]
  have hobjectsLen : (objectsOf values).length = values.length := List.length_map ..
  obtain ⟨pair, rest, rfl⟩ := List.exists_cons_of_length_pos hpos
  simp only [echoBytes, countIndexBytes, hechoLen, hobjectsLen, ← List.append_assoc]
  exact hecho.lead _

/-- The headers of a request that there is space for are answered by their echoes. -/
theorem foldl_onHeader_echo {env : Env α} {action : CommandAction} {maxCommands : ℕ}
    {log : List (Output α)} {place : ℕ} {objects : List UInt8} {headers : List HeaderCall}
    (hsegments : Reader.Segments (APDUParser.headerReader {}) place objects headers)
    (hallowed : ∀ call ∈ headers, isAllowed call.record.enumeration call.record.getQualifierCode)
    {done : List Command} {h : CommandResponseHandler α} {writer : HeaderWriter α}
    (hwriter : h.writer = some writer) (hprogress : Progress env action maxCommands log done h)
    (hspace : objects.length ≤ writer.remaining) :
    ∃ statuses response,
      statusesOf env action maxCommands log (done ++ headers.flatMap commandsOf) =
        statusesOf env action maxCommands log done ++ statuses ∧
      Progress env action maxCommands log (done ++ headers.flatMap commandsOf)
        (headers.foldl (onHeader env) h) ∧
      (headers.foldl (onHeader env) h).writer = some
        { remaining := writer.remaining - objects.length, headers := writer.headers ++ response } ∧
      Echo (headers.flatMap commandsOf) statuses objects (response.flatMap echoBytes) ∧
      response.flatMap echoStatuses = statuses.map CommandStatus.toType := by
  induction hsegments generalizing done h writer with
  | nil place => exact ⟨[], [], by simp, by simpa using hprogress, by simp [hwriter], .nil, rfl⟩
  | @cons place symbols rest call headers hne htakes hrest ih =>
    rw [List.length_append] at hspace
    obtain ⟨statuses, header, hstatuses, hprogress', hwriter', hecho, hechoed⟩ :=
      onHeader_echo hwriter hprogress htakes (hallowed call (List.mem_cons_self ..)) (by omega)
    obtain ⟨statuses', response, hstatuses', hprogress'', hwriter'', hecho', hechoed'⟩ :=
      ih (fun call hc => hallowed call (List.mem_cons_of_mem _ hc)) hwriter' hprogress'
        (by simp only [HeaderWriter.push, HeaderWriter.advance]; omega)
    rw [List.flatMap_cons, ← List.append_assoc, List.foldl_cons]
    refine ⟨statuses ++ statuses', header :: response, ?_, hprogress'', ?_, ?_, ?_⟩
    · rw [hstatuses', hstatuses, List.append_assoc]
    · rw [hwriter'']
      simp [HeaderWriter.push, HeaderWriter.advance, Nat.sub_sub]
    · exact hecho.append hecho'
    · rw [List.flatMap_cons, hechoed, hechoed', List.map_append]

/-! ## Requests and the parser -/

/-- The white list decides by the variation. -/
theorem allowsBy_commandWhiteList : APDUParser.AllowsBy commandWhiteList isAllowed :=
  fun _ _ _ _ => rfl

/-- The handler decides by the variation. -/
theorem allowsBy_handler (env : Env α) : APDUParser.AllowsBy (handler env) isAllowed :=
  fun _ _ _ _ => rfl

/-- A parse with the handler succeeds where one with its white-list alone does. -/
theorem run_eq_ok_iff (env : Env α) (action : CommandAction) (maxCommands : ℕ)
    (writer : Option (HeaderWriter α)) (objects : List UInt8) (log : List (Output α)) :
    (run env action maxCommands writer objects log).1 = .OK ↔ Accepted objects :=
  ((allowsBy_handler env).parse_eq_ok_iff {} objects _).trans
    (allowsBy_commandWhiteList.parse_eq_ok_iff {} objects _).symm

/-- The headers of a request that is accepted, with what the handler makes of them. -/
theorem exists_headers {objects : List UInt8} (h : Accepted objects) :
    ∃ headers, Reader.Segments (APDUParser.headerReader {}) 0 objects headers ∧
      (∀ call ∈ headers, isAllowed call.record.enumeration call.record.getQualifierCode) ∧
      requested objects = headers.flatMap commandsOf ∧
      ∀ (env : Env α) action maxCommands writer log,
        (run env action maxCommands writer objects log).2 =
          headers.foldl (onHeader env) { action, maxCommands, writer, log } := by
  obtain ⟨headers, hsegments, hallowed⟩ :=
    (allowsBy_commandWhiteList.parse_eq_ok_iff {} objects ()).mp h
  refine ⟨headers, hsegments, hallowed, ?_, fun env action maxCommands writer log => ?_⟩
  · rw [requested, allowsBy_commandWhiteList.parse_eq hsegments hallowed]
  · rw [run, (allowsBy_handler env).parse_eq hsegments hallowed]
    rfl

/-- Before the first command nothing is done. -/
theorem progress_init (env : Env α) (action : CommandAction) (maxCommands : ℕ)
    (writer : Option (HeaderWriter α)) (log : List (Output α)) :
    Progress env action maxCommands log [] { action, maxCommands, writer, log } where
  action_eq := rfl
  max_eq := rfl
  numRequests := (Nat.zero_min _).symm
  log_eq := by
    rw [List.take_nil]
    cases action <;> rfl
  isStarted _ _ _ := by
    rw [List.take_nil]
    rfl
  statuses := rfl
  numSuccess := rfl

/-- A request that is accepted and fits the response is answered by its echo. -/
theorem run_echo (env : Env α) (action : CommandAction) (maxCommands : ℕ)
    {writer : HeaderWriter α} {objects : List UInt8} (log : List (Output α))
    (haccepted : Accepted objects) (hspace : objects.length ≤ writer.remaining) :
    ∃ response h, run env action maxCommands (some writer) objects log = (.OK, h) ∧
      Progress env action maxCommands log (requested objects) h ∧
      h.writer = some
        { remaining := writer.remaining - objects.length, headers := writer.headers ++ response } ∧
      Echo (requested objects) (statusesOf env action maxCommands log (requested objects)) objects
        (response.flatMap echoBytes) ∧
      response.flatMap echoStatuses =
        (statusesOf env action maxCommands log (requested objects)).map CommandStatus.toType := by
  obtain ⟨headers, hsegments, hallowed, hrequested, hrun⟩ := exists_headers (α := α) haccepted
  obtain ⟨statuses, response, hstatuses, hprogress, hwriter, hecho, hechoed⟩ :=
    foldl_onHeader_echo hsegments hallowed rfl
      (progress_init env action maxCommands (some writer) log) hspace
  rw [List.nil_append, ← hrequested] at hstatuses hprogress
  rw [show statusesOf env action maxCommands log [] = [] from rfl, List.nil_append] at hstatuses
  rw [← hrequested, ← hstatuses] at hecho
  rw [← hstatuses] at hechoed
  refine ⟨response, _, ?_, hprogress, hwriter, hecho, hechoed⟩
  rw [← hrun env action maxCommands (some writer) log]
  exact Prod.ext ((run_eq_ok_iff ..).mpr haccepted) rfl

/-- The commands of a request are objects of the types of commands. -/
theorem requested_type {objects : List UInt8} (h : Accepted objects) :
    ∀ c ∈ requested objects, ∃ t : Master.CommandType, t.gv = c.gv ∧
      c.object.length = t.gv.size := by
  obtain ⟨headers, -, hallowed, hrequested, -⟩ := exists_headers (α := Empty) h
  obtain ⟨response, h', -, -, -, hecho, -⟩ := @run_echo Empty {} (.constant .SUCCESS) 0
    { remaining := objects.length } objects [] h le_rfl
  intro c hc
  have hsize := hecho.size_eq c hc
  rw [hrequested] at hc
  obtain ⟨call, hcall, hc⟩ := List.mem_flatMap.mp hc
  obtain ⟨t, ht⟩ := exists_type (hallowed call hcall)
  exact ⟨t, ht.trans (gv_of_mem_commandsOf hc).symm, by rw [ht, ← gv_of_mem_commandsOf hc, hsize]⟩

/-- A request without commands has no objects. -/
theorem requested_eq_nil {objects : List UInt8} (h : Accepted objects)
    (hnil : requested objects = []) : objects = [] := by
  obtain ⟨response, h, -, -, -, hecho, -⟩ := @run_echo Empty {} (.constant .SUCCESS) 0
    { remaining := objects.length } objects [] h le_rfl
  rw [hnil] at hecho
  generalize statusesOf _ _ _ _ _ = statuses, response.flatMap echoBytes = bytes at hecho
  cases hecho with
  | nil => rfl

end CommandResponseHandler

end OpenDnp3.Outstation
