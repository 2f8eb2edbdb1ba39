import OpenDnp3.App.ParserReaders

/-!
# The two passes of the parser

Every parse function delivers what a reader without a handler takes from the buffer. The reader is
the same in both passes, so that the second pass sees the headers that the first one has accepted.
-/

namespace OpenDnp3.App

variable {σ : Type*}

variable (pHandler : Option (IAPDUHandler σ)) (s : Handled σ)

/-! ## The readers are local, and a header carries its record -/

/-- The reader of some objects is local: it takes the bytes that they require. -/
theorem ObjectParser.reader_isLocal (p : ObjectParser) : p.reader.IsLocal :=
  Reader.isLocal_block _ _ _

/-- The reader of a count is local. -/
theorem CountParser.reader_isLocal (numparser : NumParser) (settings : ParserSettings)
    (record : HeaderRecord) : (reader numparser settings record).IsLocal := by
  refine Reader.IsLocal.bind (Reader.isLocal_block _ _ _) fun count => ?_
  split_ifs
  · exact ObjectParser.reader_isLocal _
  · exact Reader.isLocal_fail _
  · exact Reader.isLocal_pure _

/-- The reader of a range is local. -/
theorem RangeParser.reader_isLocal (numparser : NumParser) (settings : ParserSettings)
    (record : HeaderRecord) : (reader numparser settings record).IsLocal := by
  refine Reader.IsLocal.bind (Reader.isLocal_block _ _ _) fun range => ?_
  unfold objects
  split_ifs
  · exact ObjectParser.reader_isLocal _
  · exact Reader.isLocal_fail _
  · split
    · exact ObjectParser.reader_isLocal _
    · exact Reader.isLocal_fail _
  · exact Reader.isLocal_pure _

/-- The reader of a count with index prefixes is local. -/
theorem CountIndexParser.reader_isLocal (numparser : NumParser) (record : HeaderRecord) :
    (reader numparser record).IsLocal := by
  refine Reader.IsLocal.bind (Reader.isLocal_block _ _ _) fun count => ?_
  unfold objects
  split_ifs
  · exact Reader.isLocal_fail _
  · exact ObjectParser.reader_isLocal _
  · exact ObjectParser.reader_isLocal _
  · exact Reader.isLocal_fail _

/-- The reader of a free format object is local. -/
theorem FreeFormatParser.reader_isLocal (record : HeaderRecord) : (reader record).IsLocal :=
  Reader.IsLocal.bind (Reader.isLocal_block _ _ _) fun _ => Reader.isLocal_block _ _ _

/-- What holds of every call of a parser holds of what its reader yields. -/
theorem ObjectParser.reader_yields {P : HeaderCall → Prop} {p : ObjectParser}
    (h : ∀ bytes, P (p.call bytes)) : p.reader.Yields P := by
  refine Reader.yields_block fun bytes call hcall => ?_
  cases hcall
  exact h bytes

/-- The call for the objects of a range carries the record of the header. -/
theorem RangeParser.select_record {record : HeaderRecord} {range : Range} {p : ObjectParser}
    (h : select record range = some p) (bytes : List UInt8) : (p.call bytes).record = record := by
  unfold select at h
  split at h <;> simp only [Option.some.injEq, reduceCtorEq] at h <;> subst h <;> rfl

/-- The call for a count carries the record of the header. -/
theorem CountParser.reader_record (numparser : NumParser) (settings : ParserSettings)
    (record : HeaderRecord) :
    (reader numparser settings record).Yields (fun call => call.record = record) := by
  refine Reader.Yields.bind (fun _ _ _ _ => trivial) fun count _ => ?_
  split_ifs
  · exact ObjectParser.reader_yields fun _ => rfl
  · exact Reader.yields_fail _ _
  · exact Reader.yields_pure rfl

/-- The call for a range carries the record of the header. -/
theorem RangeParser.reader_record (numparser : NumParser) (settings : ParserSettings)
    (record : HeaderRecord) :
    (reader numparser settings record).Yields (fun call => call.record = record) := by
  refine Reader.Yields.bind (fun _ _ _ _ => trivial) fun range _ => ?_
  unfold objects
  split_ifs
  · exact ObjectParser.reader_yields fun _ => rfl
  · exact Reader.yields_fail _ _
  · split
    case h_1 parser hselect => exact ObjectParser.reader_yields (select_record hselect)
    case h_2 hselect => exact Reader.yields_fail _ _
  · exact Reader.yields_pure rfl

/-- The call for a count with index prefixes carries the record of the header. -/
theorem CountIndexParser.reader_record (numparser : NumParser) (record : HeaderRecord) :
    (reader numparser record).Yields (fun call => call.record = record) := by
  refine Reader.Yields.bind (fun _ _ _ _ => trivial) fun count _ => ?_
  unfold objects
  split_ifs
  · exact Reader.yields_fail _ _
  · exact ObjectParser.reader_yields fun _ => rfl
  · exact ObjectParser.reader_yields fun _ => rfl
  · exact Reader.yields_fail _ _

/-- The call for a free format object carries the record of the header. -/
theorem FreeFormatParser.reader_record (record : HeaderRecord) :
    (reader record).Yields (fun call => call.record = record) := by
  refine Reader.Yields.bind (fun _ _ _ _ => trivial) fun size _ => ?_
  refine Reader.yields_block fun object call h => ?_
  grind [HeaderCall.record]

namespace APDUParser

/-- The reader of what follows a record is local, whatever the qualifier. -/
theorem qualifierReader_isLocal (settings : ParserSettings) (record : HeaderRecord) :
    (qualifierReader settings record).IsLocal := by
  unfold qualifierReader
  cases record.getQualifierCode with
  | UINT8_START_STOP => exact RangeParser.reader_isLocal _ _ _
  | UINT16_START_STOP => exact RangeParser.reader_isLocal _ _ _
  | ALL_OBJECTS => exact Reader.isLocal_pure _
  | UINT8_CNT => exact CountParser.reader_isLocal _ _ _
  | UINT16_CNT => exact CountParser.reader_isLocal _ _ _
  | UINT8_CNT_UINT8_INDEX => exact CountIndexParser.reader_isLocal _ _
  | UINT16_CNT_UINT16_INDEX => exact CountIndexParser.reader_isLocal _ _
  | UINT16_FREE_FORMAT => exact FreeFormatParser.reader_isLocal _
  | UNDEFINED => exact Reader.isLocal_fail _

/-- The reader of a header is local. -/
theorem headerReader_isLocal (settings : ParserSettings) (count : ℕ) :
    (headerReader settings count).IsLocal :=
  Reader.IsLocal.bind (Reader.isLocal_block _ _ _) (qualifierReader_isLocal settings)

/-- The objects of a header come with its record. -/
theorem qualifierReader_record (settings : ParserSettings) (record : HeaderRecord) :
    (qualifierReader settings record).Yields (fun call => call.record = record) := by
  unfold qualifierReader
  cases record.getQualifierCode with
  | UINT8_START_STOP => exact RangeParser.reader_record _ _ _
  | UINT16_START_STOP => exact RangeParser.reader_record _ _ _
  | ALL_OBJECTS => exact Reader.yields_pure rfl
  | UINT8_CNT => exact CountParser.reader_record _ _ _
  | UINT16_CNT => exact CountParser.reader_record _ _ _
  | UINT8_CNT_UINT8_INDEX => exact CountIndexParser.reader_record _ _
  | UINT16_CNT_UINT16_INDEX => exact CountIndexParser.reader_record _ _
  | UINT16_FREE_FORMAT => exact FreeFormatParser.reader_record _
  | UNDEFINED => exact Reader.yields_fail _ _

/-- The record of a header has its place in the fragment. -/
theorem recordReader_headerIndex (count : ℕ) :
    (recordReader count).Yields (fun record => record.headerIndex = count) := by
  refine Reader.yields_block fun bytes record h => ?_
  dsimp only at h
  split_ifs at h
  cases h
  rfl

/-- A header carries its place in the fragment. -/
theorem headerReader_headerIndex (settings : ParserSettings) (count : ℕ) :
    (headerReader settings count).Yields (fun call => call.record.headerIndex = count) := by
  refine (recordReader_headerIndex count).bind fun record hrecord input call rest h => ?_
  rw [qualifierReader_record settings record input call rest h]
  exact hrecord

/-- A header takes at least one byte, so that the parser comes to an end. -/
theorem headerReader_takes_ne_nil {settings : ParserSettings} {count : ℕ} {bytes : List UInt8}
    {call : HeaderCall} (h : (headerReader settings count).Takes bytes call) : bytes ≠ [] := by
  rintro rfl
  cases h []

/-! ## The passes -/

variable (pWhiteList : Option (IAPDUHandler σ))

/-- Without a record there is nothing to allow or to deliver. -/
theorem parseHeader_of_error (settings : ParserSettings) {count : ℕ} {buffer : List UInt8}
    {result : ParseResult} (h : recordReader count buffer = .error result) :
    result ≠ .OK ∧ (parseHeader pHandler pWhiteList settings count buffer s).result = result ∧
      (parseHeader pHandler pWhiteList settings count buffer s).handled = s := by
  unfold recordReader Reader.block at h
  split_ifs at h with hlen
  · cases h
    match buffer with
    | [] | [_] | [_, _] => exact ⟨by decide, rfl, rfl⟩
    | _ :: _ :: _ :: _ =>
      simp only [List.length_cons] at hlen
      omega
  · obtain ⟨group, variation, qualifier, rest, rfl⟩ := exists_three_cons hlen
    dsimp only at h
    split_ifs at h with hunknown
    cases h
    simp only [parseHeader]
    rw [if_pos (by exact hunknown)]
    exact ⟨by decide, rfl, rfl⟩

/-- With a record the white-list decides whether the qualifier is parsed. -/
theorem parseHeader_of_record {settings : ParserSettings} {count : ℕ} {buffer rest : List UInt8}
    {record : HeaderRecord} (h : recordReader count buffer = .ok (record, rest)) :
    parseHeader pHandler pWhiteList settings count buffer s =
      if (isAllowed pWhiteList count record s).1 then
        parseQualifier pHandler settings record rest (isAllowed pWhiteList count record s).2
      else ⟨.NOT_ON_WHITELIST, rest, (isAllowed pWhiteList count record s).2⟩ := by
  unfold recordReader Reader.block at h
  split_ifs at h with hlen
  obtain ⟨group, variation, qualifier, tail, rfl⟩ := exists_three_cons hlen
  dsimp only at h
  split_ifs at h with hunknown
  cases h
  simp only [parseHeader]
  rw [if_neg (by exact hunknown)]
  rfl

/-- A header of a pass with a handler and no white-list. -/
theorem parseHeader_of_takes {settings : ParserSettings} {count : ℕ} {bytes rest : List UInt8}
    {call : HeaderCall} (h : (headerReader settings count).Takes bytes call) :
    parseHeader pHandler none settings count (bytes ++ rest) s =
      ⟨.OK, rest, invoke pHandler call s⟩ := by
  have hread := h rest
  unfold headerReader Reader.bind at hread
  split at hread
  case h_1 record middle hrecord =>
    rw [parseHeader_of_record pHandler s none hrecord]
    have hdelivers := parseQualifier_delivers pHandler s settings record middle
    rw [hread] at hdelivers
    exact hdelivers
  case h_2 result hrecord => cases hread

/-- A header of a pass with a white-list and no handler: it is not accepted, or the reader takes it
and the white-list allows it. -/
theorem parseHeader_whiteList (handler : IAPDUHandler σ) (settings : ParserSettings) (count : ℕ)
    (buffer : List UInt8) :
    (parseHeader none (some handler) settings count buffer s).result ≠ .OK ∧
        (parseHeader none (some handler) settings count buffer s).handled.calls = s.calls ∨
      ∃ call rest state, headerReader settings count buffer = .ok (call, rest) ∧
        handler.isAllowed s.state call.record.headerIndex call.record.enumeration
          call.record.getQualifierCode = (true, state) ∧
        parseHeader none (some handler) settings count buffer s =
          ⟨.OK, rest, { s with state }⟩ := by
  cases hrecord : recordReader count buffer with
  | error result =>
    obtain ⟨hne, hresult, hhandled⟩ :=
      parseHeader_of_error none s (some handler) settings hrecord
    exact .inl ⟨hresult ▸ hne, by rw [hhandled]⟩
  | ok value =>
    obtain ⟨record, middle⟩ := value
    rw [parseHeader_of_record none s (some handler) hrecord]
    cases hallowed : (isAllowed (some handler) count record s).1 with
    -- The white-list is asked before the objects are read.
    | false => exact .inl ⟨by simp, by simp [isAllowed]⟩
    | true =>
      rw [if_pos rfl]
      have hdelivers := parseQualifier_delivers (none : Option (IAPDUHandler σ))
        (isAllowed (some handler) count record s).2 settings record middle
      cases hread : qualifierReader settings record middle with
      | error result =>
        rw [hread] at hdelivers
        obtain ⟨hne, hresult, hhandled⟩ := hdelivers
        exact .inl ⟨hresult ▸ hne, by rw [hhandled]; rfl⟩
      | ok value =>
        obtain ⟨call, rest⟩ := value
        rw [hread] at hdelivers
        have hcall := qualifierReader_record settings record middle call rest hread
        have hindex := recordReader_headerIndex count buffer record middle hrecord
        refine .inr ⟨call, rest, (isAllowed (some handler) count record s).2.state, ?_, ?_,
          hdelivers⟩
        · simp only [headerReader, Reader.bind, hrecord, hread]
        · rw [hcall, hindex]
          exact Prod.ext hallowed rfl

/-- The white-list allows the headers one after the other, and this is its state after them. -/
def Allows (handler : IAPDUHandler σ) : σ → List HeaderCall → σ → Prop
  | state, [], final => state = final
  | state, call :: calls, final =>
    ∃ next, handler.isAllowed state call.record.headerIndex call.record.enumeration
      call.record.getQualifierCode = (true, next) ∧ Allows handler next calls final

/-- The first pass fails, or the buffer is a list of headers that the white-list allows. -/
theorem parseHeaders_whiteList (handler : IAPDUHandler σ) (settings : ParserSettings)
    (fuel count : ℕ) (buffer : List UInt8) (hfuel : buffer.length ≤ fuel) (s : Handled σ) :
    (parseHeaders none (some handler) settings fuel count buffer s).1 ≠ .OK ∧
        (parseHeaders none (some handler) settings fuel count buffer s).2.calls = s.calls ∨
      ∃ headers state, Reader.Segments (headerReader settings) count buffer headers ∧
        Allows handler s.state headers state ∧
        parseHeaders none (some handler) settings fuel count buffer s =
          (.OK, { s with state }) := by
  induction fuel generalizing count buffer s with
  | zero =>
    obtain rfl := List.eq_nil_of_length_eq_zero (Nat.le_zero.mp hfuel)
    exact .inr ⟨[], s.state, .nil count, rfl, rfl⟩
  | succ fuel ih =>
    match buffer, hfuel with
    | [], _ => exact .inr ⟨[], s.state, .nil count, rfl, rfl⟩
    | byte :: bytes, hfuel =>
      simp only [parseHeaders]
      obtain ⟨hresult, hcalls⟩ | ⟨call, rest, state, hread, hallowed, houtcome⟩ :=
        parseHeader_whiteList s handler settings count (byte :: bytes)
      · rw [if_neg hresult]
        exact .inl ⟨hresult, hcalls⟩
      · obtain ⟨symbols, hsymbols, htakes⟩ := headerReader_isLocal settings count _ _ _ hread
        have hne := headerReader_takes_ne_nil htakes
        -- Every header takes at least one byte, so the fuel is enough.
        have hrest : rest.length ≤ fuel := by
          have hlen := congrArg List.length hsymbols
          have hpos := List.length_pos_iff.mpr hne
          rw [List.length_append] at hlen
          omega
        rw [houtcome, if_pos rfl, hsymbols]
        obtain hfail | ⟨headers, final, hsegments, hallows, hpass⟩ :=
          ih (count + 1) rest hrest { s with state }
        · exact .inl hfail
        · exact .inr ⟨call :: headers, final, .cons hne htakes hsegments,
            ⟨state, hallowed, hallows⟩, hpass⟩

/-- A pass with the handler and no white-list delivers every header of the buffer. -/
theorem parseHeaders_segments (handler : IAPDUHandler σ) {settings : ParserSettings} {count : ℕ}
    {buffer : List UInt8} {headers : List HeaderCall}
    (h : Reader.Segments (headerReader settings) count buffer headers) (fuel : ℕ)
    (hfuel : buffer.length ≤ fuel) (s : Handled σ) :
    parseHeaders (some handler) none settings fuel count buffer s =
      (.OK, { state := headers.foldl handler.onHeader s.state, calls := s.calls ++ headers }) := by
  induction h generalizing fuel s with
  | nil count => cases fuel <;> simp [parseHeaders]
  | @cons count symbols rest call headers hne htakes _ ih =>
    obtain ⟨byte, bytes, rfl⟩ := List.exists_cons_of_ne_nil hne
    cases fuel with
    | zero => simp at hfuel
    | succ fuel =>
      rw [List.cons_append, parseHeaders, ← List.cons_append, parseHeader_of_takes _ _ htakes,
        if_pos rfl, ih fuel (by simp at hfuel; omega)]
      simp [invoke]

/-- What a call of the parser has done. Either the fragment was refused and the handler was not
called, or the fragment is a list of headers, all allowed by the white-list, that the handler has
received in order. -/
inductive Parsed (handler : IAPDUHandler σ) (settings : ParserSettings) (buffer : List UInt8)
    (state : σ) : ParseResult × Handled σ → Prop where
  | refused {result : ParseResult} {s : Handled σ} (hresult : result ≠ .OK)
    (hcalls : s.calls = []) :
      Parsed handler settings buffer state (result, s)
  | accepted {headers : List HeaderCall} {allowed : σ}
      (hsegments : Reader.Segments (headerReader settings) 0 buffer headers)
      (hallows : Allows handler state headers allowed) :
      Parsed handler settings buffer state
        (.OK, { state := headers.foldl handler.onHeader allowed, calls := headers })

/-- Every call of the parser is refused or accepted, as its first pass decides. -/
theorem parse_parsed (handler : IAPDUHandler σ) (settings : ParserSettings) (buffer : List UInt8)
    (state : σ) :
    Parsed handler settings buffer state (parse handler settings buffer state) ∧
      (parse handler settings buffer state).1 =
        (parseSinglePass none (some handler) settings buffer { state }).1 := by
  have hfirst := parseHeaders_whiteList handler settings buffer.length 0 buffer le_rfl { state }
  unfold parse
  generalize hpass : parseSinglePass none (some handler) settings buffer { state } = first
  rw [parseSinglePass] at hpass
  rw [hpass] at hfirst
  obtain ⟨result, s⟩ := first
  obtain ⟨hresult, hcalls⟩ | ⟨headers, allowed, hsegments, hallows, hok⟩ := hfirst
  · dsimp only at hresult hcalls ⊢
    rw [if_neg hresult]
    exact ⟨.refused hresult hcalls, rfl⟩
  · cases hok
    have hsecond := parseHeaders_segments handler hsegments buffer.length le_rfl
      { state := allowed }
    simp only [if_true, parseSinglePass, hsecond, List.nil_append, and_true]
    exact .accepted hsegments hallows

/-- A header of the first pass that the white-list allows. -/
theorem parseHeader_allows (handler : IAPDUHandler σ) {settings : ParserSettings} {count : ℕ}
    {bytes rest : List UInt8} {call : HeaderCall}
    (h : (headerReader settings count).Takes bytes call) (s : Handled σ) {next : σ}
    (hallowed : handler.isAllowed s.state call.record.headerIndex call.record.enumeration
      call.record.getQualifierCode = (true, next)) :
    parseHeader none (some handler) settings count (bytes ++ rest) s =
      ⟨.OK, rest, { s with state := next }⟩ := by
  have hread := h rest
  unfold headerReader Reader.bind at hread
  split at hread
  case h_1 record middle hrecord =>
    have hcall := qualifierReader_record settings record middle call rest hread
    have hindex := recordReader_headerIndex count _ record middle hrecord
    rw [hcall, hindex] at hallowed
    have hwhiteList : isAllowed (some handler) count record s =
      (true, { s with state := next }) := by
      simp only [isAllowed, hallowed]
    have hdelivers := parseQualifier_delivers (none : Option (IAPDUHandler σ))
      { s with state := next } settings record middle
    rw [hread] at hdelivers
    rw [parseHeader_of_record none s (some handler) hrecord, hwhiteList, if_pos rfl]
    exact hdelivers
  case h_2 result hrecord => cases hread

/-- The first pass accepts headers that the white-list allows. -/
theorem parseHeaders_allows (handler : IAPDUHandler σ) {settings : ParserSettings} {count : ℕ}
    {buffer : List UInt8} {headers : List HeaderCall}
    (h : Reader.Segments (headerReader settings) count buffer headers) (fuel : ℕ)
    (hfuel : buffer.length ≤ fuel) (s : Handled σ) {final : σ}
    (hallows : Allows handler s.state headers final) :
    parseHeaders none (some handler) settings fuel count buffer s =
      (.OK, { s with state := final }) := by
  induction h generalizing fuel s with
  | nil count =>
    obtain rfl : s.state = final := hallows
    cases fuel <;> rfl
  | @cons count symbols rest call headers hne htakes hrest ih =>
    obtain ⟨next, hnext, hallows⟩ := hallows
    have hpos := List.length_pos_iff.mpr hne
    rw [List.length_append] at hfuel
    obtain ⟨byte, bytes, rfl⟩ := List.exists_cons_of_ne_nil hne
    cases fuel with
    | zero => omega
    | succ fuel =>
      rw [List.cons_append, parseHeaders, ← List.cons_append,
        parseHeader_allows handler htakes s hnext, if_pos rfl,
        ih fuel (by omega) { s with state := next } hallows]

/-- The parser accepts headers that the white-list allows, and gives them to the handler. -/
theorem parse_of_segments (handler : IAPDUHandler σ) {settings : ParserSettings}
    {buffer : List UInt8} {headers : List HeaderCall}
    (h : Reader.Segments (headerReader settings) 0 buffer headers) {state final : σ}
    (hallows : Allows handler state headers final) :
    parse handler settings buffer state =
      (.OK, { state := headers.foldl handler.onHeader final, calls := headers }) := by
  have hfirst := parseHeaders_allows handler h buffer.length le_rfl { state } hallows
  have hsecond := parseHeaders_segments handler h buffer.length le_rfl { state := final }
  simp only [parse, parseSinglePass, hfirst, hsecond, if_true, List.nil_append]

/-- The white-list looks at the object and the qualifier of a header only. -/
def AllowsBy (handler : IAPDUHandler σ) (allow : GroupVariation → QualifierCode → Bool) : Prop :=
  ∀ state count gv qc, handler.isAllowed state count gv qc = (allow gv qc, state)

/-- A white-list without a state allows some headers where it allows each of them. -/
theorem AllowsBy.allows_iff {handler : IAPDUHandler σ}
    {allow : GroupVariation → QualifierCode → Bool} (h : AllowsBy handler allow) (state final : σ)
    (headers : List HeaderCall) :
    Allows handler state headers final ↔
      state = final ∧ ∀ call ∈ headers,
        allow call.record.enumeration call.record.getQualifierCode := by
  induction headers with
  | nil => simp [Allows]
  | cons call headers ih =>
    rw [Allows]
    constructor
    · rintro ⟨next, hnext, hallows⟩
      rw [h, Prod.mk.injEq] at hnext
      obtain ⟨hallow, rfl⟩ := hnext
      obtain ⟨hfinal, hrest⟩ := ih.mp hallows
      exact ⟨hfinal, List.forall_mem_cons.mpr ⟨hallow, hrest⟩⟩
    · rintro ⟨hfinal, hall⟩
      obtain ⟨hallow, hrest⟩ := List.forall_mem_cons.mp hall
      exact ⟨state, by rw [h, hallow], ih.mpr ⟨hfinal, hrest⟩⟩

/-- A parse succeeds where the buffer is a list of headers that the white-list allows. -/
theorem AllowsBy.parse_eq_ok_iff {handler : IAPDUHandler σ}
    {allow : GroupVariation → QualifierCode → Bool} (h : AllowsBy handler allow)
    (settings : ParserSettings) (buffer : List UInt8) (state : σ) :
    (parse handler settings buffer state).1 = .OK ↔
      ∃ headers, Reader.Segments (headerReader settings) 0 buffer headers ∧
        ∀ call ∈ headers, allow call.record.enumeration call.record.getQualifierCode := by
  constructor
  · intro hok
    have hparsed := (parse_parsed handler settings buffer state).1
    generalize parse handler settings buffer state = r at hparsed hok
    cases hparsed with
    | refused hresult hcalls => exact absurd hok hresult
    | accepted hsegments hallows =>
      exact ⟨_, hsegments, ((h.allows_iff _ _ _).mp hallows).2⟩
  · rintro ⟨headers, hsegments, hall⟩
    rw [parse_of_segments handler hsegments ((h.allows_iff state state headers).mpr ⟨rfl, hall⟩)]

/-- A parse with such a white-list delivers the headers of the buffer. -/
theorem AllowsBy.parse_eq {handler : IAPDUHandler σ}
    {allow : GroupVariation → QualifierCode → Bool} (h : AllowsBy handler allow)
    {settings : ParserSettings} {buffer : List UInt8} {headers : List HeaderCall}
    (hsegments : Reader.Segments (headerReader settings) 0 buffer headers)
    (hall : ∀ call ∈ headers, allow call.record.enumeration
      call.record.getQualifierCode) (state : σ) :
    parse handler settings buffer state =
      (.OK, { state := headers.foldl handler.onHeader state, calls := headers }) :=
  parse_of_segments handler hsegments ((h.allows_iff state state headers).mpr ⟨rfl, hall⟩)

/-- The counts of the headers that the handler receives go up from 0. -/
theorem Parsed.headerIndex_eq_range {handler : IAPDUHandler σ} {settings : ParserSettings}
    {buffer : List UInt8} {state : σ} {r : ParseResult × Handled σ}
    (h : Parsed handler settings buffer state r) :
    r.2.calls.map (fun call => call.record.headerIndex) = List.range r.2.calls.length := by
  cases h with
  | refused hresult hcalls =>
    rw [hcalls]
    rfl
  | accepted hsegments hallows =>
    rw [hsegments.map_eq_range' fun count symbols call htakes =>
      headerReader_headerIndex settings count _ _ _ (htakes []), List.range_eq_range']

/-- The parser is atomic: it refuses a fragment with no call to the handler, or delivers each of its
headers once, in order and with counts from 0, after the white-list has allowed them all. Its result
is that of the first pass. -/
theorem parse_atomic (handler : IAPDUHandler σ) (settings : ParserSettings) (buffer : List UInt8)
    (state : σ) :
    Parsed handler settings buffer state (parse handler settings buffer state) ∧
      (parse handler settings buffer state).1 =
        (parseSinglePass none (some handler) settings buffer { state }).1 ∧
      (parse handler settings buffer state).2.calls.map (fun call => call.record.headerIndex) =
        List.range (parse handler settings buffer state).2.calls.length := by
  obtain ⟨hparsed, hresult⟩ := parse_parsed handler settings buffer state
  exact ⟨hparsed, hresult, hparsed.headerIndex_eq_range⟩

/-! ## What a handler keeps -/

section Invariant

variable {handler : IAPDUHandler σ} {P : σ → Prop} {pHandler pWhiteList : Option (IAPDUHandler σ)}

/-- The white-list keeps what its handler keeps. -/
theorem isAllowed_invariant
    (hwhiteList : ∀ h ∈ pWhiteList, ∀ state count gv qc, P state →
      P (h.isAllowed state count gv qc).2)
    (count : ℕ) (record : HeaderRecord) {s : Handled σ} (hs : P s.state) :
    P (isAllowed pWhiteList count record s).2.state := by
  unfold isAllowed
  cases pWhiteList with
  | none => exact hs
  | some whiteList => exact hwhiteList whiteList rfl _ _ _ _ hs

/-- The call of a header keeps what its handler keeps. -/
theorem invoke_invariant (hhandler : ∀ h ∈ pHandler, ∀ state call, P state →
    P (h.onHeader state call))
    (call : HeaderCall) {s : Handled σ} (hs : P s.state) : P (invoke pHandler call s).state := by
  unfold invoke
  cases pHandler with
  | none => exact hs
  | some pHandler => exact hhandler pHandler rfl _ _ hs

/-- A header keeps what both handlers keep. -/
theorem parseHeader_invariant
    (hwhiteList : ∀ h ∈ pWhiteList, ∀ state count gv qc, P state →
      P (h.isAllowed state count gv qc).2)
    (hhandler : ∀ h ∈ pHandler, ∀ state call, P state → P (h.onHeader state call))
    (settings : ParserSettings) (count : ℕ) (buffer : List UInt8) {s : Handled σ} (hs : P s.state) :
    P (parseHeader pHandler pWhiteList settings count buffer s).handled.state := by
  cases hrecord : recordReader count buffer with
  | error result =>
    rw [(parseHeader_of_error pHandler s pWhiteList settings hrecord).2.2]
    exact hs
  | ok value =>
    obtain ⟨record, middle⟩ := value
    have hs' := isAllowed_invariant hwhiteList count record hs
    rw [parseHeader_of_record pHandler s pWhiteList hrecord]
    split_ifs
    · -- The handler is called only where the objects were read.
      have hdelivers := parseQualifier_delivers pHandler
        (isAllowed pWhiteList count record s).2 settings record middle
      cases hread : qualifierReader settings record middle with
      | error result =>
        rw [hread] at hdelivers
        rw [hdelivers.2.2]
        exact hs'
      | ok value =>
        rw [hread] at hdelivers
        rw [show parseQualifier pHandler settings record middle _ = _ from hdelivers]
        exact invoke_invariant hhandler _ hs'
    · exact hs'

/-- The headers of a pass keep what both handlers keep. -/
theorem parseHeaders_invariant
    (hwhiteList : ∀ h ∈ pWhiteList, ∀ state count gv qc, P state →
      P (h.isAllowed state count gv qc).2)
    (hhandler : ∀ h ∈ pHandler, ∀ state call, P state → P (h.onHeader state call))
    (settings : ParserSettings) (fuel count : ℕ) (buffer : List UInt8) {s : Handled σ}
    (hs : P s.state) :
    P (parseHeaders pHandler pWhiteList settings fuel count buffer s).2.state := by
  induction fuel generalizing count buffer s with
  | zero => cases buffer <;> exact hs
  | succ fuel ih =>
    cases buffer with
    | nil => exact hs
    | cons byte bytes =>
      have hs' := parseHeader_invariant hwhiteList hhandler settings count (byte :: bytes) hs
      simp only [parseHeaders]
      split_ifs
      · exact ih _ _ hs'
      · exact hs'

/-- What the white-list and the calls to the handler keep is kept by a parse. -/
theorem parse_invariant
    (hallowed : ∀ state count gv qc, P state → P (handler.isAllowed state count gv qc).2)
    (hheader : ∀ state call, P state → P (handler.onHeader state call))
    (settings : ParserSettings) (buffer : List UInt8) {state : σ} (hs : P state) :
    P (parse handler settings buffer state).2.state := by
  have hfirst : P (parseSinglePass none (some handler) settings buffer { state }).2.state :=
    parseHeaders_invariant (by simpa using hallowed) (by simp) settings _ _ buffer hs
  unfold parse
  dsimp only
  split_ifs
  · exact parseHeaders_invariant (by simp) (by simpa using hheader) settings _ _ buffer hfirst
  · exact hfirst

/-- A parse that fails leaves the state of the handler alone, where its white-list does. -/
theorem AllowsBy.parse_refused {allow : GroupVariation → QualifierCode → Bool}
    (h : AllowsBy handler allow) (settings : ParserSettings) (buffer : List UInt8) (state : σ)
    (hresult : (parse handler settings buffer state).1 ≠ .OK) :
    (parse handler settings buffer state).2.state = state := by
  have hfirst :
      (parseSinglePass none (some handler) settings buffer { state }).2.state = state := by
    refine parseHeaders_invariant (P := (· = state)) ?_ (by simp) settings _ _ buffer rfl
    rintro whiteList ⟨⟩ state' count gv qc rfl
    rw [h]
  rw [(parse_parsed handler settings buffer state).2] at hresult
  unfold parse
  dsimp only
  rw [if_neg hresult]
  exact hfirst

end Invariant

end APDUParser

end OpenDnp3.App
