import OpenDnp3.Lib.History
import OpenDnp3.Outstation.EventDecoding
import OpenDnp3.Outstation.LoadReport
import OpenDnp3.Outstation.ResponseSeries

/-!
# The fragments of a response

`ResponseContext::LoadResponse` is called again and again, each time for a new fragment, until a
fragment has FIN. The shape of the series is as it should be unless the 16-bit count of the
fragments comes round to zero, or a fragment begins with the 256 packed binaries of a one-byte
range.
-/

namespace OpenDnp3.Outstation

open App DatabaseBuffers

variable {α : Type*} [MeasurementSpec α]

/-! ## The binaries of a running outstation -/

/-- The selected binaries lie in their range, and the binaries have these virtual indices. -/
structure Framed (indices : List ℕ) (db : DatabaseBuffers α) : Prop where
  window : Window (db.cells .Binary) (db.ranges .Binary)
  vIndices : vIndices (db.cells .Binary) = indices

/-- The frame of the database is maintained. -/
theorem framed_maintained (indices : List ℕ) : Maintained (Framed (α := α) indices) where
  select db type range variation h := by
    have hselects := db.genericSelect_selects .Binary type range variation
    exact ⟨hselects.window h.window, hselects.keeps.vIndices.trans h.vIndices⟩
  deselect db type h := by
    obtain ⟨hwindow, hv, -⟩ := foldl_deselect .Binary [type] h.window
    exact ⟨hwindow, hv.trans h.vIndices⟩
  load db writer h := by
    obtain ⟨hwindow, hv⟩ := loadTypes_window (by decide) StaticType.all h.window writer
    exact ⟨hwindow, hv.trans h.vIndices⟩
  change db change h := by
    have huntouched := change.run_untouched .Binary db
    have hwindow := h.window.congr huntouched.cells
    rw [← huntouched.ranges] at hwindow
    exact ⟨hwindow, huntouched.keeps.vIndices.trans h.vIndices⟩
  assign db type clazz range h := by
    unfold assignClassTo
    -- Only the class of a cell changes.
    have hreport : (((db.cells type).mapIdx fun i cell =>
        if (range.intersection (rangeOf (db.cells type).length)).start ≤ i ∧
            i ≤ (range.intersection (rangeOf (db.cells type).length)).stop then
          { cell with config := { cell.config with clazz } }
        else cell).map report) = (db.cells type).map report := by
      refine List.ext_getElem (by simp) fun i _ _ => ?_
      simp only [List.getElem_map, List.getElem_mapIdx]
      split_ifs <;> rfl
    have huntouched : Untouched .Binary db (db.set type _ (db.ranges type)) := .set hreport
    have hwindow := h.window.congr huntouched.cells
    rw [← huntouched.ranges] at hwindow
    exact ⟨hwindow, huntouched.keeps.vIndices.trans h.vIndices⟩

namespace OContext

/-! ## Selections -/

/-- `OContext::HandleRead` up to the load of the first fragment, for a request with these headers.
-/
def beginRead (s : OContext α) (headers : List HeaderCall) : OContext α :=
  let h := headers.foldl ReadHandler.onHeader
    { db := s.database.unselect, events := s.eventBuffer.unselect }
  { s with fragmentCount := 0, database := h.db, eventBuffer := h.events }

omit [MeasurementSpec α] in
/-- FIN and CON of a fragment, by what is still selected and by the events in the fragment. -/
theorem Reports.control {config : EventBufferConfig} {s s' : OContext α} {control : AppControlField}
    {events : List ℕ} (h : Reports s s' control events)
    (hinv : s'.eventBuffer.storage.Inv config) :
    (control.fin = !s'.hasSelection) ∧ (control.con = (!control.fin || !events.isEmpty)) := by
  have hfin : control.fin = !s'.hasSelection := by
    rw [hasSelection_eq hinv, h.fin, Bool.eq_iff_iff]
    simp
  refine ⟨hfin, ?_⟩
  rw [h.con, h.fin, Bool.eq_iff_iff]
  simp [Nat.pos_iff_ne_zero]

/-- `ResponseContext::LoadResponse` reports something in a fragment without FIN, where the fragment
has room for a header with its largest object and does not begin with the 256 packed binaries of a
one-byte range. A fragment begins with these where no event is selected. -/
theorem loadResponse_reportsObjects {config : EventBufferConfig} {s : OContext α} {indices : List ℕ}
    (hinv : s.eventBuffer.storage.Inv config) (hframed : Framed indices s.database)
    (hincreasing : indices.Pairwise (· < ·)) (hlength : indices.length < 2 ^ 16)
    (writer : HeaderWriter α) (hroom : maxObjectSpace ≤ writer.remaining)
    (hover : s.eventBuffer.storage.selectedIds = [] → Packed (s.database.cells .Binary) →
      ¬s.database.Overruns writer.remaining)
    (hfin : (s.loadResponse writer).1.fin = false) :
    (s.loadResponse writer).2.2.1 ≠ [] ∨
      reportsObjects (s.loadResponse writer).2.1.headers = true := by
  obtain ⟨notFull, b', writer', events, hload, hloads⟩ := EventBuffer.load_loads hinv hroom
  unfold loadResponse at hfin ⊢
  rw [hload] at hfin ⊢
  dsimp only at hfin ⊢
  cases notFull with
  | true =>
    rw [if_pos rfl] at hfin ⊢
    refine or_iff_not_imp_left.mpr fun hevents => ?_
    -- Without events the writer of the static data is the new one.
    obtain rfl := hloads.writer (not_not.mp hevents)
    have hnone : s.eventBuffer.storage.selectedIds = [] := by
      by_contra hsome
      exact hevents (hloads.takes hsome)
    have hv : vIndices (s.database.cells .Binary) = indices := hframed.vIndices
    refine load_reportsObjects hframed.window ?_ ?_ (hover hnone) hroom hfin
    · rw [Increasing, show (s.database.cells .Binary).map _ = indices from hv]
      exact hincreasing
    · rw [← hv, vIndices, List.length_map] at hlength
      exact hlength
  | false =>
    rw [if_neg Bool.false_ne_true] at hfin ⊢
    have hmore : b'.storage.selectedIds ≠ [] := by simpa using hloads.notFull
    exact .inl (hloads.takes (by rw [hloads.selected]; simp [hmore]))

end OContext

/-! ## The series -/

/-- A fragment that `LoadResponse` has filled. The numbers of the event records in it are not in the
source. -/
structure Fragment (α : Type*) where
  control : AppControlField
  headers : List (ObjectHeader α)
  events : List ℕ

/-- The fragment reports an event or a static point. -/
def Fragment.reports (fragment : Fragment α) : Bool :=
  !fragment.events.isEmpty || reportsObjects fragment.headers

/-- A response context and the fragments that it has loaded, oldest first. -/
structure LoadSeries (α : Type*) where
  context : OContext α
  fragments : List (Fragment α) := []

namespace LoadSeries

omit [MeasurementSpec α] in
/-- The last fragment has FIN. -/
def isOver (s : LoadSeries α) : Bool := s.fragments.getLast?.any fun fragment =>
    fragment.control.fin

omit [MeasurementSpec α] in
/-- The context before the next fragment. The events of the one before have been confirmed, and
`ClearWritten` has removed them. -/
def ready (s : LoadSeries α) : OContext α :=
  if s.fragments.isEmpty then s.context
  else { s.context with eventBuffer := s.context.eventBuffer.clearWritten }

/-- The next fragment is loaded into a buffer with this space, unless the last one had FIN. -/
def step (s : LoadSeries α) (size : ℕ) : LoadSeries α :=
  if s.isOver then s
  else
    let (control, writer, events, context) := s.ready.loadResponse { remaining := size }
    { context, fragments := s.fragments ++ [{ control, headers := writer.headers, events }] }

/-- The count of the fragments has not come round to zero where a further one follows, and the
fragment does not begin with the 256 packed binaries of a one-byte range. -/
def Fits (s : LoadSeries α) (size : ℕ) : Prop :=
  s.isOver = false →
    (s.fragments ≠ [] → s.context.fragmentCount ≠ 0) ∧
    (s.context.eventBuffer.storage.selectedIds = [] →
      Packed (s.context.database.cells .Binary) → ¬s.context.database.Overruns size)

/-- The shape of a series. -/
structure Shaped (s : LoadSeries α) : Prop where
  /-- FIR is on the first fragment only. -/
  fir : ∀ i fragment, s.fragments[i]? = some fragment → fragment.control.fir = decide (i = 0)
  /-- FIN is on the fragment after which nothing is selected any more, and on no other. -/
  fin : ∀ i fragment, s.fragments[i]? = some fragment →
    fragment.control.fin = (decide (i + 1 = s.fragments.length) && !s.context.hasSelection)
  /-- CON is on the fragments that have no FIN or have events. -/
  con : ∀ fragment ∈ s.fragments,
    fragment.control.con = (!fragment.control.fin || !fragment.events.isEmpty)
  /-- A fragment without FIN reports something. -/
  reports : ∀ fragment ∈ s.fragments, fragment.control.fin = false → fragment.reports = true

omit [MeasurementSpec α] in
/-- The series is over as soon as nothing is selected. -/
theorem Shaped.isOver_eq {s : LoadSeries α} (h : Shaped s) (hne : s.fragments ≠ []) :
    s.isOver = !s.context.hasSelection := by
  have hpos := List.length_pos_iff.mpr hne
  have hlast : s.fragments.getLast? = some (s.fragments.getLast hne) :=
    List.getLast?_eq_getLast_of_ne_nil hne
  have hget : s.fragments[s.fragments.length - 1]? = some (s.fragments.getLast hne) := by
    rw [← List.getLast?_eq_getElem?, hlast]
  have hfin := h.fin _ _ hget
  rw [isOver, hlast, Option.any_some, hfin, Nat.sub_add_cancel hpos, decide_eq_true rfl,
    Bool.true_and]

/-- What holds of the series after each of its fragments, where `size` objects were selected at the
start. -/
structure Inv (config : EventBufferConfig) (indices : List ℕ) (size : ℕ) (s : LoadSeries α) :
    Prop where
  storage : s.context.eventBuffer.storage.Inv config
  contained : Contained s.context.database
  framed : Framed indices s.context.database
  shaped : Shaped s
  /-- The first fragment has the number 0, and nothing is taken before it. -/
  start : s.fragments = [] → s.context.fragmentCount = 0 ∧ s.context.selectionSize = size
  /-- Each fragment takes something, except one for an empty selection. -/
  takes : s.fragments.length + s.context.selectionSize ≤ size + 1

omit [MeasurementSpec α] in
/-- `ClearWritten` takes nothing from the selection. -/
theorem ready_spec {config : EventBufferConfig} (s : LoadSeries α)
    (hinv : s.context.eventBuffer.storage.Inv config) :
    s.ready.eventBuffer.storage.Inv config ∧
      s.ready.eventBuffer.storage.selectedIds = s.context.eventBuffer.storage.selectedIds ∧
      s.ready.selectionSize = s.context.selectionSize ∧
      s.ready.fragmentCount = s.context.fragmentCount ∧ s.ready.database = s.context.database := by
  unfold ready
  split_ifs
  · exact ⟨hinv, rfl, rfl, rfl, rfl⟩
  · have hsize : ({ s.context with eventBuffer := s.context.eventBuffer.clearWritten } :
        OContext α).selectionSize = s.context.selectionSize := s.context.confirm_selectionSize
    have hselected := s.context.eventBuffer.storage.clearWritten_selectedIds
    exact ⟨EventLists.clearWritten_inv hinv, hselected, hsize, rfl, rfl⟩

omit [MeasurementSpec α] in
/-- A further fragment keeps the shape of the series. -/
theorem Shaped.concat {s : LoadSeries α} (h : Shaped s) (hover : s.isOver = false)
    {context : OContext α} {fragment : Fragment α}
    (hfir : fragment.control.fir = decide (s.fragments = []))
    (hfin : fragment.control.fin = !context.hasSelection)
    (hcon : fragment.control.con = (!fragment.control.fin || !fragment.events.isEmpty))
    (hreports : fragment.control.fin = false → fragment.reports = true) :
    Shaped { context, fragments := s.fragments ++ [fragment] } where
  fir i f hf := by
    rcases lt_or_ge i s.fragments.length with hlt | hge
    · rw [List.getElem?_append_left hlt] at hf
      exact h.fir i f hf
    · -- The new fragment is the first one exactly if there is none before it.
      rw [List.getElem?_append_right hge, List.getElem?_singleton] at hf
      split_ifs at hf with hzero
      obtain rfl := Option.some.inj hf
      rw [hfir, decide_eq_decide, ← List.length_eq_zero_iff]
      omega
  fin i f hf := by
    rw [List.length_append, List.length_singleton]
    rcases lt_or_ge i s.fragments.length with hlt | hge
    · -- The series was not over, so no fragment had FIN before.
      rw [List.getElem?_append_left hlt] at hf
      have hne : s.fragments ≠ [] := List.ne_nil_of_length_pos (Nat.zero_lt_of_lt hlt)
      have hmore := h.isOver_eq hne
      rw [hover] at hmore
      rw [h.fin i f hf, ← hmore, Bool.and_false, decide_eq_false (by omega), Bool.false_and]
    · rw [List.getElem?_append_right hge, List.getElem?_singleton] at hf
      split_ifs at hf with hzero
      obtain rfl := Option.some.inj hf
      rw [hfin, decide_eq_true (by omega), Bool.true_and]
  con f hf := by
    rcases List.mem_append.mp hf with hmem | hmem
    · exact h.con f hmem
    · obtain rfl := List.mem_singleton.mp hmem
      exact hcon
  reports f hf := by
    rcases List.mem_append.mp hf with hmem | hmem
    · exact h.reports f hmem
    · obtain rfl := List.mem_singleton.mp hmem
      exact hreports

/-- Every fragment with room for a header with its largest object keeps the invariant. -/
theorem step_inv {config : EventBufferConfig} {indices : List ℕ} {size : ℕ}
    (hincreasing : indices.Pairwise (· < ·)) (hlength : indices.length < 2 ^ 16) {s : LoadSeries α}
    {space : ℕ} (hinv : Inv config indices size s)
    (hmeets : maxObjectSpace ≤ space ∧ s.Fits space) : Inv config indices size (s.step space) := by
  obtain ⟨hroom, hfits⟩ := hmeets
  unfold step
  cases hover : s.isOver with
  | true => exact hinv
  | false =>
    obtain ⟨hcount, hnot⟩ := hfits hover
    obtain ⟨hready, hselected, hsize, hnumber, hdatabase⟩ := s.ready_spec hinv.storage
    obtain ⟨control, writer, events, fragmentCount, eventBuffer, database, hload,
      hreports, hstorage,
        hcontained⟩ := OContext.loadResponse_reports hready
          (by rw [hdatabase]; exact hinv.contained)
      { remaining := space } hroom
    have hframed := OContext.loadResponse_maintained (framed_maintained indices)
      { remaining := space } (s := s.ready) (by rw [hdatabase]; exact hinv.framed)
    have hobjects := OContext.loadResponse_reportsObjects (s := s.ready) hready
      (by rw [hdatabase]; exact hinv.framed) hincreasing hlength { remaining := space } hroom
      (by rw [hselected, hdatabase]; exact hnot)
    rw [hload] at hframed hobjects
    dsimp only at hframed hobjects
    rw [if_neg Bool.false_ne_true, hload]
    dsimp only
    generalize hcontext : ({ s.ready with fragmentCount, eventBuffer, database } : OContext α) =
      context at hreports
    have hstorage' : context.eventBuffer.storage.Inv config := by
      rw [← hcontext]
      exact hstorage
    obtain ⟨hfin, hcon⟩ := hreports.control hstorage'
    -- The count is zero at the start only, as it does not wrap.
    have hempty : decide (s.fragments = []) = decide (s.ready.fragmentCount = 0) := by
      rw [decide_eq_decide, hnumber]
      exact ⟨fun hnil => (hinv.start hnil).1, fun hzero => by_contra fun hne => hcount hne hzero⟩
    refine ⟨hstorage', ?_, ?_, hinv.shaped.concat hover ?_ hfin hcon ?_, ?_, ?_⟩
    · rw [← hcontext]
      exact hcontained
    · rw [← hcontext]
      exact hframed
    · rw [hempty]
      exact hreports.fir
    · intro hmore
      have hsome := hobjects hmore
      simp only [Fragment.reports, Bool.or_eq_true, Bool.not_eq_true', List.isEmpty_eq_false_iff]
      exact hsome
    · exact fun hnil => absurd hnil (List.append_ne_nil_of_right_ne_nil _ (List.cons_ne_nil _ _))
    · have hle := hreports.le
      have hless := hreports.less
      have htakes := hinv.takes
      rw [hsize] at hle hless
      rw [List.length_append, List.length_singleton]
      dsimp only
      by_cases hnil : s.fragments = []
      · -- The first fragment may be for an empty selection.
        have hall := (hinv.start hnil).2
        rw [hnil, List.length_nil]
        omega
      · -- A further fragment follows while something is selected.
        have hmore := hinv.shaped.isOver_eq hnil
        rw [hover, OContext.hasSelection_eq hinv.storage] at hmore
        have hpos : 0 < s.context.selectionSize := by simpa using hmore.symm
        have hfewer := hless hpos
        omega

/-- A number of packed binaries that are on, and the largest octet string. -/
def binariesAndString (count : ℕ) : DatabaseBuffers Measurement where
  cells
    | .Binary => (List.range count).map fun i =>
        let value : Measurement := { flags := 0x81 }
        { value
          config :=
            { vIndex := UInt16.ofNat i, svariation := .Group1Var1, evariation := .Group2Var1 }
          lastEvent := value
          selection := { value, variation := .Group1Var1 } }
    | .OctetString =>
        let value : Measurement := { octets := List.replicate 255 0x61 }
        [{ value
           config := { vIndex := 0, svariation := .Group110Var0, evariation := .Group111Var0 }
           lastEvent := value
           selection := { value, variation := .Group110Var0 } }]
    | _ => []

/-- A READ of the binary events, of all packed binaries and of all octet strings. -/
def readAll : List HeaderCall :=
  [.allObjects { GroupVariationRecord.getRecord 2 0 with qualifier := 0x06, headerIndex := 0 },
    .allObjects { GroupVariationRecord.getRecord 1 1 with qualifier := 0x06, headerIndex := 1 },
    .allObjects { GroupVariationRecord.getRecord 110 0 with qualifier := 0x06, headerIndex := 2 }]

end LoadSeries

end OpenDnp3.Outstation
