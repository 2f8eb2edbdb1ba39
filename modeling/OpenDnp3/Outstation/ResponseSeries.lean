import OpenDnp3.Outstation.ResponseRound

/-!
# The series of fragments of a response

A selection that does not fit into one fragment is reported in a series of fragments, each of which
the master confirms. Every fragment of the series reports events in the order in which they came or
takes static positions, and the series ends with the fragment after which nothing is selected, the
one with FIN.
-/

namespace OpenDnp3.Outstation

open App

variable {α : Type*}

variable [MeasurementSpec α]

open EventLists

namespace OContext

open DatabaseBuffers

/-! ## The whole series -/

/-- The fragments of a series, from the number of the next fragment, the events that are selected
and the size of the selection on. The flag says whether the last fragment still waits for its
confirm. -/
inductive Series : UInt16 → List ℕ → ℕ → List (APDUResponse α) → Bool → Prop where
  | waiting (count : UInt16) (ids : List ℕ) (size : ℕ) : Series count ids size [] true
  | finished (count : UInt16) : Series count [] 0 [] false
  | fragment {count : UInt16} {rest : List ℕ} {size left : ℕ} {response : APDUResponse α}
      {fragments : List (APDUResponse α)} {awaits : Bool}
      (hfir : response.control.fir = decide (count = 0))
      (hfin : response.control.fin = decide (left = 0))
      (hcon : response.control.con = decide (0 < left ∨ response.events ≠ []))
      (hless : left < size) (hrest : Series (count + 1) rest left fragments awaits) :
      Series count (response.events ++ rest) size (response :: fragments) awaits

omit [MeasurementSpec α] in
/-- A series has no more fragments than there are objects in the selection. -/
theorem Series.length_le {count : UInt16} {ids : List ℕ} {size : ℕ}
    {fragments : List (APDUResponse α)} {awaits : Bool}
    (h : Series count ids size fragments awaits) : fragments.length ≤ size := by
  induction h with
  | waiting => exact Nat.zero_le _
  | finished => exact le_rfl
  | fragment _ _ _ hless _ ih =>
    rw [List.length_cons]
    omega

omit [MeasurementSpec α] in
/-- A series that is over has reported every event of the selection, in order. -/
theorem Series.events {count : UInt16} {ids : List ℕ} {size : ℕ}
    {fragments : List (APDUResponse α)} {awaits : Bool}
    (h : Series count ids size fragments awaits) (hover : awaits = false) :
    ids = fragments.flatMap APDUResponse.events := by
  induction h with
  | waiting => cases hover
  | finished => rfl
  | fragment _ _ _ _ _ ih => rw [List.flatMap_cons, ← ih hover]

/-- An event that is no request keeps the size of the fragments. -/
theorem Happens.maxTxFragSize {env : Env α} {event : Event α} {s s' : OContext α}
    (h : Happens env s event s') : s'.params.maxTxFragSize = s.params.maxTxFragSize := by
  cases h with
  | down =>
    unfold onLowerLayerDown
    split_ifs <;> rfl
  | timedOut _ =>
    unfold onConfirmTimeout
    dsimp only
    split <;> rfl
  | _ => rfl

omit [MeasurementSpec α] in
/-- A request keeps the size of the fragments. -/
theorem Handles.maxTxFragSize {config : EventBufferConfig} {env : Env α} {request : ParsedRequest}
    {s s' : OContext α} (h : Handles config env request s s') :
    s'.params.maxTxFragSize = s.params.maxTxFragSize := by
  cases h with
  | continued _ _ _ hsends _ =>
    obtain ⟨_, _, _, rfl⟩ := hsends.exists_eq
    rfl
  | read _ _ _ _ hsends _ =>
    obtain ⟨_, _, _, rfl⟩ := hsends.exists_eq
    rfl
  | nonRead _ _ _ _ hresponds =>
    obtain ⟨_, _, _, ⟨_, _, _, _, _, _, rfl, -⟩, rfl, -⟩ := hresponds.exists_eq
    rfl
  | _ => rfl

end OContext

end OpenDnp3.Outstation
