import OpenDnp3.Outstation.ContextSpec
import OpenDnp3.Outstation.OctetReport

/-!
# The database of a running outstation

What every operation of `DatabaseBuffers` maintains holds of the database of the outstation in every
run: requests select, load and assign classes, and the application updates.
-/

namespace OpenDnp3.Outstation

open App DatabaseBuffers

variable {α : Type*} [MeasurementSpec α]

/-- The operations of the database maintain the property. -/
structure Maintained (P : DatabaseBuffers α → Prop) : Prop where
  select : ∀ db type range variation, P db → P (db.genericSelect type range variation).2
  deselect : ∀ db type, P db → P (db.deselect type)
  load : ∀ db writer, P db → P (db.load writer).2.1
  change : ∀ db (change : Change α), P db → P (change.run db).1
  assign : ∀ db type clazz range, P db → P (db.assignClassTo type clazz range).2

variable {P : DatabaseBuffers α → Prop}

/-- The end of a report maintains the property. -/
theorem Maintained.unselect (h : Maintained P) {db : DatabaseBuffers α} (hdb : P db) :
    P db.unselect := by
  unfold DatabaseBuffers.unselect
  generalize [StaticType.Binary, .DoubleBitBinary, .Counter, .FrozenCounter, .Analog,
    .BinaryOutputStatus, .AnalogOutputStatus, .TimeAndInterval] = types
  induction types generalizing db with
  | nil => exact hdb
  | cons type types ih => exact ih (h.deselect db type hdb)

/-- A selection maintains the property. -/
theorem Maintained.selecting (h : Maintained P) {db : DatabaseBuffers α} (hdb : P db)
    (selecting : Selecting α) : P (selecting.apply db) :=
  Selecting.apply_induction h.select h.change db selecting hdb

namespace OContext

/-! ## Requests -/

/-- A fragment that is loaded maintains the property. -/
theorem loadResponse_maintained (h : Maintained P) (writer : HeaderWriter α) {s : OContext α}
    (hdb : P s.database) : P (s.loadResponse writer).2.2.2.database := by
  unfold loadResponse
  dsimp only
  split_ifs
  · exact h.load _ _ hdb
  · exact hdb

end OContext

end OpenDnp3.Outstation
