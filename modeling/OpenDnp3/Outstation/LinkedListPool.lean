import OpenDnp3.Outstation.LinkedListSpec

/-!
# The list over a pool of nodes

The event storage is modelled with lists over a pool of nodes (`NodeList`). Here the linked list of
the source implements such a list: it has the same nodes with the same values in the same order, and
the same free nodes (`Implements`). Every use of the linked list is one of the list over the pool
(`ListOperation.onPool`), and both stay together over every run (`run_implements`).
-/

namespace OpenDnp3.Outstation

/-! ## The calls -/

namespace LinkedList

variable {α : Type*} {capacity : UInt32}

/-- The list implements a list over a pool of nodes, with the places in the array as addresses. -/
structure Implements (l : LinkedList α capacity) (pool : NodeList α) : Prop where
  capacity_eq : pool.capacity = capacity.toNat
  used : pool.used = l.entries.map fun entry => (entry.1.val, entry.2)
  free : pool.free = l.freeNodes.map Fin.val

/-- A new list implements a pool whose nodes are all free, in their order. -/
theorem implements_init [Inhabited α] (capacity : UInt32) :
    (init capacity : LinkedList α capacity).Implements (NodeList.empty capacity.toNat) where
  capacity_eq := rfl
  used := by
    rw [(init_represents capacity).entries_eq]
    rfl
  free := by
    rw [(init_represents capacity).freeNodes_eq, List.map_coe_finRange_eq_range]
    rfl

/-- `List::Add` fails when the list over the pool does, and appends at the same address. -/
theorem Implements.add {l : LinkedList α capacity} {pool : NodeList α} (h : l.Implements pool)
    {used free : List (Fin capacity.toNat)} (hl : l.Represents used free) (v : α) :
    (pool.add v).isNone = (l.add v).1.isNone ∧
      ∀ address pool', pool.add v = some (address, pool') →
        (l.add v).1.map Fin.val = some address ∧ (l.add v).2.Implements pool' := by
  have hfree := h.free
  rw [hl.freeNodes_eq] at hfree
  unfold NodeList.add
  split
  case h_1 hnone =>
    rw [hnone] at hfree
    obtain rfl : free = [] := by simpa using hfree.symm
    rw [hl.add_full v]
    exact ⟨rfl, fun _ _ h => by cases h⟩
  case h_2 a rest hsome =>
    rw [hsome] at hfree
    obtain ⟨x, rest', rfl, rfl, rfl⟩ := List.map_eq_cons_iff.mp hfree.symm
    obtain ⟨hresult, hrepresents, -⟩ := hl.add v
    rw [hresult]
    refine ⟨rfl, fun address pool' heq => ?_⟩
    obtain ⟨rfl, rfl⟩ := Prod.mk.inj (Option.some.inj heq)
    refine ⟨rfl, h.capacity_eq, ?_, ?_⟩
    · rw [hl.entries_add v, List.map_append, ← h.used]
      rfl
    · rw [hrepresents.freeNodes_eq]

/-- `List::Remove`. -/
theorem Implements.remove {l : LinkedList α capacity} {pool : NodeList α} (h : l.Implements pool)
    {front rest free : List (Fin capacity.toNat)} {x : Fin capacity.toNat}
    (hl : l.Represents (front ++ x :: rest) free) :
    (l.remove x).Implements (pool.remove x.val) := by
  obtain ⟨hrepresents, hvalue⟩ := hl.remove
  have hused := h.used
  rw [hl.entries_eq, List.map_append, List.map_append, List.map_cons, List.map_cons] at hused
  have hremoved := NodeList.remove_of_split hused
  have hmem : x.val ∈ pool.addresses := by
    rw [NodeList.addresses, hused]
    simp
  refine ⟨(NodeList.remove_capacity pool _).trans h.capacity_eq, ?_, ?_⟩
  · rw [hremoved, hrepresents.entries_eq, List.map_append, List.map_append, hvalue]
  · rw [hrepresents.freeNodes_eq, List.map_cons, NodeList.remove, dif_pos hmem]
    dsimp only
    rw [h.free, hl.freeNodes_eq]

/-- The loop of `List::RemoveAll` takes the nodes that match out of the pool, one after the other.
-/
theorem Implements.removeAllLoop {l l' : LinkedList α capacity} {pool : NodeList α}
    (h : l.Implements pool) {front rest free : List (Fin capacity.toNat)}
    (hl : l.Represents (front ++ rest) free) (isMatch : α → Bool) {fuel : ℕ}
    (hfuel : rest.length ≤ fuel) {count count' : UInt32}
    (hloop : removeAllLoop isMatch fuel { current := rest.tail.head? } rest.head? count l =
      some (count', l')) :
    l'.Implements (((rest.filter fun node => isMatch (l.value node)).map Fin.val).foldl
      NodeList.remove pool) := by
  induction rest generalizing l pool front free fuel count with
  | nil =>
    have hsame : l' = l := by
      cases fuel <;> simp [LinkedList.removeAllLoop] at hloop <;> exact hloop.2.symm
    rw [hsame]
    exact h
  | cons x rest ih =>
    cases fuel with
    | zero => cases hfuel
    | succ fuel =>
      have hsplit : l.Represents (front ++ [x] ++ rest) free := by simpa using hl
      rw [List.head?_cons, List.tail_cons, LinkedList.removeAllLoop, hsplit.iterator_next] at hloop
      dsimp only at hloop
      split_ifs at hloop with hmatch
      · -- The node goes to the front of the free list of both.
        obtain ⟨hremove, hvalue⟩ := hl.remove
        have hrest := ih (h.remove hl) hremove (Nat.le_of_succ_le_succ hfuel) hloop
        rw [hvalue] at hrest
        rw [List.filter_cons_of_pos (by simpa using hmatch), List.map_cons, List.foldl_cons]
        exact hrest
      · rw [List.filter_cons_of_neg (by simpa using hmatch)]
        exact ih h hsplit (Nat.le_of_succ_le_succ hfuel) hloop

/-- `List::RemoveAll`. -/
theorem Implements.removeAll {l l' : LinkedList α capacity} {pool : NodeList α}
    (h : l.Implements pool) {used free : List (Fin capacity.toNat)} (hl : l.Represents used free)
    {isMatch : α → Bool} {count : UInt32} (hremoved : l.removeAll isMatch = some (count, l')) :
    l'.Implements (((pool.used.filter fun entry => isMatch entry.2).map Prod.fst).foldl
      NodeList.remove pool) := by
  have hlength := hl.length
  have hwhole : l.Represents ([] ++ used) free := hl
  have hnext : Iterator.next l l.iterate = (used.head?, { current := used.tail.head? }) := by
    rw [iterate, hl.head]
    exact hwhole.iterator_next
  rw [LinkedList.removeAll, hnext] at hremoved
  have hall := h.removeAllLoop hwhole isMatch (by omega) hremoved
  -- The nodes that match have the same places in the pool.
  have hplaces : ((pool.used.filter fun entry => isMatch entry.2).map Prod.fst) =
      (used.filter fun node => isMatch (l.value node)).map Fin.val := by
    rw [h.used, hl.entries_eq, List.map_map, List.filter_map, List.map_map]
    rfl
  rw [hplaces]
  exact hall

/-- A change of the values moves no node. -/
theorem map_fst_sweep {β : Type*} (select : α → Bool × α) (entries : List (β × α)) :
    (sweep select entries).map Prod.fst = entries.map Prod.fst := by
  induction entries with
  | nil => rfl
  | cons entry entries ih =>
    rw [sweep, List.map_cons, List.map_cons]
    split_ifs
    · rw [ih]
    · rfl

/-- The values do not depend on what the nodes are. -/
theorem sweep_map {β γ : Type*} (f : β → γ) (select : α → Bool × α) (entries : List (β × α)) :
    sweep select (entries.map fun entry => (f entry.1, entry.2)) =
      (sweep select entries).map fun entry => (f entry.1, entry.2) := by
  induction entries with
  | nil => rfl
  | cons entry entries ih =>
    rw [List.map_cons, sweep, sweep, List.map_cons]
    split_ifs
    · rw [ih]
    · rfl

/-- `ForeachWhile` on a list over a pool. -/
def sweepPool (select : α → Bool × α) (pool : NodeList α) : NodeList α where
  capacity := pool.capacity
  used := sweep select pool.used
  free := pool.free
  perm := by
    rw [map_fst_sweep]
    exact pool.perm

/-- `List::ForeachWhile`. -/
theorem Implements.sweep {l l' : LinkedList α capacity} {pool : NodeList α} (h : l.Implements pool)
    {used free : List (Fin capacity.toNat)} (hl : l.Represents used free)
    (hl' : l'.Represents used free) {select : α → Bool × α}
    (hentries : l'.entries = LinkedList.sweep select l.entries) :
    l'.Implements (sweepPool select pool) where
  capacity_eq := h.capacity_eq
  used := by
    have hused : (sweepPool select pool).used = LinkedList.sweep select pool.used := rfl
    rw [hused, h.used, hentries]
    exact sweep_map Fin.val select l.entries
  free := by
    rw [hl'.freeNodes_eq, ← hl.freeNodes_eq]
    exact h.free

end LinkedList

/-! ## Runs -/

/-- A use of the linked list as one of a list over a pool. -/
def ListOperation.onPool {α : Type*} {n : ℕ} (pool : NodeList α) : ListOperation α n → NodeList α
  | .add value => (pool.add value).elim pool Prod.snd
  | .remove node => pool.remove node.val
  | .removeAll isMatch =>
    ((pool.used.filter fun entry => isMatch entry.2).map Prod.fst).foldl NodeList.remove pool
  | .foreach action => LinkedList.sweepPool (fun value => (true, action value)) pool
  | .foreachWhile select => LinkedList.sweepPool select pool
  | .iterate | .next | .find _ => pool

namespace ListUse

variable {α : Type*} {capacity : UInt32}

open LinkedList

/-- One use is the same on both lists. -/
theorem step_implements {s : ListUse α capacity} {pool : NodeList α}
    (h : s.list.Implements pool) {used free : List (Fin capacity.toNat)}
    (hl : s.list.Represents used free) {operation : ListOperation α capacity.toNat}
    (hremove : s.OnList operation) :
    (s.step operation).list.Implements (operation.onPool pool) := by
  cases operation with
  | add value =>
    obtain ⟨hnone, hsome⟩ := h.add hl value
    change (s.list.add value).2.Implements ((pool.add value).elim pool Prod.snd)
    cases hadd : pool.add value with
    | none =>
      -- Neither list has a free node.
      cases free with
      | nil =>
        rw [hl.add_full value]
        exact h
      | cons x free =>
        obtain ⟨hresult, -, -⟩ := hl.add value
        rw [hadd, hresult] at hnone
        cases hnone
    | some result => exact (hsome result.1 result.2 hadd).2
  | remove node =>
    have hnode : node ∈ used := hl.nodes_eq ▸ hremove
    obtain ⟨front, rest, rfl⟩ := List.append_of_mem hnode
    exact h.remove hl
  | removeAll isMatch =>
    obtain ⟨count, l, used', free', hremoved, -⟩ := hl.removeAll isMatch
    change ((s.list.removeAll isMatch).elim s.list Prod.snd).Implements _
    rw [hremoved]
    exact h.removeAll hl hremoved
  | foreach action =>
    obtain ⟨l, hloop, hrepresents, hentries⟩ := hl.foreachWhile fun value => (true, action value)
    change ((s.list.foreach action).getD s.list).Implements _
    rw [foreach, hloop]
    exact h.sweep hl hrepresents hentries
  | foreachWhile select =>
    obtain ⟨l, hloop, hrepresents, hentries⟩ := hl.foreachWhile select
    change ((s.list.foreachWhile select).getD s.list).Implements _
    rw [hloop]
    exact h.sweep hl hrepresents hentries
  | iterate => exact h
  | next => exact h
  | find isMatch => exact h

/-- The linked list answers like the list over the pool: it has as many nodes, is full when this is
full, and appends at the same place. -/
theorem answers_of_implements {s : ListUse α capacity} {pool : NodeList α}
    (h : s.list.Implements pool) {used free : List (Fin capacity.toNat)}
    (hl : s.list.Represents used free) :
    s.list.size.toNat = pool.size ∧ s.list.isFull = pool.isFull ∧
      ∀ value, (s.list.add value).1.map Fin.val = (pool.add value).map Prod.fst := by
  refine ⟨?_, ?_, fun value => ?_⟩
  · rw [hl.size, NodeList.size, h.used, List.length_map, hl.entries_eq, List.length_map]
  · rw [LinkedList.isFull, NodeList.isFull, h.free, hl.freeNodes_eq, hl.free]
    cases free <;> rfl
  · obtain ⟨hnone, hsome⟩ := h.add hl value
    cases hadd : pool.add value with
    | none =>
      rw [hadd] at hnone
      rw [Option.isNone_iff_eq_none.mp hnone.symm]
      rfl
    | some result => exact (hsome result.1 result.2 hadd).1

/-- Over every run of the linked list that removes only nodes that are in it, it implements the list
over a pool that has had the same uses, and answers like it. -/
theorem run_implements [Inhabited α] (capacity : UInt32)
    (operations : List (ListOperation α capacity.toNat))
    (h : Machine.StepsMeet step OnList { list := init capacity } operations) :
    let s := Machine.run step { list := (init capacity : LinkedList α capacity) } operations
    let pool := operations.foldl ListOperation.onPool (NodeList.empty capacity.toNat)
    s.list.Implements pool ∧ s.list.size.toNat = pool.size ∧ s.list.isFull = pool.isFull ∧
      ∀ value, (s.list.add value).1.map Fin.val = (pool.add value).map Prod.fst := by
  -- Both lists stay together from any two that are.
  have hrun : ∀ (s : ListUse α capacity) (pool : NodeList α), s.list.Implements pool →
      (∃ used free, s.list.Represents used free) → Machine.StepsMeet step OnList s operations →
        (Machine.run step s operations).list.Implements
          (operations.foldl ListOperation.onPool pool) ∧
          ∃ used free, (Machine.run step s operations).list.Represents used free := by
    clear h
    induction operations with
    | nil => exact fun s pool hs hl _ => ⟨hs, hl⟩
    | cons operation operations ih =>
      rintro s pool hs ⟨used, free, hl⟩ ⟨hremove, hrest⟩
      exact ih _ _ (step_implements hs hl hremove) (step_represents hl hremove).1 hrest
  obtain ⟨himplements, used, free, hl⟩ := hrun { list := init capacity } _
    (implements_init capacity) ⟨_, _, init_represents capacity⟩ h
  exact ⟨himplements, answers_of_implements himplements hl⟩

/-- Three nodes are filled, the first value is removed and the even ones after it, and the odd one
that is left is doubled. The next value goes where the last one was that was removed. -/
theorem run_implements_threeNodes :
    let operations := [ListOperation.add 10, .add 11, .add 12, .remove ⟨0, by decide⟩,
      .removeAll fun value => value % 2 = 0, .foreach fun value => 2 * value]
    let s := Machine.run step { list := (init 3 : LinkedList ℕ 3) } operations
    let pool := operations.foldl ListOperation.onPool (NodeList.empty 3)
    pool.used = [(1, 22)] ∧ pool.free = [2, 0] ∧ s.list.Implements pool := by
  intro operations s pool
  have h : Machine.StepsMeet step OnList { list := (init 3 : LinkedList ℕ 3) } operations :=
    ⟨trivial, trivial, trivial, by unfold OnList; decide +kernel, trivial, trivial, trivial⟩
  exact ⟨by decide +kernel, by decide +kernel, (run_implements 3 operations h).1⟩

end ListUse

end OpenDnp3.Outstation
