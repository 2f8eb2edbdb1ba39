import Mathlib.Data.List.Perm.Basic
import Mathlib.Data.List.Nodup
import Mathlib.Data.List.Range

/-!
# Lists over a fixed pool of nodes

A list whose nodes come from an array that is allocated once. A node keeps its address while it is
in the list, and goes back to the front of the free list when it is removed. The addresses of the
nodes in the list and of the free nodes are together those of the array, each once.
-/

/-- A list over a pool of `capacity` nodes: the nodes of the list in order, with their addresses,
and the addresses of the free nodes. -/
structure NodeList (α : Type*) where
  capacity : ℕ
  used : List (ℕ × α)
  free : List ℕ
  perm : (used.map Prod.fst ++ free).Perm (List.range capacity)

namespace NodeList

variable {α : Type*}

/-- The list without nodes. -/
def empty (capacity : ℕ) : NodeList α where
  capacity := capacity
  used := []
  free := List.range capacity
  perm := List.Perm.refl _

instance : Inhabited (NodeList α) := ⟨empty 0⟩

/-- The number of nodes in the list. -/
def size (l : NodeList α) : ℕ := l.used.length

/-- No node is free. -/
def isFull (l : NodeList α) : Bool := l.free.isEmpty

/-- The addresses of the nodes, in the order of the list. -/
def addresses (l : NodeList α) : List ℕ := l.used.map Prod.fst

/-- The values, in the order of the list. -/
def values (l : NodeList α) : List α := l.used.map Prod.snd

/-- The value of the node at an address. -/
def get? (l : NodeList α) (a : ℕ) : Option α := (l.used.find? fun n => n.1 = a).map Prod.snd

/-- No two nodes in use have the same address. -/
theorem addresses_nodup (l : NodeList α) : l.addresses.Nodup :=
  (List.nodup_append.mp ((l.perm.nodup_iff).mpr List.nodup_range)).1

/-- Append a node with the value, taken from the front of the free list. -/
def add (l : NodeList α) (v : α) : Option (ℕ × NodeList α) :=
  match hfree : l.free with
  | [] => none
  | a :: free =>
    some (a,
      { capacity := l.capacity
        used := l.used ++ [(a, v)]
        free := free
        perm := by
          have h := l.perm
          rw [hfree] at h
          simpa using h })

/-- Change the value of the node at an address. -/
def modify (l : NodeList α) (a : ℕ) (f : α → α) : NodeList α where
  capacity := l.capacity
  used := l.used.map fun n => if n.1 = a then (n.1, f n.2) else n
  free := l.free
  perm := by
    have h : (l.used.map fun n => if n.1 = a then (n.1, f n.2) else n).map Prod.fst =
        l.used.map Prod.fst := by
      rw [List.map_map]
      refine List.map_congr_left fun n _ => ?_
      by_cases hn : n.1 = a <;> simp [hn]
    rw [h]
    exact l.perm

/-- Change the value of every node. -/
def map (l : NodeList α) (f : α → α) : NodeList α where
  capacity := l.capacity
  used := l.used.map fun n => (n.1, f n.2)
  free := l.free
  perm := by
    have h : (l.used.map fun n => (n.1, f n.2)).map Prod.fst = l.used.map Prod.fst := by
      rw [List.map_map]
      rfl
    rw [h]
    exact l.perm

/-- The list of the nodes in use splits at the address of one of them. -/
theorem exists_split {l : NodeList α} {a : ℕ} (h : a ∈ l.addresses) :
    ∃ pre v post, l.used = pre ++ (a, v) :: post ∧ ∀ n ∈ pre ++ post, n.1 ≠ a := by
  obtain ⟨⟨b, v⟩, hn, rfl⟩ := List.mem_map.mp h
  obtain ⟨pre, post, hsplit⟩ := List.append_of_mem hn
  have hnodup := l.addresses_nodup
  rw [addresses, hsplit, List.map_append, List.map_cons, List.nodup_middle,
    List.nodup_cons] at hnodup
  refine ⟨pre, v, post, hsplit, fun n hn hne => hnodup.1 ?_⟩
  rw [← List.map_append]
  exact List.mem_map.mpr ⟨n, hn, hne⟩

/-- Without the node the list joins what was before and behind it. -/
theorem filter_ne_of_split {pre post : List (ℕ × α)} {a : ℕ} {v : α}
    (h : ∀ n ∈ pre ++ post, n.1 ≠ a) :
    (pre ++ (a, v) :: post).filter (fun n => n.1 ≠ a) = pre ++ post := by
  have hall : (pre ++ post).filter (fun n => n.1 ≠ a) = pre ++ post :=
    List.filter_eq_self.mpr fun n hn => by simpa using h n hn
  rw [List.filter_append] at hall
  rw [List.filter_append, List.filter_cons_of_neg (by simp), hall]

/-- Take the node at an address out of the list. -/
def remove (l : NodeList α) (a : ℕ) : NodeList α :=
  if h : a ∈ l.addresses then
    { capacity := l.capacity
      used := l.used.filter fun n => n.1 ≠ a
      free := a :: l.free
      perm := by
        obtain ⟨pre, v, post, hsplit, hne⟩ := exists_split h
        have hperm := l.perm
        rw [hsplit, filter_ne_of_split hne]
        rw [hsplit] at hperm
        refine List.Perm.trans ?_ hperm
        simp only [List.map_append, List.map_cons, List.append_assoc, List.cons_append]
        refine List.Perm.append_left _ ?_
        exact List.perm_middle }
  else l

/-- A change of a value does not change the capacity. -/
@[simp]
theorem modify_capacity (l : NodeList α) (a : ℕ) (f : α → α) :
    (l.modify a f).capacity = l.capacity := rfl

/-- Nor does the removal of a node. -/
@[simp]
theorem remove_capacity (l : NodeList α) (a : ℕ) : (l.remove a).capacity = l.capacity := by
  unfold remove
  split_ifs <;> rfl

/-- Every node is in use or free. -/
theorem size_add_free (l : NodeList α) : l.size + l.free.length = l.capacity := by
  have h := l.perm.length_eq
  simpa [size] using h

/-- The list is full where all of its nodes are in use. -/
theorem isFull_iff (l : NodeList α) : l.isFull = true ↔ l.size = l.capacity := by
  have h := l.size_add_free
  rw [isFull, List.isEmpty_iff_length_eq_zero]
  omega

/-- A list that is not full takes a value, at an address that was not in use. -/
theorem exists_add {l : NodeList α} (h : l.isFull = false) (v : α) :
    ∃ a l', l.add v = some (a, l') ∧ a ∉ l.addresses ∧ l'.used = l.used ++ [(a, v)] ∧
      l'.capacity = l.capacity := by
  unfold add
  split
  case h_1 hfree =>
    rw [isFull, hfree] at h
    cases h
  case h_2 a free hfree =>
    refine ⟨a, _, rfl, fun ha => ?_, rfl, rfl⟩
    have hnodup := (l.perm.nodup_iff).mpr List.nodup_range
    rw [hfree] at hnodup
    exact List.disjoint_of_nodup_append hnodup ha List.mem_cons_self

/-! ## Access by address -/

/-- There is no value at an address that is not in use. -/
theorem get?_eq_none {l : NodeList α} {a : ℕ} (h : a ∉ l.addresses) : l.get? a = none := by
  rw [get?, Option.map_eq_none_iff, List.find?_eq_none]
  intro n hn hna
  exact h (List.mem_map.mpr ⟨n, hn, by simpa using hna⟩)

/-- A node splits the list, and its address occurs nowhere else. -/
theorem ne_of_split {l : NodeList α} {pre post : List (ℕ × α)} {a : ℕ} {v : α}
    (h : l.used = pre ++ (a, v) :: post) : ∀ n ∈ pre ++ post, n.1 ≠ a := by
  intro n hn hne
  have hnodup := l.addresses_nodup
  rw [addresses, h, List.map_append, List.map_cons, List.nodup_middle, List.nodup_cons,
    ← List.map_append] at hnodup
  exact hnodup.1 (List.mem_map.mpr ⟨n, hn, hne⟩)

/-- The value at the address where the list splits. -/
theorem get?_of_split {l : NodeList α} {pre post : List (ℕ × α)} {a : ℕ} {v : α}
    (h : l.used = pre ++ (a, v) :: post) : l.get? a = some v := by
  have hpre : pre.find? (fun n => n.1 = a) = none := by
    rw [List.find?_eq_none]
    intro n hn
    simpa using ne_of_split h n (List.mem_append_left _ hn)
  rw [get?, h, List.find?_append, hpre]
  simp

/-- The value at an address is that of its node. -/
theorem get?_eq_some_iff {l : NodeList α} {a : ℕ} {v : α} :
    l.get? a = some v ↔ (a, v) ∈ l.used := by
  constructor
  · intro h
    rw [get?, Option.map_eq_some_iff] at h
    obtain ⟨⟨b, w⟩, hfind, rfl⟩ := h
    have hmem := List.mem_of_find?_eq_some hfind
    have hb := List.find?_some hfind
    simp only [decide_eq_true_eq] at hb
    exact hb ▸ hmem
  · intro h
    obtain ⟨pre, post, hsplit⟩ := List.append_of_mem h
    exact get?_of_split hsplit

/-- A value is changed in its place. -/
theorem modify_of_split {l : NodeList α} {pre post : List (ℕ × α)} {a : ℕ} {v : α}
    (h : l.used = pre ++ (a, v) :: post) (f : α → α) :
    (l.modify a f).used = pre ++ (a, f v) :: post := by
  have hne := ne_of_split h
  have hid : ∀ part : List (ℕ × α), (∀ n ∈ part, n.1 ≠ a) →
      (part.map fun n => if n.1 = a then (n.1, f n.2) else n) = part := by
    intro part hpart
    conv_rhs => rw [← List.map_id part]
    exact List.map_congr_left fun n hn => by simp [hpart n hn]
  change (l.used.map fun n => if n.1 = a then (n.1, f n.2) else n) = _
  rw [h, List.map_append, List.map_cons,
    hid pre fun n hn => hne n (List.mem_append_left _ hn),
    hid post fun n hn => hne n (List.mem_append_right _ hn)]
  simp

/-- The nodes before and behind one that is removed stay. -/
theorem remove_of_split {l : NodeList α} {pre post : List (ℕ × α)} {a : ℕ} {v : α}
    (h : l.used = pre ++ (a, v) :: post) : (l.remove a).used = pre ++ post := by
  have hmem : a ∈ l.addresses := by simp [addresses, h]
  rw [remove, dif_pos hmem]
  dsimp only
  rw [h, filter_ne_of_split (ne_of_split h)]

/-- After a removal there is space. -/
theorem remove_isFull_of_split {l : NodeList α} {pre post : List (ℕ × α)} {a : ℕ} {v : α}
    (h : l.used = pre ++ (a, v) :: post) : (l.remove a).isFull = false := by
  have hmem : a ∈ l.addresses := by simp [addresses, h]
  rw [remove, dif_pos hmem]
  rfl

/-- A change of a value is seen at its address and nowhere else. -/
theorem get?_modify (l : NodeList α) (a b : ℕ) (f : α → α) :
    (l.modify a f).get? b = if b = a then (l.get? b).map f else l.get? b := by
  cases hget : l.get? b with
  | none =>
    have hb : b ∉ (l.modify a f).addresses := by
      intro hmem
      obtain ⟨n, hn, rfl⟩ := List.mem_map.mp hmem
      obtain ⟨m, hm, rfl⟩ := List.mem_map.mp hn
      have hfst : (if m.1 = a then (m.1, f m.2) else m).1 = m.1 := by split_ifs <;> rfl
      rw [hfst, get?_eq_some_iff.mpr hm] at hget
      cases hget
    rw [get?_eq_none hb]
    simp
  | some v =>
    have hmem := get?_eq_some_iff.mp hget
    by_cases hb : b = a
    · subst hb
      rw [if_pos rfl, Option.map_some, get?_eq_some_iff]
      exact List.mem_map.mpr ⟨(b, v), hmem, if_pos rfl⟩
    · rw [if_neg hb, get?_eq_some_iff]
      exact List.mem_map.mpr ⟨(b, v), hmem, if_neg hb⟩

end NodeList
