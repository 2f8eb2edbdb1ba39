import Mathlib.Data.List.FinRange
import OpenDnp3.Lib.NodeList
import OpenDnp3.Lib.Run
import OpenDnp3.Outstation.LinkedList

/-!
# The list of the event buffer is well linked

Between the calls the nodes of the array are either in the list or free, each once, and the pointers
of the list lead through its nodes in both directions (`WellLinked`). Every call does to the list of
values what its name says (`ListUse.Performs`), over every run (`run_wellLinked`).
-/

namespace OpenDnp3.Outstation

open DoublyLinked

namespace LinkedList

variable {α : Type*} {capacity : UInt32}

/-! ## Pointers -/

/-- Only the node of the pointer is modified. -/
theorem underlying_modifyAt (pointer : Option (Fin capacity.toNat))
    (f : Node α capacity.toNat → Node α capacity.toNat) (l : LinkedList α capacity)
    (a : Fin capacity.toNat) : (l.modifyAt pointer f).underlying a =
      if some a = pointer then f (l.underlying a) else l.underlying a := by
  unfold modifyAt modify
  cases pointer with
  | none => rfl
  | some node =>
    dsimp only
    rw [Function.update_apply]
    by_cases ha : a = node
    · subst ha
      simp
    · rw [if_neg ha, if_neg fun h => ha (Option.some.inj h)]

/-- The next pointers after two nodes are linked. -/
@[simp]
theorem next_link (first second : Option (Fin capacity.toNat)) (l : LinkedList α capacity) :
    (l.link first second).next = linkNext l.next first second := by
  funext a
  unfold link next linkNext
  rw [underlying_modifyAt, underlying_modifyAt]
  split_ifs <;> rfl

/-- The previous pointers after two nodes are linked. -/
@[simp]
theorem prev_link (first second : Option (Fin capacity.toNat)) (l : LinkedList α capacity) :
    (l.link first second).prev = linkPrev l.prev first second := by
  funext a
  unfold link prev linkPrev
  rw [underlying_modifyAt, underlying_modifyAt]
  split_ifs <;> rfl

/-- A link leaves the values. -/
@[simp]
theorem value_link (first second : Option (Fin capacity.toNat)) (l : LinkedList α capacity) :
    (l.link first second).value = l.value := by
  funext a
  unfold link value
  rw [underlying_modifyAt, underlying_modifyAt]
  split_ifs <;> rfl

/-- A link leaves the head. -/
@[simp]
theorem head_link (first second : Option (Fin capacity.toNat)) (l : LinkedList α capacity) :
    (l.link first second).head = l.head := by
  cases first <;> cases second <;> rfl

/-- A link leaves the tail. -/
@[simp]
theorem tail_link (first second : Option (Fin capacity.toNat)) (l : LinkedList α capacity) :
    (l.link first second).tail = l.tail := by
  cases first <;> cases second <;> rfl

/-- A link leaves the first free node. -/
@[simp]
theorem free_link (first second : Option (Fin capacity.toNat)) (l : LinkedList α capacity) :
    (l.link first second).free = l.free := by
  cases first <;> cases second <;> rfl

/-- A link leaves the size. -/
@[simp]
theorem size_link (first second : Option (Fin capacity.toNat)) (l : LinkedList α capacity) :
    (l.link first second).size = l.size := by
  cases first <;> cases second <;> rfl

/-- A write to the value of a node moves no pointer. -/
theorem next_setValue (node : Fin capacity.toNat) (v : α) (l : LinkedList α capacity) :
    (l.modify node fun n => { n with value := v }).next = l.next := by
  funext a
  have h := underlying_modifyAt (some node) (fun n => { n with value := v }) l a
  unfold next
  rw [modifyAt] at h
  rw [h]
  split_ifs <;> rfl

/-- A value is set without a change of the pointers. -/
theorem prev_setValue (node : Fin capacity.toNat) (v : α) (l : LinkedList α capacity) :
    (l.modify node fun n => { n with value := v }).prev = l.prev := by
  funext a
  have h := underlying_modifyAt (some node) (fun n => { n with value := v }) l a
  unfold prev
  rw [modifyAt] at h
  rw [h]
  split_ifs <;> rfl

/-- The value of one node is set. -/
theorem value_setValue (node : Fin capacity.toNat) (v : α) (l : LinkedList α capacity) :
    (l.modify node fun n => { n with value := v }).value = Function.update l.value node v := by
  funext a
  unfold value modify
  dsimp only
  rw [Function.update_apply, Function.update_apply]
  split_ifs <;> rfl

/-! ## What a call writes -/

/-- `List::Insert` with a free node. -/
theorem insert_spec {l : LinkedList α capacity} {x : Fin capacity.toNat} (hfree : l.free = some x)
    (v : α) (left right : Option (Fin capacity.toNat)) :
    (l.insert v left right).1 = some x ∧
    (l.insert v left right).2.next = linkNext (linkNext l.next left (some x)) (some x) right ∧
    (l.insert v left right).2.prev = linkPrev (linkPrev l.prev left (some x)) (some x) right ∧
    (l.insert v left right).2.value = Function.update l.value x v ∧
    (l.insert v left right).2.head = (if left.isNone then some x else l.head) ∧
    (l.insert v left right).2.tail = (if right.isNone then some x else l.tail) ∧
    (l.insert v left right).2.free = l.next x ∧
    (l.insert v left right).2.size = l.size + 1 := by
  unfold insert
  rw [hfree]
  dsimp only
  -- The pointers and values do not depend on the ends of the list.
  have hends : ∀ l' : LinkedList α capacity, ∀ c d : Bool,
      (if d then { (if c then { l' with head := some x } else l') with tail := some x }
        else if c then { l' with head := some x } else l') =
      { l' with head := if c then some x else l'.head, tail := if d then some x else l'.tail } := by
    rintro l' (_ | _) (_ | _) <;> rfl
  rw [hends]
  refine ⟨rfl, ?_, ?_, ?_, ?_, ?_, ?_, ?_⟩
  · change ((_ : LinkedList α capacity).link (some x) right).next = _
    rw [next_link, next_link]
    exact congrArg (fun f => linkNext (linkNext f left (some x)) (some x) right)
      (next_setValue x v _)
  · change ((_ : LinkedList α capacity).link (some x) right).prev = _
    rw [prev_link, prev_link]
    exact congrArg (fun f => linkPrev (linkPrev f left (some x)) (some x) right)
      (prev_setValue x v _)
  · change ((_ : LinkedList α capacity).link (some x) right).value = _
    rw [value_link, value_link]
    exact value_setValue x v _
  · simp [modify]
  · simp [modify]
  · simp [modify]
  · simp [modify]

/-- A removal moves the head and the tail where the node was one of them. -/
theorem removeEnds_spec (l : LinkedList α capacity) (x : Fin capacity.toNat) :
    (l.removeEnds x).underlying = l.underlying ∧
    (l.removeEnds x).head = (if some x = l.head then l.next x else l.head) ∧
    (l.removeEnds x).tail = (if some x = l.tail then l.prev x else l.tail) ∧
    (l.removeEnds x).free = l.free ∧ (l.removeEnds x).size = l.size := by
  obtain ⟨l₁, hl₁, hunderlying, hhead, htail, hfree, hsize⟩ : ∃ l₁ : LinkedList α capacity,
      (if some x = l.head then { l with head := l.next x } else l) = l₁ ∧
        l₁.underlying = l.underlying ∧
        l₁.head = (if some x = l.head then l.next x else l.head) ∧ l₁.tail = l.tail ∧
        l₁.free = l.free ∧ l₁.size = l.size := by
    split_ifs <;> exact ⟨_, rfl, rfl, rfl, rfl, rfl, rfl⟩
  unfold removeEnds
  rw [hl₁]
  dsimp only
  rw [htail]
  by_cases hlast : some x = l.tail
  · rw [if_pos hlast, if_pos hlast]
    refine ⟨hunderlying, hhead, ?_, hfree, hsize⟩
    dsimp only
    rw [← hlast, Option.bind_some, prev, prev, hunderlying]
  · rw [if_neg hlast, if_neg hlast]
    exact ⟨hunderlying, hhead, htail, hfree, hsize⟩

/-- `List::Remove`. -/
theorem remove_spec (l : LinkedList α capacity) (x : Fin capacity.toNat) :
    (l.remove x).next = linkNext (linkNext (linkNext l.next (l.prev x) (l.next x)) none (some x))
      (some x) l.free ∧
    (l.remove x).prev = linkPrev (linkPrev (linkPrev l.prev (l.prev x) (l.next x)) none (some x))
      (some x) l.free ∧
    (l.remove x).value = l.value ∧
    (l.remove x).head = (if some x = l.head then l.next x else l.head) ∧
    (l.remove x).tail = (if some x = l.tail then l.prev x else l.tail) ∧
    (l.remove x).free = some x ∧
    (l.remove x).size = l.size - 1 := by
  obtain ⟨hunderlying, hhead, htail, hfree, hsize⟩ := l.removeEnds_spec x
  have hnext : (l.removeEnds x).next = l.next := funext fun a => by rw [next, next, hunderlying]
  have hprev : (l.removeEnds x).prev = l.prev := funext fun a => by rw [prev, prev, hunderlying]
  have hvalue : (l.removeEnds x).value = l.value := funext fun a => by
    rw [value, value, hunderlying]
  -- The pointer of the node to the one before it is cleared by a link from null.
  have hclear : ∀ l' : LinkedList α capacity,
      l'.modify x (fun node => { node with prev := none }) = l'.link none (some x) := fun _ => rfl
  rw [← hhead, ← htail]
  unfold remove
  dsimp only
  rw [hclear]
  generalize l.removeEnds x = l₁ at hnext hprev hvalue hfree hsize ⊢
  simp only [free_link, size_link, hfree, hsize, hnext, hprev]
  refine ⟨?_, ?_, ?_, ?_, ?_, trivial, trivial⟩
  · change ((_ : LinkedList α capacity).link (some x) l.free).next = _
    rw [next_link, next_link, next_link, hnext]
  · change ((_ : LinkedList α capacity).link (some x) l.free).prev = _
    rw [prev_link, prev_link, prev_link, hprev]
  · change ((_ : LinkedList α capacity).link (some x) l.free).value = _
    rw [value_link, value_link, value_link, hvalue]
  · rw [head_link, head_link, head_link]
  · rw [tail_link, tail_link, tail_link]

/-! ## The nodes in the list and the free ones -/

/-- The list has the nodes `used`, and the nodes `unused` are left. The pointer of the first free
node to the one before it is not read, and may lead anywhere. -/
structure Represents (l : LinkedList α capacity)
    (used unused : List (Fin capacity.toNat)) : Prop where
  perm : (used ++ unused).Perm (List.finRange capacity.toNat)
  head : l.head = used.head?
  tail : l.tail = used.getLast?
  segment : Segment l.next l.prev none used none
  free : l.free = unused.head?
  freeSegment : ∃ before, Segment l.next l.prev before unused none
  size : l.size.toNat = used.length

/-- No node is used twice or both used and free. -/
theorem Represents.nodup {l : LinkedList α capacity} {used free : List (Fin capacity.toNat)}
    (h : l.Represents used free) : (used ++ free).Nodup :=
  h.perm.nodup_iff.mpr (List.nodup_finRange _)

/-- Every node is used or free. -/
theorem Represents.length {l : LinkedList α capacity} {used free : List (Fin capacity.toNat)}
    (h : l.Represents used free) : used.length + free.length = capacity.toNat := by
  have hlength := h.perm.length_eq
  rwa [List.length_append, List.length_finRange] at hlength

/-- The nodes from the head on are the used ones. -/
theorem Represents.nodes_eq {l : LinkedList α capacity} {used free : List (Fin capacity.toNat)}
    (h : l.Represents used free) : l.nodes = used := by
  have hlength := h.length
  rw [nodes, h.head]
  exact h.segment.follow_eq (by omega)

/-- The nodes from the first free one on are the free ones. -/
theorem Represents.freeNodes_eq {l : LinkedList α capacity} {used free : List (Fin capacity.toNat)}
    (h : l.Represents used free) : l.freeNodes = free := by
  have hlength := h.length
  obtain ⟨before, hfree⟩ := h.freeSegment
  rw [freeNodes, h.free]
  exact hfree.follow_eq (by omega)

/-- The entries are the values of the used nodes. -/
theorem Represents.entries_eq {l : LinkedList α capacity} {used free : List (Fin capacity.toNat)}
    (h : l.Represents used free) : l.entries = used.map fun node => (node, l.value node) := by
  rw [entries, h.nodes_eq]

/-- A write to a value moves nothing. -/
theorem Represents.setValue {l : LinkedList α capacity} {used free : List (Fin capacity.toNat)}
    (h : l.Represents used free) (node : Fin capacity.toNat) (v : α) :
    (l.modify node fun n => { n with value := v }).Represents used free where
  perm := h.perm
  head := h.head
  tail := h.tail
  segment := by
    rw [next_setValue, prev_setValue]
    exact h.segment
  free := h.free
  freeSegment := by
    rw [next_setValue, prev_setValue]
    exact h.freeSegment
  size := h.size

/-- `List::Add` without a free node. -/
theorem Represents.add_full {l : LinkedList α capacity} {used : List (Fin capacity.toNat)}
    (h : l.Represents used []) (v : α) : l.add v = (none, l) := by
  unfold LinkedList.add insert
  rw [h.free, List.head?_nil]

/-- `List::Add` takes the first free node and appends it. -/
theorem Represents.add {l : LinkedList α capacity} {used free : List (Fin capacity.toNat)}
    {x : Fin capacity.toNat} (h : l.Represents used (x :: free)) (v : α) :
    (l.add v).1 = some x ∧ (l.add v).2.Represents (used ++ [x]) free ∧
      (l.add v).2.value = Function.update l.value x v := by
  obtain ⟨hresult, hnext, hprev, hvalue, hhead, htail, hfree, hsize⟩ :=
    insert_spec (h.free.trans List.head?_cons) v l.tail none
  obtain ⟨before, hbefore, hafter, hrest⟩ := h.freeSegment
  have hnodup := h.nodup
  have hlength := h.length
  have hsplit : used ++ x :: free = used ++ [x] ++ free := by simp
  rw [hsplit] at hnodup
  obtain ⟨hused, hfreeNodup, hdisjoint⟩ := List.nodup_append.mp hnodup
  refine ⟨hresult, ⟨?_, ?_, ?_, ?_, ?_, ⟨some x, ?_⟩, ?_⟩, hvalue⟩
  · rw [← hsplit]
    exact h.perm
  · refine hhead.trans ?_
    rw [h.tail, h.head]
    cases used <;> simp
  · rw [List.getLast?_concat]
    exact htail
  · -- The node is linked behind the last one, and ends the list.
    change Segment (l.insert v l.tail none).2.next (l.insert v l.tail none).2.prev none _ none
    rw [hnext, hprev, h.tail]
    have hnode : Segment l.next l.prev before [x] (free.head?.or none) := ⟨hbefore, hafter, trivial⟩
    have hjoined := h.segment.link hnode hused (fun _ => rfl) (fun h => by cases h)
    have hended := hjoined.link (show Segment _ _ none [] none from trivial) (by simpa using hused)
      (fun h => by simp at h) (fun _ => rfl)
    rwa [List.getLast?_concat, List.append_nil] at hended
  · exact hfree.trans (by rw [hafter, Option.or_none])
  · change Segment (l.insert v l.tail none).2.next (l.insert v l.tail none).2.prev _ free none
    rw [hnext, hprev, h.tail]
    have hne : ∀ a ∈ free, some a ≠ some x := fun a ha heq =>
      hdisjoint x (by simp) a ha (Option.some.inj heq).symm
    refine (hrest.link_frame (fun a ha heq => ?_) hne).link_frame hne (fun a _ => by simp)
    exact hdisjoint a (List.mem_append_left _ (List.mem_of_getLast? heq.symm)) a ha rfl
  · have hlt := capacity.toNat_lt
    rw [List.length_cons] at hlength
    refine (congrArg UInt32.toNat hsize).trans ?_
    rw [UInt32.toNat_add, h.size, List.length_append, List.length_singleton]
    change (used.length + 1) % 2 ^ 32 = used.length + 1
    exact Nat.mod_eq_of_lt (by omega)

/-- A value is added behind the entries. -/
theorem Represents.entries_add {l : LinkedList α capacity} {used free : List (Fin capacity.toNat)}
    {x : Fin capacity.toNat} (h : l.Represents used (x :: free)) (v : α) :
    (l.add v).2.entries = l.entries ++ [(x, v)] := by
  obtain ⟨-, hrepresents, hvalue⟩ := h.add v
  have hx : x ∉ used := fun hx =>
    (List.nodup_append.mp h.nodup).2.2 x hx x List.mem_cons_self rfl
  have hkept : (used.map fun node => (node, (l.add v).2.value node)) =
      used.map fun node => (node, l.value node) :=
    List.map_congr_left fun node hnode => by
      have hne : node ≠ x := fun heq => hx (heq ▸ hnode)
      rw [hvalue, Function.update_of_ne hne]
  rw [hrepresents.entries_eq, h.entries_eq, List.map_append, hkept, List.map_singleton, hvalue,
    Function.update_self]

/-- `List::Remove` takes a node out of the list, and puts it in front of the free ones. -/
theorem Represents.remove {l : LinkedList α capacity}
    {front rest free : List (Fin capacity.toNat)} {x : Fin capacity.toNat}
    (h : l.Represents (front ++ x :: rest) free) :
    (l.remove x).Represents (front ++ rest) (x :: free) ∧ (l.remove x).value = l.value := by
  obtain ⟨hnext, hprev, hvalue, hhead, htail, hfree, hsize⟩ := l.remove_spec x
  obtain ⟨hfront, hxprev, hxnext, hrest⟩ := segment_append.mp h.segment
  obtain ⟨before, hfreeSegment⟩ := h.freeSegment
  have hnodup := h.nodup
  have hperm : (front ++ x :: rest ++ free).Perm (front ++ rest ++ x :: free) := by
    refine List.Perm.trans ?_ List.perm_middle.symm
    simp
  obtain ⟨hused, hxfree, hdisjoint⟩ := List.nodup_append.mp (hperm.nodup_iff.mp hnodup)
  obtain ⟨hxnot, hfreeNodup⟩ := List.nodup_cons.mp hxfree
  rw [Option.or_none] at hxprev hxnext
  have hxused : ∀ a ∈ front ++ rest, some a ≠ some x := fun a ha heq =>
    hdisjoint a ha x (by simp) (Option.some.inj heq)
  have hfreeHead : ∀ a ∈ front ++ rest, some a ≠ free.head? := fun a ha heq =>
    hdisjoint a ha a (List.mem_cons_of_mem x (List.mem_of_head? heq.symm)) rfl
  refine ⟨⟨hperm.symm.trans h.perm, ?_, ?_, ?_, hfree, ⟨none, ?_⟩, ?_⟩, hvalue⟩
  · -- The node is the head exactly when nothing stands before it.
    rw [hhead, h.head, hxnext]
    cases front with
    | nil => simp
    | cons a front =>
      have hne : some x ≠ some a := (hxused a (by simp)).symm
      simp [hne]
  · -- And the tail exactly when nothing stands behind it.
    rw [htail, h.tail, hxprev]
    rcases List.eq_nil_or_concat rest with rfl | ⟨middle, a, rfl⟩
    · simp
    · have hne : some x ≠ some a := (hxused a (by simp)).symm
      rw [List.concat_eq_append, ← List.cons_append, ← List.append_assoc, ← List.append_assoc,
        List.getLast?_concat, List.getLast?_concat, if_neg hne]
  · rw [hnext, hprev, hxprev, hxnext, h.free]
    have hjoined := hfront.link hrest hused (fun _ => rfl) (fun _ => rfl)
    have hcleared := hjoined.link_frame
      (show ∀ a ∈ front ++ rest, some a ≠ none from fun a _ => by simp) hxused
    exact hcleared.link_frame hxused hfreeHead
  · rw [hnext, hprev, hxprev, hxnext, h.free]
    have hne : ∀ a ∈ free, some a ≠ some x := fun a ha heq => hxnot (Option.some.inj heq ▸ ha)
    have hkept : Segment (linkNext (linkNext l.next front.getLast? rest.head?) none (some x))
        (linkPrev (linkPrev l.prev front.getLast? rest.head?) none (some x)) before free none := by
      refine (hfreeSegment.link_frame (fun a ha heq => ?_) (fun a ha heq => ?_)).link_frame
        (fun a _ => by simp) hne
      · exact hdisjoint a (List.mem_append_left _ (List.mem_of_getLast? heq.symm)) a
          (by simp [ha]) rfl
      · exact hdisjoint a (List.mem_append_right _ (List.mem_of_head? heq.symm)) a
          (by simp [ha]) rfl
    have hnode : Segment (linkNext (linkNext l.next front.getLast? rest.head?) none (some x))
        (linkPrev (linkPrev l.prev front.getLast? rest.head?) none (some x)) none [x]
        (linkNext (linkNext l.next front.getLast? rest.head?) none (some x) x) :=
      ⟨if_pos rfl, rfl, trivial⟩
    exact hnode.link hkept hxfree (fun _ => rfl) (fun _ => rfl)
  · have hpos : 1 ≤ l.size := by
      rw [UInt32.le_iff_toNat_le, h.size, List.length_append, List.length_cons]
      change 1 ≤ _
      omega
    rw [hsize, UInt32.toNat_sub_of_le _ _ hpos, h.size, List.length_append, List.length_append,
      List.length_cons]
    change front.length + (rest.length + 1) - 1 = _
    omega

/-! ## The new list -/

/-- The nodes are linked one after the other. -/
theorem foldl_link_spec (l : LinkedList α capacity) (places : List (Fin capacity.toNat)) :
    let l' := places.foldl (fun l i => l.link (some (before i)) (some i)) l
    l'.head = l.head ∧ l'.tail = l.tail ∧ l'.free = l.free ∧ l'.size = l.size := by
  induction places generalizing l with
  | nil => exact ⟨rfl, rfl, rfl, rfl⟩
  | cons i places ih =>
    obtain ⟨hhead, htail, hfree, hsize⟩ := ih (l.link (some (before i)) (some i))
    rw [head_link] at hhead
    rw [tail_link] at htail
    rw [free_link] at hfree
    rw [size_link] at hsize
    exact ⟨hhead, htail, hfree, hsize⟩

/-- The loop of `List::Initialize` extends a segment by the places that follow it. -/
theorem foldl_link_segment {l : LinkedList α capacity} {front rest : List (Fin capacity.toNat)}
    {a : Fin capacity.toNat} (h : Segment l.next l.prev none (front ++ [a]) none)
    (hchain : (a :: rest).IsChain fun i j => before j = i) (hnodup : (front ++ a :: rest).Nodup)
    (hrest : ∀ i ∈ rest, l.next i = none) :
    let l' := rest.foldl (fun l i => l.link (some (before i)) (some i)) l
    Segment l'.next l'.prev none (front ++ a :: rest) none := by
  induction rest generalizing l front a with
  | nil => exact h
  | cons b rest ih =>
    obtain ⟨hb, hchain⟩ := List.isChain_cons_cons.mp hchain
    have hsplit : front ++ a :: b :: rest = front ++ [a] ++ b :: rest := by simp
    rw [hsplit] at hnodup ⊢
    rw [List.foldl_cons]
    have hone : (front ++ [a] ++ [b]).Nodup :=
      hnodup.sublist (List.Sublist.append_left (by simp) _)
    have hnode : Segment l.next l.prev (l.prev b) [b] none := ⟨rfl, hrest b (by simp), trivial⟩
    have hjoined := h.link hnode hone (fun h => by simp at h) (fun h => by cases h)
    rw [List.getLast?_concat, List.head?_cons] at hjoined
    refine ih ?_ hchain hnodup fun i hi => ?_
    · rw [next_link, prev_link, hb]
      exact hjoined
    · have hne : i ≠ a := by
        rintro rfl
        exact (List.nodup_append.mp hnodup).2.2 i (by simp) i (by simp [hi]) rfl
      rw [next_link, hb, linkNext, if_neg fun heq => hne (Option.some.inj heq)]
      exact hrest i (by simp [hi])

/-- The new list has no nodes, and all nodes are free in the order of the array. -/
theorem init_represents [Inhabited α] (capacity : UInt32) :
    (init capacity : LinkedList α capacity).Represents [] (List.finRange capacity.toNat) := by
  have hchain : (List.finRange capacity.toNat).IsChain fun i j => before j = i := by
    refine List.isChain_iff_getElem.mpr fun i hi => ?_
    simp [before]
  unfold init initializeList
  split_ifs with hpos
  · obtain ⟨first, rest, hplaces⟩ : ∃ first rest, List.finRange capacity.toNat = first :: rest :=
      List.exists_cons_of_ne_nil (by simpa using hpos.ne')
    have hfirst : first = ⟨0, hpos⟩ := by
      have h0 : (List.finRange capacity.toNat)[0]? = some ⟨0, hpos⟩ := by simp [hpos]
      rw [hplaces] at h0
      simpa using h0
    have hnodup := List.nodup_finRange capacity.toNat
    rw [hplaces] at hchain hnodup ⊢
    let l : LinkedList α capacity :=
      { underlying := fun _ => { value := default }, free := some ⟨0, hpos⟩ }
    -- The loop links every node behind the one before it into the free list.
    obtain ⟨hhead, htail, hfree, hsize⟩ := foldl_link_spec l rest
    have hsegment := @foldl_link_segment α capacity l [] rest first
      ⟨rfl, rfl, trivial⟩ hchain hnodup
      fun _ _ => rfl
    refine ⟨?_, hhead, htail, trivial, ?_, ⟨none, hsegment⟩, congrArg UInt32.toNat hsize⟩
    · rw [List.nil_append, hplaces]
    · rw [List.head?_cons, hfirst]
      exact hfree
  · have hzero : List.finRange capacity.toNat = [] := by simpa using hpos
    rw [hzero]
    exact ⟨by rw [hzero]; rfl, rfl, rfl, trivial, rfl, ⟨none, trivial⟩, rfl⟩

/-! ## Iteration -/

/-- An iterator at the start of a part of the list moves to the next node of the part. -/
theorem Represents.iterator_next {l : LinkedList α capacity}
    {front rest free : List (Fin capacity.toNat)} (h : l.Represents (front ++ rest) free) :
    Iterator.next l { current := rest.head? } = (rest.head?, { current := rest.tail.head? }) := by
  cases rest with
  | nil => rfl
  | cons x rest =>
    obtain ⟨-, -, hnext, -⟩ := segment_append.mp h.segment
    rw [Option.or_none] at hnext
    rw [List.tail_cons, ← hnext]
    rfl

/-- `Iterator::Find` stops at the first match from its node on. -/
theorem Represents.iterator_find {l : LinkedList α capacity}
    {front rest free : List (Fin capacity.toNat)} (h : l.Represents (front ++ rest) free)
    (isMatch : α → Bool) {fuel : ℕ} (hfuel : rest.length ≤ fuel) :
    Iterator.find l isMatch fuel { current := rest.head? } =
      some (rest.find? fun node => isMatch (l.value node),
        { current := rest.find? fun node => isMatch (l.value node) }) := by
  induction rest generalizing front fuel with
  | nil => cases fuel <;> rfl
  | cons x rest ih =>
    cases fuel with
    | zero => cases hfuel
    | succ fuel =>
      obtain ⟨-, -, hnext, -⟩ := segment_append.mp h.segment
      rw [Option.or_none] at hnext
      rw [List.head?_cons, Iterator.find, List.find?_cons]
      cases isMatch (l.value x) with
      | true => rfl
      | false =>
        have hsplit : l.Represents (front ++ [x] ++ rest) free := by simpa using h
        rw [hnext]
        exact ih hsplit (Nat.le_of_succ_le_succ hfuel)

/-- The values after `ForeachWhile`: the function has been applied up to the first value that it
does not accept. -/
def sweep {β : Type*} (select : α → Bool × α) : List (β × α) → List (β × α)
  | [] => []
  | (node, value) :: rest =>
    (node, (select value).2) :: if (select value).1 then sweep select rest else rest

/-- A sweep that matches everything acts on every entry. -/
theorem sweep_true {β : Type*} (action : α → α) (entries : List (β × α)) :
    sweep (fun value => (true, action value)) entries =
      entries.map fun entry => (entry.1, action entry.2) := by
  induction entries with
  | nil => rfl
  | cons entry entries ih =>
    rw [sweep, if_pos rfl, ih]
    rfl

/-- The loop of `List::ForeachWhile` from a node on. -/
theorem Represents.foreachWhileLoop {l : LinkedList α capacity}
    {front rest free : List (Fin capacity.toNat)} (h : l.Represents (front ++ rest) free)
    (select : α → Bool × α) {fuel : ℕ} (hfuel : rest.length ≤ fuel) :
    ∃ l', foreachWhileLoop select fuel { current := rest.head? } l = some l' ∧
      l'.Represents (front ++ rest) free ∧ (∀ node ∉ rest, l'.value node = l.value node) ∧
      rest.map (fun node => (node, l'.value node)) =
        sweep select (rest.map fun node => (node, l.value node)) := by
  induction rest generalizing l front fuel with
  | nil =>
    refine ⟨l, ?_, h, fun _ _ => rfl, rfl⟩
    cases fuel <;> rfl
  | cons x rest ih =>
    cases fuel with
    | zero => cases hfuel
    | succ fuel =>
      have hx : x ∉ rest := by
        have hnodup := (List.nodup_append.mp h.nodup).1
        exact (List.nodup_cons.mp (List.nodup_append.mp hnodup).2.1).1
      have hset := h.setValue x (select (l.value x)).2
      have hvalue := value_setValue x (select (l.value x)).2 l
      have hnext : Iterator.next l { current := some x } = (some x, { current := rest.head? }) := by
        have hsplit : l.Represents (front ++ (x :: rest)) free := h
        exact hsplit.iterator_next
      rw [List.head?_cons, LinkedList.foreachWhileLoop, hnext]
      dsimp only
      generalize (l.modify x fun node => { node with value := (select (l.value x)).2 }) = l₁
        at hset hvalue ⊢
      have hvalue_x : l₁.value x = (select (l.value x)).2 := by rw [hvalue, Function.update_self]
      have hvalue_ne : ∀ node ≠ x, l₁.value node = l.value node := fun node hne => by
        rw [hvalue, Function.update_of_ne hne]
      -- The values behind this node are untouched.
      have hrest : (rest.map fun node => (node, l₁.value node)) =
          rest.map fun node => (node, l.value node) :=
        List.map_congr_left fun node hnode => by
          rw [hvalue_ne node fun heq => hx (heq ▸ hnode)]
      simp only [List.map_cons, sweep]
      split_ifs with hresult
      · have hsplit : l₁.Represents (front ++ [x] ++ rest) free := by simpa using hset
        obtain ⟨l', hloop, hrepresents, hother, hmap⟩ :=
          ih hsplit (Nat.le_of_succ_le_succ hfuel)
        refine ⟨l', hloop, by simpa using hrepresents, fun node hnode => ?_, ?_⟩
        · rw [List.mem_cons, not_or] at hnode
          rw [hother node hnode.2, hvalue_ne node hnode.1]
        · rw [hmap, hrest, hother x hx, hvalue_x]
      · refine ⟨l₁, rfl, hset, fun node hnode => hvalue_ne node fun heq =>
          hnode (by simp [heq]), ?_⟩
        rw [hrest, hvalue_x]

/-- The loop of `List::RemoveAll` from a node on. The iterator is one node ahead, so that the node
behind it can be removed. -/
theorem Represents.removeAllLoop {l : LinkedList α capacity}
    {front rest free : List (Fin capacity.toNat)} (h : l.Represents (front ++ rest) free)
    (isMatch : α → Bool) {fuel : ℕ} (hfuel : rest.length ≤ fuel) (count : UInt32) :
    ∃ l' free', removeAllLoop isMatch fuel { current := rest.tail.head? } rest.head? count l =
        some (count + UInt32.ofNat (rest.countP fun node => isMatch (l.value node)), l') ∧
      l'.Represents (front ++ rest.filter fun node => !isMatch (l.value node)) free' ∧
      l'.value = l.value := by
  induction rest generalizing l front free fuel count with
  | nil =>
    refine ⟨l, free, ?_, by simpa using h, rfl⟩
    cases fuel <;> simp [LinkedList.removeAllLoop]
  | cons x rest ih =>
    cases fuel with
    | zero => cases hfuel
    | succ fuel =>
      have hsplit : l.Represents (front ++ [x] ++ rest) free := by simpa using h
      rw [List.head?_cons, List.tail_cons, LinkedList.removeAllLoop, hsplit.iterator_next]
      dsimp only
      split_ifs with hmatch
      · -- The iterator already stands behind the removed node.
        obtain ⟨hremove, hvalue⟩ := h.remove
        obtain ⟨l', free', hloop, hrepresents, hvalue'⟩ :=
          ih hremove (Nat.le_of_succ_le_succ hfuel) (count + 1)
        rw [hvalue] at hloop hrepresents
        refine ⟨l', free', ?_, ?_, hvalue'.trans hvalue⟩
        · have hcount : (x :: rest).countP (fun node => isMatch (l.value node)) =
              1 + rest.countP fun node => isMatch (l.value node) := by
            rw [List.countP_cons_of_pos (by simpa using hmatch), Nat.add_comm]
          rw [hloop, hcount, UInt32.ofNat_add, ← UInt32.add_assoc]
          rfl
        · rwa [List.filter_cons_of_neg (by simpa using hmatch)]
      · obtain ⟨l', free', hloop, hrepresents, hvalue'⟩ :=
          ih hsplit (Nat.le_of_succ_le_succ hfuel) count
        refine ⟨l', free', ?_, ?_, hvalue'⟩
        · rw [hloop, List.countP_cons_of_neg (by simpa using hmatch)]
        · rw [List.filter_cons_of_pos (by simpa using hmatch)]
          simpa using hrepresents

/-! ## What holds between the calls -/

/-- The pointers of the list. -/
structure WellLinked (l : LinkedList α capacity) : Prop where
  /-- Every node of the array is in the list or free, and only once. -/
  partition : (l.nodes ++ l.freeNodes).Perm (List.finRange capacity.toNat)
  head : l.head = l.nodes.head?
  tail : l.tail = l.nodes.getLast?
  free : l.free = l.freeNodes.head?
  /-- The nodes lead to each other in both directions, and the ends lead nowhere. -/
  links : ∀ i node, l.nodes[i]? = some node →
    l.next node = l.nodes[i + 1]? ∧ l.prev node = if i = 0 then none else l.nodes[i - 1]?
  freeLinks : ∀ i node, l.freeNodes[i]? = some node →
    l.next node = l.freeNodes[i + 1]? ∧ (i ≠ 0 → l.prev node = l.freeNodes[i - 1]?)
  size : l.size.toNat = l.nodes.length

/-- A list that represents nodes is well linked. -/
theorem Represents.wellLinked {l : LinkedList α capacity} {used free : List (Fin capacity.toNat)}
    (h : l.Represents used free) : l.WellLinked := by
  obtain ⟨before, hfree⟩ := h.freeSegment
  refine ⟨?_, ?_, ?_, ?_, fun i node hnode => ?_, fun i node hnode => ?_, ?_⟩
  · rw [h.nodes_eq, h.freeNodes_eq]
    exact h.perm
  · rw [h.nodes_eq]
    exact h.head
  · rw [h.nodes_eq]
    exact h.tail
  · rw [h.freeNodes_eq]
    exact h.free
  · rw [h.nodes_eq] at hnode ⊢
    obtain ⟨hnext, hprev⟩ := h.segment.getElem? hnode
    exact ⟨hnext.trans Option.or_none, hprev⟩
  · rw [h.freeNodes_eq] at hnode ⊢
    obtain ⟨hnext, hprev⟩ := hfree.getElem? hnode
    exact ⟨hnext.trans Option.or_none, fun hi => hprev.trans (if_neg hi)⟩
  · rw [h.nodes_eq]
    exact h.size

/-- `List::ForeachWhile`. -/
theorem Represents.foreachWhile {l : LinkedList α capacity} {used free : List (Fin capacity.toNat)}
    (h : l.Represents used free) (select : α → Bool × α) :
    ∃ l', l.foreachWhile select = some l' ∧ l'.Represents used free ∧
      l'.entries = sweep select l.entries := by
  have hlength := h.length
  have hwhole : l.Represents ([] ++ used) free := h
  obtain ⟨l', hloop, hrepresents, -, hmap⟩ := hwhole.foreachWhileLoop select
    (show used.length ≤ capacity.toNat by omega)
  refine ⟨l', ?_, hrepresents, ?_⟩
  · rw [LinkedList.foreachWhile, iterate, h.head]
    exact hloop
  · rw [Represents.entries_eq hrepresents, h.entries_eq]
    exact hmap

/-- `List::RemoveAll`. -/
theorem Represents.removeAll {l : LinkedList α capacity} {used free : List (Fin capacity.toNat)}
    (h : l.Represents used free) (isMatch : α → Bool) :
    ∃ count l' used' free', l.removeAll isMatch = some (count, l') ∧ l'.Represents used' free' ∧
      l'.entries = (l.entries.filter fun entry => !isMatch entry.2) ∧
      count.toNat = l.entries.countP fun entry => isMatch entry.2 := by
  have hlength := h.length
  have hlt := capacity.toNat_lt
  have hwhole : l.Represents ([] ++ used) free := h
  obtain ⟨l', free', hloop, hrepresents, hvalue⟩ := hwhole.removeAllLoop isMatch
    (show used.length ≤ capacity.toNat by omega) 0
  have hnext : Iterator.next l l.iterate = (used.head?, { current := used.tail.head? }) := by
    rw [iterate, h.head]
    exact hwhole.iterator_next
  have hremoved : l.removeAll isMatch =
      some (0 + UInt32.ofNat (used.countP fun node => isMatch (l.value node)), l') := by
    rw [LinkedList.removeAll, hnext]
    exact hloop
  refine ⟨_, l', _, free', hremoved, hrepresents, ?_, ?_⟩
  · rw [hrepresents.entries_eq, h.entries_eq, List.nil_append, hvalue, List.filter_map]
    rfl
  · have hcount := List.countP_le_length (p := fun node => isMatch (l.value node)) (l := used)
    rw [h.entries_eq, List.countP_map, UInt32.zero_add]
    exact Nat.mod_eq_of_lt (by omega)

end LinkedList

namespace ListUse

variable {α : Type*} {capacity : UInt32}

open LinkedList

/-- A node that is removed is in the list. -/
def OnList (s : ListUse α capacity) : ListOperation α capacity.toNat → Prop
  | .remove node => node ∈ s.list.nodes
  | _ => True

/-- What a use does to the values of the list, and what it returns. -/
def Performs (s : ListUse α capacity) : ListOperation α capacity.toNat → Prop
  | .add value =>
    -- The list is full, or its first free node is appended.
    match (s.list.add value).1 with
    | none => s.list.size = capacity ∧ (s.list.add value).2 = s.list
    | some node => s.list.size ≠ capacity ∧ s.list.freeNodes.head? = some node ∧
        (s.list.add value).2.entries = s.list.entries ++ [(node, value)]
  | .remove node => ∃ front value rest, s.list.entries = front ++ (node, value) :: rest ∧
      (s.list.remove node).entries = front ++ rest
  | .removeAll isMatch => ∃ count l, s.list.removeAll isMatch = some (count, l) ∧
      l.entries = (s.list.entries.filter fun entry => !isMatch entry.2) ∧
      count.toNat = s.list.entries.countP fun entry => isMatch entry.2
  | .foreach action => ∃ l, s.list.foreach action = some l ∧
      l.entries = s.list.entries.map fun entry => (entry.1, action entry.2)
  | .foreachWhile select => ∃ l, s.list.foreachWhile select = some l ∧
      l.entries = sweep select s.list.entries
  | .iterate => s.list.iterate.current = s.list.nodes[0]?
  | .next => ∀ i, s.iterator.current = s.list.nodes[i]? →
      s.iterator.next s.list = (s.list.nodes[i]?, { current := s.list.nodes[i + 1]? })
  | .find isMatch => ∀ i, s.iterator.current = s.list.nodes[i]? →
      s.iterator.find s.list isMatch capacity.toNat =
        some ((s.list.nodes.drop i).find? (fun node => isMatch (s.list.value node)),
          { current := (s.list.nodes.drop i).find? fun node => isMatch (s.list.value node) })

/-- One use keeps the nodes in order, and does what it says. -/
theorem step_represents {s : ListUse α capacity} {used free : List (Fin capacity.toNat)}
    (h : s.list.Represents used free) {operation : ListOperation α capacity.toNat}
    (hremove : s.OnList operation) :
    (∃ used' free', (s.step operation).list.Represents used' free') ∧ s.Performs operation := by
  cases operation with
  | add value =>
    cases free with
    | nil =>
      have hfull := h.add_full value
      have hlength := h.length
      -- Without a free node all nodes are used.
      have hsize : s.list.size = capacity := UInt32.toNat_inj.mp (h.size.trans hlength)
      have hsame : (s.list.add value).2 = s.list := congrArg Prod.snd hfull
      refine ⟨⟨used, [], ?_⟩, ?_⟩
      · change (s.list.add value).2.Represents used []
        rw [hsame]
        exact h
      · dsimp only [Performs]
        rw [hfull]
        exact ⟨hsize, rfl⟩
    | cons x free =>
      obtain ⟨hresult, hrepresents, -⟩ := h.add value
      have hlength := h.length
      have hsize : s.list.size ≠ capacity := fun heq => by
        have hused := h.size
        rw [heq] at hused
        rw [List.length_cons] at hlength
        omega
      refine ⟨⟨used ++ [x], free, hrepresents⟩, ?_⟩
      dsimp only [Performs]
      rw [hresult]
      dsimp only
      exact ⟨hsize, by rw [h.freeNodes_eq]; rfl, h.entries_add value⟩
  | remove node =>
    have hnode : node ∈ used := h.nodes_eq ▸ hremove
    -- The list is cut at the removed node.
    obtain ⟨front, rest, rfl⟩ := List.append_of_mem hnode
    obtain ⟨hrepresents, hvalue⟩ := h.remove
    refine ⟨⟨_, _, hrepresents⟩, front.map fun node => (node, s.list.value node),
      s.list.value node, rest.map fun node => (node, s.list.value node), ?_, ?_⟩
    · rw [h.entries_eq, List.map_append, List.map_cons]
    · rw [hrepresents.entries_eq, List.map_append, hvalue]
  | removeAll isMatch =>
    obtain ⟨count, l, used', free', hremoved, hrepresents, hentries, hcount⟩ := h.removeAll isMatch
    refine ⟨⟨used', free', ?_⟩, count, l, hremoved, hentries, hcount⟩
    change ((s.list.removeAll isMatch).elim s.list Prod.snd).Represents used' free'
    rw [hremoved]
    exact hrepresents
  | foreach action =>
    obtain ⟨l, hloop, hrepresents, hentries⟩ := h.foreachWhile fun value => (true, action value)
    refine ⟨⟨used, free, ?_⟩, l, hloop, hentries.trans (sweep_true action _)⟩
    change ((s.list.foreach action).getD s.list).Represents used free
    rw [foreach, hloop]
    exact hrepresents
  | foreachWhile select =>
    obtain ⟨l, hloop, hrepresents, hentries⟩ := h.foreachWhile select
    refine ⟨⟨used, free, ?_⟩, l, hloop, hentries⟩
    change ((s.list.foreachWhile select).getD s.list).Represents used free
    rw [hloop]
    exact hrepresents
  | iterate =>
    refine ⟨⟨used, free, h⟩, ?_⟩
    rw [Performs, h.nodes_eq, iterate, h.head, List.head?_eq_getElem?]
  | next =>
    refine ⟨⟨used, free, h⟩, fun i hi => ?_⟩
    rw [h.nodes_eq] at hi ⊢
    have hsplit : s.list.Represents (used.take i ++ used.drop i) free := by
      rwa [List.take_append_drop]
    have hiterator : s.iterator = { current := (used.drop i).head? } :=
      congrArg Iterator.mk (hi.trans List.head?_drop.symm)
    rw [hiterator, hsplit.iterator_next, List.tail_drop, List.head?_drop, List.head?_drop]
  | find isMatch =>
    refine ⟨⟨used, free, h⟩, fun i hi => ?_⟩
    have hlength := h.length
    rw [h.nodes_eq] at hi ⊢
    have hsplit : s.list.Represents (used.take i ++ used.drop i) free := by
      rwa [List.take_append_drop]
    have hiterator : s.iterator = { current := (used.drop i).head? } :=
      congrArg Iterator.mk (hi.trans List.head?_drop.symm)
    rw [hiterator]
    exact hsplit.iterator_find isMatch (by rw [List.length_drop]; omega)

/-- Over every run, the list and the free nodes together have every node of the array once, the
pointers lead through the list in both directions, and every use does what it says. -/
theorem run_wellLinked [Inhabited α] (capacity : UInt32)
    (operations : List (ListOperation α capacity.toNat))
    (h : Machine.StepsMeet step OnList { list := init capacity } operations) :
    (Machine.run step { list := init capacity } operations).list.WellLinked ∧
      Machine.StepsMeet step Performs { list := init capacity } operations := by
  have hstep : ∀ (s : ListUse α capacity) operation,
      (∃ used free, s.list.Represents used free) → s.OnList operation →
        (∃ used free, (s.step operation).list.Represents used free) ∧ s.Performs operation :=
    fun s operation ⟨used, free, hs⟩ hremove => step_represents hs hremove
  have hinit : ∃ used free, (init capacity : LinkedList α capacity).Represents used free :=
    ⟨_, _, init_represents capacity⟩
  obtain ⟨used, free, hrun⟩ := Machine.run_invariant step
    (fun s operation hs hremove => (hstep s operation hs hremove).1) _ operations hinit h
  exact ⟨hrun.wellLinked, Machine.StepsMeet.of_invariant step hstep hinit h⟩

/-- Three nodes are filled, the middle one is removed, and the even values after it. -/
theorem run_wellLinked_threeNodes :
    let operations := [ListOperation.add 10, .add 11, .add 13, .remove ⟨1, by decide⟩,
      .removeAll fun value => value % 2 = 0, .add 17]
    let s := Machine.run step { list := (init 3 : LinkedList ℕ 3) } operations
    s.list.WellLinked ∧ s.list.entries.map (fun entry => (entry.1.val, entry.2)) =
      [(2, 13), (0, 17)] := by
  intro operations s
  have h : Machine.StepsMeet step OnList { list := (init 3 : LinkedList ℕ 3) } operations :=
    ⟨trivial, trivial, trivial, by unfold OnList; decide +kernel, trivial, trivial, trivial⟩
  exact ⟨(run_wellLinked 3 operations h).1, by decide +kernel⟩

end ListUse

end OpenDnp3.Outstation
