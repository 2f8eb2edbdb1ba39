import OpenDnp3.Lib.DoublyLinked

/-!
# The list of the event buffer

`outstation/event/List.h`: a doubly linked list whose nodes come from an array that is allocated
once. The nodes that are not in the list form a second list through their `next` pointers.
-/

namespace OpenDnp3.Outstation

/-- `Node`. A pointer to a node is its position in the array. -/
structure Node (α : Type*) (n : ℕ) where
  value : α
  prev : Option (Fin n) := none
  next : Option (Fin n) := none
  deriving DecidableEq, Repr

/-- `List`. -/
structure LinkedList (α : Type*) (capacity : UInt32) where
  size : UInt32 := 0
  head : Option (Fin capacity.toNat) := none
  tail : Option (Fin capacity.toNat) := none
  free : Option (Fin capacity.toNat) := none
  underlying : Fin capacity.toNat → Node α capacity.toNat

namespace LinkedList

variable {α : Type*} {capacity : UInt32}

/-- `Node::value`. -/
def value (l : LinkedList α capacity) (node : Fin capacity.toNat) : α := (l.underlying node).value

/-- `Node::prev`. -/
def prev (l : LinkedList α capacity) (node : Fin capacity.toNat) : Option (Fin capacity.toNat) :=
  (l.underlying node).prev

/-- `Node::next`. -/
def next (l : LinkedList α capacity) (node : Fin capacity.toNat) : Option (Fin capacity.toNat) :=
  (l.underlying node).next

/-- Changes a node. -/
def modify (node : Fin capacity.toNat)
    (f : Node α capacity.toNat → Node α capacity.toNat) (l : LinkedList α capacity) :
    LinkedList α capacity :=
  { l with underlying := Function.update l.underlying node (f (l.underlying node)) }

/-- Writes to a node through its pointer, unless this is null. -/
def modifyAt (pointer : Option (Fin capacity.toNat))
    (f : Node α capacity.toNat → Node α capacity.toNat) (l : LinkedList α capacity) :
    LinkedList α capacity :=
  match pointer with
  | none => l
  | some node => l.modify node f

/-- `List::Link`. -/
def link (first second : Option (Fin capacity.toNat)) (l : LinkedList α capacity) :
    LinkedList α capacity :=
  (l.modifyAt first fun node => { node with next := second }).modifyAt second fun node =>
    { node with prev := first }

/-- The place before a place of the array. -/
def before {n : ℕ} (i : Fin n) : Fin n := ⟨i.val - 1, by omega⟩

/-- `List::Initialize`. -/
def initializeList (l : LinkedList α capacity) : LinkedList α capacity :=
  if h : 0 < capacity.toNat then
    (List.finRange capacity.toNat).tail.foldl
      (fun l i => l.link (some (before i)) (some i)) { l with free := some ⟨0, h⟩ }
  else l

/-- `List::List`. -/
def init [Inhabited α] (capacity : UInt32) : LinkedList α capacity :=
  initializeList { underlying := fun _ => { value := default } }

/-- `List::IsFull`. -/
def isFull (l : LinkedList α capacity) : Bool := l.free.isNone

/-- `List::Insert`. -/
def insert (value : α) (left right : Option (Fin capacity.toNat)) (l : LinkedList α capacity) :
    Option (Fin capacity.toNat) × LinkedList α capacity :=
  match l.free with
  | none => (none, l)
  | some newNode =>
    let l := { l with free := l.next newNode }
    let l := l.modify newNode fun node => { node with value }
    let l := { l with size := l.size + 1 }
    let l := (l.link left (some newNode)).link (some newNode) right
    let l := if left.isNone then { l with head := some newNode } else l
    let l := if right.isNone then { l with tail := some newNode } else l
    (some newNode, l)

/-- `List::Add`. -/
def add (value : α) (l : LinkedList α capacity) :
    Option (Fin capacity.toNat) × LinkedList α capacity :=
  l.insert value l.tail none

/-- The change of the head and the tail in `List::Remove`. -/
def removeEnds (node : Fin capacity.toNat) (l : LinkedList α capacity) : LinkedList α capacity :=
  let l := if some node = l.head then { l with head := l.next node } else l
  if some node = l.tail then { l with tail := l.tail.bind l.prev } else l

/-- `List::Remove`. -/
def remove (node : Fin capacity.toNat) (l : LinkedList α capacity) : LinkedList α capacity :=
  let l := l.removeEnds node
  let l := l.link (l.prev node) (l.next node)
  let l := l.modify node fun node => { node with prev := none }
  let l := l.link (some node) l.free
  { l with free := some node, size := l.size - 1 }

/-! ## Iteration -/

/-- `List::Iterator`. -/
structure Iterator (n : ℕ) where
  current : Option (Fin n)
  deriving DecidableEq, Repr

/-- `List::Iterate`. -/
def iterate (l : LinkedList α capacity) : Iterator capacity.toNat := { current := l.head }

/-- `Iterator::Next`. -/
def Iterator.next (l : LinkedList α capacity) (iter : Iterator capacity.toNat) :
    Option (Fin capacity.toNat) × Iterator capacity.toNat :=
  match iter.current with
  | none => (none, iter)
  | some node => (some node, { current := l.next node })

/-- `Iterator::Find`. With too little fuel it does not return. -/
def Iterator.find (l : LinkedList α capacity) (isMatch : α → Bool) :
    ℕ → Iterator capacity.toNat → Option (Option (Fin capacity.toNat) × Iterator capacity.toNat)
  | _, { current := none } => some (none, { current := none })
  | 0, { current := some _ } => none
  | fuel + 1, { current := some node } =>
    if isMatch (l.value node) then some (some node, { current := some node })
    else Iterator.find l isMatch fuel { current := l.next node }

/-- The loop of `List::ForeachWhile`. The function may write to the value that it is called with. -/
def foreachWhileLoop (select : α → Bool × α) :
    ℕ → Iterator capacity.toNat → LinkedList α capacity → Option (LinkedList α capacity)
  | _, { current := none }, l => some l
  | 0, { current := some _ }, _ => none
  | fuel + 1, { current := some node }, l =>
    let iter := (Iterator.next l { current := some node }).2
    let (result, value) := select (l.value node)
    let l := l.modify node fun node => { node with value }
    if result then foreachWhileLoop select fuel iter l else some l

/-- `List::ForeachWhile`. -/
def foreachWhile (select : α → Bool × α) (l : LinkedList α capacity) :
    Option (LinkedList α capacity) :=
  foreachWhileLoop select capacity.toNat l.iterate l

/-- `List::Foreach`, whose loop is that of `ForeachWhile` without a result. -/
def foreach (action : α → α) (l : LinkedList α capacity) : Option (LinkedList α capacity) :=
  l.foreachWhile fun value => (true, action value)

/-- The loop of `List::RemoveAll`. -/
def removeAllLoop (isMatch : α → Bool) :
    ℕ → Iterator capacity.toNat → Option (Fin capacity.toNat) → UInt32 → LinkedList α capacity →
      Option (UInt32 × LinkedList α capacity)
  | _, _, none, count, l => some (count, l)
  | 0, _, some _, _, _ => none
  | fuel + 1, iter, some current, count, l =>
    let (next, iter) := iter.next l
    if isMatch (l.value current) then
      removeAllLoop isMatch fuel iter next (count + 1) (l.remove current)
    else removeAllLoop isMatch fuel iter next count l

/-- `List::RemoveAll`. -/
def removeAll (isMatch : α → Bool) (l : LinkedList α capacity) :
    Option (UInt32 × LinkedList α capacity) :=
  let (current, iter) := l.iterate.next l
  removeAllLoop isMatch capacity.toNat iter current 0 l

/-! ## The two lists of nodes -/

/-- The nodes in the list, in the order of their `next` pointers. -/
def nodes (l : LinkedList α capacity) : List (Fin capacity.toNat) :=
  DoublyLinked.follow l.next capacity.toNat l.head

/-- The nodes that are free, in the order of their `next` pointers. -/
def freeNodes (l : LinkedList α capacity) : List (Fin capacity.toNat) :=
  DoublyLinked.follow l.next capacity.toNat l.free

/-- The nodes in the list with their values. -/
def entries (l : LinkedList α capacity) : List (Fin capacity.toNat × α) :=
  l.nodes.map fun node => (node, l.value node)

end LinkedList

/-! ## Runs -/

/-- A use of a list. -/
inductive ListOperation (α : Type*) (n : ℕ) where
  | add (value : α)
  | remove (node : Fin n)
  | removeAll (isMatch : α → Bool)
  | foreach (action : α → α)
  | foreachWhile (select : α → Bool × α)
  | iterate
  | next
  | find (isMatch : α → Bool)

/-- A list with an iterator over it. -/
structure ListUse (α : Type*) (capacity : UInt32) where
  list : LinkedList α capacity
  iterator : LinkedList.Iterator capacity.toNat := { current := none }

/-- One use. A loop that does not end leaves the state as it is. -/
def ListUse.step {α : Type*} {capacity : UInt32} (s : ListUse α capacity) :
    ListOperation α capacity.toNat → ListUse α capacity
  | .add value => { s with list := (s.list.add value).2 }
  | .remove node => { s with list := s.list.remove node }
  | .removeAll isMatch => { s with list := (s.list.removeAll isMatch).elim s.list Prod.snd }
  | .foreach action => { s with list := (s.list.foreach action).getD s.list }
  | .foreachWhile select => { s with list := (s.list.foreachWhile select).getD s.list }
  | .iterate => { s with iterator := s.list.iterate }
  | .next => { s with iterator := (s.iterator.next s.list).2 }
  | .find isMatch =>
    { s with iterator := (s.iterator.find s.list isMatch capacity.toNat).elim s.iterator Prod.snd }

end OpenDnp3.Outstation
