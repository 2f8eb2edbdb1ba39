import Mathlib.Data.List.Basic
import Mathlib.Data.List.Nodup

/-!
# Doubly linked segments

A memory gives every address the addresses before and after it. A segment is a list of addresses
that are linked in this order (`Segment`). Segments next to each other are one segment
(`segment_append`), two segments become one when the end of the first is linked to the start of the
second (`Segment.link`), and a link elsewhere leaves a segment as it is (`Segment.link_frame`).
-/

namespace DoublyLinked

variable {A : Type*} {next prev next' prev' : A → Option A}

/-- The addresses are linked in the order of the list, between `before` and `after`. -/
def Segment (next prev : A → Option A) : Option A → List A → Option A → Prop
  | _, [], _ => True
  | before, a :: l, after =>
    prev a = before ∧ next a = l.head?.or after ∧ Segment next prev (some a) l after

/-- The addresses from a pointer on, at most `fuel` of them. -/
def follow (next : A → Option A) : ℕ → Option A → List A
  | 0, _ => []
  | _ + 1, none => []
  | fuel + 1, some a => a :: follow next fuel (next a)

/-- The links to the next address, once `first` has been linked to `second`. -/
def linkNext [DecidableEq A] (next : A → Option A) (first second : Option A) (a : A) : Option A :=
  if some a = first then second else next a

/-- The links to the previous address, once `first` has been linked to `second`. -/
def linkPrev [DecidableEq A] (prev : A → Option A) (first second : Option A) (a : A) : Option A :=
  if some a = second then first else prev a

/-- A segment is two segments, linked to each other where they meet. -/
theorem segment_append {before after : Option A} {l l' : List A} :
    Segment next prev before (l ++ l') after ↔
      Segment next prev before l (l'.head?.or after) ∧
        Segment next prev (l.getLast?.or before) l' after := by
  induction l generalizing before with
  | nil => simp [Segment]
  | cons a l ih =>
    rw [List.cons_append, Segment, Segment, ih, List.getLast?_cons]
    cases l with
    | nil => simp [Segment, and_assoc]
    | cons b l => simp [Segment, List.getLast?_cons, and_assoc]

/-- A segment depends on the links of its own addresses only. -/
theorem Segment.congr {before after : Option A} {l : List A} (h : Segment next prev before l after)
    (hnext : ∀ a ∈ l, next' a = next a) (hprev : ∀ a ∈ l, prev' a = prev a) :
    Segment next' prev' before l after := by
  induction l generalizing before with
  | nil => trivial
  | cons a l ih =>
    obtain ⟨hp, hn, hrest⟩ := h
    refine ⟨(hprev a List.mem_cons_self).trans hp, (hnext a List.mem_cons_self).trans hn, ?_⟩
    exact ih hrest (fun b hb => hnext b (List.mem_cons_of_mem a hb))
      (fun b hb => hprev b (List.mem_cons_of_mem a hb))

/-- The links of a segment, place by place. -/
theorem Segment.getElem? {before after : Option A} {l : List A}
    (h : Segment next prev before l after) {i : ℕ} {a : A} (hi : l[i]? = some a) :
    next a = l[i + 1]?.or after ∧ prev a = if i = 0 then before else l[i - 1]? := by
  induction l generalizing before i with
  | nil => cases hi
  | cons b l ih =>
    obtain ⟨hp, hn, hrest⟩ := h
    cases i with
    | zero =>
      obtain rfl : b = a := by simpa using hi
      rw [List.getElem?_cons_succ, ← List.head?_eq_getElem?]
      exact ⟨hn, hp⟩
    | succ i =>
      obtain ⟨hnext, hprev⟩ := ih hrest (by simpa using hi)
      refine ⟨hnext, hprev.trans ?_⟩
      cases i <;> rfl

/-- The addresses of a segment are those that its links lead to. -/
theorem Segment.follow_eq {before : Option A} {l : List A} (h : Segment next prev before l none)
    {fuel : ℕ} (hfuel : l.length ≤ fuel) : follow next fuel l.head? = l := by
  induction l generalizing before fuel with
  | nil => cases fuel <;> rfl
  | cons a l ih =>
    obtain ⟨-, hn, hrest⟩ := h
    cases fuel with
    | zero => cases hfuel
    | succ fuel =>
      rw [List.head?_cons, follow, hn, Option.or_none, ih hrest (by simpa using hfuel)]

/-- A list without repetitions does not hold the address that ends it in its front. -/
theorem getLast?_ne_of_nodup {l : List A} {a b : A} (h : (l ++ [b]).Nodup)
    (ha : a ∈ l) : a ≠ b := by
  rintro rfl
  exact (List.nodup_append.mp h).2.2 a ha a (List.mem_singleton_self a) rfl

section Link

variable [DecidableEq A] {first second before after : Option A} {l l' : List A}

/-- A link between other addresses leaves a segment as it is. -/
theorem Segment.link_frame (h : Segment next prev before l after)
    (hfirst : ∀ a ∈ l, some a ≠ first) (hsecond : ∀ a ∈ l, some a ≠ second) :
    Segment (linkNext next first second) (linkPrev prev first second) before l after :=
  h.congr (fun a ha => if_neg (hfirst a ha)) (fun a ha => if_neg (hsecond a ha))

/-- Two segments are one when the end of the first is linked to the start of the second. -/
theorem Segment.link {x y : Option A} (h : Segment next prev before l x)
    (h' : Segment next prev y l' after) (hnodup : (l ++ l').Nodup)
    (hbefore : l = [] → before = none) (hafter : l' = [] → after = none) :
    Segment (linkNext next l.getLast? l'.head?) (linkPrev prev l.getLast? l'.head?) before (l ++ l')
      after := by
  obtain ⟨hl, hl', hdisjoint⟩ := List.nodup_append.mp hnodup
  refine segment_append.mpr ⟨?_, ?_⟩
  · -- Only the last address of the first segment has a new link.
    rcases List.eq_nil_or_concat l with rfl | ⟨front, a, rfl⟩
    · trivial
    · rw [List.concat_eq_append] at h hl hdisjoint ⊢
      obtain ⟨hfront, hp, hn, -⟩ := segment_append.mp h
      have hhead : ∀ b ∈ front ++ [a], some b ≠ l'.head? := fun b hb heq =>
        hdisjoint b hb b (List.mem_of_head? heq.symm) rfl
      refine segment_append.mpr ⟨hfront.link_frame (fun b hb heq => ?_) (fun b hb => ?_), ?_⟩
      · rw [List.getLast?_concat] at heq
        exact getLast?_ne_of_nodup hl hb (Option.some.inj heq)
      · exact hhead b (List.mem_append_left _ hb)
      · refine ⟨(if_neg (hhead a (by simp))).trans hp, ?_, trivial⟩
        rw [linkNext, List.getLast?_concat, if_pos rfl]
        cases l' with
        | nil => simp [hafter rfl]
        | cons b l' => rfl
  · -- Only the first address of the second segment has a new link.
    cases l' with
    | nil => trivial
    | cons b l' =>
      obtain ⟨hp, hn, hrest⟩ := h'
      have hlast : ∀ a ∈ b :: l', some a ≠ l.getLast? := fun a ha heq =>
        hdisjoint a (List.mem_of_getLast? heq.symm) a ha rfl
      refine ⟨?_, (if_neg (hlast b List.mem_cons_self)).trans hn, ?_⟩
      · rw [linkPrev, List.head?_cons, if_pos rfl]
        cases hlast : l.getLast? with
        | none => rw [hbefore (List.getLast?_eq_none_iff.mp hlast)]; rfl
        | some a => rfl
      · refine hrest.link_frame (fun a ha => hlast a (List.mem_cons_of_mem b ha)) ?_
        rintro a ha heq
        rw [List.head?_cons] at heq
        exact (List.nodup_cons.mp hl').1 (Option.some.inj heq ▸ ha)

end Link

end DoublyLinked
