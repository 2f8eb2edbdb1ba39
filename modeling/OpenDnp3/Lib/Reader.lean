import Mathlib.Data.List.Basic
import Mathlib.Order.Nat

/-!
# Readers

A reader takes a value from the front of a list of symbols, or fails. It is local when the value
depends on no symbol beyond those that it takes. Local readers compose, and a list that a local
reader consumes value by value falls apart into segments, one for each value.
-/

/-- A reader of values of type `α`, with errors of type `ε`. -/
def Reader (β ε α : Type*) := List β → Except ε (α × List β)

namespace Reader

variable {α β γ ε : Type*}

/-- The reader takes exactly these symbols and returns the value, whatever follows them. -/
def Takes (r : Reader β ε α) (symbols : List β) (a : α) : Prop :=
  ∀ rest, r (symbols ++ rest) = .ok (a, rest)

/-- Whenever the reader succeeds, it takes a first part of its input and looks at nothing more. -/
def IsLocal (r : Reader β ε α) : Prop :=
  ∀ input a rest, r input = .ok (a, rest) → ∃ symbols, input = symbols ++ rest ∧ r.Takes symbols a

/-- The reader that takes nothing. -/
def pure (a : α) : Reader β ε α := fun input => .ok (a, input)

/-- The reader that fails. -/
def fail (e : ε) : Reader β ε α := fun _ => .error e

/-- One reader after another. -/
def bind (r : Reader β ε α) (f : α → Reader β ε γ) : Reader β ε γ := fun input =>
  match r input with
  | .ok (a, rest) => f a rest
  | .error e => .error e

/-- The reader of a block of `n` symbols, with the error for a shorter input. -/
def block (n : ℕ) (short : ε) (f : List β → Except ε α) : Reader β ε α := fun input =>
  if input.length < n then .error short
  else
    match f (input.take n) with
    | .ok a => .ok (a, input.drop n)
    | .error e => .error e

/-- What two readers one after the other have returned. -/
theorem bind_eq_ok {r : Reader β ε α} {f : α → Reader β ε γ} {input : List β} {c : γ}
    {rest : List β} (h : r.bind f input = .ok (c, rest)) :
    ∃ a middle, r input = .ok (a, middle) ∧ f a middle = .ok (c, rest) := by
  unfold bind at h
  split at h
  case h_1 a middle hinput => exact ⟨a, middle, hinput, h⟩
  case h_2 e he => cases h

/-- What the reader of a block has returned. -/
theorem block_eq_ok {n : ℕ} {short : ε} {f : List β → Except ε α} {input : List β} {a : α}
    {rest : List β} (h : block n short f input = .ok (a, rest)) :
    n ≤ input.length ∧ f (input.take n) = .ok a ∧ rest = input.drop n := by
  unfold block at h
  split_ifs at h with hlen
  split at h
  case h_1 b hb =>
    simp only [Except.ok.injEq, Prod.mk.injEq] at h
    obtain ⟨rfl, rfl⟩ := h
    exact ⟨Nat.le_of_not_lt hlen, hb, rfl⟩
  case h_2 e he => cases h

/-- A reader that takes nothing is local. -/
theorem isLocal_pure (a : α) : (pure a : Reader β ε α).IsLocal := by
  intro input b rest h
  simp only [pure, Except.ok.injEq, Prod.mk.injEq] at h
  obtain ⟨rfl, rfl⟩ := h
  exact ⟨[], rfl, fun _ => rfl⟩

/-- A reader that fails is local. -/
theorem isLocal_fail (e : ε) : (fail e : Reader β ε α).IsLocal := by
  intro input a rest h
  cases h

/-- A local reader followed by local readers is local. -/
theorem IsLocal.bind {r : Reader β ε α} {f : α → Reader β ε γ} (hr : r.IsLocal)
    (hf : ∀ a, (f a).IsLocal) : (r.bind f).IsLocal := by
  intro input c rest h
  obtain ⟨a, middle, hinput, hmiddle⟩ := bind_eq_ok h
  obtain ⟨first, rfl, hfirst⟩ := hr _ _ _ hinput
  obtain ⟨second, rfl, hsecond⟩ := hf a _ _ _ hmiddle
  refine ⟨first ++ second, by simp, fun rest' => ?_⟩
  rw [Reader.bind, List.append_assoc, hfirst]
  exact hsecond rest'

/-- A block of symbols is read locally. -/
theorem isLocal_block (n : ℕ) (short : ε) (f : List β → Except ε α) :
    (block n short f).IsLocal := by
  intro input a rest h
  obtain ⟨hlen, hb, rfl⟩ := block_eq_ok h
  have htake : (input.take n).length = n := by
    rw [List.length_take]
    omega
  refine ⟨input.take n, (List.take_append_drop n input).symm, fun rest' => ?_⟩
  have hnot : ¬(input.take n ++ rest').length < n := by
    rw [List.length_append]
    omega
  rw [block, if_neg hnot, List.take_append_of_le_length htake.ge, List.take_take, min_self, hb]
  simp [htake]

/-- Every value that the reader returns has the property. -/
def Yields (r : Reader β ε α) (P : α → Prop) : Prop :=
  ∀ input a rest, r input = .ok (a, rest) → P a

/-- A reader that takes nothing yields its value. -/
theorem yields_pure {P : α → Prop} {a : α} (h : P a) : (pure a : Reader β ε α).Yields P := by
  intro input b rest hb
  simp only [pure, Except.ok.injEq, Prod.mk.injEq] at hb
  exact hb.1 ▸ h

/-- A reader that fails yields nothing. -/
theorem yields_fail (P : α → Prop) (e : ε) : (fail e : Reader β ε α).Yields P := by
  intro input a rest h
  cases h

/-- A block yields what its function makes of the symbols. -/
theorem yields_block {P : α → Prop} {n : ℕ} {short : ε} {f : List β → Except ε α}
    (h : ∀ symbols a, f symbols = .ok a → P a) : (block n short f).Yields P := by
  intro input a rest hread
  obtain ⟨hlen, hb, hrest⟩ := block_eq_ok hread
  exact h _ a hb

/-- What the first reader yields may be used for the second. -/
theorem Yields.bind {P : α → Prop} {Q : γ → Prop} {r : Reader β ε α} {f : α → Reader β ε γ}
    (hr : r.Yields P) (hf : ∀ a, P a → (f a).Yields Q) : (r.bind f).Yields Q := by
  intro input c rest h
  obtain ⟨a, middle, hinput, hmiddle⟩ := bind_eq_ok h
  exact hf a (hr _ _ _ hinput) _ _ _ hmiddle

/-- The input falls apart into segments that the readers `r i`, `r (i + 1)`, … take, with these
values. -/
inductive Segments (r : ℕ → Reader β ε α) : ℕ → List β → List α → Prop where
  | nil (i : ℕ) : Segments r i [] []
  | cons {i : ℕ} {symbols rest : List β} {a : α} {values : List α} (hne : symbols ≠ [])
      (htakes : (r i).Takes symbols a) (hrest : Segments r (i + 1) rest values) :
      Segments r i (symbols ++ rest) (a :: values)

/-- The segments at the beginning of a list are the first ones of the whole list. -/
theorem Segments.right {r : ℕ → Reader β ε α} {i : ℕ} {input input' : List β}
    {values all : List α} (h : Segments r i input values)
    (h' : Segments r i (input ++ input') all) :
    ∃ more, all = values ++ more ∧ Segments r (i + values.length) input' more := by
  induction h generalizing all with
  | nil i => exact ⟨all, rfl, h'⟩
  | @cons i symbols rest a values hne htakes hrest ih =>
    rw [List.append_assoc] at h'
    generalize hinput : symbols ++ (rest ++ input') = input at h'
    cases h' with
    | nil i => exact absurd (List.append_eq_nil_iff.mp hinput).1 hne
    | @cons _ symbols' rest' a' values' hne' htakes' hrest' =>
      -- Both readings begin with the same call of the reader.
      have hread := htakes (rest ++ input')
      rw [hinput, htakes' rest'] at hread
      simp only [Except.ok.injEq, Prod.mk.injEq] at hread
      obtain ⟨rfl, rfl⟩ := hread
      obtain ⟨more, rfl, hmore⟩ := ih hrest'
      refine ⟨more, rfl, ?_⟩
      rw [List.length_cons, Nat.add_comm values.length 1, ← Nat.add_assoc]
      exact hmore

/-- Segments that follow each other. -/
theorem Segments.append {r : ℕ → Reader β ε α} {i : ℕ} {input input' : List β}
    {values values' : List α} (h : Segments r i input values)
    (h' : Segments r (i + values.length) input' values') :
    Segments r i (input ++ input') (values ++ values') := by
  induction h with
  | nil i => exact h'
  | @cons i symbols rest a values hne htakes hrest ih =>
    rw [List.length_cons, Nat.add_comm values.length 1, ← Nat.add_assoc] at h'
    rw [List.append_assoc]
    exact .cons hne htakes (ih h')

/-- What the readers yield, the values of all segments have. -/
theorem Segments.forall_mem {r : ℕ → Reader β ε α} {P : α → Prop} (hr : ∀ i, (r i).Yields P) {i : ℕ}
    {input : List β} {values : List α} (h : Segments r i input values) : ∀ a ∈ values, P a := by
  induction h with
  | nil i => exact List.forall_mem_nil _
  | @cons i symbols rest a values hne htakes hrest ih =>
    exact List.forall_mem_cons.mpr ⟨hr i _ a _ (htakes []), ih⟩

/-- What every value has by the place at which it is read, the values have in order. -/
theorem Segments.map_eq_range' {r : ℕ → Reader β ε α} {place : α → ℕ}
    (hplace : ∀ i symbols a, (r i).Takes symbols a → place a = i) {i : ℕ} {input : List β}
    {values : List α} (h : Segments r i input values) :
    values.map place = List.range' i values.length := by
  induction h with
  | nil i => rfl
  | cons hne htakes hrest ih =>
    rw [List.map_cons, ih, hplace _ _ _ htakes, List.length_cons, List.range'_succ]

end Reader
