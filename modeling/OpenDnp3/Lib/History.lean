import Mathlib.Data.List.Basic

/-!
# Histories and loops

A history lists what has happened, oldest first. A condition on an entry and on what came before it
holds all through a history when it held of every entry at the moment it was added. A loop over the
positions of a list keeps what its body keeps, and changes every element once.
-/

namespace History

variable {α σ : Type*} {P Q : List α → α → Prop}

/-- Every entry meets the condition with the entries before it. -/
def Each (P : List α → α → Prop) (history : List α) : Prop :=
  ∀ n a, history[n]? = some a → P (history.take n) a

/-- Nothing has happened in an empty history. -/
theorem each_nil : Each P [] := by
  intro n a h
  simp at h

/-- A history that grows by an entry. -/
theorem each_concat (history : List α) (a : α) :
    Each P (history ++ [a]) ↔ Each P history ∧ P history a := by
  constructor
  · intro h
    constructor
    · intro n b hb
      have hlt : n < history.length := (List.getElem?_eq_some_iff.mp hb).1
      have hn := h n b (by rw [List.getElem?_append_left hlt, hb])
      rwa [List.take_append_of_le_length (Nat.le_of_lt hlt)] at hn
    · have hlast := h history.length a (by simp)
      rwa [List.take_left] at hlast
  · rintro ⟨h, ha⟩ n b hb
    rcases Nat.lt_trichotomy n history.length with hlt | rfl | hgt
    · rw [List.getElem?_append_left hlt] at hb
      rw [List.take_append_of_le_length (Nat.le_of_lt hlt)]
      exact h n b hb
    · rw [List.getElem?_concat_length] at hb
      obtain rfl := Option.some.inj hb
      rwa [List.take_left]
    · rw [List.getElem?_eq_none (by simp; omega)] at hb
      cases hb

/-! ## Loops -/

/-- What the body of a loop keeps holds after the loop. -/
theorem foldl_invariant (Inv : σ → Prop) (body : σ → α → σ) (hbody : ∀ s a, Inv s → Inv (body s a))
    {s : σ} (h : Inv s) (l : List α) : Inv (l.foldl body s) := by
  induction l generalizing s with
  | nil => exact h
  | cons a l ih => exact ih (hbody s a h)

/-- A loop that changes the element at every position below a bound. -/
theorem getElem?_foldl_modify (f : α → α) (l : List α) (n j : ℕ) :
    ((List.range n).foldl (fun l i => l.modify i f) l)[j]? =
      if j < n then l[j]?.map f else l[j]? := by
  induction n with
  | zero => simp
  | succ n ih =>
    rw [List.range_succ, List.foldl_append, List.foldl_cons, List.foldl_nil]
    rcases Nat.lt_trichotomy j n with hlt | rfl | hgt
    · rw [List.getElem?_modify_ne _ _ (by omega), ih, if_pos hlt, if_pos (by omega)]
    · rw [List.getElem?_modify_eq, ih, if_neg (Nat.lt_irrefl j), if_pos (by omega)]
      rfl
    · rw [List.getElem?_modify_ne _ _ (by omega), ih, if_neg (by omega), if_neg (by omega)]

/-- A loop over the positions of a list in a state, whose body changes the element at its position.
-/
theorem foldl_range_modify (get : σ → List α) (body : σ → ℕ → σ) (f : α → α)
    (hbody : ∀ s i, get (body s i) = (get s).modify i f) (s : σ) :
    get ((List.range (get s).length).foldl body s) = (get s).map f := by
  have hfold : ∀ (is : List ℕ) (s : σ),
      get (is.foldl body s) = is.foldl (fun l i => l.modify i f) (get s) := by
    intro is
    induction is with
    | nil => exact fun _ => rfl
    | cons i is ih =>
      intro s
      rw [List.foldl_cons, List.foldl_cons, ih, hbody]
  rw [hfold]
  ext1 j
  rw [getElem?_foldl_modify, List.getElem?_map]
  split_ifs with hj
  · rfl
  · rw [List.getElem?_eq_none (by omega)]
    rfl

end History
