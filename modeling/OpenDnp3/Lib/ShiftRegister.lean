import Mathlib.Data.BitVec
import Mathlib.Logic.Function.Iterate
import Mathlib.Data.List.Basic

/-!
# Linear feedback shift registers

A register of `w` bits shifts its low bit out and adds the feedback polynomial when that bit was
set. Bits enter one at a time at the low end, as the bits of a reflected cyclic code do. A
polynomial whose top bit is set loses nothing on a shift (`shift_injective`), and up to `w` bits
enter as one number that is added before the shifts (`foldl_feed`). So two sequences that differ,
and only within `w` consecutive bits, leave the register in different states (`foldl_feed_ne`).
-/

namespace ShiftRegister

variable {w : ℕ}

/-- One shift of the register. -/
def shift (poly s : BitVec w) : BitVec w := (s >>> 1) ^^^ (if s.getLsbD 0 then poly else 0)

/-- One bit as a number. -/
def ofBit (w : ℕ) (bit : Bool) : BitVec w := (BitVec.ofBool bit).setWidth w

/-- The bits as a number, the first one lowest. -/
def ofBits (w : ℕ) : List Bool → BitVec w
  | [] => 0
  | bit :: bits => ofBit w bit ^^^ (ofBits w bits <<< 1)

/-- A bit enters the register. -/
def feed (poly s : BitVec w) (bit : Bool) : BitVec w := shift poly (s ^^^ ofBit w bit)

/-- A bit after a shift: the next higher one, and the tap if the lowest one has come out. -/
@[simp]
theorem getLsbD_shift (poly s : BitVec w) (i : ℕ) :
    (shift poly s).getLsbD i = (s.getLsbD (1 + i) ^^ (s.getLsbD 0 && poly.getLsbD i)) := by
  unfold shift
  cases s.getLsbD 0 <;> simp

/-- A shift adds up. -/
theorem shift_xor (poly s t : BitVec w) : shift poly (s ^^^ t) = shift poly s ^^^ shift poly t := by
  apply BitVec.eq_of_getLsbD_eq
  intro i _
  simp only [getLsbD_shift, BitVec.getLsbD_xor]
  cases s.getLsbD 0 <;> cases t.getLsbD 0 <;> cases poly.getLsbD i <;> simp

/-- Shifts are linear. -/
theorem iterate_shift_xor (poly s t : BitVec w) (n : ℕ) :
    (shift poly)^[n] (s ^^^ t) = (shift poly)^[n] s ^^^ (shift poly)^[n] t := by
  induction n generalizing s t with
  | zero => rfl
  | succ n ih => rw [Function.iterate_succ_apply, shift_xor, ih, ← Function.iterate_succ_apply,
      ← Function.iterate_succ_apply]

/-- The top bit of the shifted register is the bit that left it, so nothing is lost. -/
theorem shift_injective {poly : BitVec w} (hpoly : poly.msb = true) :
    Function.Injective (shift poly) := by
  intro s t h
  have hbit (i : ℕ) := congrArg (fun x : BitVec w => x.getLsbD i) h
  simp only [getLsbD_shift] at hbit
  have hw : 0 < w := by
    rcases Nat.eq_zero_or_pos w with rfl | hpos
    · simp [BitVec.msb_eq_getLsbD_last] at hpoly
    · exact hpos
  have hlow : s.getLsbD 0 = t.getLsbD 0 := by
    have htop := hbit (w - 1)
    rw [BitVec.msb_eq_getLsbD_last] at hpoly
    rw [hpoly, BitVec.getLsbD_of_ge s _ (by omega), BitVec.getLsbD_of_ge t _ (by omega)] at htop
    simpa using htop
  apply BitVec.eq_of_getLsbD_eq
  intro i _
  rcases i with _ | i
  · exact hlow
  · have hnext := hbit i
    rw [hlow, Nat.add_comm] at hnext
    exact Bool.xor_left_inj.mp hnext

/-- A number that leaves the top bit free comes back from the place above. -/
theorem shift_shiftLeft (poly : BitVec w) {t : BitVec w} (ht : t.msb = false) :
    shift poly (t <<< 1) = t := by
  apply BitVec.eq_of_getLsbD_eq
  intro i hi
  simp only [getLsbD_shift, BitVec.getLsbD_shiftLeft]
  by_cases hlast : 1 + i < w
  · simp [hlast]
  · have hi' : i = w - 1 := by omega
    rw [BitVec.msb_eq_getLsbD_last, ← hi'] at ht
    simp [hlast, ht]

/-- A number that leaves `n` places free at the top comes back from `n` places above. -/
theorem iterate_shift_shiftLeft (poly : BitVec w) {t : BitVec w} (n : ℕ)
    (ht : ∀ i, w ≤ i + n → t.getLsbD i = false) : (shift poly)^[n] (t <<< n) = t := by
  induction n with
  | zero => simp
  | succ n ih =>
    have hfree : (t <<< n).msb = false := by
      rw [BitVec.msb_eq_getLsbD_last, BitVec.getLsbD_shiftLeft, ht _ (by omega)]
      simp
    rw [BitVec.shiftLeft_add, Function.iterate_succ_apply, shift_shiftLeft poly hfree]
    exact ih fun i hi => ht i (by omega)

/-- The bits of a list, the first one lowest. -/
theorem getLsbD_ofBits (bits : List Bool) (i : ℕ) (hi : i < w) :
    (ofBits w bits).getLsbD i = bits.getD i false := by
  induction bits generalizing i with
  | nil => simp [ofBits]
  | cons bit bits ih =>
    rcases i with _ | i
    · simp [ofBits, ofBit, hi]
    · have hrest := ih i (by omega)
      have hlow : (ofBit w bit).getLsbD (i + 1) = false := by simp [ofBit]
      rw [ofBits, BitVec.getLsbD_xor, hlow, Bool.false_xor, List.getD_cons_succ, ← hrest,
        BitVec.getLsbD_shiftLeft]
      simp [hi]

/-- A register that is wide enough tells lists of one length apart. -/
theorem ofBits_injective {bits bits' : List Bool} (hlength : bits.length = bits'.length)
    (hle : bits.length ≤ w) (h : ofBits w bits = ofBits w bits') : bits = bits' := by
  apply List.ext_getElem hlength
  intro i hi hi'
  have hbit := congrArg (fun x : BitVec w => x.getLsbD i) h
  simp only [getLsbD_ofBits _ i (Nat.lt_of_lt_of_le hi hle)] at hbit
  simpa [hi, hi'] using hbit

/-- Up to `w` bits enter as the number that they are. -/
theorem foldl_feed (poly s : BitVec w) (bits : List Bool) (hle : bits.length ≤ w) :
    bits.foldl (feed poly) s = (shift poly)^[bits.length] (s ^^^ ofBits w bits) := by
  induction bits generalizing s with
  | nil => simp [ofBits]
  | cons bit bits ih =>
    have hle' : bits.length < w := hle
    -- The later bits stand one place higher until the first one has entered.
    have hfree : (ofBits w bits).msb = false := by
      rw [BitVec.msb_eq_getLsbD_last, getLsbD_ofBits _ _ (by omega),
        List.getD_eq_getElem?_getD, List.getElem?_eq_none (by omega), Option.getD_none]
    calc (bit :: bits).foldl (feed poly) s
        = (shift poly)^[bits.length] (feed poly s bit ^^^ ofBits w bits) := ih _ (by omega)
      _ = (shift poly)^[bits.length]
        (shift poly ((s ^^^ ofBit w bit) ^^^ (ofBits w bits <<< 1))) := by
        rw [shift_xor, shift_shiftLeft poly hfree, feed]
      _ = (shift poly)^[(bit :: bits).length] (s ^^^ ofBits w (bit :: bits)) := by
        rw [BitVec.xor_assoc, ofBits, List.length_cons, Function.iterate_succ_apply]

/-- The register after the same bits tells the states before them apart. -/
theorem foldl_feed_injective {poly : BitVec w} (hpoly : poly.msb = true) (bits : List Bool) :
    Function.Injective (fun s => bits.foldl (feed poly) s) := by
  induction bits with
  | nil => exact fun _ _ h => h
  | cons bit bits ih =>
    intro s t h
    have hshift := shift_injective hpoly (ih h)
    exact (BitVec.xor_left_inj _).mp hshift

/-- Two sequences of one length that differ, and only within `w` consecutive places from `start`
on, leave the register in different states. -/
theorem foldl_feed_ne {poly : BitVec w} (hpoly : poly.msb = true) (s : BitVec w)
    {bits bits' : List Bool} (hlength : bits.length = bits'.length) (hne : bits ≠ bits')
    (start : ℕ) (hburst : ∀ i, bits[i]? ≠ bits'[i]? → start ≤ i ∧ i < start + w) :
    bits.foldl (feed poly) s ≠ bits'.foldl (feed poly) s := by
  have hbefore : bits.take start = bits'.take start := by
    apply List.ext_getElem?
    intro i
    by_contra h
    rw [List.getElem?_take, List.getElem?_take] at h
    split_ifs at h with hi
    · exact absurd (hburst i h).1 (by omega)
    · exact h rfl
  have hbehind : (bits.drop start).drop w = (bits'.drop start).drop w := by
    apply List.ext_getElem?
    intro i
    by_contra h
    rw [List.drop_drop, List.drop_drop, List.getElem?_drop, List.getElem?_drop] at h
    exact absurd (hburst _ h).2 (by omega)
  have hsplit (l : List Bool) : l = l.take start ++ ((l.drop start).take w ++
      (l.drop start).drop w) := by
    rw [List.take_append_drop, List.take_append_drop]
  intro hsame
  rw [hsplit bits, hsplit bits', List.foldl_append, List.foldl_append, List.foldl_append,
    List.foldl_append, ← hbefore, ← hbehind] at hsame
  have hwindow := foldl_feed_injective hpoly _ hsame
  -- The two windows enter the same state as two numbers.
  have hwlength : ((bits.drop start).take w).length = ((bits'.drop start).take w).length := by
    simp [hlength]
  have hle (l : List Bool) : (l.take w).length ≤ w := List.length_take_le w l
  rw [foldl_feed _ _ _ (hle _), foldl_feed _ _ _ (hle _), hwlength] at hwindow
  have hnumber := (shift_injective hpoly).iterate _ hwindow
  have hbits := ofBits_injective hwlength (hle _) ((BitVec.xor_right_inj _).mp hnumber)
  refine hne ?_
  rw [hsplit bits, hsplit bits', hbefore, hbits, hbehind]

end ShiftRegister
