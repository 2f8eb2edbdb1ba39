import OpenDnp3.Outstation.StaticReport

/-!
# The search for virtual indices

`IndexSearch` with positions of 16 bits. The functions fail where a position would wrap around,
where a position outside of the view is read, and where the search takes more rounds than it is
given. The positions of the database model are natural numbers, and the last theorem of the search
says that these are the same.
-/

namespace OpenDnp3.Outstation.IndexSearch

open App (Range)

variable {α : Type*}

/-! ## Definitions -/

/-- An `int` as a `uint16_t`, unless it wraps around. -/
def toUInt16 (n : ℤ) : Option UInt16 :=
  if 0 ≤ n ∧ n < 65536 then some (UInt16.ofNat n.toNat) else none

/-- `IndexSearch::GetMidpoint`. -/
def getMidpoint (lower upper : UInt16) : Option UInt16 :=
  toUInt16 (Int.tdiv ((upper.toNat : ℤ) - lower.toNat) 2 + lower.toNat)

/-- `IndexSearch::Result`, with `found` for its field `match`. -/
structure Result where
  found : Bool
  index : UInt16
  deriving DecidableEq, Repr

/-- The loop of `IndexSearch::FindClosestRawIndex`, of at most `fuel` tests of its condition. -/
def findLoop (view : List (Cell α)) (vIndex : UInt16) :
    ℕ → UInt16 → UInt16 → UInt16 → Option Result
  | 0, _, _, _ => none
  | fuel + 1, lower, upper, midpoint =>
    if lower ≤ upper then
      (getMidpoint lower upper).bind fun midpoint =>
        view[midpoint.toNat]?.bind fun cell =>
          let index := cell.config.vIndex
          if index = vIndex then some ⟨true, midpoint⟩
          else if index < vIndex then
            if lower < 65535 then
              (toUInt16 (midpoint.toNat + 1)).bind fun lower =>
                findLoop view vIndex fuel lower upper midpoint
            else some ⟨false, midpoint⟩
          else if 0 < upper ∧ 0 < midpoint then
            (toUInt16 (midpoint.toNat - 1)).bind fun upper =>
              findLoop view vIndex fuel lower upper midpoint
          else some ⟨false, midpoint⟩
    else some ⟨false, midpoint⟩

/-- `IndexSearch::FindClosestRawIndex`. -/
def findClosestRawIndex (fuel : ℕ) (view : List (Cell α)) (vIndex : UInt16) : Option Result :=
  if view.isEmpty then some ⟨false, 0⟩
  else
    (toUInt16 ((view.length : ℤ) - 1)).bind fun upper => findLoop view vIndex fuel 0 upper 0

/-- `IndexSearch::FindRawRange`. -/
def findRawRange (fuel : ℕ) (view : List (Cell α)) (start stop : UInt16) : Option Range :=
  if start ≤ stop ∧ view ≠ [] then
    (findClosestRawIndex fuel view start).bind fun first =>
      (findClosestRawIndex fuel view stop).bind fun last =>
        view[first.index.toNat]?.bind fun cell =>
          if cell.config.vIndex < start ∧ ¬first.index < 65535 then some {}
          else
            (if cell.config.vIndex < start then toUInt16 (first.index.toNat + 1)
              else some first.index).bind fun rawStart =>
              view[last.index.toNat]?.bind fun cell =>
                if stop < cell.config.vIndex ∧ ¬0 < last.index then some {}
                else
                  (if stop < cell.config.vIndex then toUInt16 (last.index.toNat - 1)
                    else some last.index).map fun rawStop =>
                    if rawStart.toNat < view.length ∧ rawStop.toNat < view.length then
                      { start := rawStart.toNat, stop := rawStop.toNat }
                    else {}
  else some {}

/-! ## Positions -/

/-- A position below 65536 can be written with 16 bits. -/
theorem toUInt16_natCast {n : ℕ} (h : n < 65536) : toUInt16 n = some (UInt16.ofNat n) := by
  unfold toUInt16
  rw [if_pos (by omega), Int.toNat_natCast]

/-- A position below 65536 is not changed by 16 bits. -/
theorem toNat_ofNat {n : ℕ} (h : n < 65536) : (UInt16.ofNat n).toNat = n :=
  UInt16.toNat_ofNat_of_lt' h

/-- A number that fits is the number of its position. -/
theorem toNat_of_toUInt16 {n : ℤ} {position : UInt16} (h : toUInt16 n = some position) :
    (position.toNat : ℤ) = n := by
  unfold toUInt16 at h
  split_ifs at h with hfits
  cases h
  rw [toNat_ofNat (by omega)]
  omega

/-- A position below 65536 has its value with 16 bits. -/
theorem exists_toUInt16 {n : ℕ} (h : n < 65536) :
    ∃ position, toUInt16 n = some position ∧ position.toNat = n :=
  ⟨_, toUInt16_natCast h, toNat_ofNat h⟩

/-- The midpoint lies between the bounds and does not wrap around. -/
theorem exists_midpoint {lower upper : UInt16} (h : lower ≤ upper) :
    ∃ midpoint, getMidpoint lower upper = some midpoint ∧
      midpoint.toNat = (upper.toNat - lower.toNat) / 2 + lower.toNat := by
  have hle : lower.toNat ≤ upper.toNat := h
  have hlt := upper.toNat_lt
  have hnumber : Int.tdiv ((upper.toNat : ℤ) - lower.toNat) 2 + lower.toNat =
      (((upper.toNat - lower.toNat) / 2 + lower.toNat : ℕ) : ℤ) := by
    rw [Int.tdiv_eq_ediv_of_nonneg (by omega)]
    omega
  unfold getMidpoint
  rw [hnumber]
  exact exists_toUInt16 (by omega)

/-- Of two cells the later one has the larger virtual index. -/
theorem lt_of_increasing {view : List (Cell α)} (h : DatabaseBuffers.Increasing view)
    {i j : ℕ} (hij : i < j)
    {cell cell' : Cell α} (hi : view[i]? = some cell) (hj : view[j]? = some cell') :
    cell.config.vIndex.toNat < cell'.config.vIndex.toNat := by
  obtain ⟨hlt, rfl⟩ := List.getElem?_eq_some_iff.mp hi
  obtain ⟨hlt', rfl⟩ := List.getElem?_eq_some_iff.mp hj
  have hpair := List.pairwise_iff_getElem.mp h i j (by rwa [List.length_map])
    (by rwa [List.length_map]) hij
  simpa using hpair

/-! ## The search -/

/-- The position is in the view, the cells before it have smaller virtual indices and the cells
behind it larger ones, and its own is the one looked for if the result says so. -/
structure Closest (view : List (Cell α)) (vIndex : UInt16) (result : Result) : Prop where
  inside : ∃ cell, view[result.index.toNat]? = some cell ∧
    (result.found = true ↔ cell.config.vIndex.toNat = vIndex.toNat)
  before : ∀ i cell, view[i]? = some cell → i < result.index.toNat →
    cell.config.vIndex.toNat < vIndex.toNat
  behind : ∀ i cell, view[i]? = some cell → result.index.toNat < i →
    vIndex.toNat < cell.config.vIndex.toNat

/-- What the loop knows of the cells outside of its bounds, and of the last midpoint once the bounds
have crossed. -/
structure Bounds (view : List (Cell α)) (vIndex lower upper midpoint : UInt16) : Prop where
  inside : upper.toNat < view.length
  crossed : lower.toNat ≤ upper.toNat + 1
  below : ∀ i cell, view[i]? = some cell → i < lower.toNat →
    cell.config.vIndex.toNat < vIndex.toNat
  above : ∀ i cell, view[i]? = some cell → upper.toNat < i →
    vIndex.toNat < cell.config.vIndex.toNat
  last : lower.toNat ≤ upper.toNat ∨ midpoint.toNat + 1 = lower.toNat ∨
    midpoint.toNat = upper.toNat + 1 ∧ midpoint.toNat < view.length

/-- The bounds have crossed, and the last midpoint is next to where they did. -/
theorem Bounds.closest {view : List (Cell α)} {vIndex lower upper midpoint : UInt16}
    (h : Bounds view vIndex lower upper midpoint) (hlt : upper.toNat < lower.toNat) :
    Closest view vIndex ⟨false, midpoint⟩ := by
  have hcrossed := h.crossed
  have hinside := h.inside
  have hmidpoint : midpoint.toNat < view.length := by
    rcases h.last with hle | hlower | ⟨-, hupper⟩ <;> omega
  refine ⟨⟨_, List.getElem?_eq_getElem hmidpoint, ?_⟩, fun i cell hcell hi => ?_,
    fun i cell hcell hi => ?_⟩
  · have hcell := List.getElem?_eq_getElem hmidpoint
    constructor
    · intro h
      cases h
    · rintro heq
      -- Every cell is below the lower bound or above the upper one.
      rcases Nat.lt_or_ge midpoint.toNat lower.toNat with hlower | hupper
      · exact absurd heq (h.below _ _ hcell hlower).ne
      · exact absurd heq (h.above _ _ hcell (by omega)).ne'
  · change i < midpoint.toNat at hi
    refine h.below i cell hcell ?_
    rcases h.last with hle | hlower | ⟨hupper, -⟩ <;> omega
  · change midpoint.toNat < i at hi
    refine h.above i cell hcell ?_
    rcases h.last with hle | hlower | ⟨hupper, -⟩ <;> omega

/-- The cell in the middle is too small, so that the search goes on behind it. -/
theorem Bounds.raise {view : List (Cell α)} {vIndex lower upper midpoint middle lower' : UInt16}
    (h : Bounds view vIndex lower upper midpoint) (hinc : DatabaseBuffers.Increasing view)
    {cell : Cell α} (hcell : view[middle.toNat]? = some cell)
    (hless : cell.config.vIndex.toNat < vIndex.toNat) (hle : middle.toNat ≤ upper.toNat)
    (hlower' : lower'.toNat = middle.toNat + 1) : Bounds view vIndex lower' upper middle := by
  refine ⟨h.inside, by omega, fun i cell' hcell' hi => ?_, h.above, .inr (.inl hlower'.symm)⟩
  rcases Nat.lt_or_ge i middle.toNat with hbefore | hat
  · exact lt_trans (lt_of_increasing hinc hbefore hcell' hcell) hless
  · obtain rfl : i = middle.toNat := by omega
    cases hcell.symm.trans hcell'
    exact hless

/-- The cell in the middle is too large, so that the search goes on before it. -/
theorem Bounds.drop {view : List (Cell α)} {vIndex lower upper midpoint middle upper' : UInt16}
    (h : Bounds view vIndex lower upper midpoint) (hinc : DatabaseBuffers.Increasing view)
    {cell : Cell α} (hcell : view[middle.toNat]? = some cell)
    (hmore : vIndex.toNat < cell.config.vIndex.toNat) (hle : lower.toNat ≤ middle.toNat)
    (hupper' : middle.toNat = upper'.toNat + 1) : Bounds view vIndex lower upper' middle := by
  have hlt := (List.getElem?_eq_some_iff.mp hcell).1
  refine ⟨by omega, by omega, h.below, fun i cell' hcell' hi => ?_, .inr (.inr ⟨hupper', hlt⟩)⟩
  rcases Nat.lt_or_ge middle.toNat i with hbehind | hat
  · exact lt_trans hmore (lt_of_increasing hinc hbehind hcell hcell')
  · obtain rfl : i = middle.toNat := by omega
    cases hcell.symm.trans hcell'
    exact hmore

/-- The search says whether the index is there. -/
theorem Closest.found_iff {view : List (Cell α)} {vIndex : UInt16} {result : Result}
    (h : Closest view vIndex result) :
    result.found = true ↔ ∃ cell ∈ view, cell.config.vIndex = vIndex := by
  obtain ⟨closest, hclosest, hfound⟩ := h.inside
  rw [hfound, UInt16.toNat_inj]
  constructor
  · intro heq
    exact ⟨closest, List.mem_of_getElem? hclosest, heq⟩
  · rintro ⟨cell, hmem, rfl⟩
    obtain ⟨i, hcell⟩ := List.mem_iff_getElem?.mp hmem
    rcases Nat.lt_trichotomy i result.index.toNat with hbefore | rfl | hbehind
    · exact absurd rfl (h.before i cell hcell hbefore).ne
    · cases hclosest.symm.trans hcell
      rfl
    · exact absurd rfl (h.behind i cell hcell hbehind).ne

/-- The loop finds the closest position within as many rounds as there are positions in its bounds,
and one more. -/
theorem findLoop_spec {view : List (Cell α)} (hinc : DatabaseBuffers.Increasing view)
    (hlength : view.length ≤ 65535) (vIndex : UInt16) {fuel : ℕ} {lower upper midpoint : UInt16}
    (h : Bounds view vIndex lower upper midpoint)
    (hfuel : upper.toNat + 1 - lower.toNat < fuel) :
    ∃ result, findLoop view vIndex fuel lower upper midpoint = some result ∧
      Closest view vIndex result := by
  induction fuel generalizing lower upper midpoint with
  | zero => omega
  | succ fuel ih =>
    unfold findLoop
    by_cases hle : lower ≤ upper
    · rw [if_pos hle]
      obtain ⟨middle, hmiddle, hnat⟩ := exists_midpoint hle
      have hle : lower.toNat ≤ upper.toNat := hle
      have hinside := h.inside
      have hlt : middle.toNat < view.length := by omega
      have hcell := List.getElem?_eq_getElem hlt
      rw [hmiddle, Option.bind_some, hcell, Option.bind_some]
      generalize view[middle.toNat] = cell at hcell ⊢
      dsimp only
      by_cases hindex : cell.config.vIndex = vIndex
      · -- An exact match.
        rw [if_pos hindex]
        subst hindex
        exact ⟨_, rfl, ⟨cell, hcell, iff_of_true rfl rfl⟩,
          fun i cell' hcell' hi => lt_of_increasing hinc hi hcell' hcell,
          fun i cell' hcell' hi => lt_of_increasing hinc hi hcell hcell'⟩
      rw [if_neg hindex]
      by_cases hless : cell.config.vIndex < vIndex
      · -- The upper half. The lower bound stays below 65535, as the view is no longer than that.
        have hlower : lower < 65535 := by
          change lower.toNat < 65535
          omega
        have hfits : middle.toNat + 1 < 65536 := by omega
        obtain ⟨lower', hlower', hnat'⟩ := exists_toUInt16 hfits
        rw [if_pos hless, if_pos hlower, ← Nat.cast_succ, Nat.succ_eq_add_one, hlower',
          Option.bind_some]
        exact ih (h.raise hinc hcell hless (by omega) hnat') (by omega)
      · have hnot : ¬cell.config.vIndex.toNat < vIndex.toNat := hless
        have hne : cell.config.vIndex.toNat ≠ vIndex.toNat :=
          fun h => hindex (UInt16.toNat_inj.mp h)
        have hmore : vIndex.toNat < cell.config.vIndex.toNat := by omega
        rw [if_neg hless]
        -- The lower half, of which nothing is left when the middle is the first position.
        by_cases hpos : 0 < upper ∧ 0 < middle
        · have hpos' : 0 < middle.toNat := hpos.2
          have hfits : middle.toNat - 1 < 65536 := by omega
          obtain ⟨upper', hupper', hnat'⟩ := exists_toUInt16 hfits
          have hcast : (middle.toNat : ℤ) - 1 = ((middle.toNat - 1 : ℕ) : ℤ) := by omega
          rw [if_pos hpos, hcast, hupper', Option.bind_some]
          exact ih (h.drop hinc hcell hmore (by omega) (by omega)) (by omega)
        · rw [if_neg hpos]
          have hzero : middle.toNat = 0 := by
            by_contra hne
            refine hpos ⟨?_, Nat.pos_of_ne_zero hne⟩
            change 0 < upper.toNat
            omega
          refine ⟨_, rfl, ⟨cell, hcell, iff_of_false Bool.false_ne_true hne⟩,
            fun i cell' hcell' hi => ?_, fun i cell' hcell' hi => ?_⟩
          · dsimp only at hi
            omega
          · exact lt_trans hmore (lt_of_increasing hinc hi hcell hcell')
    · rw [if_neg hle]
      exact ⟨_, rfl, h.closest (not_le.mp hle)⟩

/-- The search finds the closest position of a view that is not empty. -/
theorem findClosestRawIndex_spec {view : List (Cell α)} (hinc : DatabaseBuffers.Increasing view)
    (hlength : view.length ≤ 65535) (hne : view ≠ []) (vIndex : UInt16) {fuel : ℕ}
    (hfuel : view.length < fuel) :
    ∃ result, findClosestRawIndex fuel view vIndex = some result ∧
      Closest view vIndex result := by
  have hpos : 0 < view.length := List.length_pos_iff.mpr hne
  have hfits : view.length - 1 < 65536 := by omega
  obtain ⟨upper, hupper, hnat⟩ := exists_toUInt16 hfits
  have hcast : (view.length : ℤ) - 1 = ((view.length - 1 : ℕ) : ℤ) := by omega
  unfold findClosestRawIndex
  rw [if_neg (by simpa using hne), hcast, hupper, Option.bind_some]
  refine findLoop_spec hinc hlength vIndex ⟨by omega, Nat.zero_le _, fun i cell _ hi => ?_,
    fun i cell hcell hi => ?_, .inl (Nat.zero_le _)⟩ ?_
  · exact absurd hi (Nat.not_lt_zero i)
  · have hlt := (List.getElem?_eq_some_iff.mp hcell).1
    omega
  · change upper.toNat + 1 - 0 < fuel
    omega

/-! ## The range -/

/-- The cells below the index are those before the closest position, and the cell at this position
if it is one of them. -/
theorem Closest.lt_iff {view : List (Cell α)} {vIndex : UInt16} {result : Result}
    (h : Closest view vIndex result) {closest : Cell α}
    (hclosest : view[result.index.toNat]? = some closest) {i : ℕ} {cell : Cell α}
    (hcell : view[i]? = some cell) :
    cell.config.vIndex.toNat < vIndex.toNat ↔
      i < if closest.config.vIndex < vIndex then result.index.toNat + 1
        else result.index.toNat := by
  rcases Nat.lt_trichotomy i result.index.toNat with hbefore | rfl | hbehind
  · refine iff_of_true (h.before i cell hcell hbefore) ?_
    split_ifs <;> omega
  · cases hclosest.symm.trans hcell
    split_ifs with hless
    · exact iff_of_true hless (Nat.lt_succ_self _)
    · exact iff_of_false hless (Nat.lt_irrefl _)
  · refine iff_of_false (h.behind i cell hcell hbehind).not_gt ?_
    split_ifs <;> omega

/-- The cells above the index are those behind the closest position, and the cell at this position
if it is one of them. -/
theorem Closest.gt_iff {view : List (Cell α)} {vIndex : UInt16} {result : Result}
    (h : Closest view vIndex result) {closest : Cell α}
    (hclosest : view[result.index.toNat]? = some closest) {i : ℕ} {cell : Cell α}
    (hcell : view[i]? = some cell) :
    vIndex.toNat < cell.config.vIndex.toNat ↔
      (if vIndex < closest.config.vIndex then result.index.toNat else
        result.index.toNat + 1) ≤ i := by
  rcases Nat.lt_trichotomy i result.index.toNat with hbefore | rfl | hbehind
  · refine iff_of_false (h.before i cell hcell hbefore).not_gt ?_
    split_ifs <;> omega
  · cases hclosest.symm.trans hcell
    split_ifs with hmore
    · exact iff_of_true hmore le_rfl
    · exact iff_of_false hmore (Nat.not_succ_le_self _)
  · refine iff_of_true (h.behind i cell hcell hbehind) ?_
    split_ifs <;> omega

/-- The range starts at the first position whose index is not below the one asked for. -/
theorem Closest.exists_start {view : List (Cell α)} (hlength : view.length ≤ 65535)
    {start : UInt16} {result : Result} (h : Closest view start result) {closest : Cell α}
    (hclosest : view[result.index.toNat]? = some closest) :
    ∃ rawStart, (if closest.config.vIndex < start then toUInt16 (result.index.toNat + 1)
        else some result.index) = some rawStart ∧
      ∀ i cell, view[i]? = some cell →
        (start.toNat ≤ cell.config.vIndex.toNat ↔ rawStart.toNat ≤ i) := by
  have hlt := (List.getElem?_eq_some_iff.mp hclosest).1
  by_cases hless : closest.config.vIndex < start
  · have hfits : result.index.toNat + 1 < 65536 := by omega
    obtain ⟨position, hposition, hnat⟩ := exists_toUInt16 hfits
    rw [if_pos hless]
    refine ⟨position, hposition, fun i cell hcell => ?_⟩
    rw [← not_lt, h.lt_iff hclosest hcell, if_pos hless, hnat, not_lt]
  · rw [if_neg hless]
    refine ⟨_, rfl, fun i cell hcell => ?_⟩
    rw [← not_lt, h.lt_iff hclosest hcell, if_neg hless, not_lt]

/-- The range stops at the last position whose index is not above the one asked for, if there is
one. -/
theorem Closest.exists_stop {view : List (Cell α)} (hlength : view.length ≤ 65535)
    {stop : UInt16} {result : Result} (h : Closest view stop result) {closest : Cell α}
    (hclosest : view[result.index.toNat]? = some closest)
    (hsome : ¬(stop < closest.config.vIndex ∧ ¬0 < result.index)) :
    ∃ rawStop, (if stop < closest.config.vIndex then toUInt16 (result.index.toNat - 1)
        else some result.index) = some rawStop ∧ rawStop.toNat < view.length ∧
      ∀ i cell, view[i]? = some cell →
        (cell.config.vIndex.toNat ≤ stop.toNat ↔ i ≤ rawStop.toNat) := by
  have hlt := (List.getElem?_eq_some_iff.mp hclosest).1
  by_cases hmore : stop < closest.config.vIndex
  · have hpos : 0 < result.index.toNat := by
      by_contra hzero
      exact hsome ⟨hmore, hzero⟩
    have hfits : result.index.toNat - 1 < 65536 := by omega
    obtain ⟨position, hposition, hnat⟩ := exists_toUInt16 hfits
    have hcast : (result.index.toNat : ℤ) - 1 = ((result.index.toNat - 1 : ℕ) : ℤ) := by omega
    rw [if_pos hmore, hcast]
    refine ⟨position, hposition, by omega, fun i cell hcell => ?_⟩
    rw [← not_lt, h.gt_iff hclosest hcell, if_pos hmore]
    omega
  · rw [if_neg hmore]
    refine ⟨_, rfl, hlt, fun i cell hcell => ?_⟩
    rw [← not_lt, h.gt_iff hclosest hcell, if_neg hmore]
    omega

/-- The range holds exactly the positions of the cells with a virtual index from `start` to
`stop`. -/
def Covers (view : List (Cell α)) (start stop : UInt16) (range : Range) : Prop :=
  ∀ i, (range.start ≤ i ∧ i ≤ range.stop) ↔
    ∃ cell, view[i]? = some cell ∧ start ≤ cell.config.vIndex ∧ cell.config.vIndex ≤ stop

/-- The range that is found has the cells with the indices asked for. -/
theorem findRawRange_covers {view : List (Cell α)} (hinc : DatabaseBuffers.Increasing view)
    (hlength : view.length ≤ 65535) {start stop : UInt16} (hle : start ≤ stop) {fuel : ℕ}
    (hfuel : view.length < fuel) :
    ∃ range, findRawRange fuel view start stop = some range ∧ Covers view start stop range := by
  unfold findRawRange
  by_cases hne : view = []
  · rw [if_neg (fun h => h.2 hne)]
    refine ⟨_, rfl, fun i => iff_of_false (fun h => ?_) ?_⟩
    · have hempty : (1 : ℕ) ≤ i ∧ i ≤ 0 := h
      omega
    · rintro ⟨cell, hcell, -⟩
      rw [hne] at hcell
      cases hcell
  rw [if_pos ⟨hle, hne⟩]
  obtain ⟨first, hfirst, hclosest⟩ := findClosestRawIndex_spec hinc hlength hne start hfuel
  obtain ⟨last, hlast, hclosest'⟩ := findClosestRawIndex_spec hinc hlength hne stop hfuel
  obtain ⟨firstCell, hfirstCell, -⟩ := hclosest.inside
  obtain ⟨lastCell, hlastCell, -⟩ := hclosest'.inside
  have hmax : first.index < 65535 := by
    have hlt := (List.getElem?_eq_some_iff.mp hfirstCell).1
    change first.index.toNat < 65535
    omega
  obtain ⟨rawStart, hrawStart, hstart⟩ := hclosest.exists_start hlength hfirstCell
  rw [hfirst, Option.bind_some, hlast, Option.bind_some, hfirstCell, Option.bind_some,
    if_neg (fun h => h.2 hmax), hrawStart, Option.bind_some, hlastCell, Option.bind_some]
  by_cases hnone : stop < lastCell.config.vIndex ∧ ¬0 < last.index
  · -- Every cell is above `stop`.
    rw [if_pos hnone]
    refine ⟨_, rfl, fun i => iff_of_false (fun h => ?_) ?_⟩
    · have hempty : (1 : ℕ) ≤ i ∧ i ≤ 0 := h
      omega
    · rintro ⟨cell, hcell, -, hstop⟩
      have hzero : last.index.toNat = 0 := Nat.eq_zero_of_not_pos hnone.2
      have hstop : cell.config.vIndex.toNat ≤ stop.toNat := hstop
      refine absurd ((hclosest'.gt_iff hlastCell hcell).mpr ?_) hstop.not_gt
      rw [if_pos hnone.1, hzero]
      exact Nat.zero_le i
  rw [if_neg hnone]
  obtain ⟨rawStop, hrawStop, hlt, hstop⟩ := hclosest'.exists_stop hlength hlastCell hnone
  rw [hrawStop, Option.map_some]
  refine ⟨_, rfl, fun i => ?_⟩
  by_cases hstartLt : rawStart.toNat < view.length
  · rw [if_pos ⟨hstartLt, hlt⟩]
    constructor
    · rintro ⟨hi, hi'⟩
      have hcell := List.getElem?_eq_getElem (lt_of_le_of_lt hi' hlt)
      exact ⟨_, hcell, (hstart i _ hcell).mpr hi, (hstop i _ hcell).mpr hi'⟩
    · rintro ⟨cell, hcell, hfrom, hto⟩
      exact ⟨(hstart i cell hcell).mp hfrom, (hstop i cell hcell).mp hto⟩
  · -- Every cell is below `start`.
    rw [if_neg (fun h => hstartLt h.1)]
    refine iff_of_false (fun h => ?_) ?_
    · have hempty : (1 : ℕ) ≤ i ∧ i ≤ 0 := h
      omega
    · rintro ⟨cell, hcell, hfrom, -⟩
      have hi := (hstart i cell hcell).mp hfrom
      have hlt := (List.getElem?_eq_some_iff.mp hcell).1
      omega

/-- The range is empty where no cell has an index asked for. -/
theorem Covers.isValid_eq_false_iff {view : List (Cell α)} {start stop : UInt16} {range : Range}
    (h : Covers view start stop range) :
    range.isValid = false ↔
      ∀ cell ∈ view, ¬(start ≤ cell.config.vIndex ∧ cell.config.vIndex ≤ stop) := by
  rw [Range.isValid, decide_eq_false_iff_not]
  constructor
  · intro hinvalid cell hmem hbetween
    obtain ⟨i, hcell⟩ := List.mem_iff_getElem?.mp hmem
    have hi := (h i).mpr ⟨cell, hcell, hbetween⟩
    omega
  · intro hnone hle
    obtain ⟨cell, hcell, hbetween⟩ := (h range.start).mp ⟨le_rfl, hle⟩
    exact hnone cell (List.mem_of_getElem? hcell) hbetween

/-- The search for the closest position ends without wrapping around or leaving the view. It finds
the position of the index, or one next to where it would be. The search for a range ends in the same
way, with exactly the positions of the virtual indices in the range, and with an invalid range if
and only if there are none. -/
theorem findRawRange_exact {view : List (Cell α)} (hinc : DatabaseBuffers.Increasing view)
    (hlength : view.length ≤ 65535) {start stop : UInt16} (hle : start ≤ stop) {fuel : ℕ}
    (hfuel : view.length < fuel) :
    (∃ range, findRawRange fuel view start stop = some range ∧ Covers view start stop range ∧
      (range.isValid = false ↔
        ∀ cell ∈ view, ¬(start ≤ cell.config.vIndex ∧ cell.config.vIndex ≤ stop))) ∧
    ∀ vIndex, ∃ result, findClosestRawIndex fuel view vIndex = some result ∧
      (view ≠ [] → Closest view vIndex result) ∧
      (result.found = true ↔ ∃ cell ∈ view, cell.config.vIndex = vIndex) := by
  refine ⟨?_, fun vIndex => ?_⟩
  · obtain ⟨range, hrange, hcovers⟩ := findRawRange_covers hinc hlength hle hfuel
    exact ⟨range, hrange, hcovers, hcovers.isValid_eq_false_iff⟩
  · by_cases hne : view = []
    · subst hne
      exact ⟨_, rfl, fun h => absurd rfl h, by simp⟩
    · obtain ⟨result, hresult, hclosest⟩ := findClosestRawIndex_spec hinc hlength hne vIndex hfuel
      exact ⟨result, hresult, fun _ => hclosest, hclosest.found_iff⟩

/-- The search in a view with gaps. -/
theorem findRawRange_exact_fourCells :
    let view : List (Cell Bool) :=
      [1, 3, 7, 9].map fun i => DatabaseBuffers.binaryCell i true
    ((∃ range, findRawRange 5 view 2 8 = some range ∧ Covers view 2 8 range ∧
      (range.isValid = false ↔
        ∀ cell ∈ view, ¬(2 ≤ cell.config.vIndex ∧ cell.config.vIndex ≤ 8))) ∧
    ∀ vIndex, ∃ result, findClosestRawIndex 5 view vIndex = some result ∧
      (view ≠ [] → Closest view vIndex result) ∧
      (result.found = true ↔ ∃ cell ∈ view, cell.config.vIndex = vIndex)) ∧
    findRawRange 5 view 2 8 = some { start := 1, stop := 2 } := by
  refine ⟨findRawRange_exact ?_ (by decide) (by decide) (by decide), by decide⟩
  unfold DatabaseBuffers.Increasing
  decide

/-! ## The database -/

/-- The positions of the loop are those of the database. -/
theorem findLoop_eq {view : List (Cell α)} {vIndex : UInt16} {fuel : ℕ}
    {lower upper midpoint : UInt16} {result : Result}
    (h : findLoop view vIndex fuel lower upper midpoint = some result) :
    DatabaseBuffers.findClosestLoop view vIndex.toNat fuel lower.toNat upper.toNat midpoint.toNat =
      (result.found, result.index.toNat) := by
  induction fuel generalizing lower upper midpoint with
  | zero => cases h
  | succ fuel ih =>
    unfold findLoop at h
    unfold DatabaseBuffers.findClosestLoop
    by_cases hle : lower ≤ upper
    · have hle' : lower.toNat ≤ upper.toNat := hle
      obtain ⟨middle, hmiddle, hnat⟩ := exists_midpoint hle
      rw [if_pos hle, hmiddle, Option.bind_some] at h
      rw [if_pos hle', ← hnat]
      dsimp only
      obtain ⟨cell, hcell, h⟩ := Option.bind_eq_some_iff.mp h
      rw [hcell]
      dsimp only at h ⊢
      by_cases hindex : cell.config.vIndex = vIndex
      · rw [if_pos hindex] at h
        cases h
        rw [if_pos (congrArg _ hindex)]
      rw [if_neg hindex] at h
      rw [if_neg (fun heq => hindex (UInt16.toNat_inj.mp heq))]
      by_cases hless : cell.config.vIndex < vIndex
      · rw [if_pos hless] at h
        rw [if_pos (show cell.config.vIndex.toNat < vIndex.toNat from hless)]
        -- The two guards against overflow are the same on both sides.
        by_cases hlower : lower < 65535
        · rw [if_pos hlower] at h
          obtain ⟨lower', hlower', h⟩ := Option.bind_eq_some_iff.mp h
          have hnat' := toNat_of_toUInt16 hlower'
          have hsucc : lower'.toNat = middle.toNat + 1 := by omega
          rw [if_pos (show lower.toNat < 65535 from hlower), ← hsucc]
          exact ih h
        · rw [if_neg hlower] at h
          cases h
          exact if_neg (show ¬lower.toNat < 65535 from hlower)
      · rw [if_neg hless] at h
        rw [if_neg (show ¬cell.config.vIndex.toNat < vIndex.toNat from hless)]
        by_cases hpos : 0 < upper ∧ 0 < middle
        · rw [if_pos hpos] at h
          obtain ⟨upper', hupper', h⟩ := Option.bind_eq_some_iff.mp h
          have hnat' := toNat_of_toUInt16 hupper'
          have hpred : upper'.toNat = middle.toNat - 1 := by omega
          rw [if_pos (show 0 < upper.toNat ∧ 0 < middle.toNat from hpos), ← hpred]
          exact ih h
        · rw [if_neg hpos] at h
          cases h
          exact if_neg (show ¬(0 < upper.toNat ∧ 0 < middle.toNat) from hpos)
    · rw [if_neg hle] at h
      cases h
      exact if_neg (show ¬lower.toNat ≤ upper.toNat from hle)

/-- The search with 16 bits finds what the search of the database finds. -/
theorem findClosestRawIndex_eq {view : List (Cell α)} {vIndex : UInt16} {result : Result}
    (h : findClosestRawIndex (view.length + 1) view vIndex = some result) :
    DatabaseBuffers.findClosestRawIndex view vIndex.toNat = (result.found, result.index.toNat) := by
  unfold findClosestRawIndex at h
  unfold DatabaseBuffers.findClosestRawIndex
  by_cases hempty : view.isEmpty
  · rw [if_pos hempty] at h ⊢
    cases h
    rfl
  · rw [if_neg hempty] at h ⊢
    obtain ⟨upper, hupper, h⟩ := Option.bind_eq_some_iff.mp h
    have hnat := toNat_of_toUInt16 hupper
    have hpred : view.length - 1 = upper.toNat := by omega
    rw [hpred]
    exact findLoop_eq h

/-- The range that the database selects is the one that the search with positions of 16 bits
finds. -/
theorem findRawRange_eq {view : List (Cell α)} (hlength : view.length ≤ 65535)
    {start stop : UInt16} {range : Range}
    (h : findRawRange (view.length + 1) view start stop = some range) :
    DatabaseBuffers.findRawRange view { start := start.toNat, stop := stop.toNat } = range := by
  unfold findRawRange at h
  unfold DatabaseBuffers.findRawRange
  by_cases hvalid : start ≤ stop ∧ view ≠ []
  · rw [if_pos hvalid] at h
    rw [if_pos ⟨decide_eq_true (show start.toNat ≤ stop.toNat from hvalid.1), hvalid.2⟩]
    obtain ⟨first, hfirst, h⟩ := Option.bind_eq_some_iff.mp h
    obtain ⟨last, hlast, h⟩ := Option.bind_eq_some_iff.mp h
    obtain ⟨firstCell, hfirstCell, h⟩ := Option.bind_eq_some_iff.mp h
    have hlt := (List.getElem?_eq_some_iff.mp hfirstCell).1
    have hmax : first.index < 65535 := by
      change first.index.toNat < 65535
      omega
    rw [if_neg (fun h => h.2 hmax)] at h
    obtain ⟨rawStart, hrawStart, h⟩ := Option.bind_eq_some_iff.mp h
    obtain ⟨lastCell, hlastCell, h⟩ := Option.bind_eq_some_iff.mp h
    dsimp only
    rw [findClosestRawIndex_eq hfirst, findClosestRawIndex_eq hlast]
    dsimp only
    rw [hfirstCell, hlastCell]
    dsimp only
    -- A first cell below the start is passed over in both searches.
    have hstart : (if firstCell.config.vIndex.toNat < start.toNat then first.index.toNat + 1
        else first.index.toNat) = rawStart.toNat := by
      by_cases hless : firstCell.config.vIndex < start
      · rw [if_pos hless] at hrawStart
        have hnat := toNat_of_toUInt16 hrawStart
        rw [if_pos (show firstCell.config.vIndex.toNat < start.toNat from hless)]
        omega
      · rw [if_neg hless] at hrawStart
        cases hrawStart
        exact if_neg (show ¬firstCell.config.vIndex.toNat < start.toNat from hless)
    rw [hstart]
    by_cases hnone : stop < lastCell.config.vIndex ∧ ¬0 < last.index
    · rw [if_pos hnone] at h
      cases h
      exact if_pos ⟨hnone.1, Nat.eq_zero_of_not_pos hnone.2⟩
    · rw [if_neg hnone] at h
      obtain ⟨rawStop, hrawStop, rfl⟩ := Option.map_eq_some_iff.mp h
      -- A last cell above the stop is left out in both searches.
      have hstop : (if stop.toNat < lastCell.config.vIndex.toNat then last.index.toNat - 1
          else last.index.toNat) = rawStop.toNat := by
        by_cases hmore : stop < lastCell.config.vIndex
        · rw [if_pos hmore] at hrawStop
          have hnat := toNat_of_toUInt16 hrawStop
          rw [if_pos (show stop.toNat < lastCell.config.vIndex.toNat from hmore)]
          omega
        · rw [if_neg hmore] at hrawStop
          cases hrawStop
          exact if_neg (show ¬stop.toNat < lastCell.config.vIndex.toNat from hmore)
      rw [if_neg (fun h => hnone ⟨h.1, fun hpos => absurd h.2 (Nat.ne_of_gt hpos)⟩), hstop]
  · rw [if_neg hvalid] at h
    cases h
    exact if_neg fun hvalid' => hvalid ⟨of_decide_eq_true hvalid'.1, hvalid'.2⟩

/-- For every view in order, the searches with positions of 16 bits end without wrapping around or
leaving the view, in no more rounds than there are cells and one, and find what the searches of the
database model find with positions that are natural numbers. -/
theorem findRawRange_database {view : List (Cell α)} (hinc : DatabaseBuffers.Increasing view)
    (hlength : view.length ≤ 65535) (start stop : UInt16) :
    findRawRange (view.length + 1) view start stop = some (DatabaseBuffers.findRawRange view
        { start := start.toNat, stop := stop.toNat }) ∧
      ∀ vIndex, ∃ result, findClosestRawIndex (view.length + 1) view vIndex = some result ∧
        DatabaseBuffers.findClosestRawIndex view vIndex.toNat =
          (result.found, result.index.toNat) := by
  refine ⟨?_, fun vIndex => ?_⟩
  · by_cases hle : start ≤ stop
    · obtain ⟨range, hrange, -⟩ := findRawRange_covers hinc hlength hle (Nat.lt_succ_self _)
      rw [hrange, findRawRange_eq hlength hrange]
    · -- Both refuse a range that is not valid.
      have hnone : findRawRange (view.length + 1) view start stop = some {} :=
        if_neg fun hvalid => hle hvalid.1
      rw [hnone, findRawRange_eq hlength hnone]
  · by_cases hne : view = []
    · subst hne
      exact ⟨_, rfl, rfl⟩
    · obtain ⟨result, hresult, -⟩ :=
        findClosestRawIndex_spec hinc hlength hne vIndex (Nat.lt_succ_self _)
      exact ⟨result, hresult, findClosestRawIndex_eq hresult⟩

/-- Four cells, two of them in the range. -/
theorem findRawRange_database_fourCells :
    let view : List (Cell Bool) :=
      [1, 3, 7, 9].map fun i => DatabaseBuffers.binaryCell i true
    findRawRange 5 view 2 8 =
        some (DatabaseBuffers.findRawRange view { start := 2, stop := 8 }) ∧
      ∀ vIndex, ∃ result, findClosestRawIndex 5 view vIndex = some result ∧
        DatabaseBuffers.findClosestRawIndex view vIndex.toNat =
          (result.found, result.index.toNat) := by
  intro view
  have hinc : DatabaseBuffers.Increasing view := by
    unfold DatabaseBuffers.Increasing
    decide
  exact findRawRange_database hinc (by decide) 2 8

end OpenDnp3.Outstation.IndexSearch
