/-
Sampling a range from the raw draws of a seeded generator.

Both crates pin the algorithm by hand: a raw draw is multiplied by the size of
the range, the high word of the product is the sample, and the draw is
rejected when the low word lies past the zone. The loop has no bound in the
source; here it stops without an answer when its fuel runs out.
-/

import Mathlib.Data.Set.Card
import Mathlib.Data.Stream.Defs
import OxideWorkloads.Foundation.WideningDraws

namespace Generator

open Foundation

/-- A generator that draws raw 64-bit words. -/
class Rng (ρ : Type) where
  nextU64 : ρ → UInt64 × ρ

class SeedableRng (ρ : Type) extends Rng ρ where
  seedFromU64 : UInt64 → ρ

/-- The number of zero bits above the highest bit that is set. -/
def leadingZeros (range : UInt64) : UInt64 :=
  UInt64.ofBitVec range.toBitVec.clz

/-- The product of two words, in 128 bits. -/
def widen (draw range : UInt64) : BitVec 128 :=
  draw.toBitVec.setWidth 128 * range.toBitVec.setWidth 128

def highWord (full : BitVec 128) : UInt64 :=
  UInt64.ofBitVec ((full >>> 64).setWidth 64)

def lowWord (full : BitVec 128) : UInt64 :=
  UInt64.ofBitVec (full.setWidth 64)

section Copies

variable {ρ : Type} [Rng ρ]

namespace CsvPostgres

def uniformLoop (low range zone : UInt64) : Nat → ρ → Option (UInt64 × ρ)
  | 0, _ => none
  | fuel + 1, rng =>
      let (v, rng) := Rng.nextU64 rng
      let full := widen v range
      let hi := highWord full
      let lo := lowWord full
      if lo ≤ zone then some (low + hi, rng)
      else uniformLoop low range zone fuel rng

def uniformRange (fuel : Nat) (rng : ρ) (low highExclusive : UInt64) :
    Option (UInt64 × ρ) :=
  let range := highExclusive - low
  let zone := (range <<< leadingZeros range) - 1
  uniformLoop low range zone fuel rng

end CsvPostgres

namespace PostgresPostgres

def uniformLoop (low range zone : UInt64) : Nat → ρ → Option (UInt64 × ρ)
  | 0, _ => none
  | fuel + 1, rng =>
      let (v, rng) := Rng.nextU64 rng
      let full := widen v range
      let hi := highWord full
      let lo := lowWord full
      if lo ≤ zone then some (low + hi, rng)
      else uniformLoop low range zone fuel rng

def uniformRange (fuel : Nat) (rng : ρ) (low highExclusive : UInt64) :
    Option (UInt64 × ρ) :=
  let range := highExclusive - low
  let zone := (range <<< leadingZeros range) - 1
  uniformLoop low range zone fuel rng

end PostgresPostgres

theorem uniformLoop_same (low range zone : UInt64) (fuel : Nat) (rng : ρ) :
    PostgresPostgres.uniformLoop low range zone fuel rng =
      CsvPostgres.uniformLoop low range zone fuel rng := by
  induction fuel generalizing rng with
  | zero => rfl
  | succ fuel ih =>
      simp only [PostgresPostgres.uniformLoop, CsvPostgres.uniformLoop, ih]

theorem uniformRange_same (fuel : Nat) (rng : ρ) (low highExclusive : UInt64) :
    PostgresPostgres.uniformRange fuel rng low highExclusive =
      CsvPostgres.uniformRange fuel rng low highExclusive :=
  uniformLoop_same _ _ _ fuel rng

/-- The raw draw with the given number, and the state it is drawn from. -/
def stateAt (rng : ρ) : Nat → ρ
  | 0 => rng
  | count + 1 => (Rng.nextU64 (stateAt rng count)).2

def rawDraw (rng : ρ) (count : Nat) : UInt64 :=
  (Rng.nextU64 (stateAt rng count)).1

end Copies

/-- A recorded stream of raw draws. -/
instance : Rng (Stream' UInt64) where
  nextU64 stream := (stream.head, stream.tail)

/-- What a raw draw is turned into, unless it is rejected. -/
def drawn (low highExclusive draw : UInt64) : Option UInt64 :=
  (CsvPostgres.uniformRange 1 (Stream'.const draw) low highExclusive).map
    Prod.fst

/-- Every operation of the sampling keeps its mathematical value. -/
structure NoOverflow (low highExclusive : UInt64) : Prop where
  difference :
    (highExclusive - low).toNat = highExclusive.toNat - low.toNat
  amount : (leadingZeros (highExclusive - low)).toNat < 64
  shift :
    ((highExclusive - low) <<< leadingZeros (highExclusive - low)).toNat =
      (highExclusive - low).toNat *
        2 ^ (leadingZeros (highExclusive - low)).toNat
  product : ∀ draw, (widen draw (highExclusive - low)).toNat =
    draw.toNat * (highExclusive - low).toNat
  sum : ∀ draw, (low + highWord (widen draw (highExclusive - low))).toNat =
    low.toNat + (highWord (widen draw (highExclusive - low))).toNat

theorem widen_toNat (draw range : UInt64) :
    (widen draw range).toNat = draw.toNat * range.toNat := by
  have product : draw.toNat * range.toNat < 2 ^ 64 * 2 ^ 64 :=
    Nat.mul_lt_mul'' draw.toNat_lt range.toNat_lt
  have wide : ∀ word : UInt64,
      (word.toBitVec.setWidth 128).toNat = word.toNat := by
    intro word
    rw [BitVec.toNat_setWidth, UInt64.toNat_toBitVec]
    exact Nat.mod_eq_of_lt (Nat.lt_trans word.toNat_lt (by decide))
  unfold widen
  rw [BitVec.toNat_mul, wide, wide]
  exact Nat.mod_eq_of_lt product

theorem highWord_toNat (draw range : UInt64) :
    (highWord (widen draw range)).toNat =
      Widening.sample (2 ^ 64) range.toNat draw.toNat := by
  have product : draw.toNat * range.toNat < 2 ^ 64 * 2 ^ 64 :=
    Nat.mul_lt_mul'' draw.toNat_lt range.toNat_lt
  unfold highWord Widening.sample
  rw [UInt64.toNat_ofBitVec, BitVec.toNat_setWidth, BitVec.toNat_ushiftRight,
    widen_toNat, Nat.shiftRight_eq_div_pow, Nat.mod_eq_of_lt]
  exact Nat.div_lt_of_lt_mul product

theorem lowWord_toNat (draw range : UInt64) :
    (lowWord (widen draw range)).toNat =
      draw.toNat * range.toNat % 2 ^ 64 := by
  unfold lowWord
  rw [UInt64.toNat_ofBitVec, BitVec.toNat_setWidth, widen_toNat]

/-- A range shifted by its leading zeros fills the upper half of a word. -/
theorem leadingZeros_spec {range : UInt64} (positive : 0 < range.toNat) :
    (leadingZeros range).toNat < 64 ∧
      2 ^ 63 ≤ range.toNat * 2 ^ (leadingZeros range).toNat ∧
      range.toNat * 2 ^ (leadingZeros range).toNat < 2 ^ 64 := by
  have nonzero : range.toBitVec ≠ 0#64 := by
    intro zero
    have value := congrArg BitVec.toNat zero
    rw [UInt64.toNat_toBitVec] at value
    exact Nat.ne_of_gt positive value
  have amount : range.toBitVec.clz.toNat < 64 :=
    BitVec.clz_lt_iff_ne_zero.mpr nonzero
  have least : 2 ^ (64 - 1 - range.toBitVec.clz.toNat) ≤ range.toNat :=
    BitVec.two_pow_sub_clz_le_toNat_of_ne_zero (by decide) nonzero
  have most : range.toNat < 2 ^ (64 - range.toBitVec.clz.toNat) :=
    BitVec.toNat_lt_two_pow_sub_clz
  have same : (leadingZeros range).toNat = range.toBitVec.clz.toNat :=
    rfl
  rw [same]
  constructor
  · exact amount
  constructor
  · calc
      2 ^ 63 = 2 ^ (64 - 1 - range.toBitVec.clz.toNat) *
          2 ^ range.toBitVec.clz.toNat := by
        rw [← Nat.pow_add]
        congr 1
        omega
      _ ≤ range.toNat * 2 ^ range.toBitVec.clz.toNat :=
        Nat.mul_le_mul_right _ least
  · calc
      range.toNat * 2 ^ range.toBitVec.clz.toNat <
          2 ^ (64 - range.toBitVec.clz.toNat) *
            2 ^ range.toBitVec.clz.toNat :=
        Nat.mul_lt_mul_of_pos_right most (Nat.two_pow_pos _)
      _ = 2 ^ 64 := by
        rw [← Nat.pow_add]
        congr 1
        omega

theorem shift_toNat {range : UInt64} (positive : 0 < range.toNat) :
    (range <<< leadingZeros range).toNat =
      range.toNat * 2 ^ (leadingZeros range).toNat := by
  have zeros := leadingZeros_spec positive
  rw [UInt64.toNat_shiftLeft, Nat.mod_eq_of_lt zeros.1, Nat.shiftLeft_eq,
    Nat.mod_eq_of_lt zeros.2.2]

theorem difference_toNat {low highExclusive : UInt64}
    (ordered : low < highExclusive) :
    (highExclusive - low).toNat = highExclusive.toNat - low.toNat :=
  UInt64.toNat_sub_of_le _ _ (UInt64.le_of_lt ordered)

theorem difference_pos {low highExclusive : UInt64}
    (ordered : low < highExclusive) : 0 < (highExclusive - low).toNat := by
  have numbers := UInt64.lt_iff_toNat_lt.mp ordered
  rw [difference_toNat ordered]
  omega

theorem sum_toNat {low highExclusive : UInt64}
    (ordered : low < highExclusive) (draw : UInt64) :
    (low + highWord (widen draw (highExclusive - low))).toNat =
      low.toNat + (highWord (widen draw (highExclusive - low))).toNat := by
  have below : (highWord (widen draw (highExclusive - low))).toNat <
      (highExclusive - low).toNat := by
    rw [highWord_toNat]
    exact Widening.sample_lt draw.toNat_lt (difference_pos ordered)
  have most := highExclusive.toNat_lt
  rw [difference_toNat ordered] at below
  rw [UInt64.toNat_add, Nat.mod_eq_of_lt (by omega)]

theorem noOverflow {low highExclusive : UInt64}
    (ordered : low < highExclusive) : NoOverflow low highExclusive where
  difference := difference_toNat ordered
  amount := (leadingZeros_spec (difference_pos ordered)).1
  shift := shift_toNat (difference_pos ordered)
  product := fun draw => widen_toNat draw _
  sum := sum_toNat ordered

/-- The zone accepts as many low words as fill its multiple of the range. -/
theorem within_zone_iff {range : UInt64} (positive : 0 < range.toNat)
    (draw : UInt64) :
    lowWord (widen draw range) ≤ (range <<< leadingZeros range) - 1 ↔
      Widening.Accepted (2 ^ 64) range.toNat
        (2 ^ (leadingZeros range).toNat) draw.toNat := by
  have zeros := leadingZeros_spec positive
  have shifted := shift_toNat positive
  have one : (1 : UInt64) ≤ range <<< leadingZeros range := by
    rw [UInt64.le_iff_toNat_le, shifted]
    exact Nat.le_trans (by decide) zeros.2.1
  rw [UInt64.le_iff_toNat_le, lowWord_toNat, UInt64.toNat_sub_of_le _ _ one,
    shifted, UInt64.toNat_one]
  unfold Widening.Accepted
  omega

section Loop

variable {ρ : Type} [Rng ρ]

theorem uniformLoop_succ (low range zone : UInt64) (fuel : Nat) (rng : ρ) :
    CsvPostgres.uniformLoop low range zone (fuel + 1) rng =
      if lowWord (widen (Rng.nextU64 rng).1 range) ≤ zone then
        some (low + highWord (widen (Rng.nextU64 rng).1 range),
          (Rng.nextU64 rng).2)
      else CsvPostgres.uniformLoop low range zone fuel (Rng.nextU64 rng).2 :=
  rfl

theorem uniformRange_succ {low highExclusive : UInt64}
    (ordered : low < highExclusive) (fuel : Nat) (rng : ρ) :
    CsvPostgres.uniformRange (fuel + 1) rng low highExclusive =
      if Widening.Accepted (2 ^ 64) (highExclusive - low).toNat
          (2 ^ (leadingZeros (highExclusive - low)).toNat)
          (Rng.nextU64 rng).1.toNat then
        some (low +
          highWord (widen (Rng.nextU64 rng).1 (highExclusive - low)),
          (Rng.nextU64 rng).2)
      else CsvPostgres.uniformRange fuel (Rng.nextU64 rng).2 low
        highExclusive := by
  have zone := within_zone_iff (difference_pos ordered) (Rng.nextU64 rng).1
  simp only [CsvPostgres.uniformRange, uniformLoop_succ, zone]

end Loop

theorem drawn_eq {low highExclusive : UInt64}
    (ordered : low < highExclusive) (draw : UInt64) :
    drawn low highExclusive draw =
      if Widening.Accepted (2 ^ 64) (highExclusive - low).toNat
          (2 ^ (leadingZeros (highExclusive - low)).toNat) draw.toNat then
        some (low + highWord (widen draw (highExclusive - low)))
      else none := by
  have first : (Rng.nextU64 (Stream'.const draw)).1 = draw := rfl
  unfold drawn
  rw [uniformRange_succ ordered, first]
  split
  · rfl
  · rfl

/-- A draw gives a value of the range when it is accepted for the value's
distance from the lower end. -/
theorem drawn_eq_some {low highExclusive draw value : UInt64}
    (ordered : low < highExclusive) :
    drawn low highExclusive draw = some value ↔
      low ≤ value ∧
      Widening.Accepted (2 ^ 64) (highExclusive - low).toNat
        (2 ^ (leadingZeros (highExclusive - low)).toNat) draw.toNat ∧
      Widening.sample (2 ^ 64) (highExclusive - low).toNat draw.toNat =
        value.toNat - low.toNat := by
  have sum := sum_toNat ordered draw
  rw [highWord_toNat] at sum
  rw [drawn_eq ordered]
  split
  · rename_i accepted
    rw [Option.some.injEq, ← UInt64.toNat_inj, sum, UInt64.le_iff_toNat_le]
    constructor
    · intro same
      exact ⟨by omega, accepted, by omega⟩
    · rintro ⟨least, _, same⟩
      omega
  · rename_i rejected
    constructor
    · intro impossible
      cases impossible
    · rintro ⟨_, accepted, _⟩
      exact absurd accepted rejected

theorem drawn_within {low highExclusive draw value : UInt64}
    (ordered : low < highExclusive)
    (taken : drawn low highExclusive draw = some value) :
    low ≤ value ∧ value < highExclusive := by
  obtain ⟨least, _, sampled⟩ := (drawn_eq_some ordered).mp taken
  have below := Widening.sample_lt draw.toNat_lt (difference_pos ordered)
  rw [sampled, difference_toNat ordered] at below
  have reached := UInt64.le_iff_toNat_le.mp least
  rw [UInt64.lt_iff_toNat_lt]
  exact ⟨least, by omega⟩

/-- Words are counted by their numbers. -/
theorem ncard_words (taken : Nat → Prop) [DecidablePred taken] :
    {draw : UInt64 | taken draw.toNat}.ncard =
      ((Finset.range (2 ^ 64)).filter taken).card := by
  have image : UInt64.toNat '' {draw : UInt64 | taken draw.toNat} =
      ↑((Finset.range (2 ^ 64)).filter taken) := by
    ext number
    rw [Finset.coe_filter]
    constructor
    · rintro ⟨draw, holds, rfl⟩
      exact ⟨Finset.mem_range.mpr draw.toNat_lt, holds⟩
    · rintro ⟨below, holds⟩
      have value : (UInt64.ofNat number).toNat = number :=
        UInt64.toNat_ofNat_of_lt' (Finset.mem_range.mp below)
      refine ⟨UInt64.ofNat number, ?_, value⟩
      change taken (UInt64.ofNat number).toNat
      rw [value]
      exact holds
  rw [← Set.ncard_coe_finset, ← image,
    Set.ncard_image_of_injective _ (fun _ _ same => UInt64.toNat_inj.mp same)]

/-- Every value of the range is given by the same number of draws. -/
theorem ncard_drawn {low highExclusive value : UInt64}
    (least : low ≤ value) (most : value < highExclusive) :
    {draw | drawn low highExclusive draw = some value}.ncard =
      2 ^ (leadingZeros (highExclusive - low)).toNat := by
  have ordered : low < highExclusive := UInt64.lt_of_le_of_lt least most
  have zeros := leadingZeros_spec (difference_pos ordered)
  have first := UInt64.le_iff_toNat_le.mp least
  have last := UInt64.lt_iff_toNat_lt.mp most
  have below : value.toNat - low.toNat < (highExclusive - low).toNat := by
    rw [difference_toNat ordered]
    omega
  rw [← Widening.card_sample (Nat.le_of_lt zeros.2.2) below, ← ncard_words]
  congr 1
  ext draw
  rw [Set.mem_ofPred_eq, drawn_eq_some ordered, Set.mem_ofPred_eq]
  exact and_iff_right least

/-- At least half of the draws are accepted. -/
theorem ncard_accepted {low highExclusive : UInt64}
    (ordered : low < highExclusive) :
    2 ^ 63 ≤ {draw | (drawn low highExclusive draw).isSome}.ncard := by
  have zeros := leadingZeros_spec (difference_pos ordered)
  have same : {draw | (drawn low highExclusive draw).isSome} =
      {draw : UInt64 | Widening.Accepted (2 ^ 64)
        (highExclusive - low).toNat
        (2 ^ (leadingZeros (highExclusive - low)).toNat) draw.toNat} := by
    ext draw
    rw [Set.mem_ofPred_eq, drawn_eq ordered, Set.mem_ofPred_eq]
    split
    · rename_i accepted
      exact iff_of_true rfl accepted
    · rename_i rejected
      exact iff_of_false Bool.false_ne_true rejected
  rw [same, ncard_words, Widening.card_accepted (Nat.le_of_lt zeros.2.2)
    (difference_pos ordered)]
  exact zeros.2.1

section Answers

variable {ρ : Type} [Rng ρ]

/-- The loop accepts the draw with the given number, and none before it. -/
def FirstAccepted (low highExclusive : UInt64) (rng : ρ) (count : Nat)
    (value : UInt64) : Prop :=
  (∀ earlier < count, drawn low highExclusive (rawDraw rng earlier) = none) ∧
    drawn low highExclusive (rawDraw rng count) = some value

theorem stateAt_next (rng : ρ) (count : Nat) :
    stateAt (Rng.nextU64 rng).2 count = stateAt rng (count + 1) := by
  induction count with
  | zero => rfl
  | succ count ih =>
      rw [stateAt, ih]
      rfl

theorem rawDraw_next (rng : ρ) (count : Nat) :
    rawDraw (Rng.nextU64 rng).2 count = rawDraw rng (count + 1) := by
  unfold rawDraw
  rw [stateAt_next]

theorem firstAccepted_next {low highExclusive value : UInt64} {rng : ρ}
    {count : Nat}
    (rejected : drawn low highExclusive (rawDraw rng 0) = none) :
    FirstAccepted low highExclusive (Rng.nextU64 rng).2 count value ↔
      FirstAccepted low highExclusive rng (count + 1) value := by
  unfold FirstAccepted
  rw [rawDraw_next]
  apply and_congr_left
  intro _
  constructor
  · intro before earlier bound
    cases earlier with
    | zero => exact rejected
    | succ earlier =>
        rw [← rawDraw_next]
        exact before earlier (Nat.lt_of_succ_lt_succ bound)
  · intro before earlier bound
    rw [rawDraw_next]
    exact before (earlier + 1) (Nat.succ_lt_succ bound)

/-- One turn of the loop, by what its draw gives. -/
theorem uniformRange_turn {low highExclusive : UInt64}
    (ordered : low < highExclusive) (fuel : Nat) (rng : ρ) :
    CsvPostgres.uniformRange (fuel + 1) rng low highExclusive =
      (drawn low highExclusive (rawDraw rng 0)).elim
        (CsvPostgres.uniformRange fuel (Rng.nextU64 rng).2 low highExclusive)
        fun value => some (value, (Rng.nextU64 rng).2) := by
  rw [uniformRange_succ ordered, drawn_eq ordered]
  change (if Widening.Accepted _ _ _ (rawDraw rng 0).toNat then _ else _) = _
  split
  · rfl
  · rfl

/-- The loop answers with the first draw that it accepts. -/
theorem uniformRange_eq_some {low highExclusive value : UInt64}
    (ordered : low < highExclusive) {fuel : Nat} {rng after : ρ} :
    CsvPostgres.uniformRange fuel rng low highExclusive =
        some (value, after) ↔
      ∃ count < fuel, FirstAccepted low highExclusive rng count value ∧
        stateAt rng (count + 1) = after := by
  induction fuel generalizing rng with
  | zero =>
      constructor
      · intro impossible
        cases impossible
      · rintro ⟨count, below, _⟩
        exact absurd below (Nat.not_lt_zero count)
  | succ fuel ih =>
      rw [uniformRange_turn ordered]
      cases turn : drawn low highExclusive (rawDraw rng 0) with
      | some first =>
          rw [Option.elim_some, Option.some.injEq, Prod.mk.injEq]
          constructor
          · rintro ⟨same, next⟩
            rw [same] at turn
            exact ⟨0, Nat.succ_pos fuel, ⟨fun _ early =>
              absurd early (Nat.not_lt_zero _), turn⟩, next⟩
          · rintro ⟨count, _, ⟨before, accepted⟩, next⟩
            cases count with
            | zero =>
                rw [turn] at accepted
                exact ⟨Option.some.inj accepted, next⟩
            | succ count =>
                have rejected := before 0 (Nat.succ_pos count)
                rw [turn] at rejected
                cases rejected
      | none =>
          rw [Option.elim_none, ih]
          constructor
          · rintro ⟨count, below, accepted, next⟩
            rw [stateAt_next] at next
            exact ⟨count + 1, Nat.succ_lt_succ below,
              (firstAccepted_next turn).mp accepted, next⟩
          · rintro ⟨count, below, accepted, next⟩
            cases count with
            | zero =>
                rw [accepted.2] at turn
                cases turn
            | succ count =>
                rw [← stateAt_next] at next
                exact ⟨count, Nat.lt_of_succ_lt_succ below,
                  (firstAccepted_next turn).mpr accepted, next⟩

theorem uniformRange_within {low highExclusive value : UInt64}
    (ordered : low < highExclusive) {fuel : Nat} {rng after : ρ}
    (answer : CsvPostgres.uniformRange fuel rng low highExclusive =
      some (value, after)) :
    low ≤ value ∧ value < highExclusive := by
  obtain ⟨_, _, accepted, _⟩ := (uniformRange_eq_some ordered).mp answer
  exact drawn_within ordered accepted.2

/-- More fuel does not change an answer. -/
theorem uniformRange_mono {low highExclusive : UInt64}
    (ordered : low < highExclusive) {fuel more : Nat} (enough : fuel ≤ more)
    {rng : ρ} {answer : UInt64 × ρ}
    (answered : CsvPostgres.uniformRange fuel rng low highExclusive =
      some answer) :
    CsvPostgres.uniformRange more rng low highExclusive = some answer := by
  obtain ⟨count, below, rest⟩ := (uniformRange_eq_some ordered).mp answered
  exact (uniformRange_eq_some ordered).mpr
    ⟨count, Nat.lt_of_lt_of_le below enough, rest⟩

/-- The loop ends on a stream with an accepted draw. -/
theorem uniformRange_ends {low highExclusive : UInt64}
    (ordered : low < highExclusive) {rng : ρ}
    (accepted : ∃ count,
      (drawn low highExclusive (rawDraw rng count)).isSome) :
    ∃ fuel,
      (CsvPostgres.uniformRange fuel rng low highExclusive).isSome := by
  have least := Nat.find_spec accepted
  obtain ⟨value, taken⟩ := Option.isSome_iff_exists.mp least
  have before : ∀ earlier < Nat.find accepted,
      drawn low highExclusive (rawDraw rng earlier) = none := by
    intro earlier early
    have rejected := Nat.find_min accepted early
    exact Option.not_isSome_iff_eq_none.mp rejected
  have answer := (uniformRange_eq_some ordered).mpr
    ⟨Nat.find accepted, Nat.lt_succ_self _, ⟨before, taken⟩, rfl⟩
  exact ⟨_, Option.isSome_of_eq_some answer⟩

theorem stateAt_stateAt (rng : ρ) (first second : Nat) :
    stateAt (stateAt rng first) second = stateAt rng (first + second) := by
  induction second with
  | zero => rfl
  | succ second ih => rw [stateAt, ih, Nat.add_succ, stateAt]

/-- Wherever the stream has got to, each range still finds a draw that it
accepts. -/
def Lively (rng : ρ) : Prop :=
  ∀ start low highExclusive, low < highExclusive →
    ∃ count,
      (drawn low highExclusive (rawDraw (stateAt rng start) count)).isSome

theorem Lively.later {rng : ρ} (lively : Lively rng) (count : Nat) :
    Lively (stateAt rng count) := by
  intro start
  rw [stateAt_stateAt]
  exact lively (count + start)

/-- On a lively stream every sampling ends, with as much fuel as it takes. -/
theorem Lively.samples {rng : ρ} (lively : Lively rng)
    {low highExclusive : UInt64} (ordered : low < highExclusive) :
    ∃ value count enough, low ≤ value ∧ value < highExclusive ∧
      ∀ fuel, enough ≤ fuel →
        CsvPostgres.uniformRange fuel rng low highExclusive =
          some (value, stateAt rng count) := by
  obtain ⟨enough, answered⟩ :
      ∃ fuel,
        (CsvPostgres.uniformRange fuel rng low highExclusive).isSome :=
    uniformRange_ends ordered (lively 0 low highExclusive ordered)
  obtain ⟨⟨value, after⟩, answer⟩ := Option.isSome_iff_exists.mp answered
  have within := uniformRange_within ordered answer
  obtain ⟨count, _, _, reached⟩ := (uniformRange_eq_some ordered).mp answer
  refine ⟨value, count + 1, enough, within.1, within.2, ?_⟩
  intro fuel more
  rw [reached]
  exact uniformRange_mono ordered more answer

/-- Sampling a range stays in the range, gives each of its values the same
number of draws, accepts at least half of all draws, and ends as soon as a
draw is accepted; both crates sample alike. -/
theorem uniformRange_exact {low highExclusive : UInt64}
    (ordered : low < highExclusive) :
    NoOverflow low highExclusive ∧
    (∀ value, low ≤ value → value < highExclusive →
      {draw | drawn low highExclusive draw = some value}.ncard =
        2 ^ (leadingZeros (highExclusive - low)).toNat) ∧
    2 ^ 63 ≤ {draw | (drawn low highExclusive draw).isSome}.ncard ∧
    (∀ fuel (rng after : ρ) value,
      CsvPostgres.uniformRange fuel rng low highExclusive =
          some (value, after) →
        low ≤ value ∧ value < highExclusive ∧
          ∃ count, FirstAccepted low highExclusive rng count value ∧
            stateAt rng (count + 1) = after) ∧
    (∀ rng : ρ,
      (∃ count, (drawn low highExclusive (rawDraw rng count)).isSome) →
        ∃ fuel,
          (CsvPostgres.uniformRange fuel rng low highExclusive).isSome) ∧
    ∀ fuel (rng : ρ) first last,
      PostgresPostgres.uniformRange fuel rng first last =
        CsvPostgres.uniformRange fuel rng first last := by
  refine ⟨noOverflow ordered, fun value => ncard_drawn,
    ncard_accepted ordered, ?_, fun rng => uniformRange_ends ordered,
    uniformRange_same⟩
  intro fuel rng after value answer
  have within := uniformRange_within ordered answer
  obtain ⟨count, _, accepted⟩ := (uniformRange_eq_some ordered).mp answer
  exact ⟨within.1, within.2, count, accepted⟩

end Answers

/-- Recorded raw draws, and zeros behind them. -/
structure Recording where
  draws : List UInt64

/-- The first draws of the generator that is seeded with 42. -/
instance : SeedableRng Recording where
  nextU64 recording :=
    (recording.draws.headD 0, { draws := recording.draws.tail })
  seedFromU64 seed :=
    { draws := if seed = 42 then
        [12578764544318200737, 17529487244874322312, 7886285670807131020,
          11572758976476374866, 5323617429756461744, 2766252901828231838,
          5682345367224914708, 14828835203913492612] else [] }

/-- A zero is accepted for every range. -/
theorem zero_accepted {low highExclusive : UInt64}
    (ordered : low < highExclusive) :
    (drawn low highExclusive 0).isSome := by
  have zeros := leadingZeros_spec (difference_pos ordered)
  rw [drawn_eq ordered, if_pos]
  · rfl
  · unfold Widening.Accepted
    rw [UInt64.toNat_zero, Nat.zero_mul, Nat.zero_mod]
    exact Nat.lt_of_lt_of_le (by decide) zeros.2.1

theorem Recording.stateAt_draws (recording : Recording) (count : Nat) :
    (stateAt recording count).draws = recording.draws.drop count := by
  induction count with
  | zero => rfl
  | succ count ih =>
      rw [← List.tail_drop, ← ih]
      rfl

theorem Recording.lively (recording : Recording) : Lively recording := by
  intro start low highExclusive ordered
  refine ⟨recording.draws.length, ?_⟩
  have past : rawDraw (stateAt recording start) recording.draws.length =
      0 := by
    unfold rawDraw
    change (stateAt (stateAt recording start) _).draws.headD 0 = 0
    rw [stateAt_stateAt, Recording.stateAt_draws,
      List.drop_eq_nil_of_le (Nat.le_add_left _ _)]
    rfl
  rw [past]
  exact zero_accepted ordered

theorem uniformRange_exact_ten :
    {draw | drawn 5 15 draw = some 7}.ncard = 2 ^ 60 :=
  (@uniformRange_exact (Stream' UInt64) _ 5 15 (by decide)).2.1 7
    (by decide) (by decide)

end Generator
