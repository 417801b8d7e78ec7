import Mathlib.Data.Rat.Floor
import VerifierBootstrap.Proofs.Digest.Reads
import VerifierBootstrap.Proofs.Engine.Segments

/-!
The segments of executions of at most `2 ^ 53` cycles. Of so few cycles the rounding drops none, so
there are as many segments as are needed to hold them, and each takes as many cycles as it can of
those that the segments before it have left.
-/

namespace VerifierBootstrap

/-- A quotient that is above one integer and not above the next one is rounded up to the next. -/
theorem Rounding.ceil_div_eq {numerator denominator whole : Nat}
    (above : whole * denominator < numerator) (within : numerator ≤ (whole + 1) * denominator)
    : ⌈(numerator / denominator : ℚ)⌉₊ = whole + 1 := by
  have positive : 0 < denominator := Nat.pos_of_ne_zero fun zero => by simp_all
  have scaled : (0 : ℚ) < denominator := by exact_mod_cast positive
  rw [Nat.ceil_eq_iff (Nat.succ_ne_zero whole), Nat.succ_sub_one]
  constructor
  · rw [lt_div_iff₀ scaled]
    exact_mod_cast above
  · rw [div_le_iff₀ scaled]
    exact_mod_cast within

namespace DevMode

variable {devMode : DevMode} {input : Bytes} {total index : Nat}

-----------------------------------------------------------------------------------------
-- Few cycles
-----------------------------------------------------------------------------------------

/-- What fills no segment is dropped of at most `2 ^ 53` cycles only if it is nothing. Witness: a
single cycle of `2 ^ 53` could be dropped, but of these a segment leaves none or all.
-/
theorem mod_segmentSize_of_dropped (few : total ≤ 2 ^ 53) (filled : 0 < total)
    (dropped : 2 ^ 53 * (total % devMode.segmentSize) ≤ 2 ^ total.log2)
    : total % devMode.segmentSize = 0 := by
  by_contra left
  have leading := Nat.log2_self_le filled.ne'
  have single : total % devMode.segmentSize = 1 := by omega
  obtain rfl : total = 2 ^ 53 := by omega
  rw [segmentSize, Nat.pow_eq] at single
  rcases Nat.lt_or_ge 53 (min devMode.po2 65) with long | short
  · rw [Nat.mod_eq_of_lt (Nat.pow_lt_pow_right (by decide) long)] at single
    exact absurd single (by decide)
  · rw [Nat.mod_eq_zero_of_dvd (Nat.pow_dvd_pow 2 short)] at single
    exact absurd single (by decide)

/-- All segments hold the cycles, and those before the last do not. -/
theorem exists_last_segment (few : total ≤ 2 ^ 53) (filled : 0 < total)
    (fits : ∀ index < devMode.segmentCount total, devMode.Fits total index)
    : ∃ last,
        devMode.segmentCount total = last + 1
        ∧ last * 2 ^ devMode.po2 < total
        ∧ total ≤ (last + 1) * 2 ^ devMode.po2 := by
  obtain ⟨last, next, begun, _⟩ := cycles_segmentAt filled fits
  have taken := min_segmentCount_mul filled fits
  have held : total ≤ (last + 1) * devMode.segmentSize := by
    rw [next] at taken
    split at taken
    · rename_i dropped
      rw [mod_segmentSize_of_dropped few filled dropped, Nat.sub_zero] at taken
      exact min_eq_left_iff.mp taken
    · exact min_eq_left_iff.mp taken
  refine ⟨last, next, ?_⟩
  rcases devMode.segmentSize_cases with same | ⟨most, more⟩
  · rw [same] at begun held
    exact ⟨begun, held⟩
  · rw [most] at begun
    obtain rfl : last = 0 := by omega
    exact ⟨by rwa [Nat.zero_mul], by omega⟩

/-- A segment takes what is left, up to what it holds. -/
theorem segmentCycles_eq_min (few : total ≤ 2 ^ 53) (begun : index * 2 ^ devMode.po2 < total)
    : (devMode.segmentCycles total index : Int)
      = min ((2 ^ devMode.po2 : Nat) : Int) (total - index * (2 ^ devMode.po2 : Nat)) := by
  have left : ((total - index * 2 ^ devMode.po2 : Nat) : Int)
      = total - index * (2 ^ devMode.po2 : Nat) := by
    rw [Nat.cast_sub begun.le, Nat.cast_mul]
  rw [← left, ← Nat.cast_min, Nat.cast_inj, segmentCycles, Nat.min_comm]
  rcases devMode.segmentSize_cases with same | ⟨most, more⟩
  · rw [same]
  · obtain rfl : index = 0 := by
      by_contra later
      have whole : 1 * 2 ^ devMode.po2 ≤ index * 2 ^ devMode.po2 :=
        Nat.mul_le_mul_right _ (Nat.one_le_iff_ne_zero.mpr later)
      omega
    rw [most, Nat.zero_mul, Nat.zero_mul, Nat.sub_zero, Nat.min_eq_right (by omega),
      Nat.min_eq_right (by omega)]

/-- The segment with a number, by the fields that it is hashed from. -/
theorem segmentAt_eq (fits : devMode.Fits total index)
    : ∃ place length,
        Words.field? 4 index = some place
        ∧ Words.field? 4 (devMode.segmentCycles total index) = some length
        ∧ devMode.segmentAt input total index
          = ⟨index, devMode.po2, devMode.segmentCycles total index,
            Digest.ofContent
              (Bytes.ofLabel "segment" ++ devMode.imageId.bytes ++ input ++ place ++ length)⟩ := by
  have width : 256 ^ 4 = 2 ^ 32 := by norm_num
  refine ⟨_, _, by rw [Words.field?_natCast, width, if_pos fits.1],
    by rw [Words.field?_natCast, width, if_pos fits.2], ?_⟩
  rw [segmentAt, commit, Digest.ofParts_eq_ofContent]
  simp only [List.flatten_cons, List.flatten_nil, List.append_nil, List.append_assoc]

-----------------------------------------------------------------------------------------
-- The segments of an execution
-----------------------------------------------------------------------------------------

/-- An execution of at most `2 ^ 53` cycles has as many segments as its cycles divided by those of a
full segment come to, rounded up. Each has its number, and takes the cycles that are left, up to
those of a full one and at least one. It is committed to by the image, the whole input, its number
and its cycles. So there is one segment exactly if it holds all cycles. Witness: the segments hold
all cycles, but without the last they do not.
-/
theorem segments_of_execute {session : Session} {requested : Nat}
    (asked : GuestInput.requestedCycles input = .ok requested)
    (few : 2 ^ 14 + requested ≤ 2 ^ 53) (run : devMode.execute input = .ok session)
    : let total : Nat := 2 ^ 14 + requested
      let size : Nat := 2 ^ devMode.po2
      session.segments.length = max 1 ⌈(total / size : ℚ)⌉₊
      ∧ (∀ index < session.segments.length, ∃ cycles place length,
          cycles = min (size : Int) (total - index * size)
          ∧ 0 < cycles
          ∧ Words.field? 4 index = some place
          ∧ Words.field? 4 cycles = some length
          ∧ session.segments[index]?
            = some
              ⟨index, devMode.po2, cycles,
                Digest.ofContent
                  (Bytes.ofLabel "segment" ++ devMode.imageId.bytes ++ input ++ place ++ length)⟩)
      ∧ (session.segments.length = 1 ↔ total ≤ size) := by
  obtain ⟨again, reasked, each, made⟩ := execute_eq_ok_iff.mp run
  obtain rfl : requested = again := Except.ok.inj (asked.symm.trans reasked)
  intro total size
  have filled : 0 < total := Nat.add_pos_left (by decide) requested
  have small : total ≤ 2 ^ 53 := few
  have fits : ∀ index < devMode.segmentCount total, devMode.Fits total index := each
  have segments
      : session.segments
        = (List.range (devMode.segmentCount total)).map (devMode.segmentAt input total) :=
    congrArg Session.segments made
  clear_value total
  obtain ⟨last, next, begun, held⟩ := exists_last_segment small filled fits
  have count : session.segments.length = last + 1 := by
    rw [segments, List.length_map, List.length_range, next]
  rw [count]
  refine ⟨?_, ?_, ?_⟩
  · rw [Rounding.ceil_div_eq begun held, Nat.max_eq_right (Nat.le_add_left 1 last)]
  · intro index inside
    have before : index * size < total :=
      (Nat.mul_le_mul_right size (Nat.le_of_lt_succ inside)).trans_lt begun
    obtain ⟨place, length, placed, measured, same⟩ := segmentAt_eq (fits index (next ▸ inside))
    refine ⟨_, place, length, segmentCycles_eq_min small before, ?_, placed, measured, ?_⟩
    · rw [segmentCycles_eq_min small before]
      exact lt_min (Int.natCast_pos.mpr (Nat.two_pow_pos _)) (sub_pos.mpr (mod_cast before))
    · rw [segments, List.getElem?_map, List.getElem?_range (next ▸ inside), Option.map_some, same]
  · constructor
    · intro one
      rwa [one, Nat.one_mul] at held
    · intro holds
      by_contra more
      have first : size ≤ last * size := Nat.le_mul_of_pos_left size (by omega)
      exact (holds.trans first).not_gt begun

/-- With segments of `2 ^ 22` cycles an execution of `2 ^ 53` cycles comes to `2 ^ 31` segments, of
which the last is full. What stands behind the twelve bytes of the input is committed to as well.
-/
theorem segments_of_execute_longest
    : let devMode : DevMode := ⟨defaultProgram, 22, by decide⟩
      let input : Bytes := [1, 0, 0, 0, 0, 0xC0, 0xFF, 0xFF, 0xFF, 0xFF, 0x1F, 0, 0xAB]
      GuestInput.requestedCycles input = .ok (2 ^ 53 - 2 ^ 14)
      ∧ ∃ session,
          devMode.execute input = .ok session
          ∧ session.segments.length = 2 ^ 31
          ∧ ∃ place length,
              session.segments[2 ^ 31 - 1]?
              = some
                ⟨2 ^ 31 - 1, 22, 2 ^ 22,
                  Digest.ofContent
                    (Bytes.ofLabel "segment" ++ devMode.imageId.bytes ++ input ++ place
                      ++ length)⟩ := by
  intro devMode input
  have asked : GuestInput.requestedCycles input = .ok (2 ^ 53 - 2 ^ 14) := by decide +kernel
  have count : devMode.segmentCount (baseCycles + (2 ^ 53 - 2 ^ 14)) = 2 ^ 31 := by
    decide +kernel
  have size : devMode.segmentSize = 2 ^ 22 := by decide +kernel
  have fits
      : ∀ index < devMode.segmentCount (baseCycles + (2 ^ 53 - 2 ^ 14)),
          devMode.Fits (baseCycles + (2 ^ 53 - 2 ^ 14)) index := by
    intro index inside
    rw [count] at inside
    rw [Fits, segmentCycles, size]
    omega
  have run := execute_eq_ok_iff.mpr ⟨_, asked, fits, rfl⟩
  obtain ⟨_, each, _⟩ := segments_of_execute asked (by decide) run
  refine ⟨asked, _, run, by rw [List.length_map, List.length_range, count], ?_⟩
  obtain ⟨cycles, place, length, taken, _, _, _, found⟩ :=
    each (2 ^ 31 - 1) (by rw [List.length_map, List.length_range, count]; decide)
  obtain rfl : cycles = 2 ^ 22 := taken
  exact ⟨place, length, found⟩

end DevMode

end VerifierBootstrap
