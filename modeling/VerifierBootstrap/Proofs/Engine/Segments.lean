import VerifierBootstrap.Proofs.Engine.GuestInput
import VerifierBootstrap.Proofs.Except
import VerifierBootstrap.Proofs.Number.Rounding

/-!
The segments of an execution. Each takes as many cycles as fit of those that are left, so together
they take all cycles if there are enough of them. Their number is computed from the cycles rounded
to fifty-three significant bits: it is one too few exactly if the rounding drops what does not fill
a segment.
-/

namespace VerifierBootstrap.DevMode

variable {devMode : DevMode} {input : Bytes} {total index : Nat}

-----------------------------------------------------------------------------------------
-- The segments that are made
-----------------------------------------------------------------------------------------

/-- The number of a segment and its cycles fit the fields that they are hashed from. -/
def Fits (devMode : DevMode) (total index : Nat) : Prop :=
  index < 2 ^ 32 ∧ devMode.segmentCycles total index < 2 ^ 32

/-- The segment with a number, of an execution that takes so many cycles. -/
def segmentAt (devMode : DevMode) (input : Bytes) (total index : Nat) : Segment where
  index := index
  po2 := devMode.po2
  cycles := devMode.segmentCycles total index
  traceCommitment :=
    commit "segment"
      [devMode.imageId.bytes, input, Words.encode 4 index,
        Words.encode 4 (devMode.segmentCycles total index)]

@[simp] theorem segmentAt_cycles (devMode : DevMode) (input : Bytes) (total index : Nat)
    : (devMode.segmentAt input total index).cycles = devMode.segmentCycles total index := rfl

/-- A segment is made if its fields fit. -/
theorem segment_eq_ok_iff {segment : Segment}
    : devMode.segment devMode.imageId input total index = .ok segment
      ↔ devMode.Fits total index ∧ segment = devMode.segmentAt input total index := by
  have width : 256 ^ 4 = 2 ^ 32 := by norm_num
  rw [DevMode.segment, Words.field?_natCast, Words.field?_natCast, width, Fits]
  by_cases place : index < 2 ^ 32
  · by_cases length : devMode.segmentCycles total index < 2 ^ 32
    · rw [if_pos place, if_pos length, segmentOf]
      simp only [place, length, true_and, Except.ok.injEq]
      exact eq_comm
    · rw [if_pos place, if_neg length, segmentOf]
      · simp only [length, and_false, false_and, reduceCtorEq]
      · simp
  · rw [if_neg place, segmentOf]
    · simp only [place, false_and, reduceCtorEq]
    · simp

/-- Segments are made one by one, if the fields of each fit. By induction on their number. -/
theorem segmentsFrom_eq_ok_iff {count : Nat} {segments : List Segment}
    : devMode.segmentsFrom devMode.imageId input total index count = .ok segments
      ↔ (∀ place ∈ List.range' index count, devMode.Fits total place)
        ∧ segments = (List.range' index count).map (devMode.segmentAt input total) := by
  induction count generalizing index segments with
  | zero => simp [segmentsFrom, eq_comm]
  | succ count ih =>
      rw [List.range'_succ, List.forall_mem_cons, List.map_cons]
      constructor
      · intro made
        obtain ⟨first, atFirst, made⟩ := ok_of_bind made
        obtain ⟨rest, atRest, made⟩ := ok_of_bind made
        obtain ⟨fits, rfl⟩ := segment_eq_ok_iff.mp atFirst
        obtain ⟨restFit, rfl⟩ := ih.mp atRest
        exact ⟨⟨fits, restFit⟩, (Except.ok.inj made).symm⟩
      · rintro ⟨⟨fits, restFit⟩, rfl⟩
        rw [segmentsFrom, bind_of_ok (segment_eq_ok_iff.mpr ⟨fits, rfl⟩),
          bind_of_ok (ih.mpr ⟨restFit, rfl⟩)]
        rfl

/-- An execution succeeds if its input asks for cycles and the fields of every segment fit. -/
theorem execute_eq_ok_iff {session : Session}
    : devMode.execute input = .ok session
      ↔ ∃ requested,
          GuestInput.requestedCycles input = .ok requested
          ∧ (∀ index < devMode.segmentCount (baseCycles + requested),
              devMode.Fits (baseCycles + requested) index)
          ∧ session
            = ⟨(List.range (devMode.segmentCount (baseCycles + requested))).map
                (devMode.segmentAt input (baseCycles + requested)),
              (commit "journal" [input]).bytes, baseCycles + requested⟩ := by
  have fits (count total : Nat)
      : (∀ place ∈ List.range' 0 count, devMode.Fits total place)
        ↔ ∀ index < count, devMode.Fits total index := by
    simp [List.mem_range'_1]
  constructor
  · intro run
    obtain ⟨requested, asked, run⟩ := ok_of_bind run
    obtain ⟨segments, made, run⟩ := ok_of_bind run
    obtain ⟨each, rfl⟩ := segmentsFrom_eq_ok_iff.mp made
    rw [← List.range_eq_range'] at run
    exact ⟨requested, asked, (fits _ _).mp each, (Except.ok.inj run).symm⟩
  · rintro ⟨requested, asked, each, rfl⟩
    rw [execute, bind_of_ok asked,
      bind_of_ok (segmentsFrom_eq_ok_iff.mpr ⟨(fits _ _).mpr each, rfl⟩), ← List.range_eq_range']
    rfl

-----------------------------------------------------------------------------------------
-- Their cycles
-----------------------------------------------------------------------------------------

theorem segmentSize_pos (devMode : DevMode) : 0 < devMode.segmentSize :=
  Nat.two_pow_pos _

/-- A segment holds as many cycles as its power of two says, or more than any execution takes. -/
theorem segmentSize_cases (devMode : DevMode)
    : devMode.segmentSize = 2 ^ devMode.po2
      ∨ devMode.segmentSize = 2 ^ 65 ∧ 2 ^ 65 ≤ 2 ^ devMode.po2 := by
  rw [segmentSize, Nat.pow_eq]
  rcases Nat.le_total devMode.po2 65 with small | large
  · exact .inl (by rw [Nat.min_eq_left small])
  · exact .inr ⟨by rw [Nat.min_eq_right large], Nat.pow_le_pow_right (by decide) large⟩

/-- An input asks for no more cycles than a field of eight bytes holds. -/
theorem requestedCycles_lt {requested : Nat}
    (asked : GuestInput.requestedCycles input = .ok requested)
    : requested < 2 ^ 64 := by
  obtain ⟨_, _, encoded, _⟩ := GuestInput.requestedCycles_eq_ok_iff.mp asked
  exact (GuestInput.encode_eq_ok_iff.mp encoded).1

/-- Segments take as many of all cycles as they can hold together. By induction on their number.
-/
theorem sum_cycles_segmentAt (devMode : DevMode) (input : Bytes) (total count : Nat)
    : (((List.range count).map (devMode.segmentAt input total)).map Segment.cycles).sum
      = (min total (count * devMode.segmentSize) : Nat) := by
  induction count with
  | zero => simp
  | succ count ih =>
      rw [List.range_succ, List.map_append, List.map_append, List.sum_append, ih,
        Nat.succ_mul]
      simp only [List.map_cons, List.map_nil, List.sum_cons, List.sum_nil, segmentAt_cycles,
        segmentCycles]
      omega

/-- A segment that all cycles reach beyond is full. -/
theorem segmentCycles_of_le {count : Nat} (reached : count * devMode.segmentSize ≤ total)
    (inside : index < count)
    : devMode.segmentCycles total index = devMode.segmentSize := by
  have beyond : (index + 1) * devMode.segmentSize ≤ total :=
    (Nat.mul_le_mul_right _ inside).trans reached
  rw [Nat.succ_mul] at beyond
  rw [segmentCycles]
  omega

/-- If the fields of all segments fit, a segment ends on every second number that fifty-three bits
can hold, as large as the cycles are. Witness: there are at most `2 ^ 32` segments, so the leading
bit of the cycles is at most as many bits above that of a segment.
-/
theorem two_mul_spacing_dvd_segmentSize
    (fits : ∀ index < devMode.segmentCount total, devMode.Fits total index)
    : 2 * Rounding.spacing 53 total ∣ devMode.segmentSize
      ∨ Rounding.spacing 53 total = 1 := by
  rcases Nat.lt_or_ge total (2 ^ 53) with small | large
  · exact .inr (Rounding.spacing_eq_one small (by decide))
  · have some : 0 < devMode.segmentCount total :=
      Nat.lt_of_lt_of_le Nat.one_pos (Nat.le_max_left _ _)
    have short : devMode.segmentSize < 2 ^ 32 := by
      have first := (fits 0 some).2
      rw [segmentCycles] at first
      omega
    have few : devMode.segmentCount total ≤ 2 ^ 32 := by
      have last := (fits (devMode.segmentCount total - 1) (by omega)).1
      omega
    have bounded : 2 ^ total.log2 ≤ 2 ^ 32 * devMode.segmentSize :=
      calc
        2 ^ total.log2
        _ ≤ Rounding.toSignificant 53 total :=
          Rounding.two_pow_log2_le_toSignificant (by decide) (by omega)
        _ ≤ Rounding.ceilDiv (Rounding.toSignificant 53 total) devMode.segmentSize
              * devMode.segmentSize :=
          Rounding.le_ceilDiv_mul _ devMode.segmentSize_pos
        _ ≤ devMode.segmentCount total * devMode.segmentSize :=
          Nat.mul_le_mul_right _ (Nat.le_max_right _ _)
        _ ≤ 2 ^ 32 * devMode.segmentSize := Nat.mul_le_mul_right _ few
    rw [segmentSize, Nat.pow_eq, ← Nat.pow_add, Nat.pow_le_pow_iff_right (by decide)] at bounded
    refine .inl ?_
    rw [Rounding.spacing, segmentSize, Nat.pow_eq, ← Nat.pow_succ']
    have leading : 53 ≤ total.log2 := (Nat.le_log2 (by omega)).mpr large
    exact Nat.pow_dvd_pow 2 (by omega)

/-- An execution has a segment for the cycles that fill no segment, unless their share of all
cycles is too small for fifty-three significant bits.
-/
theorem segmentCount_eq (filled : 0 < total)
    (fits : ∀ index < devMode.segmentCount total, devMode.Fits total index)
    : devMode.segmentCount total
      = total / devMode.segmentSize
        + if 2 ^ 53 * (total % devMode.segmentSize) ≤ 2 ^ total.log2 then 0 else 1 := by
  have onGrid := two_mul_spacing_dvd_segmentSize fits
  have within := Nat.mod_lt total devMode.segmentSize_pos
  rw [← Nat.div_add_mod' total devMode.segmentSize] at onGrid
  have count := Rounding.ceilDiv_toSignificant (by decide) within onGrid
  rw [Nat.div_add_mod'] at count
  rw [segmentCount, count]
  by_cases dropped : 2 ^ 53 * (total % devMode.segmentSize) ≤ 2 ^ total.log2
  · have whole : 0 < total / devMode.segmentSize := by
      by_contra none
      have part : total % devMode.segmentSize = total := by
        have split := Nat.div_add_mod' total devMode.segmentSize
        rw [Nat.eq_zero_of_not_pos none] at split
        omega
      have leading := Nat.log2_self_le filled.ne'
      rw [part] at dropped
      omega
    rw [if_pos dropped]
    omega
  · rw [if_neg dropped]
    exact Nat.max_eq_right (Nat.le_add_left 1 _)

/-- The segments take all cycles, or all but those that fill no segment. -/
theorem min_segmentCount_mul (filled : 0 < total)
    (fits : ∀ index < devMode.segmentCount total, devMode.Fits total index)
    : min total (devMode.segmentCount total * devMode.segmentSize)
      = if 2 ^ 53 * (total % devMode.segmentSize) ≤ 2 ^ total.log2 then
          total - total % devMode.segmentSize
        else total := by
  have count := segmentCount_eq filled fits
  have split := Nat.div_add_mod' total devMode.segmentSize
  have positive := Nat.mod_lt total devMode.segmentSize_pos
  by_cases dropped : 2 ^ 53 * (total % devMode.segmentSize) ≤ 2 ^ total.log2
  · rw [if_pos dropped, Nat.add_zero] at count
    rw [if_pos dropped, count]
    omega
  · rw [if_neg dropped] at count
    rw [if_neg dropped, count, Nat.succ_mul]
    omega

/-- All segments but the last are full, and the last is not empty and not overfull. -/
theorem cycles_segmentAt (filled : 0 < total)
    (fits : ∀ index < devMode.segmentCount total, devMode.Fits total index)
    : ∃ last,
        devMode.segmentCount total = last + 1
        ∧ last * devMode.segmentSize < total
        ∧ (∀ index < last, devMode.segmentCycles total index = devMode.segmentSize)
        ∧ 1 ≤ devMode.segmentCycles total last
        ∧ devMode.segmentCycles total last ≤ devMode.segmentSize := by
  have count := segmentCount_eq filled fits
  have split := Nat.div_add_mod' total devMode.segmentSize
  have positive := devMode.segmentSize_pos
  obtain ⟨last, next⟩ : ∃ last, devMode.segmentCount total = last + 1 :=
    Nat.exists_eq_add_of_le' (Nat.le_max_left _ _)
  have begun : last * devMode.segmentSize < total := by
    rw [next] at count
    split at count
    · rename_i dropped
      have before : (last + 1) * devMode.segmentSize ≤ total := by
        rw [count, Nat.add_zero]
        exact Nat.div_mul_le_self total devMode.segmentSize
      rw [Nat.succ_mul] at before
      omega
    · rename_i kept
      have part : total % devMode.segmentSize ≠ 0 := by
        intro none
        exact kept (by rw [none]; exact Nat.zero_le _)
      rw [Nat.succ.inj count]
      omega
  refine ⟨last, next, begun, fun index inside => segmentCycles_of_le begun.le inside, ?_, ?_⟩
  · rw [segmentCycles]
    omega
  · exact Nat.min_le_right _ _

/-- Every segment of an execution but the last is full, and the last is not empty and takes no more
cycles than a full one. Together they take the base cycles and the requested ones exactly if what
does not fill a segment is nothing, or more than a `2 ^ 53`rd part of the leading bit of all
cycles; else they lack just that. So none are lost of fewer than `2 ^ 53` cycles. Witness: the
number of segments is computed from all cycles rounded to fifty-three significant bits.
-/
theorem sum_cycles_execute {session : Session} (run : devMode.execute input = .ok session)
    : ∃ requested total size : Nat,
        GuestInput.requestedCycles input = .ok requested
        ∧ total = 2 ^ 14 + requested
        ∧ size = 2 ^ devMode.po2
        ∧ ((session.segments.map Segment.cycles).sum = total
            ↔ total % size = 0 ∨ 2 ^ total.log2 < 2 ^ 53 * (total % size))
        ∧ ((session.segments.map Segment.cycles).sum ≠ total
            → (session.segments.map Segment.cycles).sum + (total % size : Nat) = total)
        ∧ (∀ segment ∈ session.segments.dropLast, segment.cycles = size)
        ∧ ∃ last,
            session.segments.getLast? = some last
            ∧ 1 ≤ last.cycles
            ∧ last.cycles ≤ size := by
  obtain ⟨requested, asked, fits, rfl⟩ := execute_eq_ok_iff.mp run
  have bounded := requestedCycles_lt asked
  refine ⟨requested, baseCycles + requested, 2 ^ devMode.po2, asked, rfl, rfl, ?_⟩
  have filled : 0 < baseCycles + requested := Nat.add_pos_left (by decide) requested
  have small : baseCycles + requested < 2 ^ 65 := by
    have base : baseCycles = 2 ^ 14 := rfl
    omega
  generalize baseCycles + requested = total at fits filled small
  have remainder : total % devMode.segmentSize = total % 2 ^ devMode.po2 := by
    rcases devMode.segmentSize_cases with same | ⟨most, more⟩
    · rw [same]
    · rw [most, Nat.mod_eq_of_lt small, Nat.mod_eq_of_lt (small.trans_le more)]
  have whole (reached : devMode.segmentSize ≤ total) : devMode.segmentSize = 2 ^ devMode.po2 := by
    rcases devMode.segmentSize_cases with same | ⟨most, _⟩
    · exact same
    · omega
  have sum := sum_cycles_segmentAt devMode input total (devMode.segmentCount total)
  obtain ⟨last, next, begun, full, nonempty, within⟩ := cycles_segmentAt filled fits
  rw [sum, min_segmentCount_mul filled fits, remainder]
  refine ⟨?_, ?_, ?_, ?_⟩
  · split
    · omega
    · omega
  · split
    · have part := Nat.mod_le total (2 ^ devMode.po2)
      omega
    · omega
  · intro segment member
    rw [next, List.range_succ, List.map_append, List.map_singleton, List.dropLast_concat] at member
    obtain ⟨index, inside, rfl⟩ := List.mem_map.mp member
    have before : index < last := List.mem_range.mp inside
    have reached : devMode.segmentSize ≤ total :=
      calc
        devMode.segmentSize
        _ ≤ last * devMode.segmentSize := Nat.le_mul_of_pos_left _ (by omega)
        _ ≤ total := begun.le
    rw [segmentAt_cycles, full index before, whole reached]
  · refine ⟨devMode.segmentAt input total last, ?_, ?_, ?_⟩
    · rw [next, List.range_succ, List.map_append, List.map_singleton, List.getLast?_concat]
    · rw [segmentAt_cycles]
      exact_mod_cast nonempty
    · have bound : devMode.segmentSize ≤ 2 ^ devMode.po2 := by
        rcases devMode.segmentSize_cases with same | ⟨most, more⟩
        · exact same.le
        · exact most.le.trans more
      rw [segmentAt_cycles]
      exact_mod_cast within.trans bound

/-- With segments of `2 ^ 31` cycles an execution of `2 ^ 53 + 1` cycles comes to `2 ^ 22` full
segments, which lack one cycle.
-/
theorem sum_cycles_execute_dropped
    : let devMode : DevMode := ⟨defaultProgram, 31, by decide⟩
      let input : Bytes := [1, 0, 0, 0, 1, 0xC0, 0xFF, 0xFF, 0xFF, 0xFF, 0x1F, 0]
      GuestInput.encode (2 ^ 53 + 1 - 2 ^ 14) = .ok input
      ∧ ∃ session,
          devMode.execute input = .ok session
          ∧ session.segments.length = 2 ^ 22
          ∧ (session.segments.map Segment.cycles).sum = 2 ^ 53 := by
  intro devMode input
  have asked : GuestInput.requestedCycles input = .ok (2 ^ 53 + 1 - 2 ^ 14) := by decide +kernel
  have count : devMode.segmentCount (baseCycles + (2 ^ 53 + 1 - 2 ^ 14)) = 2 ^ 22 := by
    decide +kernel
  have size : devMode.segmentSize = 2 ^ 31 := by decide +kernel
  have fits
      : ∀ index < devMode.segmentCount (baseCycles + (2 ^ 53 + 1 - 2 ^ 14)),
          devMode.Fits (baseCycles + (2 ^ 53 + 1 - 2 ^ 14)) index := by
    intro index inside
    rw [count] at inside
    rw [Fits, segmentCycles, size]
    omega
  have run := execute_eq_ok_iff.mpr ⟨_, asked, fits, rfl⟩
  refine ⟨by decide +kernel, _, run, ?_, ?_⟩
  · rw [List.length_map, List.length_range, count]
  · obtain ⟨requested, total, size, again, rfl, rfl, exact, lacking, _⟩ := sum_cycles_execute run
    obtain rfl := Except.ok.inj (asked.symm.trans again)
    have part : (2 ^ 14 + (2 ^ 53 + 1 - 2 ^ 14)) % 2 ^ devMode.po2 = 1 := by decide +kernel
    have leading : Nat.log2 (2 ^ 14 + (2 ^ 53 + 1 - 2 ^ 14)) = 53 := by decide +kernel
    rw [part, leading] at exact
    rw [part] at lacking
    have short := lacking fun same => absurd (exact.mp same) (by decide)
    omega

end VerifierBootstrap.DevMode
