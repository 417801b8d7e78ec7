/-!
Results of two steps: a whole that has succeeded has succeeded in each step, and one that has failed
has failed in one of them.
-/

namespace VerifierBootstrap

variable {ε α β : Type}

theorem ok_of_bind {first : Except ε α} {next : α → Except ε β} {result : β}
    (run : first >>= next = .ok result)
    : ∃ value, first = .ok value ∧ next value = .ok result := by
  cases first with
  | error fault => exact nomatch run
  | ok value => exact ⟨value, rfl, run⟩

theorem bind_of_ok {first : Except ε α} {value : α} (run : first = .ok value)
    (next : α → Except ε β)
    : first >>= next = next value := by
  rw [run]
  rfl

theorem ok_of_map {first : Except ε α} {change : α → β} {result : β}
    (run : first.map change = .ok result)
    : ∃ value, first = .ok value ∧ change value = result := by
  cases first with
  | error fault => exact nomatch run
  | ok value => exact ⟨value, rfl, Except.ok.inj run⟩

end VerifierBootstrap
