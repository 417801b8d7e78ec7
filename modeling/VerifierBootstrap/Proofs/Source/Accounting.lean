import VerifierBootstrap.Proofs.Source.Settlement
import VerifierBootstrap.Proofs.Host.Perform
import VerifierBootstrap.Source.VerifierFiles

/-!
What a synchronization reports. Each search for a target runs on the text that the pairings before
it leave, and still the report is one on the texts as they were given: pairings with distinct
targets leave the first value of each other target alone.
-/

namespace VerifierBootstrap

namespace Host

open VerifierBootstrap.Action

/-- Noting several texts appends them to the log, in order. -/
theorem perform_forM_note (level : LogLevel) (texts : List String) (host : Host)
    : perform (texts.forM (note level)) host
      = (.ok (), { host with log := host.log ++ texts.map (LogLine.mk level) }) := by
  induction texts generalizing host with
  | nil => simp
  | cons text rest ih =>
      have step
          : (text :: rest).forM (note level)
            = (do note level text; rest.forM (note level) : Action Unit) := rfl
      rw [step, perform_bind_ok (perform_note level text host), ih]
      simp

end Host

namespace Sync

variable {sides : Sides} {source : Text}

/-- What has become of each pairing is told by the texts as they were given, if no two pairings
have the same target. By induction on the pairings, of which the first settles only its own target.
-/
theorem entries_synchronize_layout (faithful : sides.Faithful) (layout : Layout sides.target)
    {pairings : List Pairing} (distinct : (pairings.map Pairing.target).Nodup)
    : (synchronize sides source layout.text pairings).entries
      = pairings.map fun pairing =>
          (pairing, outcome (given sides source pairing) (layout.value? pairing.target)) := by
  induction pairings generalizing layout with
  | nil => rfl
  | cons pairing rest ih =>
      obtain ⟨alone, distinct⟩ := List.nodup_cons.mp distinct
      obtain ⟨next, _, slots, step⟩ := apply_layout source faithful layout pairing
      have kept : ∀ other ∈ rest, next.value? other.target = layout.value? other.target := by
        intro other member
        have differs : pairing.target ≠ other.target := fun same =>
          alone (same ▸ List.mem_map_of_mem member)
        rw [value?_settled slots, lastGiven_cons, if_neg differs]
        simp
      simp only [synchronize, step, List.map_cons, ih next distinct, List.cons.injEq, true_and]
      exact List.map_congr_left fun other member => by rw [kept other member]

theorem entries_synchronize (faithful : sides.Faithful) (target : Text)
    {pairings : List Pairing} (distinct : (pairings.map Pairing.target).Nodup)
    : (synchronize sides source target pairings).entries
      = pairings.map fun pairing =>
          (pairing,
           outcome (given sides source pairing)
             ((findDeclaration sides.target target pairing.target).map Declaration.value)) := by
  obtain ⟨layout, rfl⟩ := Layout.exists_text_eq sides.target target
  simp only [entries_synchronize_layout faithful layout distinct, layout.findDeclaration_text]

/-- A list read off the entries is one read off the declarations of the constants, if both agree on
each of the four things that can become of a pairing.
-/
theorem filterMap_entries {α : Type} {result : Result} {pairings : List Pairing}
    {given present : Pairing → Option Declaration}
    {read : Pairing × Outcome → Option α} {expected : Pairing → Option α}
    (entries
      : result.entries
        = pairings.map fun pairing =>
            (pairing,
             outcome ((given pairing).map Declaration.value)
               ((present pairing).map Declaration.value)))
    (missingSource
      : ∀ pairing, given pairing = none → read (pairing, .missingSource) = expected pairing)
    (missingTarget
      : ∀ pairing new, given pairing = some new → present pairing = none
          → read (pairing, .missingTarget) = expected pairing)
    (unchanged
      : ∀ pairing new old, given pairing = some new → present pairing = some old
          → old.value = new.value → read (pairing, .unchanged) = expected pairing)
    (replaced
      : ∀ pairing new old, given pairing = some new → present pairing = some old
          → old.value ≠ new.value → read (pairing, .replaced new.value) = expected pairing)
    : result.entries.filterMap read = pairings.filterMap expected := by
  rw [entries, List.filterMap_map]
  refine List.filterMap_congr fun pairing _ => ?_
  rw [Function.comp_apply]
  cases taken : given pairing with
  | none => exact missingSource pairing taken
  | some new =>
      cases found : present pairing with
      | none => exact missingTarget pairing new taken found
      | some old =>
          by_cases same : old.value = new.value
          · simpa [outcome, same] using unchanged pairing new old taken found same
          · simpa [outcome, same] using replaced pairing new old taken found same

-----------------------------------------------------------------------------------------
-- The report
-----------------------------------------------------------------------------------------

/-- Each pairing is accounted for once, by the first declarations of its constants in the texts as
they were given: it is missing from the source, else missing from the target, else replaced if the
values differ, else none of these. The lists keep the order of the pairings, and the only log lines
are one warning for each missing constant, in that order.
-/
theorem synchronize_accounts (source target : Text) {pairings : List Pairing}
    (distinct : (pairings.map Pairing.target).Nodup)
    : let result := synchronize .verifiers source target pairings
      let given := fun pairing : Pairing => findDeclaration .solidity source pairing.source
      let present := fun pairing : Pairing => findDeclaration .rust target pairing.target
      result.missingSource
          = (pairings.filter fun pairing => (given pairing).isNone).map Pairing.source
      ∧ result.missingTarget
          = (pairings.filter fun pairing => (given pairing).isSome && (present pairing).isNone).map
              Pairing.target
      ∧ result.replaced
          = (pairings.filterMap fun pairing =>
              match given pairing, present pairing with
              | some new, some old =>
                  if old.value ≠ new.value then some (pairing, new.value) else none
              | _, _ => none)
      ∧ ∀ host : Host,
          (VerifyingKey.noteWarnings result).perform host
          = (.ok (),
             {
               host with
               log := host.log ++ pairings.filterMap fun pairing =>
                 match given pairing, present pairing with
                 | none, _ => some ⟨.warning, s!"{String.ofList pairing.source} not found"⟩
                 | some _, none =>
                     some ⟨.warning, s!"{String.ofList pairing.target} not found in rust source"⟩
                 | some _, some _ => none
             }) := by
  intro result given present
  have entries
      : result.entries
        = pairings.map fun pairing =>
            (pairing,
             outcome ((given pairing).map Declaration.value)
               ((present pairing).map Declaration.value)) :=
    entries_synchronize .verifiers target distinct
  refine ⟨?_, ?_, ?_, fun host => ?_⟩
  · rw [← List.filterMap_eq_map, List.filterMap_filter]
    refine filterMap_entries entries ?_ ?_ ?_ ?_ <;> simp +contextual
  · rw [← List.filterMap_eq_map, List.filterMap_filter]
    refine filterMap_entries entries ?_ ?_ ?_ ?_ <;> simp +contextual
  · refine filterMap_entries entries ?_ ?_ ?_ ?_ <;> simp +contextual
  · rw [VerifyingKey.noteWarnings, Host.perform_forM_note, Result.warnings, List.map_filterMap]
    congr 3
    have text (name : String)
        : name ++ " not found in " ++ "rust" ++ " source" = name ++ " not found in rust source" := by
      rw [String.append_assoc, String.append_assoc]
      rfl
    refine filterMap_entries entries ?_ ?_ ?_ ?_ <;> simp +contextual
    exact fun pairing _ _ _ => text (String.ofList pairing.target)

/-- Four pairings, one of each kind: the second `Y` of the source and the second `B` of the target
do not count.
-/
theorem synchronize_accounts_each_kind
    : let source := "uint256 constant Y = 20; uint256 constant Y = 2; uint256 constant Z = 5;".toList
      let target := "const B: &str = \"2\"; const C: &str = \"5\"; const B: &str = \"20\";".toList
      let pairings := [⟨['X'], ['A']⟩, ⟨['Y'], ['D']⟩, ⟨['Y'], ['B']⟩, ⟨['Z'], ['C']⟩]
      let result := synchronize .verifiers source target pairings
      result.missingSource = [['X']]
      ∧ result.missingTarget = [['D']]
      ∧ result.replaced = [(⟨['Y'], ['B']⟩, ['2', '0'])]
      ∧ ∀ host : Host,
          (VerifyingKey.noteWarnings result).perform host
          = (.ok (),
             {
               host with
               log := host.log
                 ++ [⟨.warning, "X not found"⟩, ⟨.warning, "D not found in rust source"⟩]
             }) := by
  intro source target pairings result
  obtain ⟨missingSource, missingTarget, replaced, logged⟩ :=
    synchronize_accounts source target (show (pairings.map Pairing.target).Nodup by decide)
  refine ⟨missingSource.trans (by decide +kernel), missingTarget.trans (by decide +kernel),
    replaced.trans (by decide +kernel), fun host => (logged host).trans ?_⟩
  congr 3
  decide +kernel

end Sync

end VerifierBootstrap
