import VerifierBootstrap.Proofs.Host.Programs

/-!
Files that are delivered: a text is written and given to a formatter, and that is a success just in
case the formatter ends well. What fails before has kept all files, and has started nothing.
-/

namespace VerifierBootstrap

open VerifierBootstrap.Action

/-- A run of a formatter is a success just in case the formatter was started and ended well. -/
theorem Formatter.isOk_outcome (formatter : Formatter) (path : Path) (launch : Launch)
    : (formatter.outcome path launch).isOk = true ↔ ∃ left, launch = .exited 0 left := by
  cases launch with
  | refused refusal => simp [outcome, Except.isOk, Except.toBool]
  | exited status left =>
      by_cases well : status = 0
      · simp [outcome, well, Except.isOk, Except.toBool]
      · simp [outcome, well, Except.isOk, Except.toBool]

theorem isOk_map {α β : Type} (change : α → β) (result : Except Failure α)
    : (result.map change).isOk = result.isOk := by
  cases result with
  | ok value => rfl
  | error failure => rfl

/-- A text was delivered to a path, or all files were kept. -/
inductive Delivered {α : Type} (formatter : Formatter) (path : Path) (content : Text) (host : Host)
    : Except Failure α → Host → Prop where
  | kept {failure : Failure} {after : Host} (kept : host.Kept after)
    : Delivered formatter path content host (.error failure) after
  | formatted {result : Except Failure α} {files : FileTree} {after : Host}
    (formatted : host.Formatted formatter path content files after)
    (well
      : result.isOk = true
        ↔ ∃ left,
            host.launch host.events (formatter.command ++ [path.text]) files = .exited 0 left)
    : Delivered formatter path content host result after

namespace Delivered

variable {α β : Type} {formatter : Formatter} {path : Path} {content : Text} {host after : Host}
  {result : Except Failure α}

/-- The log is not among what is kept or delivered. -/
theorem of_log {log : List LogLine}
    (delivered : Delivered formatter path content { host with log := log } result after)
    : Delivered formatter path content host result after := by
  cases delivered with
  | kept kept => exact .kept ((Host.Kept.of_log log).trans kept)
  | formatted formatted well => exact .formatted formatted.of_log well

theorem kept_or_formatted (delivered : Delivered formatter path content host result after)
    : host.Kept after ∨ ∃ files, host.Formatted formatter path content files after := by
  cases delivered with
  | kept kept => exact .inl kept
  | @formatted _ files _ formatted _ => exact .inr ⟨files, formatted⟩

theorem map (delivered : Delivered formatter path content host result after) (change : α → β)
    : Delivered formatter path content host (result.map change) after := by
  cases delivered with
  | kept kept => exact .kept kept
  | formatted formatted well => exact .formatted formatted (by rw [isOk_map, well])

/-- A text that was written is delivered by the run of the formatter. -/
theorem of_format {files : FileTree} {log : List LogLine} {outcome : Except Failure Unit}
    (held : files.read host.directory path = .ok (Utf8.encode content))
    (elsewhere
      : ∀ place,
          place ≠ path.location host.directory
          → files.content? place = host.files.content? place)
    (run
      : perform (formatter.format path) { host with files := files, log := log }
        = (outcome, after))
    : Delivered formatter path content host outcome after := by
  refine .formatted (Host.formatted_of_format held elsewhere run) ?_
  rw [Formatter.perform_format] at run
  obtain ⟨rfl, -⟩ := Prod.mk.inj run
  exact formatter.isOk_outcome path _

end Delivered

/-- What is made of the value at the end changes nothing about the delivery. -/
theorem delivered_bind_pure {α β : Type} {formatter : Formatter} {path : Path} {content : Text}
    {before host : Host} {action : Action α} (change : α → β)
    (delivered
      : Delivered formatter path content before (perform action host).1 (perform action host).2)
    : Delivered formatter path content before
        (perform (action >>= fun value => pure (change value)) host).1
        (perform (action >>= fun value => pure (change value)) host).2 := by
  rw [perform_bind_pure]
  exact delivered.map change

end VerifierBootstrap
