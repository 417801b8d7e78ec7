import VerifierBootstrap.Proofs.Host.Silence

/-!
Actions that leave the setup of a host as it is: its working directory and the one for temporary
files, its environment and limits, and what its network and its programs will answer. What they
change are files, the log, and what the host remembers.
-/

namespace VerifierBootstrap.Host

open VerifierBootstrap.Action

/-- Nothing of a host has changed but its files, its log, and what it was asked for. -/
def SameSetup (before after : Host) : Prop :=
  after = { before with files := after.files, log := after.log, events := after.events }

namespace SameSetup

variable {before middle after : Host}

theorem refl (host : Host) : SameSetup host host := rfl

theorem trans (first : SameSetup before middle) (second : SameSetup middle after)
    : SameSetup before after := by
  rw [SameSetup] at first second ⊢
  rw [second, first]

theorem directory (same : SameSetup before after) : after.directory = before.directory := by
  rw [same]

theorem launch (same : SameSetup before after) : after.launch = before.launch := by
  rw [same]

theorem limits (same : SameSetup before after) : after.limits = before.limits := by
  rw [same]

end SameSetup

/-- Whatever comes of an action, the setup of the host is the same. -/
def KeepsSetup {α : Type} (action : Action α) : Prop :=
  ∀ host : Host, host.SameSetup (perform action host).2

namespace KeepsSetup

variable {α β : Type}

theorem pure (value : α) : KeepsSetup (Pure.pure value) := fun _ => rfl

theorem throw (failure : Failure) : KeepsSetup (MonadExcept.throw failure : Action α) :=
  fun _ => rfl

theorem get : KeepsSetup (MonadState.get : Action Host) := fun _ => rfl

theorem of_filesOnly {action : Action α} (kept : FilesOnly action) : KeepsSetup action := by
  intro host
  rw [kept host]
  rfl

theorem of_onlyLogs {action : Action α} (logs : OnlyLogs action) : KeepsSetup action := by
  intro host
  obtain ⟨log, left⟩ := logs host
  rw [left]
  rfl

theorem ofExcept (result : Except Failure α) : KeepsSetup (Action.ofExcept result) :=
  .of_onlyLogs (.of_logs (.ofExcept result))

theorem note (level : LogLevel) (text : String) : KeepsSetup (Host.note level text) :=
  .of_onlyLogs (.note level text)

theorem bind {action : Action α} {next : α → Action β} (first : KeepsSetup action)
    (rest : ∀ value, KeepsSetup (next value))
    : KeepsSetup (action >>= next) :=
  fun host => related_bind SameSetup .trans (first host) rest

theorem tryCatch {action : Action α} {handler : Failure → Action α} (tried : KeepsSetup action)
    (caught : ∀ failure, KeepsSetup (handler failure))
    : KeepsSetup (MonadExcept.tryCatch action handler) := by
  intro host
  have kept := tried host
  have run := perform_tryCatch action handler host
  cases ran : perform action host with
  | mk outcome middle =>
      rw [ran] at kept run
      rw [run]
      cases outcome with
      | ok value => exact kept
      | error failure => exact kept.trans (caught failure middle)

theorem start (command : List String) : KeepsSetup (Host.start command) := by
  intro host
  rw [Host.start, perform_bind_ok (perform_get host)]
  cases host.launch host.events command host.files with
  | refused refusal => rfl
  | exited status files => rfl

theorem andFinally {action : Action α} {ending : Action Unit} (inner : KeepsSetup action)
    (last : KeepsSetup ending)
    : KeepsSetup (Action.andFinally action ending) := by
  intro host
  have kept := (inner host).trans (last (perform action host).2)
  rw [perform_andFinally]
  cases ended : perform ending (perform action host).2 with
  | mk result after =>
      rw [ended] at kept
      cases result with
      | ok _ => exact kept
      | error failure => exact kept

theorem withTemporaryDirectory {label : String} {action : Path → Action α}
    (inner : ∀ path, KeepsSetup (action path))
    : KeepsSetup (Host.withTemporaryDirectory label action) :=
  .bind .get fun _ => .bind (.of_filesOnly (filesOnly_change _ _)) fun _ =>
    .andFinally (inner _) (.of_filesOnly (filesOnly_change _ _))

end KeepsSetup

theorem filesOnly_writeSource (path : Path) (text : Text) : FilesOnly (writeSource path text) := by
  refine .bind .get fun host => ?_
  dsimp only
  split
  · exact .throw _
  · exact filesOnly_change _ _

end VerifierBootstrap.Host
