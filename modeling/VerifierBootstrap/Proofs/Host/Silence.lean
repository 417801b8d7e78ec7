import VerifierBootstrap.Proofs.Host.Edits

/-!
Actions that ask for nothing. What a host remembers of requests and of programs is as it was
before, whatever comes of the action; the files that it reads and changes are its own. An action
that only reads and logs leaves the files as well.
-/

namespace VerifierBootstrap.Host

open VerifierBootstrap.Action

/-- Nothing of a host's files has changed, and nothing was asked of it. -/
structure Untouched (before after : Host) : Prop where
  files : after.files = before.files
  events : after.events = before.events

theorem Untouched.refl (host : Host) : Untouched host host :=
  ⟨rfl, rfl⟩

/-- Whatever comes of an action, the host is asked for nothing. -/
def Silent {α : Type} (action : Action α) : Prop :=
  ∀ host, (perform action host).2.events = host.events

namespace Silent

variable {α β : Type}

/-- An action that changes files alone asks for nothing. -/
theorem of_filesOnly {action : Action α} (kept : FilesOnly action) : Silent action := by
  intro host
  rw [kept host]

theorem pure (value : α) : Silent (Pure.pure value) := fun _ => rfl

theorem throw (failure : Failure) : Silent (MonadExcept.throw failure : Action α) := fun _ => rfl

theorem get : Silent (MonadState.get : Action Host) := fun _ => rfl

theorem ofExcept (result : Except Failure α) : Silent (Action.ofExcept result) := by
  intro host
  rw [perform_ofExcept]

theorem note (level : LogLevel) (text : String) : Silent (Host.note level text) := fun _ => rfl

theorem bind {action : Action α} {next : α → Action β} (first : Silent action)
    (rest : ∀ value, Silent (next value))
    : Silent (action >>= next) :=
  fun host => related_bind (fun before after => after.events = before.events)
    (fun left right => right.trans left) (first host) rest

theorem ask (path : Path) (question : FileTree → Location → Path → Except Refusal α)
    : Silent (Host.ask path question) :=
  of_filesOnly (filesOnly_ask path question)

theorem fileExists (path : Path) : Silent (Host.fileExists path) := by
  refine .bind ?_ fun node => .pure _
  rw [nodeAt?]
  split
  · exact .pure none
  · exact .ask path _

theorem change (path : Path)
    (operation : FileTree → Location → Path → Except Refusal FileTree)
    : Silent (Host.change path operation) :=
  of_filesOnly (filesOnly_change path operation)

theorem appendBytes (path : Path) (content : Bytes) : Silent (Host.appendBytes path content) :=
  .bind (.ask path _) fun _ => .change path _

theorem unlinkIfPresent (path : Path) : Silent (Host.unlinkIfPresent path) := by
  refine .bind (.fileExists path) fun there => ?_
  cases there with
  | true => exact .change path _
  | false => exact .pure ()

/-- A silent action leaves the events as they are, at success and at failure. -/
theorem keeps {action : Action α} (silent : Silent action) {host : Host} {events : List Event}
    (same : host.events = events)
    : Ends action host (fun _ after => after.events = events)
        (fun _ after => after.events = events) :=
  .of_left ((silent host).trans same)

end Silent

-----------------------------------------------------------------------------------------
-- Actions that change nothing but the log
-----------------------------------------------------------------------------------------

/-- Whatever comes of an action, nothing of the host has changed but its log. -/
def OnlyLogs {α : Type} (action : Action α) : Prop :=
  ∀ host, ∃ log, (perform action host).2 = { host with log := log }

namespace OnlyLogs

variable {α β : Type}

/-- An action that leaves the host as it is does not even log. -/
theorem of_ends {action : Action α}
    (same
      : ∀ host, Ends action host (fun _ after => after = host) fun _ after => after = host)
    : OnlyLogs action := by
  intro host
  have left : (perform action host).2 = host := (same host).left
  exact ⟨host.log, left⟩

theorem of_logs {action : Action α} {result : Except Failure α} (logs : Logs action result)
    : OnlyLogs action := by
  intro host
  obtain ⟨log, run⟩ := logs host
  exact ⟨log, congrArg Prod.snd run⟩

theorem throw (failure : Failure) : OnlyLogs (MonadExcept.throw failure : Action α) :=
  fun host => ⟨host.log, rfl⟩

theorem get : OnlyLogs (MonadState.get : Action Host) :=
  fun host => ⟨host.log, rfl⟩

theorem note (level : LogLevel) (text : String) : OnlyLogs (Host.note level text) :=
  fun _ => ⟨_, rfl⟩

theorem bind {action : Action α} {next : α → Action β} (first : OnlyLogs action)
    (rest : ∀ value, OnlyLogs (next value))
    : OnlyLogs (action >>= next) := by
  intro host
  refine related_bind (fun before after => ∃ log, after = { before with log := log }) ?_
    (first host) rest
  rintro before _ _ ⟨middle, rfl⟩ ⟨log, rfl⟩
  exact ⟨log, rfl⟩

end OnlyLogs

end VerifierBootstrap.Host
