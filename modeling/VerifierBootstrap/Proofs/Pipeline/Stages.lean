import VerifierBootstrap.Pipeline
import VerifierBootstrap.Proofs.Tools.Prover
import VerifierBootstrap.Proofs.Witness.Exchange

/-!
The stages of a run. Up to the prover a run depends on the engine and the requested cycles alone,
and of the files it only writes the witness. What it comes to after that is decided by the answer
of the prover, and by the output that is there when the prover has written none.
-/

namespace VerifierBootstrap

open VerifierBootstrap.Action Witness

/-- A prover answers each witness with a status, and with an output or none: whatever else is in
the work directory, its run ends with that status and leaves the files as they are but for that
output.
-/
def Prover.Answers (prover : Prover) (work : Path) (host : Host)
    (respond : Bytes → Int × Option Bytes)
    : Prop :=
  ∀ (base : Location) (files : FileTree) (log : List LogLine) (content : Bytes),
    Exchange work host.directory base files
    → files.content? (base ++ [witnessName]) = some content
    → ∃ after,
        perform (prover.run work) { host with files := files, log := log }
          = (.ok (respond content).1, after)
        ∧ after.directory = host.directory
        ∧ match (respond content).2 with
          | none => after.files = files
          | some output =>
              files.write host.directory (work.child outputName) output = .ok after.files

/-- A prover that reads the witness and answers it. -/
def Prover.replying (name : String) (directory : Location)
    (respond : Bytes → Int × Option Bytes)
    : Prover :=
  .custom name fun work files =>
    match files.read directory (work.child witnessName) with
    | .error refusal => (.error (.file ⟨refusal, (work.child witnessName).text⟩), files)
    | .ok content =>
        match respond content with
        | (status, none) => (.ok status, files)
        | (status, some output) =>
            (.ok status,
              (files.write directory (work.child outputName) output).toOption.getD files)

/-- A prover that replies gives the answers it replies with. -/
theorem Prover.answers_replying (name : String) (work : Path) (host : Host)
    (respond : Bytes → Int × Option Bytes)
    : (replying name host.directory respond).Answers work host respond := by
  intro base files log content exchange held
  have witnessed : witnessName ∈ exchangeNames := by simp [exchangeNames]
  have printed : outputName ∈ exchangeNames := by simp [exchangeNames]
  have read := FileTree.read_of_locate (exchange.located witnessName witnessed)
    (FileTree.content?_eq_some.mp held)
  cases answer : respond content with
  | mk status output =>
      cases output with
      | none =>
          refine ⟨
            { host with files := files, log := log, events := host.events ++ [.proved work files] },
            ?_, rfl, rfl⟩
          rw [replying, perform_run_custom]
          simp only [read, answer]
      | some output =>
          have written :=
            FileTree.write_of_locate (exchange.located outputName printed)
              (exchange.plain outputName printed) output
          refine ⟨
            {
              host with
              files := files.set (base ++ [outputName]) (.file output)
              log := log
              events := host.events ++ [.proved work files]
            },
            ?_, rfl, written⟩
          rw [replying, perform_run_custom]
          simp only [read, answer, written]
          rfl

namespace Pipeline

/-- What a run has made when it starts the prover. -/
structure Attempt where
  lifted : SuccinctReceipt
  session : Session
  witness : Bytes

/-- The one segment of the execution of the guest, with its session. -/
def executed (pipeline : Pipeline) : Except Failure (Segment × Session) := do
  let input ← GuestInput.encode pipeline.cycles
  let session ← pipeline.engine.execute input
  match session.segments with
  | [segment] => return (segment, session)
  | _ => throw (.proof (.segmentCount expectedSegments session.segments.length))

/-- The checked proof of a segment. -/
def lifted (pipeline : Pipeline) (segment : Segment) : Except Failure SuccinctReceipt := do
  let proved ← pipeline.engine.proveSegment segment
  let lifted ← pipeline.engine.lift proved
  lifted.verifyIntegrity
  return lifted

/-- The witness of a lifted receipt. -/
def witnessOf (pipeline : Pipeline) (lifted : SuccinctReceipt) : Except Failure Bytes := do
  let identity ← pipeline.engine.identity lifted
  documentBytes identity.sealBytes

/-- What the run of a pipeline makes before it starts the prover. -/
def attempt (pipeline : Pipeline) : Except Failure Attempt := do
  let (segment, session) ← pipeline.executed
  let lifted ← pipeline.lifted segment
  let witness ← pipeline.witnessOf lifted
  return ⟨lifted, session, witness⟩

/-- What a run gives once it has a proof. -/
def product (pipeline : Pipeline) (lifted : SuccinctReceipt) (session : Session)
    (proof : Groth16Seal)
    : Product :=
  ⟨⟨.groth16 ⟨lifted.claim, proof.toBytes⟩, session.journal⟩, pipeline.engine.imageId⟩

/-- What a run comes to, by what the prover answers and the output that was there before. The parser
has room for so many arrays and objects to be open at once.
-/
def conclusion (pipeline : Pipeline) (nesting : Nat) (work : Path)
    (respond : Bytes → Int × Option Bytes) (leftover : Option Bytes) (attempt : Attempt)
    : Except Failure Product :=
  let (status, output) := respond attempt.witness
  if status ≠ 0 then .error (.process pipeline.prover.name (some status) "")
  else
    (proofOf nesting (work.child outputName) (output.or leftover)).map
      (pipeline.product attempt.lifted attempt.session)

variable {pipeline : Pipeline} {work : Path} {base : Location} {host : Host}
  {respond : Bytes → Int × Option Bytes}

-----------------------------------------------------------------------------------------
-- Up to the prover
-----------------------------------------------------------------------------------------

theorem logs_executeGuest (pipeline : Pipeline)
    : Host.Logs pipeline.executeGuest pipeline.executed := by
  refine .noted (.bind (.ofExcept _) fun input => .bind (.ofExcept _) fun session => .noted ?_)
  match session.segments with
  | [] => exact .throw _
  | [segment] => exact .pure (segment, session)
  | _ :: _ :: _ => exact .throw _

theorem logs_proveAndLift (pipeline : Pipeline) (segment : Segment)
    : Host.Logs (pipeline.proveAndLift segment) (pipeline.lifted segment) :=
  .noted (.bind (.ofExcept _) fun _ => .noted (.bind (.ofExcept _) fun _ =>
    .bind (.ofExcept _) fun _ => .pure _))

/-- Preparing the witness comes to writing the seal of the identity receipt. -/
theorem perform_prepareWitness_eq (work : Path) {lifted : SuccinctReceipt}
    {identity : IdentityReceipt} (identified : pipeline.engine.identity lifted = .ok identity) (host : Host)
    : ∃ log,
        perform (pipeline.prepareWitness lifted work) host
          = perform (discard (Witness.write identity.sealBytes work))
              { host with log := log } := by
  refine ⟨host.log ++ [⟨.info, "identity_p254"⟩] ++ [⟨.info, "seal-to-json"⟩], ?_⟩
  rw [prepareWitness, perform_bind_ok (Host.perform_note _ _ host), identified,
    perform_bind_ok (perform_ofExcept _ _), perform_bind_ok (Host.perform_note _ _ _)]

/-- The witness is written, and the output is left as it is. -/
theorem perform_prepareWitness (exchange : Exchange work host.directory base host.files)
    {lifted : SuccinctReceipt} {witness : Bytes} (made : pipeline.witnessOf lifted = .ok witness)
    : ∃ files log,
        perform (pipeline.prepareWitness lifted work) host
          = (.ok (), { host with files := files, log := log })
        ∧ Exchange work host.directory base files
        ∧ files.content? (base ++ [witnessName]) = some witness
        ∧ files.content? (base ++ [outputName])
          = host.files.content? (base ++ [outputName]) := by
  rw [witnessOf] at made
  cases identified : pipeline.engine.identity lifted with
  | error failure =>
      rw [identified] at made
      exact nomatch made
  | ok identity =>
      rw [identified] at made
      obtain ⟨log, run⟩ := perform_prepareWitness_eq work identified host
      let noted : Host := { host with log := log }
      have atNoted : Exchange work noted.directory base noted.files := exchange
      obtain ⟨files, written, atFiles, holds, untouched⟩ := atNoted.perform_write made
      refine ⟨files, log, ?_, atFiles, holds, untouched⟩
      rw [run, perform_discard, written]
      rfl

theorem perform_prepareWitness_error (exchange : Exchange work host.directory base host.files)
    {lifted : SuccinctReceipt} {failure : Failure}
    (unmade : pipeline.witnessOf lifted = .error failure)
    : (perform (pipeline.prepareWitness lifted work) host).1 = .error failure := by
  rw [witnessOf] at unmade
  cases identified : pipeline.engine.identity lifted with
  | error other =>
      rw [identified] at unmade
      obtain rfl := Except.error.inj unmade
      rw [prepareWitness, perform_bind_ok (Host.perform_note _ _ host), identified,
        perform_bind_error (perform_ofExcept _ _)]
  | ok identity =>
      rw [identified] at unmade
      obtain ⟨log, run⟩ := perform_prepareWitness_eq work identified host
      let noted : Host := { host with log := log }
      have atNoted : Exchange work noted.directory base noted.files := exchange
      rw [run, perform_discard]
      exact congrArg (Except.map fun _ => ()) (atNoted.perform_write_error unmade)

-----------------------------------------------------------------------------------------
-- From the prover on
-----------------------------------------------------------------------------------------

/-- What the prover's run comes to is decided by its answer, and by the output that was there
before where the answer has none.
-/
theorem perform_proveWitness (exchange : Exchange work host.directory base host.files)
    {witness : Bytes} (held : host.files.content? (base ++ [witnessName]) = some witness)
    (answers : pipeline.prover.Answers work host respond)
    : (perform (pipeline.proveWitness work) host).1
      = if (respond witness).1 ≠ 0 then
          .error (.process pipeline.prover.name (some (respond witness).1) "")
        else
          proofOf host.limits.nesting (work.child outputName)
            ((respond witness).2.or (host.files.content? (base ++ [outputName]))) := by
  obtain ⟨after, run, directory, left⟩ :=
    answers base host.files
      (host.log ++ [⟨.info, s!"groth16-prover ({pipeline.prover.name})"⟩]) witness exchange held
  have limits : after.limits = host.limits := by
    obtain ⟨_, _, _, _, rfl⟩ := (pipeline.prover.ends_run work _).ok run
    rfl
  rw [proveWitness, perform_bind_ok (Host.perform_note _ _ host), perform_bind_ok run]
  by_cases failed : (respond witness).1 ≠ 0
  · rw [if_pos failed, if_pos failed]
    rfl
  · have member : outputName ∈ exchangeNames := by simp [exchangeNames]
    rw [if_neg failed, if_neg failed]
    change (perform (readOutput work) after).1 = _
    -- Without an output of its own, the prover has left the old one where it is read
    cases written : (respond witness).2 with
    | none =>
        rw [written] at left
        rw [← directory, ← left] at exchange
        rw [exchange.perform_readOutput, limits, left, Option.none_or]
    | some output =>
        have set := FileTree.write_of_locate (exchange.located outputName member)
          (exchange.plain outputName member) output
        rw [written] at left
        dsimp only at left
        rw [set] at left
        have files := Except.ok.inj left
        have atAfter := exchange.set member output
        rw [← directory, files] at atAfter
        rw [atAfter.perform_readOutput, limits, ← files, Option.some_or, FileTree.content?,
          FileTree.lookup_set_self _ _ (by simp)]

/-- From a lifted receipt on, a run comes to the conclusion that its witness leads to. -/
theorem perform_fromLifted (exchange : Exchange work host.directory base host.files)
    (answers : pipeline.prover.Answers work host respond) (lifted : SuccinctReceipt)
    (session : Session)
    : (perform
          (do
            pipeline.prepareWitness lifted work
            let proof ← pipeline.proveWitness work
            Host.note .info "Groth16Seal"
            return pipeline.product lifted session proof)
          host).1
      = (pipeline.witnessOf lifted).bind fun witness =>
          pipeline.conclusion host.limits.nesting work respond
            (host.files.content? (base ++ [outputName])) ⟨lifted, session, witness⟩ := by
  cases made : pipeline.witnessOf lifted with
  | error failure => exact fst_perform_bind_error (perform_prepareWitness_error exchange made) _
  | ok witness =>
      obtain ⟨files, log, prepared, atFiles, holds, untouched⟩ :=
        perform_prepareWitness exchange made
      let exchanged : Host := { host with files := files, log := log }
      have atExchanged : Exchange work exchanged.directory base exchanged.files := atFiles
      have logs (proof : Groth16Seal)
          : Host.Logs
              (do
                Host.note .info "Groth16Seal"
                return pipeline.product lifted session proof)
              (.ok (pipeline.product lifted session proof)) :=
        .noted (.pure _)
      rw [perform_bind_ok prepared]
      refine (Host.Logs.fst_perform_bind logs _ exchanged).trans ?_
      rw [perform_proveWitness atExchanged holds answers, untouched]
      change _ = pipeline.conclusion host.limits.nesting work respond _ ⟨lifted, session, witness⟩
      rw [conclusion]
      dsimp only
      split
      · rfl
      · generalize proofOf _ _ _ = proof
        cases proof with
        | error failure => rfl
        | ok proof => rfl

/-- What a run in a work directory comes to. Witness: the stages up to the lifted receipt only log,
so each goes on from the result of the one before.
-/
theorem perform_runIn (exchange : Exchange work host.directory base host.files)
    (answers : pipeline.prover.Answers work host respond)
    : (perform (pipeline.runIn work) host).1
      = pipeline.attempt.bind
          (pipeline.conclusion host.limits.nesting work respond
            (host.files.content? (base ++ [outputName]))) := by
  have staged
      : (perform (pipeline.runIn work) host).1
        = pipeline.executed.bind fun executed =>
            (pipeline.lifted executed.1).bind fun lifted =>
              (pipeline.witnessOf lifted).bind fun witness =>
                pipeline.conclusion host.limits.nesting work respond
                  (host.files.content? (base ++ [outputName])) ⟨lifted, executed.2, witness⟩ :=
    (logs_executeGuest pipeline).fst_perform_then fun executed log =>
      (logs_proveAndLift pipeline executed.1).fst_perform_then fun lifted later => by
        let lifting : Host := { host with log := later }
        have atLifting : Exchange work lifting.directory base lifting.files := exchange
        exact perform_fromLifted atLifting answers lifted executed.2
  rw [staged, attempt]
  cases pipeline.executed with
  | error failure => rfl
  | ok executed =>
      change (pipeline.lifted executed.1).bind _ = ((pipeline.lifted executed.1).bind _).bind _
      cases pipeline.lifted executed.1 with
      | error failure => rfl
      | ok lifted =>
          change (pipeline.witnessOf lifted).bind _ = ((pipeline.witnessOf lifted).bind _).bind _
          cases pipeline.witnessOf lifted with
          | error failure => rfl
          | ok witness => rfl

end Pipeline

end VerifierBootstrap
