import VerifierBootstrap.Proofs.Pipeline.Completion
import VerifierBootstrap.Proofs.Receipt.Binding
import VerifierBootstrap.Proofs.Solidity.Library
import VerifierBootstrap.Proofs.Tools.Formatter
import VerifierBootstrap.Solidity.Emission

/-!
The file of a test receipt. When the formatter is started on it, it is the text of a library with
the values of the run: the seal that the prover left, the state that the proof of the segment ends
in, the journal of the session, and the image of the engine.
-/

namespace VerifierBootstrap.Solidity

open VerifierBootstrap.Action Witness

/-- The values of a run with a development engine, each with the stage that it comes from, and the
event by which the prover of the run is remembered.
-/
inductive Originates (devMode : DevMode) (pipeline : Pipeline) (host : Host)
    : TestVector → Event → Prop where
  | intro {input : Bytes} {session : Session} {segment : Segment} {receipt : SegmentReceipt}
    {postDigest : Digest} {files left : FileTree} {log : List LogLine} {event : Event}
    {a₀ a₁ b₀₀ b₀₁ b₁₀ b₁₁ c₀ c₁ : Bytes}
    (encoded : GuestInput.encode pipeline.cycles = .ok input)
    (executed : devMode.execute input = .ok session)
    (single : session.segments = [segment])
    (proved : devMode.proveSegment segment = .ok receipt)
    (digested : receipt.claim.after.digest = .ok postDigest)
    (ran
      : pipeline.prover.Ran (pipeline.workPath host) { host with files := files, log := log } 0
          event left)
    (yields
      : Yields left host.directory (pipeline.workPath host)
          ⟨[a₀, a₁], [[b₀₀, b₀₁], [b₁₀, b₁₁]], [c₀, c₁]⟩)
    : Originates devMode pipeline host
        ⟨a₀ ++ a₁ ++ b₀₀ ++ b₀₁ ++ b₁₀ ++ b₁₁ ++ c₀ ++ c₁, postDigest, session.journal,
          devMode.imageId⟩
        event

/-- The run of a pipeline gives a product, and then the library of its receipt is written: the
formatter is started, on these files.
-/
def HandsOver (pipeline : Pipeline) (path : Path) (formatter : Formatter) (host : Host)
    (product : Pipeline.Product) (files : FileTree)
    : Prop :=
  ∃ middle,
    perform pipeline.run host = (.ok product, middle)
    ∧ (perform (emitTestReceipt pipeline path formatter) host).2.events
      = middle.events ++ [.started (formatter.command ++ [path.text]) files]

-----------------------------------------------------------------------------------------
-- Writing a library
-----------------------------------------------------------------------------------------

theorem ends_orShortage {α : Type} {shortage : FileFault → Shortage} {action : Action α}
    {host : Host} {value : α → Host → Prop} {failed : Host → Prop}
    (ends : Ends action host value fun _ after => failed after)
    : Ends (orShortage shortage action) host value fun _ after => failed after := by
  refine ends.tryCatch ?_
  intro failure after holds
  cases failure with
  | file fault => exact .throw holds
  | _ => exact .throw holds

/-- A text that was placed could be written in a directory that is there or could be made. -/
theorem ends_place (path : Path) (content : Text) (host : Host)
    : Ends (place path content) host
        (fun _ after =>
          host.sourcesLocked = false
          ∧ path.holdsNul = false
          ∧ ∃ made files,
              perform (Host.ensureDirectory path.parent) host
                = (.ok (), { host with files := made })
              ∧ made.write host.directory path (Utf8.encode content) = .ok files
              ∧ after = { host with files := files })
        (fun _ after => after.events = host.events) := by
  have ensured :=
    (Ends.of_run (Host.ensureDirectory path.parent) host).and
      ((Host.filesOnly_ensureDirectory path.parent).ends host)
  refine ensured.andThen ?_ ?_
  · rintro _ _ ⟨_, files, rfl⟩
    rfl
  rintro _ _ ⟨ensured, made, rfl⟩
  refine (Host.ends_writeSource path content _).mono ?_ ?_
  · rintro _ _ ⟨unlocked, passable, files, written, rfl⟩
    exact ⟨unlocked, passable, made, files, ensured, written, rfl⟩
  · rintro _ _ rfl
    rfl

/-- A library that is written is given to the formatter, and nothing is started on one that is not.
-/
theorem ends_writeLibrary (path : Path) (content : Text) (formatter : Formatter) (host : Host)
    : let handed := fun after : Host =>
        ∃ files,
          after.events = host.events ++ [.started (formatter.command ++ [path.text]) files]
          ∧ files.read host.directory path = .ok (Utf8.encode content)
      Ends (writeLibrary path content formatter) host (fun _ after => handed after)
        (fun _ after => after.events = host.events ∨ handed after) := by
  refine (ends_orShortage (ends_place path content host)).andThen (fun _ _ => .inl) ?_
  rintro _ _ ⟨_, _, made, files, _, written, rfl⟩
  have held := FileTree.read_of_write written
  refine .bind_ok (Host.perform_note _ _ _) ?_
  exact (formatter.ends_format path _).mono (fun _ _ started => ⟨files, started, held⟩)
    fun _ _ started => .inr ⟨files, started, held⟩

-----------------------------------------------------------------------------------------
-- The values of a product
-----------------------------------------------------------------------------------------

theorem testVector_eq_ok {product : Pipeline.Product} {vector : TestVector}
    (made : testVector product = .ok vector)
    : product.receipt.groth16.map Groth16Receipt.sealBytes = .ok vector.sealBytes
      ∧ product.receipt.claim.after.digest = .ok vector.postDigest
      ∧ product.receipt.journal = vector.journal
      ∧ product.imageId = vector.imageId := by
  obtain ⟨proof, found, made⟩ := ok_of_bind made
  obtain ⟨postDigest, digested, made⟩ := ok_of_bind made
  obtain rfl := Except.ok.inj made
  exact ⟨by rw [found]; rfl, digested, rfl, rfl⟩

variable {pipeline : Pipeline} {path : Path} {formatter : Formatter} {host : Host}
  {product : Pipeline.Product} {files : FileTree}

/-- Once the pipeline has given a product, the library of the product is handed over, or nothing is
started.
-/
theorem ends_emitTestReceipt (path : Path) (formatter : Formatter) {middle : Host}
    (run : perform pipeline.run host = (.ok product, middle))
    : let ended := fun after : Host =>
        after.events = middle.events
        ∨ ∃ vector files,
            testVector product = .ok vector
            ∧ after.events
              = middle.events ++ [.started (formatter.command ++ [path.text]) files]
            ∧ files.read middle.directory path = .ok (Utf8.encode vector.library.render)
      Ends (emitTestReceipt pipeline path formatter) host (fun _ after => ended after)
        (fun _ after => ended after) := by
  refine .bind_ok run ((Ends.ofExcept (testVector product) middle).andThen ?_ ?_)
  · rintro _ _ ⟨rfl, _⟩
    exact .inl rfl
  · rintro vector middle ⟨rfl, made⟩
    have ends := ends_writeLibrary path vector.library.render formatter middle
    refine ends.andThen (fun _ after => Or.imp_right fun ⟨files, started, held⟩ =>
      ⟨vector, files, made, started, held⟩) ?_
    rintro _ after ⟨files, started, held⟩
    exact .inr ⟨vector, files, made, started, held⟩

/-- What is handed over is the library of the product. -/
theorem HandsOver.exists_vector (handed : HandsOver pipeline path formatter host product files)
    : ∃ vector,
        testVector product = .ok vector
        ∧ files.read host.directory path = .ok (Utf8.encode vector.library.render) := by
  obtain ⟨middle, run, reached⟩ := handed
  have directory : middle.directory = host.directory := by
    obtain ⟨_, _, _, rfl, _⟩ := (Pipeline.ends_run_host pipeline host).ok run
    rfl
  rcases (ends_emitTestReceipt path formatter run).left with
    silent | ⟨vector, given, made, started, held⟩
  · rw [reached] at silent
    simp at silent
  · have same := List.append_cancel_left (reached.symm.trans started)
    obtain rfl : files = given := by simpa using same
    exact ⟨vector, made, directory ▸ held⟩

/-- A product of the development engine has the values that its stages made. -/
theorem originates_of_run {devMode : DevMode} {middle : Host} {vector : TestVector}
    (engine : pipeline.engine = devMode.engine)
    (run : perform pipeline.run host = (.ok product, middle))
    (made : testVector product = .ok vector)
    : ∃ event,
        middle.events = host.events ++ [event] ∧ Originates devMode pipeline host vector event := by
  obtain ⟨event, _, _, rfl, completed⟩ := (Pipeline.ends_run_host pipeline host).ok run
  cases completed with
  | @intro segment session lifted identity proof files left log _ executed proved _ _ ran yields =>
      obtain ⟨input, encoded, executed, single⟩ := Pipeline.executed_eq_ok executed
      rw [Pipeline.lifted_devMode engine] at proved
      obtain ⟨receipt, proved, lifting⟩ := ok_of_bind proved
      rw [engine] at executed
      obtain ⟨content, text, items, held, decoded, parsed, isProof⟩ := yields
      obtain ⟨a₀, a₁, b₀₀, b₀₁, b₁₀, b₁₁, c₀, c₁, rfl⟩ := isProof.exists_eq
      obtain ⟨_, found, made⟩ := ok_of_bind made
      obtain rfl := Except.ok.inj found
      obtain ⟨postDigest, digested, made⟩ := ok_of_bind made
      obtain rfl := Except.ok.inj made
      have sealed
          : Groth16Seal.toBytes ⟨[a₀, a₁], [[b₀₀, b₀₁], [b₁₀, b₁₁]], [c₀, c₁]⟩
            = a₀ ++ a₁ ++ b₀₀ ++ b₀₁ ++ b₁₀ ++ b₁₁ ++ c₀ ++ c₁ := by
        simp [Groth16Seal.toBytes, Groth16Seal.elements]
      have imaged : pipeline.engine.imageId = devMode.imageId := congrArg Engine.imageId engine
      simp only [Pipeline.product, sealed, imaged]
      refine ⟨event, rfl, .intro encoded executed single proved ?_ ran
        ⟨content, text, items, held, decoded, parsed, isProof⟩⟩
      rw [← DevMode.claim_lift lifting]
      exact digested

/-- Every product has a test vector. Witness: its claim was checked, so the digest of the state at its
end is known.
-/
theorem exists_testVector {middle : Host}
    (run : perform pipeline.run host = (.ok product, middle))
    : ∃ vector, testVector product = .ok vector := by
  obtain ⟨_, _, _, _, completed⟩ := (Pipeline.ends_run_host pipeline host).ok run
  cases completed with
  | @intro _ _ _ _ _ _ _ _ _ _ proved _ _ _ _ =>
      obtain ⟨_, _, checked⟩ := ok_of_bind proved
      obtain ⟨lifted, _, checked⟩ := ok_of_bind checked
      obtain ⟨_, accepted, same⟩ := ok_of_bind checked
      obtain rfl := Except.ok.inj same
      obtain ⟨_, after, _, _, hashes, _⟩ := SuccinctReceipt.exists_hashes accepted
      have digested : lifted.claim.after.digest = .ok (Digest.ofContent after) := by
        rw [SystemState.digest, hashes.afterHashed]
        rfl
      exact ⟨_, bind_of_ok digested _⟩

/-- Where the library of a product can be placed, it is handed over. -/
theorem handsOver_of_placed {middle placed : Host} {vector : TestVector}
    (run : perform pipeline.run host = (.ok product, middle))
    (made : testVector product = .ok vector)
    (placing : perform (place path vector.library.render) middle = (.ok (), placed))
    : HandsOver pipeline path formatter host product placed.files := by
  have events : placed.events = middle.events := by
    obtain ⟨_, _, made, files, _, _, rfl⟩ :=
      (ends_place path vector.library.render middle).ok placing
    rfl
  have written
      : perform (orShortage (.unwritable none path.text) (place path vector.library.render)) middle
        = (.ok (), placed) := by
    rw [orShortage, perform_tryCatch, placing]
  have vectored
      : perform (Action.ofExcept (testVector product)) middle = (.ok vector, middle) := by
    rw [perform_ofExcept, made]
  let handed := fun after : Host =>
    after.events = middle.events ++ [.started (formatter.command ++ [path.text]) placed.files]
  have ends
      : Ends (emitTestReceipt pipeline path formatter) host (fun _ => handed) fun _ => handed := by
    refine .bind_ok run (.bind_ok vectored ?_)
    refine Ends.bind (.bind_ok written (.bind_ok (Host.perform_note _ _ _) ?_)) fun _ _ => id
    dsimp only [handed]
    rw [← events]
    exact formatter.ends_format path _
  exact ⟨middle, run, ends.left⟩

-----------------------------------------------------------------------------------------
-- The file
-----------------------------------------------------------------------------------------

/-- The file that the formatter is started on is a library of the values of the run, each on a line
of its own. Runs that differ in one of the four values that their receipts have differ in their
files. Witness: a text is the library of one test vector at most.
-/
theorem testReceipt_of_run {devMode : DevMode} (engine : pipeline.engine = devMode.engine)
    (handed : HandsOver pipeline path formatter host product files)
    : (∃ vector text event,
        (perform (emitTestReceipt pipeline path formatter) host).2.events
            = host.events ++ [event, .started (formatter.command ++ [path.text]) files]
        ∧ Originates devMode pipeline host vector event
        ∧ testVector product = .ok vector
        ∧ files.read host.directory path = .ok (Utf8.encode text)
        ∧ IsTestReceipt vector.sealBytes vector.postDigest.bytes vector.journal
            vector.imageId.bytes text)
      ∧ ∀ {otherPipeline : Pipeline} {otherPath : Path} {otherFormatter : Formatter}
          {otherHost : Host} {other : Pipeline.Product} {otherFiles : FileTree},
          HandsOver otherPipeline otherPath otherFormatter otherHost other otherFiles
          → other.receipt.groth16.map Groth16Receipt.sealBytes
                ≠ product.receipt.groth16.map Groth16Receipt.sealBytes
              ∨ other.receipt.claim.after.digest ≠ product.receipt.claim.after.digest
              ∨ other.receipt.journal ≠ product.receipt.journal
              ∨ other.imageId ≠ product.imageId
          → otherFiles.read otherHost.directory otherPath ≠ files.read host.directory path := by
  obtain ⟨vector, made, held⟩ := handed.exists_vector
  constructor
  · obtain ⟨middle, run, reached⟩ := handed
    obtain ⟨event, events, originates⟩ := originates_of_run engine run made
    rw [events, List.append_assoc] at reached
    exact ⟨vector, _, event, reached, originates, made, held, isTestReceipt_render vector⟩
  · intro _ _ _ _ other _ otherHanded differ same
    obtain ⟨otherVector, otherMade, otherHeld⟩ := otherHanded.exists_vector
    rw [held, otherHeld] at same
    have otherRender := isTestReceipt_render otherVector
    rw [Utf8.encode_inj (Except.ok.inj same)] at otherRender
    obtain ⟨sealBytes, postDigest, journal, imageId⟩ :=
      otherRender.unique (isTestReceipt_render vector)
    obtain ⟨found, digested, output, image⟩ := testVector_eq_ok made
    obtain ⟨otherFound, otherDigested, otherOutput, otherImage⟩ := testVector_eq_ok otherMade
    rcases differ with differ | differ | differ | differ
    · exact differ (by rw [otherFound, found, sealBytes])
    · exact differ (by rw [otherDigested, digested, Digest.eq_of_bytes postDigest])
    · exact differ (by rw [otherOutput, output, journal])
    · exact differ (by rw [otherImage, image, Digest.eq_of_bytes imageId])

/-- A text can be placed over the output that a prover has left. -/
theorem exists_placed_of_yields {work : Path} {proof : Groth16Seal} (host : Host)
    (passable : work.holdsNul = false) (outputPassable : (work.child outputName).holdsNul = false)
    (unlocked : host.sourcesLocked = false)
    (yields : Yields host.files host.directory work proof) (content : Text)
    : ∃ placed, perform (place (work.child outputName) content) host = (.ok (), placed) := by
  have member : outputName ∈ exchangeNames := by simp [exchangeNames]
  obtain ⟨_, _, _, held, _⟩ := yields
  obtain ⟨location, located, there⟩ := FileTree.read_eq_ok held
  obtain ⟨base, directory, isDirectory, _⟩ := Exchange.locate_child member located
  have above : (work.child outputName).parent = work := by
    rw [child_eq work member, Path.parent, List.dropLast_concat]
  have written := Host.perform_writeBytes outputPassable
    (FileTree.write_of_locate located (by simp [there]) (Utf8.encode content))
  have ensured := Host.perform_ensureDirectory_of_located passable directory isDirectory
  refine ⟨{ host with files := host.files.set location (.file (Utf8.encode content)) }, ?_⟩
  rw [place, above, perform_bind_ok ensured, Host.perform_writeSource unlocked]
  exact written

/-- The prover replies with single bytes, and the library is written over its output. -/
theorem testReceipt_of_run_single_bytes
    : let output := "[\"01\",\"02\"],[[\"03\",\"04\"],[\"05\",\"06\"]],[\"07\",\"0x08\"]"
      let pipeline : Pipeline :=
        ⟨DevMode.standard.engine, .replying "own" [] fun _ => (0, some (Bytes.ofLabel output)),
          some ⟨.relative, ["w"]⟩, 0⟩
      let path : Path := ⟨.relative, ["w", "output.json"]⟩
      let host : Host :=
        {
          files := ⟨[(["w"], .directory)]⟩
          directory := []
          temporary := ["tmp"]
          temporaryEnding := "0"
          environment := []
          limits := .usual
          containerTool := none
          sourcesLocked := false
          responses := []
          launch := fun _ _ files => .exited 0 files
          log := []
          events := []
        }
      ∃ product files postDigest journal text,
        HandsOver pipeline path .solidity host product files
        ∧ files.read [] path = .ok (Utf8.encode text)
        ∧ IsTestReceipt [1, 2, 3, 4, 5, 6, 7, 8] postDigest journal DevMode.standard.imageId.bytes
            text := by
  intro output pipeline path host
  have exchange : Exchange ⟨.relative, ["w"]⟩ host.directory ["w"] host.files :=
    Pipeline.exchange_single
  have chosen
      : pipeline.workDirectory.or (BootstrapSettings.workDirectoryOf host.environment)
        = some ⟨.relative, ["w"]⟩ := rfl
  obtain ⟨attempt, made⟩ : ∃ attempt, pipeline.attempt = .ok attempt :=
    Pipeline.exists_attempt_standard rfl rfl
  let proof : Groth16Seal := ⟨[[1], [2]], [[[3], [4]], [[5], [6]]], [[7], [8]]⟩
  let product := pipeline.product attempt.lifted attempt.session proof
  have read
      : proofOf Limits.usual.nesting (Path.child ⟨.relative, ["w"]⟩ outputName)
          (some (Bytes.ofLabel output))
        = .ok proof := by
    decide +kernel
  have outcome : (perform pipeline.run host).1 = .ok product := by
    rw [Pipeline.perform_run chosen
      (Prover.answers_replying "own" _ host fun _ => (0, some (Bytes.ofLabel output)))
      (.of_exchange exchange), made]
    change (proofOf Limits.usual.nesting _ (some _)).map _ = _
    rw [read]
    rfl
  cases run : perform pipeline.run host with
  | mk result middle =>
      rw [run] at outcome
      obtain rfl : result = .ok product := outcome
      have inside : perform (pipeline.runIn ⟨.relative, ["w"]⟩) host = (.ok product, middle) :=
        (perform_bind_ok exchange.perform_ensureDirectory _).symm.trans run
      obtain ⟨_, left, log, rfl, ⟨_, yields⟩, _⟩ := (Pipeline.ends_runIn _ _ _).ok inside
      obtain ⟨vector, vectored⟩ := exists_testVector run
      obtain ⟨placed, placing⟩ :=
        exists_placed_of_yields { host with files := left, log := log, events := _ } (by rfl)
          (by rfl) (by rfl) yields vector.library.render
      have handed : HandsOver pipeline path .solidity host product placed.files :=
        handsOver_of_placed run vectored placing
      obtain ⟨⟨again, text, _, _, _, made, held, isTestReceipt⟩, _⟩ :=
        testReceipt_of_run rfl handed
      obtain ⟨found, _, _, image⟩ := testVector_eq_ok made
      have sealBytes : [1, 2, 3, 4, 5, 6, 7, 8] = again.sealBytes := Except.ok.inj found
      have imageId : DevMode.standard.imageId = again.imageId := image
      rw [← sealBytes, ← imageId] at isTestReceipt
      exact ⟨product, placed.files, _, _, text, handed, held, isTestReceipt⟩

end VerifierBootstrap.Solidity
