import VerifierBootstrap.Proofs.Json.Refusals
import VerifierBootstrap.Proofs.Witness.Exchange
import VerifierBootstrap.Proofs.Witness.ProverOutput

/-!
How reading the output of the prover ends. A proof, a missing output and a fault in a group are
announced. Beside them reading fails on a content that is no text, and on an integer of more digits
than are read or an array or object that there is no room for, where the parser comes to it, and in
no other way that is not the file system's.
-/

namespace VerifierBootstrap.Witness

open VerifierBootstrap.Action

/-- The content of an output has been judged: it is a proof, or there is a fault in a group. -/
def Judged (result : Except Failure Groth16Seal) : Prop :=
  (∃ proof, result = .ok proof) ∨ ∃ group cause, result = .error (.decode group cause)

/-- A result is one of those that are announced: the content is judged, or the output is missing. -/
def Announced (path : Path) (result : Except Failure Groth16Seal) : Prop :=
  Judged result ∨ result = .error (.availability (.noProverOutput path.text))

/-- A content is a text of groups of which the first thing wrong is an integer of so many digits,
more than are read.
-/
def Overlong (nesting : Nat) (content : Bytes) (digits : Nat) : Prop :=
  ∃ text,
    Utf8.decode content = .ok text
    ∧ Json.MeetsLongInteger nesting ('[' :: Text.unifyLines text ++ [']']) digits

/-- A content is a text of groups of which the first thing wrong is an array or object that there is
no room for.
-/
def TooDeep (nesting : Nat) (content : Bytes) (enclosure : Json.Enclosure) : Prop :=
  ∃ text,
    Utf8.decode content = .ok text
    ∧ Json.MeetsTooDeep nesting ('[' :: Text.unifyLines text ++ [']']) enclosure

/-- The parser can go through a content: it is a text, and none of the limits is met in it. -/
structure Readable (nesting : Nat) (content : Bytes) : Prop where
  decoded : ∃ text, Utf8.decode content = .ok text
  short : ∀ digits, ¬Overlong nesting content digits
  shallow : ∀ enclosure, ¬TooDeep nesting content enclosure

/-- How the reading of an output ends is told from what is at its path. -/
structure Told (path : Path) (host : Host) (result : Except Failure Groth16Seal) : Prop where
  announced
    : Announced path result
      ↔ Host.Absent path host
        ∨ ∃ content, Host.Held path content host ∧ Readable host.limits.nesting content
  missing : (∃ shortage, result = .error (.availability shortage)) ↔ Host.Absent path host
  undecodable
    : ∀ fault,
        result = .error (.undecodable fault)
        ↔ ∃ content, Host.Held path content host ∧ Utf8.decode content = .error fault
  longInteger
    : ∀ digits,
        result = .error (.longInteger digits)
        ↔ ∃ content, Host.Held path content host ∧ Overlong host.limits.nesting content digits
  tooDeep
    : ∀ enclosure,
        result = .error (.tooDeep enclosure)
        ↔ ∃ content, Host.Held path content host ∧ TooDeep host.limits.nesting content enclosure
  refused
    : (∃ failure, result = .error failure ∧ failure.OfFiles)
      ↔ ¬Host.Absent path host ∧ ∀ content, ¬Host.Held path content host

/-- The failure of a judged content is a fault in a group. -/
theorem judged_error_iff {failure : Failure}
    : Judged (.error failure) ↔ ∃ group cause, failure = .decode group cause := by
  simp [Judged]

-----------------------------------------------------------------------------------------
-- Groups of a text
-----------------------------------------------------------------------------------------

section
variable {nesting : Nat} {output : Text}

theorem readProof_of_groups_error {failure : Failure}
    (refused : groups nesting output = .error failure)
    : readProof nesting output = .error failure := by
  rw [readProof, parse, refused]

/-- The groups of an output are judged if the parser meets none of its limits. -/
theorem judged_or_met (nesting : Nat) (output : Text)
    : Judged (readProof nesting output)
      ∨ (∃ digits,
          readProof nesting output = .error (.longInteger digits)
          ∧ Json.MeetsLongInteger nesting ('[' :: output ++ [']']) digits)
      ∨ ∃ enclosure,
          readProof nesting output = .error (.tooDeep enclosure)
          ∧ Json.MeetsTooDeep nesting ('[' :: output ++ [']']) enclosure := by
  cases found : groups nesting output with
  | error failure =>
      have refused := readProof_of_groups_error found
      rw [groups] at found
      split at found
      · cases found
      · cases found
      · cases found
        exact .inl (.inr ⟨_, _, refused⟩)
      · rename_i digits met
        cases found
        exact .inr (.inl ⟨digits, refused, Json.parseWithin_eq_longInteger_iff.mp met⟩)
      · rename_i enclosure met
        cases found
        exact .inr (.inr ⟨enclosure, refused, Json.parseWithin_eq_tooDeep_iff.mp met⟩)
  | ok items =>
      cases read : readProof nesting output with
      | ok proof => exact .inl (.inl ⟨proof, rfl⟩)
      | error failure =>
          obtain ⟨group, cause, rfl, _⟩ := exists_firstFault found read
          exact .inl (.inr ⟨group, cause, rfl⟩)

theorem readProof_eq_longInteger_iff {digits : Nat}
    : readProof nesting output = .error (.longInteger digits)
      ↔ Json.MeetsLongInteger nesting ('[' :: output ++ [']']) digits := by
  constructor
  · intro refused
    rcases judged_or_met nesting output with judged | ⟨other, again, met⟩ | ⟨_, again, _⟩
    · simp [refused, judged_error_iff] at judged
    · cases refused.symm.trans again
      exact met
    · cases refused.symm.trans again
  · intro met
    refine readProof_of_groups_error ?_
    rw [groups, Json.parseWithin_eq_longInteger_iff.mpr met]

theorem readProof_eq_tooDeep_iff {enclosure : Json.Enclosure}
    : readProof nesting output = .error (.tooDeep enclosure)
      ↔ Json.MeetsTooDeep nesting ('[' :: output ++ [']']) enclosure := by
  constructor
  · intro refused
    rcases judged_or_met nesting output with judged | ⟨_, again, _⟩ | ⟨other, again, met⟩
    · simp [refused, judged_error_iff] at judged
    · cases refused.symm.trans again
    · cases refused.symm.trans again
      exact met
  · intro met
    refine readProof_of_groups_error ?_
    rw [groups, Json.parseWithin_eq_tooDeep_iff.mpr met]

end

-----------------------------------------------------------------------------------------
-- Contents of an output
-----------------------------------------------------------------------------------------

section
variable {nesting : Nat} {path : Path} {content : Bytes}

/-- What is said of the text of a content is said of the text that it is decoded to. -/
theorem exists_text_iff {text : Text} {holds : Text → Prop}
    (decoded : Utf8.decode content = .ok text)
    : (∃ other, Utf8.decode content = .ok other ∧ holds other) ↔ holds text := by
  simp [decoded]

theorem proofOf_eq_undecodable_iff {fault : Utf8.Fault}
    : proofOf nesting path (some content) = .error (.undecodable fault)
      ↔ Utf8.decode content = .error fault := by
  rw [proofOf]
  cases decoded : Utf8.decode content with
  | error other => simp
  | ok text =>
      simp only [reduceCtorEq, iff_false]
      intro refused
      rcases judged_or_met nesting (Text.unifyLines text) with judged | ⟨_, read, _⟩ | ⟨_, read, _⟩
      · simp [refused, judged_error_iff] at judged
      · simp [refused] at read
      · simp [refused] at read

theorem proofOf_eq_longInteger_iff {digits : Nat}
    : proofOf nesting path (some content) = .error (.longInteger digits)
      ↔ Overlong nesting content digits := by
  rw [proofOf]
  cases decoded : Utf8.decode content with
  | error fault => simp [Overlong, decoded]
  | ok text =>
      rw [Overlong, exists_text_iff decoded]
      exact readProof_eq_longInteger_iff

theorem proofOf_eq_tooDeep_iff {enclosure : Json.Enclosure}
    : proofOf nesting path (some content) = .error (.tooDeep enclosure)
      ↔ TooDeep nesting content enclosure := by
  rw [proofOf]
  cases decoded : Utf8.decode content with
  | error fault => simp [TooDeep, decoded]
  | ok text =>
      rw [TooDeep, exists_text_iff decoded]
      exact readProof_eq_tooDeep_iff

/-- A content that is not judged is no text, or one of the limits is met in it. -/
theorem judged_or_unread (nesting : Nat) (path : Path) (content : Bytes)
    : Judged (proofOf nesting path (some content))
      ∨ (∃ fault, proofOf nesting path (some content) = .error (.undecodable fault))
      ∨ (∃ digits, proofOf nesting path (some content) = .error (.longInteger digits))
      ∨ ∃ enclosure, proofOf nesting path (some content) = .error (.tooDeep enclosure) := by
  rw [proofOf]
  cases Utf8.decode content with
  | error fault => exact .inr (.inl ⟨fault, rfl⟩)
  | ok text =>
      rcases judged_or_met nesting (Text.unifyLines text) with
        judged | ⟨digits, read, _⟩ | ⟨enclosure, read, _⟩
      · exact .inl judged
      · exact .inr (.inr (.inl ⟨digits, read⟩))
      · exact .inr (.inr (.inr ⟨enclosure, read⟩))

/-- What is in an output is judged if the parser can go through it. -/
theorem judged_proofOf_iff (nesting : Nat) (path : Path) (content : Bytes)
    : Judged (proofOf nesting path (some content)) ↔ Readable nesting content := by
  constructor
  · intro judged
    have other {failure : Failure} (apart : ∀ group cause, failure ≠ .decode group cause)
        : proofOf nesting path (some content) ≠ .error failure := by
      intro refused
      rw [refused] at judged
      obtain ⟨group, cause, same⟩ := judged_error_iff.mp judged
      exact apart group cause same
    refine ⟨?_, fun digits met => ?_, fun enclosure met => ?_⟩
    · cases decoded : Utf8.decode content with
      | ok text => exact ⟨text, rfl⟩
      | error fault => exact absurd (proofOf_eq_undecodable_iff.mpr decoded) (other (by simp))
    · exact other (by simp) (proofOf_eq_longInteger_iff.mpr met)
    · exact other (by simp) (proofOf_eq_tooDeep_iff.mpr met)
  · rintro ⟨⟨text, decoded⟩, short, shallow⟩
    rcases judged_or_unread nesting path content with
      judged | ⟨fault, read⟩ | ⟨digits, read⟩ | ⟨enclosure, read⟩
    · exact judged
    · cases decoded.symm.trans (proofOf_eq_undecodable_iff.mp read)
    · exact absurd (proofOf_eq_longInteger_iff.mp read) (short digits)
    · exact absurd (proofOf_eq_tooDeep_iff.mp read) (shallow enclosure)

/-- A content is never taken for a missing output, nor for a refusal of the file system. -/
theorem proofOf_some_ne {failure : Failure}
    (other : (∃ shortage, failure = .availability shortage) ∨ failure.OfFiles)
    : proofOf nesting path (some content) ≠ .error failure := by
  intro refused
  rcases judged_or_unread nesting path content with judged | ⟨_, read⟩ | ⟨_, read⟩ | ⟨_, read⟩
  · rw [refused] at judged
    obtain ⟨group, cause, rfl⟩ := judged_error_iff.mp judged
    simp [Failure.OfFiles] at other
  all_goals
    obtain rfl := Except.error.inj (refused.symm.trans read)
    simp [Failure.OfFiles] at other

end

-----------------------------------------------------------------------------------------
-- Outputs of a work directory
-----------------------------------------------------------------------------------------

section
variable {path : Path} {host : Host} {content : Bytes}

theorem exists_held_iff (held : Host.Held path content host) {holds : Bytes → Prop}
    : (∃ other, Host.Held path other host ∧ holds other) ↔ holds content := by
  constructor
  · rintro ⟨other, again, found⟩
    rwa [held.unique again]
  · exact fun found => ⟨content, held, found⟩

theorem Told.of_absent (absent : Host.Absent path host)
    : Told path host (proofOf host.limits.nesting path none) := by
  have unheld {holds : Bytes → Prop} : ¬∃ content, Host.Held path content host ∧ holds content :=
    fun ⟨_, held, _⟩ => held.not_absent absent
  refine ⟨⟨fun _ => .inl absent, fun _ => .inr rfl⟩, ⟨fun _ => absent, fun _ => ⟨_, rfl⟩⟩,
    ?_, ?_, ?_, ?_⟩
  · exact fun fault => ⟨(nomatch ·), fun held => absurd held unheld⟩
  · exact fun digits => ⟨(nomatch ·), fun held => absurd held unheld⟩
  · exact fun enclosure => ⟨(nomatch ·), fun held => absurd held unheld⟩
  · refine ⟨?_, fun there => absurd absent there.1⟩
    rintro ⟨_, missing, ofFiles⟩
    cases missing
    exact ofFiles.elim

/-- Every result of a content is found in the content, and none of them is of the file system. -/
theorem Told.of_held (held : Host.Held path content host)
    : Told path host (proofOf host.limits.nesting path (some content)) := by
  have there := held.not_absent
  have unmissed (shortage : Shortage)
      : proofOf host.limits.nesting path (some content) ≠ .error (.availability shortage) :=
    proofOf_some_ne (.inl ⟨shortage, rfl⟩)
  refine ⟨?_, ?_, ?_, ?_, ?_, ?_⟩
  · rw [exists_held_iff held, ← judged_proofOf_iff _ path content, Announced]
    simp only [there, unmissed, or_false, false_or]
  · simp only [there, unmissed, exists_false]
  · intro fault
    rw [exists_held_iff held]
    exact proofOf_eq_undecodable_iff
  · intro digits
    rw [exists_held_iff held]
    exact proofOf_eq_longInteger_iff
  · intro enclosure
    rw [exists_held_iff held]
    exact proofOf_eq_tooDeep_iff
  · constructor
    · rintro ⟨failure, refused, ofFiles⟩
      exact absurd refused (proofOf_some_ne (.inr ofFiles))
    · rintro ⟨_, unheld⟩
      exact absurd held (unheld content)

theorem Told.of_refused {failure : Failure} (there : ¬Host.Absent path host)
    (unheld : ∀ content, ¬Host.Held path content host) (ofFiles : failure.OfFiles)
    : Told path host (.error failure) := by
  have nowhere {holds : Bytes → Prop}
      : ¬∃ content, Host.Held path content host ∧ holds content :=
    fun ⟨content, held, _⟩ => unheld content held
  have apart {other : Failure} (foreign : ¬other.OfFiles)
      : (.error failure : Except Failure Groth16Seal) ≠ .error other := by
    intro same
    cases same
    exact foreign ofFiles
  refine ⟨?_, ?_, ?_, ?_, ?_, ?_⟩
  · simp only [there, nowhere, or_self, iff_false]
    rintro (judged | missing)
    · obtain ⟨group, cause, rfl⟩ := judged_error_iff.mp judged
      exact ofFiles
    · exact apart id missing
  · simp only [there, iff_false]
    exact fun ⟨_, missing⟩ => apart id missing
  · simp only [nowhere, iff_false]
    exact fun _ => apart id
  · simp only [nowhere, iff_false]
    exact fun _ => apart id
  · simp only [nowhere, iff_false]
    exact fun _ => apart id
  · exact ⟨fun _ => ⟨there, unheld⟩, fun _ => ⟨failure, rfl, ofFiles⟩⟩

end

/-- Where no content is held, no text is read. -/
theorem ends_readText_unheld {path : Path} {host : Host}
    (unheld : ∀ content, ¬Host.Held path content host)
    : Ends (Host.readText path) host (fun _ _ => False) (fun failure _ => failure.OfFiles) := by
  refine (Host.ends_ask path FileTree.read host).andThen (fun _ _ => And.right) ?_
  rintro content _ ⟨rfl, passable, read⟩
  exact (unheld content (Host.held_iff.mpr ⟨passable, read⟩)).elim

/-- What is at the path of the output is neither nothing nor a file that can be read, and the file
system says so.
-/
theorem ends_readOutput_refused {work : Path} {host : Host}
    (there : ¬Host.Absent (work.child outputName) host)
    (unheld : ∀ content, ¬Host.Held (work.child outputName) content host)
    : Ends (readOutput work) host (fun _ _ => False) (fun failure _ => failure.OfFiles) := by
  refine ((Ends.of_run _ host).and (Host.ends_fileExists _ host)).andThen
    (fun _ _ ended => ended.2.2) ?_
  rintro found _ ⟨run, rfl, _⟩
  cases found with
  | false => exact absurd run there
  | true =>
      refine Ends.andThen (ends_readText_unheld unheld) (fun _ _ => id) ?_
      exact fun _ _ => False.elim

/-- Reading the output of the prover ends as announced exactly if the output is missing, or is a
text in which the parser comes neither to an integer of more digits than are read nor to an array or
object that there is no room for. What else can happen is told one by one. Witness: nothing is at
the path, a content is, or neither.
-/
theorem told_readOutput (work : Path) (host : Host)
    : Told (work.child outputName) host (perform (readOutput work) host).1 := by
  by_cases absent : Host.Absent (work.child outputName) host
  · rw [perform_readOutput_of_absent absent]
    exact .of_absent absent
  · by_cases held : ∃ content, Host.Held (work.child outputName) content host
    · obtain ⟨content, held⟩ := held
      rw [perform_readOutput_of_held held]
      exact .of_held held
    · have unheld := not_exists.mp held
      cases run : perform (readOutput work) host with
      | mk result after =>
          cases result with
          | ok proof => exact ((ends_readOutput_refused absent unheld).ok run).elim
          | error failure =>
              exact .of_refused absent unheld ((ends_readOutput_refused absent unheld).error run)

end VerifierBootstrap.Witness
