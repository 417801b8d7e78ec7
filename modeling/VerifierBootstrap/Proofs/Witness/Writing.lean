import VerifierBootstrap.Proofs.Text.Numeral
import VerifierBootstrap.Proofs.Witness.Handover

/-!
What is in a work directory once a witness is written, and once one was to be written for a seal
that has none. A seal of whole words is found twice, as it is and in the numerals of its document.
Of any other seal the first copy is left, and the document's file is empty.
-/

namespace VerifierBootstrap.Witness

open VerifierBootstrap.Action

/-- A content records a seal: it is a JSON object of one field, a list of numerals, and the numbers
of the numerals are written with the bytes of the seal, four bytes each and the lowest first.
-/
def Records (sealBytes content : Bytes) : Prop :=
  ∃ (text : Text) (numerals : List Text) (words : List Nat),
    Utf8.decode content = .ok text
    ∧ Json.parse text = .ok (Json.ofFields [("iop", .array (numerals.map Json.ofText))])
    ∧ numerals.length = sealBytes.length / 4
    ∧ List.Forall₂ Text.IsNumeral numerals words
    ∧ (∀ word ∈ words, word < 2 ^ 32)
    ∧ words.flatMap (Words.encode 4) = sealBytes

-----------------------------------------------------------------------------------------
-- Records
-----------------------------------------------------------------------------------------

theorem IsDocument.records {sealBytes content : Bytes} (document : IsDocument sealBytes content)
    : Records sealBytes content := by
  obtain ⟨text, words, decoded, parsed, small, rfl⟩ := document
  have numerals
      : (words.map Text.ofNat).map Json.ofText
        = words.map fun word => Json.ofText (Text.ofNat word) :=
    List.map_map
  refine ⟨text, words.map Text.ofNat, words, decoded, numerals ▸ parsed, ?_, ?_, small, rfl⟩
  · have each : words.map (fun word => (Words.encode 4 word).length) = words.map fun _ => 4 :=
      List.map_congr_left fun word _ => Words.length_encode 4 word
    rw [List.length_map, List.length_flatMap, each]
    simp
  · rw [List.forall₂_map_left_iff, List.forall₂_same]
    exact fun word _ => Text.isNumeral_ofNat word

/-- A content records one seal at most. Witness: it is one text, the text one value, and a numeral
spells one number.
-/
theorem Records.unique {sealBytes other content : Bytes} (records : Records sealBytes content)
    (again : Records other content)
    : sealBytes = other := by
  obtain ⟨text, numerals, words, decoded, parsed, _, spelled, _, rfl⟩ := records
  obtain ⟨_, others, otherWords, decodedAgain, parsedAgain, _, spelledAgain, _, rfl⟩ := again
  obtain rfl := Except.ok.inj (decoded.symm.trans decodedAgain)
  have same := Except.ok.inj (parsed.symm.trans parsedAgain)
  simp only [Json.ofFields, List.map_cons, List.map_nil, Json.object.injEq, List.cons.injEq,
    Prod.mk.injEq, Json.array.injEq, true_and, and_true] at same
  obtain rfl : numerals = others := List.map_injective_iff.mpr Json.ofText_injective same
  have spellsOne : Relator.RightUnique Text.IsNumeral :=
    fun _ _ _ first second => first.spells.symm.trans second.spells
  rw [spellsOne.forall₂ spelled spelledAgain]

-----------------------------------------------------------------------------------------
-- Seals of whole words
-----------------------------------------------------------------------------------------

/-- A seal of whole words is written where both files can be written. -/
theorem exists_perform_write {sealBytes : Bytes} {work : Path} {host : Host}
    (whole : sealBytes.length % 4 = 0)
    (writable : ∀ path ∈ preparedPaths work, Host.Writable path host)
    : ∃ after, perform (write sealBytes work) host = (.ok (work.child witnessName), after) := by
  have sealed := writable (work.child sealName) (by simp [preparedPaths])
  have witnessed := writable (work.child witnessName) (by simp [preparedPaths])
  obtain ⟨document, made⟩ := exists_documentBytes whole
  obtain ⟨first, stamped, _, byFirst⟩ := Host.exists_perform_writeBytes sealed sealBytes
  have stillWritable := (byFirst.writable_iff _).mpr witnessed
  obtain ⟨second, opened, _, bySecond⟩ := Host.exists_perform_writeBytes stillWritable []
  obtain ⟨third, written, _, _⟩ :=
    Host.exists_perform_writeBytes ((bySecond.writable_iff _).mpr stillWritable) document
  refine ⟨third, ?_⟩
  rw [write, perform_bind_ok stamped, perform_bind_ok opened, made,
    perform_bind_ok (perform_ofExcept _ _), perform_bind_ok written, perform_pure]

/-- What is found once a witness is written. -/
theorem records_of_perform_write {sealBytes content : Bytes} {work : Path} {host after : Host}
    {given : Path} (run : perform (write sealBytes work) host = (.ok given, after))
    (held : Host.Held (work.child witnessName) content after)
    : Records sealBytes content := by
  obtain ⟨files, rfl, _, document, read, isDocument⟩ := (ends_write sealBytes work host).ok run
  obtain ⟨_, found⟩ := Host.held_iff.mp held
  obtain rfl := Except.ok.inj (read.symm.trans found)
  exact isDocument.records

/-- A seal of whole words is not lost where both files can be written: the one holds it as it is,
and the other records it and is written for no other seal.
-/
theorem write_records {sealBytes : Bytes} {work : Path} {host : Host}
    (whole : sealBytes.length % 4 = 0)
    (writable : ∀ path ∈ preparedPaths work, Host.Writable path host)
    : ∃ content after,
        perform (write sealBytes work) host = (.ok (work.child witnessName), after)
        ∧ Host.Held (work.child sealName) sealBytes after
        ∧ Host.Held (work.child witnessName) content after
        ∧ Records sealBytes content
        ∧ ∀ other directory before given left,
            perform (write other directory) before = (.ok given, left)
            → Host.Held (directory.child witnessName) content left
            → other = sealBytes := by
  obtain ⟨after, run⟩ := exists_perform_write whole writable
  obtain ⟨files, rfl, stamp, content, read, _⟩ := (ends_write sealBytes work host).ok run
  obtain ⟨_, atStamp, _⟩ := writable (work.child sealName) (by simp [preparedPaths])
  obtain ⟨_, atDocument, _⟩ := writable (work.child witnessName) (by simp [preparedPaths])
  have held : Host.Held (work.child witnessName) content { host with files := files } :=
    Host.held_iff.mpr ⟨atDocument.1, read⟩
  have records := records_of_perform_write run held
  refine ⟨content, _, run, Host.held_iff.mpr ⟨atStamp.1, stamp⟩, held, records, ?_⟩
  intro other directory before given left otherRun otherHeld
  exact (records_of_perform_write otherRun otherHeld).unique records

/-- A word and a zero word are recorded in an empty work directory. -/
theorem write_records_two_words
    : let sealBytes : Bytes := [0xFF, 0, 0, 0x80, 0, 0, 0, 0]
      let work : Path := ⟨.relative, ["work"]⟩
      let host := Host.quiet ⟨[(["work"], .directory)]⟩
      ∃ content after,
        perform (write sealBytes work) host = (.ok (work.child witnessName), after)
        ∧ Host.Held (work.child witnessName) content after
        ∧ Records sealBytes content := by
  intro sealBytes work host
  have writable : ∀ path ∈ preparedPaths work, Host.Writable path host := by
    simp only [preparedPaths, List.forall_mem_cons]
    refine ⟨⟨["work", sealName], ⟨by decide, by decide +kernel⟩, by decide⟩,
      ⟨["work", witnessName], ⟨by decide, by decide +kernel⟩, by decide⟩, by simp⟩
  have whole : sealBytes.length % 4 = 0 := by decide
  obtain ⟨content, after, run, _, held, records, _⟩ := write_records whole writable
  exact ⟨content, after, run, held, records⟩

-----------------------------------------------------------------------------------------
-- Other seals
-----------------------------------------------------------------------------------------

/-- How the writing of a seal ends that has no document: at the file of the seal, at that of the
document, or behind both.
-/
inductive Rejected (sealBytes : Bytes) (work : Path) (host : Host) : Failure → Host → Prop where
  | unstamped {failure : Failure}
    (unwritable : ¬Host.Writable (work.child sealName) host) (ofFiles : failure.OfFiles)
    : Rejected sealBytes work host failure host
  | unopened {failure : Failure} {after : Host}
    (writable : Host.Writable (work.child sealName) host)
    (unwritable : ¬Host.Writable (work.child witnessName) host) (ofFiles : failure.OfFiles)
    (stamp : Host.Held (work.child sealName) sealBytes after)
    (edited : Host.Edited [work.child sealName] host after)
    : Rejected sealBytes work host failure after
  | unmade {after : Host}
    (writable : ∀ path ∈ preparedPaths work, Host.Writable path host)
    (stamp : Host.Held (work.child sealName) sealBytes after)
    (emptied : Host.Held (work.child witnessName) [] after)
    (edited : Host.Edited (preparedPaths work) host after)
    : Rejected sealBytes work host (.decode "seal" (.unalignedSeal sealBytes.length)) after

theorem documentBytes_of_unaligned {sealBytes : Bytes} (unaligned : sealBytes.length % 4 ≠ 0)
    : documentBytes sealBytes = .error (.decode "seal" (.unalignedSeal sealBytes.length)) := by
  rw [documentBytes, document, if_pos unaligned]
  rfl

/-- What is written to the document's file is written elsewhere than the seal. -/
theorem not_names_of_names_seal {work : Path} {host : Host} {place : Location}
    (names : host.Names (work.child sealName) place)
    : ∀ other ∈ [work.child witnessName], ¬host.Names other place := by
  intro other member
  obtain rfl := List.mem_singleton.mp member
  have sealed : sealName ∈ exchangeNames := by simp [exchangeNames]
  have witnessed : witnessName ∈ exchangeNames := by simp [exchangeNames]
  exact fun again => locate_ne sealed witnessed (by decide) names.2 again.2

/-- A seal that is no whole words is found to be so only behind the first two writes. -/
theorem ends_write_rejected {sealBytes : Bytes} (unaligned : sealBytes.length % 4 ≠ 0)
    (work : Path) (host : Host)
    : Ends (write sealBytes work) host (fun _ _ => False) (Rejected sealBytes work host) := by
  refine (Host.ends_writeBytes_writable _ sealBytes host).andThen ?_ ?_
  · rintro failure _ ⟨rfl, unwritable, ofFiles⟩
    exact .unstamped unwritable ofFiles
  rintro _ first ⟨sealed, stamp, byFirst⟩
  refine (Host.ends_writeBytes_writable _ [] first).andThen ?_ ?_
  · rintro failure _ ⟨rfl, unwritable, ofFiles⟩
    exact .unopened sealed (mt (byFirst.writable_iff _).mpr unwritable) ofFiles stamp byFirst
  rintro _ second ⟨witnessed, emptied, bySecond⟩
  rw [documentBytes_of_unaligned unaligned]
  refine Rejected.unmade ?_ ?_ emptied ?_
  · simp only [preparedPaths, List.forall_mem_cons]
    exact ⟨sealed, (byFirst.writable_iff _).mp witnessed, by simp⟩
  · exact (bySecond.held_iff (fun _ => not_names_of_names_seal) sealBytes).mpr stamp
  · refine (byFirst.mono ?_).trans (bySecond.mono ?_)
    · simp [preparedPaths]
    · simp [preparedPaths]

namespace Rejected

variable {sealBytes : Bytes} {work : Path} {host after : Host} {failure : Failure}
  (rejected : Rejected sealBytes work host failure after)
include rejected

/-- The seal is at fault where both files can be written, and the file system where one cannot. -/
theorem failure_iff
    : (failure = .decode "seal" (.unalignedSeal sealBytes.length)
        ↔ Host.Writable (work.child sealName) host ∧ Host.Writable (work.child witnessName) host)
      ∧ (failure.OfFiles
        ↔ ¬(Host.Writable (work.child sealName) host
          ∧ Host.Writable (work.child witnessName) host)) := by
  cases rejected with
  | unstamped unwritable ofFiles =>
      refine ⟨⟨?_, fun both => absurd both.1 unwritable⟩, iff_of_true ofFiles (unwritable ·.1)⟩
      rintro rfl
      exact ofFiles.elim
  | unopened writable unwritable ofFiles =>
      refine ⟨⟨?_, fun both => absurd both.2 unwritable⟩, iff_of_true ofFiles (unwritable ·.2)⟩
      rintro rfl
      exact ofFiles.elim
  | unmade writable =>
      simp only [preparedPaths, List.forall_mem_cons] at writable
      have both := And.intro writable.1 writable.2.1
      exact ⟨iff_of_true rfl both, iff_of_false id (not_not_intro both)⟩

theorem edited : Host.Edited (preparedPaths work) host after := by
  cases rejected with
  | unstamped => exact .of_same rfl rfl
  | unopened _ _ _ _ edited => exact edited.mono (by simp [preparedPaths])
  | unmade _ _ _ edited => exact edited

theorem held_seal (sealed : Host.Writable (work.child sealName) host)
    : Host.Held (work.child sealName) sealBytes after := by
  cases rejected with
  | unstamped unwritable => exact absurd sealed unwritable
  | unopened _ _ _ stamp => exact stamp
  | unmade _ stamp => exact stamp

theorem held_empty (sealed : Host.Writable (work.child sealName) host)
    (witnessed : Host.Writable (work.child witnessName) host)
    : Host.Held (work.child witnessName) [] after := by
  cases rejected with
  | unstamped unwritable => exact absurd sealed unwritable
  | unopened _ unwritable => exact absurd witnessed unwritable
  | unmade _ _ emptied => exact emptied

/-- All is as before only where what is left behind was there. -/
theorem untouched_iff
    : (∀ place, after.files.lookup place = host.files.lookup place)
      ↔ (Host.Writable (work.child sealName) host
        → Host.Held (work.child sealName) sealBytes host
          ∧ (Host.Writable (work.child witnessName) host
            → Host.Held (work.child witnessName) [] host)) := by
  constructor
  · intro same sealed
    exact ⟨rejected.edited.held_of_lookup_eq same (rejected.held_seal sealed), fun witnessed =>
      rejected.edited.held_of_lookup_eq same (rejected.held_empty sealed witnessed)⟩
  · intro before
    cases rejected with
    | unstamped => exact fun _ => rfl
    | unopened sealed _ _ stamp edited =>
        refine edited.lookup_eq ?_
        simp only [List.forall_mem_singleton]
        exact ⟨sealBytes, (before sealed).1, stamp⟩
    | unmade writable stamp emptied edited =>
        simp only [preparedPaths, List.forall_mem_cons] at writable
        obtain ⟨sealed, witnessed, _⟩ := writable
        obtain ⟨stamped, empty⟩ := before sealed
        refine edited.lookup_eq ?_
        simp only [preparedPaths, List.forall_mem_cons]
        exact ⟨⟨sealBytes, stamped, stamp⟩, ⟨[], empty witnessed, emptied⟩, by simp⟩

end Rejected

/-- A seal that is no whole words is refused, but where its file can be written it is left there,
and where the document's file can be written too that is left empty. So nothing is lost only where
this was so before.
-/
theorem untouched_iff_of_unaligned {sealBytes : Bytes} (unaligned : sealBytes.length % 4 ≠ 0)
    (work : Path) (host : Host)
    : let sealPath := work.child sealName
      let documentPath := work.child witnessName
      ∃ failure after,
        perform (write sealBytes work) host = (.error failure, after)
        ∧ (failure = .decode "seal" (.unalignedSeal sealBytes.length)
          ↔ Host.Writable sealPath host ∧ Host.Writable documentPath host)
        ∧ (failure.OfFiles ↔ ¬(Host.Writable sealPath host ∧ Host.Writable documentPath host))
        ∧ Host.Edited (preparedPaths work) host after
        ∧ (Host.Writable sealPath host → Host.Held sealPath sealBytes after)
        ∧ (Host.Writable sealPath host → Host.Writable documentPath host
          → Host.Held documentPath [] after)
        ∧ ((∀ place, after.files.lookup place = host.files.lookup place)
          ↔ (Host.Writable sealPath host
            → Host.Held sealPath sealBytes host
              ∧ (Host.Writable documentPath host → Host.Held documentPath [] host))) := by
  have ends := ends_write_rejected unaligned work host
  cases run : perform (write sealBytes work) host with
  | mk result after =>
      cases result with
      | ok given => exact (ends.ok run).elim
      | error failure =>
          have rejected := ends.error run
          exact ⟨failure, after, rfl, rejected.failure_iff.1, rejected.failure_iff.2,
            rejected.edited, rejected.held_seal, rejected.held_empty, rejected.untouched_iff⟩

/-- Five bytes are refused, but a seal of four and its document are lost before. -/
theorem untouched_iff_of_unaligned_overwritten
    : let sealBytes : Bytes := [0, 0, 0, 0, 0]
      let work : Path := ⟨.relative, ["work"]⟩
      let document := Bytes.ofLabel "\x7b\"iop\": [\"67305985\"]\x7d"
      let host :=
        Host.quiet
          ⟨[(["work"], .directory), (["work", sealName], .file [1, 2, 3, 4]),
            (["work", witnessName], .file document)]⟩
      ∃ after,
        perform (write sealBytes work) host = (.error (.decode "seal" (.unalignedSeal 5)), after)
        ∧ Host.Held (work.child sealName) sealBytes after
        ∧ Host.Held (work.child witnessName) [] after
        ∧ ¬∀ place, after.files.lookup place = host.files.lookup place := by
  intro sealBytes work document host
  have sealed : Host.Writable (work.child sealName) host :=
    ⟨["work", sealName], ⟨by decide, by decide +kernel⟩, by decide +kernel⟩
  have witnessed : Host.Writable (work.child witnessName) host :=
    ⟨["work", witnessName], ⟨by decide, by decide +kernel⟩, by decide +kernel⟩
  have stamp : Host.Held (work.child sealName) [1, 2, 3, 4] host :=
    Host.held_iff.mpr ⟨by decide, by decide +kernel⟩
  have unaligned : sealBytes.length % 4 ≠ 0 := by decide
  obtain ⟨failure, after, run, refused, _, _, stamped, emptied, untouched_iff⟩ :=
    untouched_iff_of_unaligned unaligned work host
  obtain rfl := refused.mpr ⟨sealed, witnessed⟩
  refine ⟨after, run, stamped sealed, emptied sealed witnessed, fun same => ?_⟩
  have before := (untouched_iff.mp same sealed).1
  exact absurd (stamp.unique before) (by decide)

end VerifierBootstrap.Witness
