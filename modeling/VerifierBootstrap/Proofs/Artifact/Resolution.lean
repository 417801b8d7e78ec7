import VerifierBootstrap.Proofs.Artifact.Cache
import VerifierBootstrap.Proofs.Digest.Spelling
import VerifierBootstrap.Proofs.Host.Silence

/-!
Where an artifact is taken from. The cached file comes first, next the local copy, and a request is
sent if neither is genuine, one and no more. Once an artifact was handed out it is in the cache, and
nothing is asked or written for it again.
-/

namespace VerifierBootstrap.ArtifactCache

open VerifierBootstrap.Action VerifierBootstrap.Host

/-- Neither the cached file nor the local copy has the content of a digest. -/
def Missing (expected : Digest) (path : Path) (source : Option Path) (host : Host) : Prop :=
  ¬ Genuine expected path host ∧ ∀ kept, source = some kept → ¬ Genuine expected kept host

/-- One request was sent, for the URL of the digest, if the content was missing, and else none. -/
def Resolved (cache : ArtifactCache) (expected : Digest) (path : Path) (source : Option Path)
    (made after : Host)
    : Prop :=
  (Missing expected path source made
      ∧ after.events
        = made.events ++ [.requested (cache.settings.urlFor expected.text) cache.timeout])
  ∨ (¬ Missing expected path source made ∧ after.events = made.events)

theorem Resolved.exists_asked {cache : ArtifactCache} {expected : Digest} {path : Path}
    {source : Option Path} {made after : Host}
    (resolved : Resolved cache expected path source made after)
    : ∃ asked,
        after.events = made.events ++ asked
        ∧ (asked ≠ [] ↔ Missing expected path source made)
        ∧ (asked ≠ []
            → asked
              = [.requested (cache.settings.urlFor expected.text) cache.timeout]) := by
  rcases resolved with ⟨missing, sent⟩ | ⟨present, sent⟩
  · exact ⟨_, sent, ⟨fun _ => missing, fun _ => by simp⟩, fun _ => rfl⟩
  · exact ⟨[], by simpa using sent, ⟨nofun, fun missing => absurd missing present⟩, nofun⟩

-----------------------------------------------------------------------------------------
-- Requests
-----------------------------------------------------------------------------------------

theorem silent_fileDigest (path : Path) : Silent (fileDigest readSize path) :=
  .bind (.ask path _) fun _ => .bind .get fun _ => .ofExcept _

theorem silent_reuse (expected : Digest) (path : Path) : Silent (reuse expected path) := by
  rw [reuse]
  refine .bind (.fileExists path) fun there => ?_
  cases there with
  | false => exact .pure _
  | true =>
      refine .bind (silent_fileDigest path) fun digest => ?_
      split
      · exact .bind (.note _ _) fun _ => .pure _
      · exact .bind (.note _ _) fun _ => .bind (.change path _) fun _ => .pure _

theorem silent_copyLocal (expected : Digest) (source : Option Path) (path : Path)
    : Silent (copyLocal expected source path) := by
  cases source with
  | none => exact .pure _
  | some source =>
      rw [copyLocal]
      refine .bind (.fileExists source) fun there => ?_
      cases there with
      | false => exact .pure _
      | true =>
          refine .bind (silent_fileDigest source) fun digest => ?_
          split
          · exact .bind (.note _ _) fun _ => .bind (.ask source _) fun _ =>
              .bind (.change path _) fun _ => .pure _
          · exact .pure _

theorem silent_appendPieces (part : Path) (pieces : List Bytes)
    : Silent (appendPieces part pieces) := by
  induction pieces with
  | nil => exact .pure _
  | cons piece rest ih =>
      rw [appendPieces]
      split
      · exact ih
      · exact .bind (.appendBytes part piece) fun _ => ih

theorem silent_receive (response : Response) (part : Path) : Silent (receive response part) := by
  cases response with
  | refused fault => exact .pure _
  | rejected fault => exact .pure _
  | body chunks interruption =>
      refine .bind (.change part _) fun _ => .bind (silent_appendPieces part chunks) fun _ => ?_
      cases interruption with
      | none => exact .pure _
      | some fault => exact .pure _

theorem silent_abandon {α : Type} (url : String) (part : Path) (fault : TransferFault)
    : Silent (abandon url part fault : Action α) := by
  rw [abandon]
  split
  · exact .bind (.unlinkIfPresent part) fun _ => .throw _
  · exact .throw _

/-- A download sends one request, whatever comes of it: all that is behind the request is silent. -/
theorem events_download (cache : ArtifactCache) (expected : Digest) (path : Path) (host : Host)
    : Ends (cache.download expected path) host
        (fun _ after =>
          after.events
          = host.events ++ [.requested (cache.settings.urlFor expected.text) cache.timeout])
        (fun _ after =>
          after.events
          = host.events ++ [.requested (cache.settings.urlFor expected.text) cache.timeout]) := by
  refine .bind_ok (perform_note _ _ _) ((ends_request _ _ _).andThen (fun _ _ => False.elim) ?_)
  intro response asked sent
  refine Silent.keeps ?_ sent.2.2
  refine .bind (silent_receive response _) fun received => ?_
  cases received with
  | failed fault => exact silent_abandon _ _ fault
  | complete actual =>
      have moved
          : Silent (do
              Host.move (partPath path) path
              let content ← Host.readBytes path
              Host.note .info s!"downloaded {path.text} ({content.length} bytes)") :=
        .bind (.change _ _) fun _ => .bind (.ask path _) fun _ => .note _ _
      dsimp only
      split
      · exact .bind (.unlinkIfPresent _) fun _ => .bind (.throw _) fun _ => moved
      · exact moved

-----------------------------------------------------------------------------------------
-- What steps leave genuine
-----------------------------------------------------------------------------------------

/-- Edits of a stale file that is gone afterwards make no other file genuine or stale. -/
theorem genuine_iff_of_edited {expected : Digest} {path : Path} {before after : Host}
    (edited : Edited [path] before after) (stale : ¬ Genuine expected path before)
    (gone : Absent path after) (file : Path)
    : Genuine expected file after ↔ Genuine expected file before := by
  rw [genuine_iff, genuine_iff]
  constructor
  · rintro ⟨place, content, names, there, same⟩
    refine ⟨place, content, (edited.names_iff file place).mp names, ?_, same⟩
    rw [← there, edited.files.elsewhere]
    rintro ⟨_, member, touched⟩
    obtain rfl := List.mem_singleton.mp member
    rw [lookup_of_absent ((edited.names_iff _ place).mpr touched) gone] at there
    exact nomatch there
  · rintro ⟨place, content, names, there, same⟩
    refine ⟨place, content, (edited.names_iff file place).mpr names, ?_, same⟩
    rw [← there, edited.files.elsewhere]
    rintro ⟨_, member, touched⟩
    obtain rfl := List.mem_singleton.mp member
    exact stale (genuine_iff.mpr ⟨place, content, touched, there, same⟩)

section Grown

variable {expected : Digest} {directory file : Path} {before after : Host}
  (grown : Grown directory before after)
include grown

/-- New directories spoil no file. -/
theorem genuine_of_grown (genuine : Genuine expected file before)
    : Genuine expected file after := by
  obtain ⟨place, content, ⟨passable, located⟩, there, same⟩ := genuine_iff.mp genuine
  refine genuine_iff.mpr ⟨place, content, ⟨passable, ?_⟩, ?_, same⟩
  · rw [grown.directory]
    exact FileTree.locate_of_directories (fun _ => grown.keeps) located
  · rcases grown.lookup place with kept | ⟨empty, _⟩
    · rw [kept, there]
    · rw [there] at empty
      exact nomatch empty

/-- New directories put no file at a path that led somewhere before. -/
theorem genuine_of_names {place : Location} (names : before.Names file place)
    (genuine : Genuine expected file after)
    : Genuine expected file before := by
  obtain ⟨found, content, ⟨_, located⟩, there, same⟩ := genuine_iff.mp genuine
  have still := FileTree.locate_of_directories (fun _ => grown.keeps) names.2
  rw [grown.directory, still] at located
  obtain rfl := Except.ok.inj located
  refine genuine_iff.mpr ⟨place, content, names, ?_, same⟩
  rcases grown.lookup place with kept | ⟨_, directory, _⟩
  · rw [← kept, there]
  · rw [there] at directory
    exact nomatch directory

end Grown

-----------------------------------------------------------------------------------------
-- Resolution
-----------------------------------------------------------------------------------------

/-- The cache directory is made, and from there on the content is taken from where it is. -/
theorem ends_obtain_resolved {cache : ArtifactCache} {digest : String} {expected : Digest}
    (source : Option Path) (directory : Path) (host : Host)
    (wanted : cache.settings.documentationBuild = false)
    (parsed : Digest.parse digest.toList = .ok expected)
    : let path := directory.child cache.settings.filename
      Ends (cache.obtain digest source directory) host
        (fun result after =>
          result = some ⟨cache.settings.filename, path, expected⟩
          ∧ ∃ made,
              perform (ensureDirectory directory) host = (.ok (), made)
              ∧ Edited [path, partPath path] made after
              ∧ Resolved cache expected path source made after)
        (fun failure after =>
          ¬ failure.OfFiles
          → ∃ made,
              perform (ensureDirectory directory) host = (.ok (), made)
              ∧ Resolved cache expected path source made after) := by
  intro path
  have member : path ∈ [path] := by simp
  have within : ∀ file ∈ [path], file ∈ [path, partPath path] := by simp
  rw [obtain, wanted, parsed]
  simp only [Bool.false_eq_true, if_false]
  refine .bind_ok (perform_ofExcept _ _) ?_
  refine ((Ends.of_run _ host).and (ends_ensureDirectory directory host)).andThen
    (fun _ _ ended plain => absurd ended.2.2 plain) ?_
  rintro _ made ⟨entered, _⟩
  refine (((editsOnly_reuse member expected).keeping (ends_reuse expected path made)).and
    ((silent_reuse expected path).keeps rfl)).andThen
    (fun _ _ ended plain => absurd ended.1.1 plain) ?_
  rintro found looked ⟨⟨⟨genuine, cached⟩, looking⟩, unasked⟩
  split
  · rename_i yes
    exact .pure ⟨rfl, made, entered, looking.mono within,
      .inr ⟨fun missing => missing.1 (genuine.mp yes), unasked⟩⟩
  · rename_i no
    rw [if_neg no] at cached
    have stale : ¬ Genuine expected path made := mt genuine.mpr no
    have judged := genuine_iff_of_edited looking stale cached
    refine (((editsOnly_copyLocal member expected source).keeping
      (ends_copyLocal expected source cached)).and
      ((silent_copyLocal expected source path).keeps unasked)).andThen
      (fun _ _ ended plain => absurd ended.1.1 plain) ?_
    rintro taken copied ⟨⟨⟨genuine, _⟩, copying⟩, unasked⟩
    have edited := (looking.trans copying).mono within
    split
    · rename_i yes
      obtain ⟨kept, named, held⟩ := genuine.mp yes
      exact .pure ⟨rfl, made, entered, edited,
        .inr ⟨fun missing => missing.2 kept named ((judged kept).mp held), unasked⟩⟩
    · rename_i no
      have missing : Missing expected path source made :=
        ⟨stale, fun kept named held => no (genuine.mpr ⟨kept, named, (judged kept).mpr held⟩)⟩
      refine ((editsOnly_download cache expected path).keeping
        (events_download cache expected path copied)).andThen
        (fun _ _ ended _ => ⟨made, entered, .inl ⟨missing, unasked ▸ ended.1⟩⟩) ?_
      rintro _ fetched ⟨sent, fetching⟩
      exact .pure ⟨rfl, made, entered, edited.trans fetching, .inl ⟨missing, unasked ▸ sent⟩⟩

-----------------------------------------------------------------------------------------
-- Later calls
-----------------------------------------------------------------------------------------

/-- A call for an artifact: the cache it is made to, the digest as it is written there, a local
copy, and what the network would answer.
-/
structure Call where
  cache : ArtifactCache
  digest : String
  source : Option Path
  responses : List Response

/-- A call that asks for a digest under a name. -/
structure Call.AsksFor (filename : String) (expected : Digest) (call : Call) : Prop where
  filename : call.cache.settings.filename = filename
  wanted : call.cache.settings.documentationBuild = false
  parsed : Digest.parse call.digest.toList = .ok expected

/-- The results of calls for one cache directory, each made on the host that the one before it has
left, and the host that the last one leaves.
-/
def performCalls (directory : Path)
    : List Call → Host → List (Except Failure (Option Artifact)) × Host
  | [], host => ([], host)
  | call :: rest, host =>
      let (result, after) :=
        perform (call.cache.obtain call.digest call.source directory)
          { host with responses := call.responses }
      let (results, last) := performCalls directory rest after
      (result :: results, last)

theorem perform_fileDigest {path : Path} {content : Bytes} {host : Host}
    (held : Held path content host)
    : perform (fileDigest readSize path) host = (.ok (Digest.ofContent content), host) := by
  rw [perform_fileDigest_of_held held, ofReads_readSize]
  rfl

/-- A cached file with the right content is used as it is. -/
theorem perform_reuse {expected : Digest} {path : Path} {host : Host}
    (genuine : Genuine expected path host)
    : ∃ log, perform (reuse expected path) host = (.ok true, { host with log := log }) := by
  obtain ⟨place, _, names, there, _⟩ := genuine_iff.mp genuine
  obtain ⟨content, held, rfl⟩ := genuine
  have found := FileTree.node?_of_locate names.2
  rw [there] at found
  refine ⟨host.log ++ [⟨.info, s!"using cached {path.text}"⟩], ?_⟩
  rw [reuse, perform_bind_ok (perform_fileExists names.1 found)]
  simp only [Option.isSome_some, if_true]
  rw [perform_bind_ok (perform_fileDigest held), if_pos rfl, perform_bind_ok (perform_note _ _ _)]
  rfl

/-- A call for what is in the cache gives it and does nothing but log. -/
theorem perform_obtain_cached {directory : Path} {filename : String} {expected : Digest}
    {host : Host} (stands : Stands directory host)
    (genuine : Genuine expected (directory.child filename) host) {call : Call}
    (asks : call.AsksFor filename expected)
    : ∃ log,
        perform (call.cache.obtain call.digest call.source directory) host
        = (.ok (some ⟨filename, directory.child filename, expected⟩),
            { host with log := log }) := by
  obtain ⟨rfl, wanted, parsed⟩ := asks
  obtain ⟨place, ⟨passable, located⟩, there⟩ := stands
  obtain ⟨log, reused⟩ := perform_reuse genuine
  have read
      : perform (Action.ofExcept ((Digest.parse call.digest.toList).mapError Failure.digest)) host
        = (.ok expected, host) := by
    rw [perform_ofExcept, parsed]
    rfl
  refine ⟨log, ?_⟩
  rw [obtain, wanted]
  simp only [Bool.false_eq_true, if_false]
  rw [perform_bind_ok read,
    perform_bind_ok (perform_ensureDirectory_of_located passable located there),
    perform_bind_ok reused, if_pos rfl, perform_pure]

/-- Calls for what is in the cache each give it, and nothing is asked or changed. By induction on
the calls: each leaves the directory and the file as they were.
-/
theorem performCalls_cached {directory : Path} {filename : String} {expected : Digest}
    {host : Host} (stands : Stands directory host)
    (genuine : Genuine expected (directory.child filename) host) {calls : List Call}
    (asking : ∀ call ∈ calls, call.AsksFor filename expected)
    : let artifact : Artifact := ⟨filename, directory.child filename, expected⟩
      (performCalls directory calls host).1 = calls.map (fun _ => .ok (some artifact))
      ∧ (performCalls directory calls host).2.events = host.events
      ∧ (performCalls directory calls host).2.files = host.files := by
  induction calls generalizing host with
  | nil => exact ⟨rfl, rfl, rfl⟩
  | cons call rest ih =>
      have stands : Stands directory { host with responses := call.responses } := stands
      have genuine
          : Genuine expected (directory.child filename)
              { host with responses := call.responses } := by
        obtain ⟨content, held, same⟩ := genuine
        exact ⟨content, held.of_same rfl rfl, same⟩
      obtain ⟨log, step⟩ :=
        perform_obtain_cached stands genuine (asking call List.mem_cons_self)
      obtain ⟨results, events, files⟩ :=
        @ih { host with responses := call.responses, log := log } stands
          (genuine.logged log) fun other member => asking other (List.mem_cons_of_mem _ member)
      rw [performCalls, step]
      exact ⟨congrArg _ results, events, files⟩

/-- Where an artifact comes from, unless the file system refuses something. One request is sent if
neither the cached file nor the local copy is genuine when the cache directory is there, for the
lowercase digits of the digest, and else none. What was genuine before is genuine then, and what is
genuine then was so before if its path led anywhere. After an artifact was handed out, later calls
for it give the same without a request or a change of files, however the digest is spelled, whatever
the local copies are and whatever the network would answer. Witness: a call that hands out leaves
the file genuine in its directory, and a call that finds it so leaves it so.
-/
theorem obtain_resolves {cache : ArtifactCache} {digest : String} {expected : Digest}
    {source : Option Path} {directory : Path} {host after : Host}
    {result : Except Failure (Option Artifact)}
    (wanted : cache.settings.documentationBuild = false)
    (parsed : Digest.parse digest.toList = .ok expected)
    (run : perform (cache.obtain digest source directory) host = (result, after))
    (unrefused : ∀ failure, result = .error failure → ¬ failure.OfFiles)
    : let filename := cache.settings.filename
      let path := directory.child filename
      (∃ made asked,
          perform (ensureDirectory directory) host = (.ok (), made)
          ∧ (∀ file, Genuine expected file host → Genuine expected file made)
          ∧ (∀ file place,
              host.Names file place → Genuine expected file made → Genuine expected file host)
          ∧ after.events = host.events ++ asked
          ∧ (asked ≠ []
              ↔ ¬ Genuine expected path made
                ∧ ∀ kept, source = some kept → ¬ Genuine expected kept made)
          ∧ (asked ≠ []
              → asked
                = [.requested s!"{cache.settings.urlBase}/{expected.text}.zip" cache.timeout]))
        ∧ expected.text.toList.length = 64
        ∧ (∀ char ∈ expected.text.toList, char ∈ Hex.lowercase)
        ∧ expected.text.toList
          = ((Hex.dropMark (Text.trim digest.toList)).filter fun char =>
              !Text.isAsciiBlank char).map Char.toLower
        ∧ ∀ artifact,
            result = .ok (some artifact)
            → ∀ calls : List Call,
                (∀ call ∈ calls, call.AsksFor filename expected)
                → (performCalls directory calls after).1
                    = calls.map (fun _ => .ok (some artifact))
                  ∧ (performCalls directory calls after).2.events = after.events
                  ∧ (performCalls directory calls after).2.files = after.files := by
  intro filename path
  have ends := ends_obtain_resolved source directory host wanted parsed
  have spelled := Digest.toHex_of_parse parsed
  rw [← String.toList_ofList (l := expected.toHex)] at spelled
  obtain ⟨made, entered, resolved⟩
      : ∃ made,
          perform (ensureDirectory directory) host = (.ok (), made)
          ∧ Resolved cache expected path source made after := by
    cases result with
    | error failure => exact ends.error run (unrefused failure rfl)
    | ok outcome =>
        obtain ⟨_, made, entered, _, resolved⟩ := ends.ok run
        exact ⟨made, entered, resolved⟩
  have grown : Grown directory host made := (ends_ensureDirectory directory host).ok entered
  have unasked : made.events = host.events :=
    ((Silent.of_filesOnly (filesOnly_ensureDirectory directory)).keeps rfl).ok entered
  obtain ⟨asked, sent, needed, single⟩ := resolved.exists_asked
  refine ⟨⟨made, asked, entered, fun _ => genuine_of_grown grown, fun _ _ => genuine_of_names grown,
    unasked ▸ sent, needed, single⟩, spelled.1, spelled.2.1, spelled.2.2, ?_⟩
  intro artifact returned calls asking
  subst returned
  obtain ⟨handed, other, enteredToo, edited, _⟩ := ends.ok run
  obtain rfl := Option.some.inj handed
  obtain rfl := (Prod.mk.inj (entered.symm.trans enteredToo)).2
  have stands : Stands directory after :=
    ((ends_ensureDirectory_stands directory host).ok entered).of_directories edited.directory
      fun place => (edited.files.directories place).mpr
  obtain ⟨⟨_, expectedToo, _, _, parsedToo, genuine⟩, _⟩ :=
    (ends_obtain digest source directory host wanted).ok run
  obtain rfl := Except.ok.inj (parsed.symm.trans parsedToo)
  exact performCalls_cached stands genuine asking

/-- The digest is written in uppercase with a mark and blanks, and the file is in neither place. It
is fetched by its lowercase digits; two later calls find it, although the network refuses the one
and the other has a local copy that is not there.
-/
theorem obtain_resolves_respelled
    : let settings : ArtifactSettings :=
        { ArtifactSettings.standard with filename := "a.zip", urlBase := "https://host" }
      let digits := "4bf5122f344554c53bde2ebb8cd2b7e3d1600ad631c385a5d7cce23c7785459a"
      let digest := " 0X4BF5122F344554C53BDE2EBB8CD2B7E3 d1600ad631c385a5d7cce23c7785459a\n"
      let directory := Path.ofString "out"
      let host : Host :=
        ⟨.empty, [], [], "", [], .usual, none, false, [.body [[1]] none],
          fun _ _ files => .exited 0 files, [], []⟩
      let calls : List Call :=
        [⟨⟨settings, 1⟩, digits, none, [.refused ⟨.session, "down"⟩]⟩,
          ⟨⟨settings, 2⟩, "0x" ++ digits, some (Path.ofString "none.zip"), []⟩]
      ∃ artifact after,
        perform (obtain ⟨settings, usualTimeout⟩ digest none directory) host
          = (.ok (some artifact), after)
        ∧ artifact.digest = Digest.ofContent [1]
        ∧ after.events
          = [.requested
              "https://host/4bf5122f344554c53bde2ebb8cd2b7e3d1600ad631c385a5d7cce23c7785459a.zip"
              600]
        ∧ (performCalls directory calls after).1 = [.ok (some artifact), .ok (some artifact)]
        ∧ (performCalls directory calls after).2.events = after.events
        ∧ (performCalls directory calls after).2.files = after.files := by
  intro settings digits digest directory host calls
  have parsed : Digest.parse digest.toList = .ok (Digest.ofContent [1]) := by decide +kernel
  have respelled : ∀ call ∈ calls, call.AsksFor settings.filename (Digest.ofContent [1]) := by
    have read
        : ∀ spelling ∈ [digits, "0x" ++ digits],
            Digest.parse spelling.toList = .ok (Digest.ofContent [1]) := by
      decide +kernel
    intro call member
    simp only [calls, List.mem_cons, List.not_mem_nil, or_false] at member
    rcases member with rfl | rfl
    · exact ⟨rfl, rfl, read _ (by simp)⟩
    · exact ⟨rfl, rfl, read _ (by simp)⟩
  obtain ⟨handed, sent⟩
      : (perform (obtain ⟨settings, usualTimeout⟩ digest none directory) host).1
          = .ok (some ⟨"a.zip", directory.child "a.zip", Digest.ofContent [1]⟩)
        ∧ (perform (obtain ⟨settings, usualTimeout⟩ digest none directory) host).2.events
          = [.requested
              "https://host/4bf5122f344554c53bde2ebb8cd2b7e3d1600ad631c385a5d7cce23c7785459a.zip"
              600] := by
    decide +kernel
  cases run : perform (obtain ⟨settings, usualTimeout⟩ digest none directory) host with
  | mk result after =>
      rw [run] at handed sent
      obtain rfl := handed
      obtain ⟨_, _, _, _, later⟩ :=
        obtain_resolves rfl parsed run fun _ raised => by cases raised
      obtain ⟨results, events, files⟩ := later _ rfl calls respelled
      exact ⟨_, after, rfl, rfl, sent, results, events, files⟩

end VerifierBootstrap.ArtifactCache
