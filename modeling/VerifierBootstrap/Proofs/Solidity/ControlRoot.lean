import VerifierBootstrap.Proofs.Digest.Halves
import VerifierBootstrap.Proofs.Solidity.ControlId

/-!
The library of a control root tells the root. Its two constants are the halves of the root, and the
halves make up the number of the root, so the libraries of different roots differ.
-/

namespace VerifierBootstrap

theorem Digest.split_injective : Function.Injective split := by
  intro first second same
  have joined := join_split first
  rw [same, join_split second] at joined
  exact (Except.ok.inj joined).symm

namespace Solidity

open VerifierBootstrap.Action

/-- A library tells its digest, since the first half ends at the same place in all libraries. -/
theorem IsControlId.inj {first second : Digest} {text : Text}
    (held : IsControlId first.split text) (again : IsControlId second.split text)
    : first = second := by
  have width (digest : Digest) : digest.split.high.length = 34 := by
    obtain ⟨high, low, represented⟩ := digest.represents_split
    rw [represented.marked, List.length_cons, List.length_cons, represented.width.1]
  have same := held.symm.trans again
  simp only [List.append_assoc, List.append_cancel_left_eq] at same
  obtain ⟨sameHigh, same⟩ := List.append_inj same ((width first).trans (width second).symm)
  simp only [← List.append_assoc, List.append_cancel_right_eq] at same
  simp only [List.append_assoc, List.append_cancel_left_eq] at same
  apply Digest.split_injective
  rw [show first.split = ⟨first.split.high, first.split.low⟩ from rfl, sameHigh, same]

/-- A run that emits the library of a control root delivers it. It succeeds exactly if the text can
be delivered, and then it gives the text.
-/
theorem delivered_emitControlId (controlRoot : Digest) (path : Path) (formatter : Formatter)
    (host : Host)
    : let text := (controlIdLibrary controlRoot).render
      let run := perform (emitControlId controlRoot path formatter) host
      Delivered formatter path text host run.1 run.2
      ∧ (Deliverable formatter path text host → run.1 = .ok text)
      ∧ ∀ emitted, run.1 = .ok emitted → emitted = text ∧ Deliverable formatter path text host := by
  intro text run
  refine ⟨delivered_bind_pure _ (delivered_writeLibrary _ _ formatter host), ?_, ?_⟩
  · intro deliverable
    have written := (writeLibrary_succeeds_iff path text formatter host).mpr deliverable
    simp only [run, emitControlId, perform_bind_pure]
    rw [written]
    rfl
  · intro emitted given
    simp only [run, emitControlId, perform_bind_pure] at given
    obtain ⟨_, written, same⟩ := ok_of_map given
    exact ⟨same.symm, (writeLibrary_succeeds_iff path text formatter host).mp written⟩

/-- The halves of a control root represent it: they are numerals of full width whose numbers make
up its little-endian number, and they are put together to it. So is each pair of halves with the
same digits up to case, and no other pair. The library that is emitted for the root has its halves,
and no file of another root is the same. It is emitted exactly if it can be delivered to its path.
-/
theorem halves_represent_controlRoot (controlRoot : Digest)
    : (∃ high low, controlRoot.split.Represents controlRoot high low)
      ∧ Digest.join controlRoot.split = .ok controlRoot
      ∧ (∀ halves : Digest.Halves,
          Digest.join halves = .ok controlRoot
          ↔ ∃ high low upper lower,
              Hex.Writes halves.high high upper
              ∧ Hex.Writes halves.low low lower
              ∧ controlRoot.split
                = ⟨'0' :: 'x' :: high.map Char.toLower, '0' :: 'x' :: low.map Char.toLower⟩)
      ∧ ∃ text,
          IsControlId controlRoot.split text
          ∧ (∀ path formatter host,
              let run := perform (emitControlId controlRoot path formatter) host
              Delivered formatter path text host run.1 run.2
              ∧ (Deliverable formatter path text host → run.1 = .ok text)
              ∧ ∀ emitted,
                  run.1 = .ok emitted
                  → emitted = text ∧ Deliverable formatter path text host)
          ∧ ∀ other otherText,
              IsControlId other.split otherText
              → Utf8.encode otherText = Utf8.encode text
              → other = controlRoot := by
  refine ⟨controlRoot.represents_split, controlRoot.join_split, fun halves =>
    Digest.join_eq_ok_iff_split, _, isControlId_render controlRoot,
    delivered_emitControlId controlRoot, ?_⟩
  intro other otherText held same
  rw [Utf8.encode_inj same] at held
  exact held.inj (isControlId_render controlRoot)

/-- A root whose bytes all differ. Its halves are also put together from a half in uppercase with
blanks behind the mark and a half without a mark. Its library is emitted to a directory without any
files.
-/
theorem halves_represent_controlRoot_ascending
    : let controlRoot : Digest := ⟨(List.range 32).map UInt8.ofNat, by decide⟩
      let halves : Digest.Halves :=
        ⟨"0X 1F1E1D1C1B1A1918\t1716151413121110\n".toList,
         "0f0E0d0C 0b0A0908 07060504 03020100".toList⟩
      controlRoot.split
        = ⟨"0x1f1e1d1c1b1a19181716151413121110".toList,
           "0x0f0e0d0c0b0a09080706050403020100".toList⟩
      ∧ Digest.join halves = .ok controlRoot
      ∧ (∃ high low upper lower,
          Hex.Writes halves.high high upper
          ∧ Hex.Writes halves.low low lower
          ∧ controlRoot.split
            = ⟨'0' :: 'x' :: high.map Char.toLower, '0' :: 'x' :: low.map Char.toLower⟩)
      ∧ ∃ text,
          IsControlId controlRoot.split text
          ∧ (perform (emitControlId controlRoot ⟨.relative, ["ControlID.sol"]⟩ .solidity)
                (Host.quiet ⟨[]⟩)).1
            = .ok text
          ∧ ∀ other, IsControlId other.split text → other = controlRoot := by
  intro controlRoot halves
  have joined : Digest.join halves = .ok controlRoot := by decide +kernel
  obtain ⟨_, _, told, text, held, emits, unique⟩ := halves_represent_controlRoot controlRoot
  have ensured
      : perform (Host.ensureDirectory ⟨.relative, []⟩) (Host.quiet ⟨[]⟩)
        = (.ok (), Host.quiet ⟨[]⟩) :=
    Host.perform_ensureDirectory_of_located rfl rfl rfl
  have written
      : FileTree.write ⟨[]⟩ [] ⟨.relative, ["ControlID.sol"]⟩ (Utf8.encode text)
        = .ok (FileTree.set ⟨[]⟩ ["ControlID.sol"] (.file (Utf8.encode text))) :=
    FileTree.write_of_locate rfl (by decide) _
  have deliverable
      : Deliverable .solidity ⟨.relative, ["ControlID.sol"]⟩ text (Host.quiet ⟨[]⟩) :=
    .intro rfl rfl ensured written rfl
  exact ⟨by decide +kernel, joined, (told halves).mp joined, text, held,
    (emits _ _ _).2.1 deliverable, fun other again => unique other text again rfl⟩

end Solidity

end VerifierBootstrap
