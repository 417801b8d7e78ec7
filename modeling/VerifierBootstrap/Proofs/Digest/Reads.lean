import VerifierBootstrap.Digest.Basic
import VerifierBootstrap.Proofs.Hash.Streaming

/-!
Contents that are read piece by piece. The pieces make up the content unless each is empty, so the
digest of the pieces is the digest of the content.
-/

namespace VerifierBootstrap.Digest

/-- Parts have the digest of the content that they make up. -/
theorem ofParts_eq_ofContent (parts : List Bytes) : ofParts parts = ofContent parts.flatten := by
  simp only [ofParts, ofContent, Sha256.Hasher.finish_foldl]

theorem ofParts_single (content : Bytes) : ofParts [content] = ofContent content := by
  rw [ofParts_eq_ofContent, List.flatten_singleton]

/-- Reads that return something make up the content. By recursion on what is left. -/
theorem flatten_reads {size : ReadSize} (fruitful : size ≠ .atMost 0) (content : Bytes)
    : (reads size content).flatten = content := by
  fun_induction reads size content with
  | case1 content empty => exact (List.isEmpty_iff.mp empty).symm
  | case2 content filled => exact List.append_nil content
  | case3 content => exact absurd rfl fruitful
  | case4 size => rfl
  | case5 size byte rest ih =>
      rw [List.flatten_cons, ih fruitful, List.cons_append, List.take_append_drop]

/-- The size of a read with which a content can be taken in: it stands for everything or is positive
and no more than a byte string can hold, and there is memory for the read.
-/
def Usable (memory : Nat) (size : Int) (content : Bytes) : Prop :=
  (size = -1 ∧ content.length ≤ memory) ∨ (0 < size ∧ size ≤ greatestSize ∧ size ≤ memory)

/-- A size that fits a byte string is accepted. -/
theorem ReadSize.ofInt_of_pos {size : Int} (positive : 0 < size) (held : size ≤ greatestSize)
    : ofInt size = .ok (.atMost size.toNat) := by
  have indexable : greatestSize ≤ 0x7FFFFFFFFFFFFFFF := by decide
  rw [ofInt, if_neg (by omega), if_neg (by omega), if_neg (by omega), if_neg (by omega)]

theorem ofReads_of_ofInt {memory : Nat} {size : Int} {read : ReadSize} {content : Bytes}
    (accepted : ReadSize.ofInt size = .ok read)
    : ofReads memory size content
      = if memory < read.demand content then .error .noMemory
        else .ok (ofParts (reads read content)) := by
  rw [ofReads, accepted]
  change (if _ then _ else _) = _
  split
  · rfl
  · rfl

/-- With a usable size a content has its digest. -/
theorem ofReads_of_usable {memory : Nat} {size : Int} {content : Bytes}
    (usable : Usable memory size content)
    : ofReads memory size content = .ok (ofContent content) := by
  have taken {read : ReadSize} (accepted : ReadSize.ofInt size = .ok read)
      (enough : read.demand content ≤ memory) (fruitful : read ≠ .atMost 0)
      : ofReads memory size content = .ok (ofContent content) := by
    rw [ofReads_of_ofInt accepted, if_neg (by omega), ofParts_eq_ofContent,
      flatten_reads fruitful]
  rcases usable with ⟨rfl, enough⟩ | ⟨positive, held, enough⟩
  · exact @taken .all rfl enough nofun
  · refine taken (ReadSize.ofInt_of_pos positive held) ?_ ?_
    · rw [ReadSize.demand]
      omega
    · rw [ne_eq, ReadSize.atMost.injEq]
      omega

/-- A read of another size is refused, unless it is for nothing. -/
theorem exists_ofReads_error {memory : Nat} {size : Int} {content : Bytes} (something : size ≠ 0)
    (unusable : ¬ Usable memory size content)
    : ∃ fault, ofReads memory size content = .error fault := by
  obtain ⟨whole, part⟩ := not_or.mp unusable
  cases accepted : ReadSize.ofInt size with
  | error fault =>
      rw [ofReads, accepted]
      exact ⟨fault, rfl⟩
  | ok read =>
      refine ⟨.noMemory, ?_⟩
      rw [ofReads_of_ofInt accepted, if_pos]
      rw [ReadSize.ofInt] at accepted
      split at accepted
      · cases accepted
      split at accepted
      · cases accepted
      split at accepted
      · rename_i everything
        obtain rfl := Except.ok.inj accepted
        rw [ReadSize.demand]
        omega
      split at accepted
      · cases accepted
      · obtain rfl := Except.ok.inj accepted
        rw [ReadSize.demand]
        omega

end VerifierBootstrap.Digest
