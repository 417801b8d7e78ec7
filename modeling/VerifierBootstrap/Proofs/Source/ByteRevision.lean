import VerifierBootstrap.Proofs.Source.Revision
import VerifierBootstrap.Proofs.Text.Utf8

/-!
Synchronization as a patch of bytes. Of the literals that have a value to take, only those with
another value are revised. A revision of a text is a patch of its bytes, at the places where the
bytes of its characters are, and every byte between the patches stays.
-/

namespace VerifierBootstrap

namespace Sync

/-- A stretch of bytes and what is to stand in its place. -/
structure Patch where
  start : Nat
  stop : Nat
  inserted : Bytes
deriving Repr, DecidableEq

/-- Bytes that begin at `place`, with their patches made. All places are places in the bytes as
they are.
-/
def patch (place : Nat) (content : Bytes) : List Patch → Bytes
  | [] => content
  | change :: rest =>
      content.take (change.start - place) ++ change.inserted
      ++ patch change.stop (content.drop (change.stop - place)) rest

/-- A revision of a text as a patch of the bytes of the text. -/
def Revision.toPatch (text : Text) (revision : Revision) : Patch where
  start := (Utf8.encode (text.take revision.start)).length
  stop := (Utf8.encode (text.take revision.stop)).length
  inserted := Utf8.encode revision.inserted

/-- The last value given for a name, if the target has another one. -/
def newlyGiven (sides : Sides) (source target : Text) (pairings : List Pairing) (name : Text)
    : Option Text :=
  (lastGiven sides source pairings name).filter fun value =>
    (findDeclaration sides.target target name).map Declaration.value ≠ some value

-----------------------------------------------------------------------------------------
-- Revisions in bytes
-----------------------------------------------------------------------------------------

/-- Revising a text is patching its bytes. By induction on the revisions: what has been passed
takes in the literal and the text in front of it.
-/
theorem encode_revise (passed text : Text) {revisions : List Revision}
    (within
      : ∀ revision ∈ revisions,
          passed.length ≤ revision.start
          ∧ revision.start ≤ revision.stop
          ∧ revision.stop ≤ (passed ++ text).length)
    (apart : revisions.Pairwise fun left right => left.stop ≤ right.start)
    : Utf8.encode (revise passed.length text revisions)
      = patch (Utf8.encode passed).length (Utf8.encode text)
          (revisions.map (Revision.toPatch (passed ++ text))) := by
  induction revisions generalizing passed text with
  | nil => rfl
  | cons revision rest ih =>
      obtain ⟨start, stop, size⟩ := within revision (by simp)
      obtain ⟨behind, apart⟩ := List.pairwise_cons.mp apart
      have upTo (place : Nat) (inside : passed.length ≤ place)
          : (passed ++ text).take place = passed ++ text.take (place - passed.length) := by
        rw [List.take_append, List.take_of_length_le inside]
      have whole : (passed ++ text).take revision.stop ++ text.drop (revision.stop - passed.length)
          = passed ++ text := by
        rw [upTo _ (by omega), List.append_assoc, List.take_append_drop]
      have place : ((passed ++ text).take revision.stop).length = revision.stop :=
        List.length_take_of_le size
      have later := ih ((passed ++ text).take revision.stop)
        (text.drop (revision.stop - passed.length)) (by
          intro other member
          rw [place, whole]
          exact ⟨behind other member, (within other (List.mem_cons_of_mem _ member)).2⟩) apart
      rw [whole, place] at later
      rw [revise, Utf8.encode_append, Utf8.encode_append, later, List.map_cons, patch]
      simp only [Revision.toPatch]
      rw [upTo _ start, upTo _ (by omega : passed.length ≤ revision.stop), Utf8.encode_append,
        Utf8.encode_append, List.length_append, List.length_append, Nat.add_sub_cancel_left,
        Nat.add_sub_cancel_left, Utf8.take_encode, Utf8.drop_encode]

/-- The revisions of a text are in order and within it. -/
theorem ordered_revisions (dialect : Dialect) (text : Text) (settled : Text → Option Text)
    : (∀ revision ∈ revisions dialect text settled,
          revision.start ≤ revision.stop ∧ revision.stop ≤ text.length)
      ∧ (revisions dialect text settled).Pairwise fun left right =>
          left.stop ≤ right.start := by
  obtain ⟨ordered, literals⟩ := Layout.pairwise_declarations dialect text
  constructor
  · intro revision member
    obtain ⟨declaration, inside, made⟩ := List.mem_filterMap.mp member
    obtain ⟨starts, stops⟩ := bounds_of_revision? made
    have := literals declaration inside
    omega
  · refine List.pairwise_filterMap.mpr (ordered.imp fun {left right} apart => ?_)
    intro before madeBefore after madeAfter
    rw [(bounds_of_revision? madeBefore).2, (bounds_of_revision? madeAfter).1]
    exact apart

theorem encode_revise_revisions (dialect : Dialect) (text : Text) (settled : Text → Option Text)
    : Utf8.encode (revise 0 text (revisions dialect text settled))
      = patch 0 (Utf8.encode text)
          ((revisions dialect text settled).map (Revision.toPatch text)) := by
  obtain ⟨within, apart⟩ := ordered_revisions dialect text settled
  exact encode_revise [] text (fun revision member =>
    ⟨Nat.zero_le _, within revision member⟩) apart

-----------------------------------------------------------------------------------------
-- Revisions that change a value
-----------------------------------------------------------------------------------------

/-- Leaving out the values that are there already settles the same. By induction on the slots. -/
theorem settle_filter {settled present : Text → Option Text} (passed : List Text)
    (slots : List Slot)
    (first
      : ∀ name ∉ passed,
          present name = (slots.find? fun slot => slot.name = name).map Slot.value)
    : settle (fun name => (settled name).filter fun value => present name ≠ some value) passed
        slots
      = settle settled passed slots := by
  induction slots generalizing passed with
  | nil => rfl
  | cons slot rest ih =>
      have later := ih (slot.name :: passed) fun name fresh => by
        obtain ⟨other, fresh⟩ := not_or.mp (List.mem_cons.not.mp fresh)
        rw [first name fresh, List.find?_cons_of_neg (by simp [Ne.symm other])]
      rw [settle, settle, later]
      by_cases done : slot.name ∈ passed
      · rw [if_pos done, if_pos done]
      · have held : present slot.name = some slot.value := by
          rw [first slot.name done, List.find?_cons_of_pos (by simp)]
          rfl
        rw [if_neg done, if_neg done, held]
        cases settles : settled slot.name with
        | none => rfl
        | some value =>
            by_cases same : slot.value = value
            · simp [Option.filter, same]
            · simp [Option.filter, same]

/-- Synchronizing is revising the literals that have another value. -/
theorem text_eq_revise {sides : Sides} (faithful : sides.Faithful) (source target : Text)
    (pairings : List Pairing)
    : (synchronize sides source target pairings).text
      = revise 0 target
          (revisions sides.target target (newlyGiven sides source target pairings)) := by
  obtain ⟨layout, rfl⟩ := Layout.exists_text_eq sides.target target
  obtain ⟨final, front, slots, run⟩ := synchronize_layout source faithful layout pairings
  have same
      : settle (newlyGiven sides source layout.text pairings) [] layout.slots
        = settle (lastGiven sides source pairings) [] layout.slots :=
    settle_filter _ _ fun name _ => layout.findDeclaration_text name
  rw [run, revise_layout, same, Layout.text, front, slots]

/-- A pairing that replaces nothing leaves the text. Witness: what it writes is the literal that
is there.
-/
theorem apply_of_not_replaced (sides : Sides) (source target : Text) (pairing : Pairing)
    (kept : ∀ value, (apply sides source target pairing).2 ≠ .replaced value)
    : (apply sides source target pairing).1 = target := by
  cases given : findDeclaration sides.source source pairing.source with
  | none => simp [apply, given]
  | some taken =>
      cases first : findDeclaration sides.target target pairing.target with
      | none => simp [apply, given, first]
      | some found =>
          simp only [apply, given, first] at kept ⊢
          by_cases same : found.value = taken.value
          · obtain ⟨left, right, placed⟩ :=
              Declaration.exists_placed (List.mem_of_find?_eq_some first)
            rw [← same, placed.splice]
            have whole := concat_lexemes sides.target target
            rw [placed.cut, Lexeme.concat_append, Lexeme.concat_cons] at whole
            exact whole
          · rw [if_neg same] at kept
            exact absurd rfl (kept taken.value)

/-- Where nothing is replaced the text stays. By induction on the pairings. -/
theorem text_of_replaced_nil {sides : Sides} {source target : Text} {pairings : List Pairing}
    (nothing : (synchronize sides source target pairings).replaced = [])
    : (synchronize sides source target pairings).text = target := by
  induction pairings with
  | nil => rfl
  | cons pairing rest ih =>
      cases step : apply sides source target pairing with
      | mk next outcome =>
          have kept : ∀ value, outcome ≠ .replaced value := by
            rintro value rfl
            simp [synchronize, step, Result.replaced] at nothing
          have same : next = target := by
            have unchanged := apply_of_not_replaced sides source target pairing (by rwa [step])
            rwa [step] at unchanged
          subst same
          simp only [synchronize, step]
          apply ih
          cases outcome with
          | replaced value => exact absurd rfl (kept value)
          | _ => simpa [synchronize, step, Result.replaced] using nothing

-----------------------------------------------------------------------------------------
-- Characters that no literal has
-----------------------------------------------------------------------------------------

theorem gaps_settle (settled : Text → Option Text) (passed : List Text) (slots : List Slot)
    : (settle settled passed slots).flatMap Slot.gap = slots.flatMap Slot.gap := by
  induction slots generalizing passed with
  | nil => rfl
  | cons slot rest ih => rw [settle, List.flatMap_cons, List.flatMap_cons, ih]

section Mem

variable {dialect : Dialect} {char : Char} (noDigit : Text.isDigit char = false)
  (noQuote : char ≠ '\x22')
include noDigit noQuote

theorem mem_concat {slots : List Slot} (writable : ∀ slot ∈ slots, Writable dialect slot.value)
    : char ∈ Slot.concat dialect slots ↔ char ∈ slots.flatMap Slot.gap := by
  induction slots with
  | nil => exact Iff.rfl
  | cons slot rest ih =>
      have absent :=
        Text.not_mem_renderLiteral dialect (writable slot (by simp)).isNumeral noDigit noQuote
      rw [Slot.concat_cons, List.flatMap_cons, List.mem_append, List.mem_append, Slot.text,
        List.mem_append, ih fun other member => writable other (List.mem_cons_of_mem _ member)]
      simp only [absent, false_or]

theorem mem_text_layout (layout : Layout dialect)
    : char ∈ layout.text ↔ char ∈ layout.front ++ layout.slots.flatMap Slot.gap := by
  rw [Layout.text, List.mem_append, List.mem_append,
    mem_concat noDigit noQuote layout.writable]

/-- What no literal has is in a synchronized text if it is in the target. Witness: both texts have
the same gaps between their literals.
-/
theorem mem_text_synchronize {sides : Sides} (faithful : sides.Faithful) (source target : Text)
    (pairings : List Pairing)
    : char ∈ (synchronize sides source target pairings).text ↔ char ∈ target := by
  obtain ⟨layout, rfl⟩ := Layout.exists_text_eq sides.target target
  obtain ⟨final, front, slots, run⟩ := synchronize_layout source faithful layout pairings
  rw [run, mem_text_layout noDigit noQuote, mem_text_layout noDigit noQuote, front, slots,
    gaps_settle]

end Mem

end Sync

end VerifierBootstrap
