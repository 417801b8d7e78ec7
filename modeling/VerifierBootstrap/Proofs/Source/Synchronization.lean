import VerifierBootstrap.Proofs.Source.Settlement

/-!
The declarations of a synchronized text are those of the target, each at its place, and the first
of each name has the last value that the source gives for it. A second synchronization of the
result from the same source finds nothing to write.
-/

namespace VerifierBootstrap.Sync

/-- The names of a synchronized text are those of the target, in order. The value of a declaration
stays, and if it is the first of its name it is the last one given. Witness: the settled layout.
-/
theorem declarations_synchronize {sides : Sides} (faithful : sides.Faithful)
    (source target : Text) (pairings : List Pairing)
    : (declarations sides.target (synchronize sides source target pairings).text).map
          Declaration.name
        = (declarations sides.target target).map Declaration.name
      ∧ ∀ (index : Nat) (old new : Declaration),
          (declarations sides.target target)[index]? = some old
          → (declarations sides.target (synchronize sides source target pairings).text)[index]?
              = some new
          → new.value
              = if findDeclaration sides.target target old.name = some old then
                  (lastGiven sides source pairings old.name).getD old.value
                else old.value := by
  obtain ⟨layout, rfl⟩ := Layout.exists_text_eq sides.target target
  obtain ⟨final, front, slots, run⟩ :=
    synchronize_layout source faithful layout pairings
  rw [run]
  constructor
  · rw [layout.declarations_text, final.declarations_text, Slot.map_name_declarationsFrom,
      Slot.map_name_declarationsFrom, slots, map_name_settle]
  · intro index old new oldPlaced newPlaced
    have first := Layout.findDeclaration_eq_some_iff oldPlaced
    rw [layout.declarations_text, Slot.map_name_declarationsFrom] at first
    rw [layout.declarations_text, Slot.getElem?_declarationsFrom, Option.map_eq_some_iff]
      at oldPlaced
    obtain ⟨slot, held, rfl⟩ := oldPlaced
    rw [final.declarations_text, slots, Slot.getElem?_declarationsFrom, getElem?_settle, held]
      at newPlaced
    obtain rfl := Option.some.inj newPlaced
    by_cases earlier : slot.name ∈ (layout.slots.map Slot.name).take index
    · rw [if_neg (first.not.mpr (not_not.mpr earlier))]
      simp [earlier]
    · rw [if_pos (first.mpr earlier)]
      simp [earlier]

/-- Of two pairings for one name the later is the one whose value is written, into the first of the
two declarations of the name, and a name with no value to take keeps its own.
-/
theorem declarations_synchronize_repeated
    : let source := "uint256 constant X = 10; uint256 constant Y = 20;".toList
      let target := "const A: &str = \"1\"; const B: &str = \"2\"; const A: &str = \"3\";".toList
      let pairings := [⟨['X'], ['A']⟩, ⟨['Z'], ['B']⟩, ⟨['Y'], ['A']⟩]
      let synchronized := declarations .rust (synchronize .verifiers source target pairings).text
      synchronized.map Declaration.name = [['A'], ['B'], ['A']]
      ∧ (∀ new, synchronized[0]? = some new → new.value = ['2', '0'])
      ∧ (∀ new, synchronized[1]? = some new → new.value = ['2'])
      ∧ (∀ new, synchronized[2]? = some new → new.value = ['3']) := by
  intro source target pairings synchronized
  obtain ⟨names, values⟩ := declarations_synchronize .verifiers source target pairings
  refine ⟨names.trans (by decide +kernel), ?_, ?_, ?_⟩
  · intro new placed
    exact (values 0 ⟨['A'], ['1'], 16, 19⟩ new (by decide +kernel) placed).trans
      (by decide +kernel)
  · intro new placed
    exact (values 1 ⟨['B'], ['2'], 37, 40⟩ new (by decide +kernel) placed).trans
      (by decide +kernel)
  · intro new placed
    exact (values 2 ⟨['A'], ['3'], 58, 61⟩ new (by decide +kernel) placed).trans
      (by decide +kernel)

/-- A second synchronization of a result from the same source writes nothing: the text stays, and
the same constants are missing. With distinct targets nothing is replaced either. Witness: every
target has settled on the last value given, which with distinct targets is its only one.
-/
theorem synchronize_again {sides : Sides} (faithful : sides.Faithful) (source target : Text)
    (pairings : List Pairing) {once again : Result}
    (first : synchronize sides source target pairings = once)
    (second : synchronize sides source once.text pairings = again)
    : again.text = once.text
      ∧ again.missingSource = once.missingSource
      ∧ again.missingTarget = once.missingTarget
      ∧ ((pairings.map Pairing.target).Nodup → again.replaced = [] ∧ again.changed = false) := by
  obtain ⟨layout, rfl⟩ := Layout.exists_text_eq sides.target target
  obtain ⟨final, front, slots, run⟩ :=
    synchronize_layout source faithful layout pairings
  subst first second
  rw [run]
  refine ⟨?_, ?_, ?_, ?_⟩
  · obtain ⟨later, laterFront, laterSlots, rerun⟩ :=
      synchronize_layout source faithful final pairings
    -- The second pass settles on the values that the first has written
    have same : later.slots = final.slots := by
      rw [laterSlots, slots, settle_settle]
      simp only [Option.or_self]
    rw [rerun, Layout.text, laterFront, same, Layout.text]
  · rw [missingSource_synchronize, missingSource_synchronize]
  · rw [missingTarget_synchronize faithful, missingTarget_synchronize faithful]
    simp only [value?_settled slots, Option.isNone_map]
  · intro distinct
    have settled
        : ∀ pairing ∈ pairings, ∀ value, given sides source pairing = some value
            → ∀ present, final.value? pairing.target = some present → present = value := by
      intro pairing member value taken present held
      have last : lastGiven sides source pairings pairing.target = some value :=
        (lastGiven_eq_some_iff distinct).mpr ⟨pairing, member, rfl, taken⟩
      rw [value?_settled slots, last, Option.map_eq_some_iff] at held
      obtain ⟨_, _, rfl⟩ := held
      rfl
    have nothing := (synchronize_of_settled settled).2
    exact ⟨nothing, by rw [Result.changed, nothing]; rfl⟩

/-- Two constants are synchronized, and a second pass leaves both. -/
theorem synchronize_again_two_targets
    : let source := "uint256 constant X = 10; uint256 constant Y = 20;".toList
      let target := "const A: &str = \"1\"; const B: &str = \"20\";".toList
      let pairings := [⟨['X'], ['A']⟩, ⟨['Y'], ['B']⟩]
      let once := synchronize .verifiers source target pairings
      let again := synchronize .verifiers source once.text pairings
      again.text = "const A: &str = \"10\"; const B: &str = \"20\";".toList
      ∧ again.replaced = []
      ∧ again.changed = false := by
  intro source target pairings once again
  obtain ⟨text, _, _, nothing⟩ :=
    synchronize_again .verifiers source target pairings (rfl : _ = once) (rfl : _ = again)
  obtain ⟨replaced, changed⟩ := nothing (by decide)
  exact ⟨text.trans (by decide +kernel), replaced, changed⟩

end VerifierBootstrap.Sync
