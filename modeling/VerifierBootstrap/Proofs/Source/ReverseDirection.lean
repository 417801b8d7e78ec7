import VerifierBootstrap.Proofs.Source.Settlement
import VerifierBootstrap.Proofs.Source.UnreadNumbers

/-!
Synchronization of a contract with a host. A host quotes its numerals, so it can hold digits that
Solidity does not read as one number. A constant that is given such a numeral is lost to every later
search, and a second synchronization does not find what the first has written. Every other numeral
is read back, and the other constants of the contract stay as they were.
-/

namespace VerifierBootstrap.Sync

/-- The sides of the verifiers the other way round: the host is the source of truth. -/
def Sides.reversed : Sides :=
  ⟨.rust, .solidity⟩

/-- The value that a text of a dialect declares for a name. -/
def declared (dialect : Dialect) (text name : Text) : Option Text :=
  (findDeclaration dialect text name).map Declaration.value

-----------------------------------------------------------------------------------------
-- Writing over one declaration
-----------------------------------------------------------------------------------------

/-- A literal that is read back gives its value to the name that it is written for. -/
theorem declared_splice {dialect : Dialect} {text name value : Text} {found : Declaration}
    (first : findDeclaration dialect text name = some found) (writable : Writable dialect value)
    (other : Text)
    : declared dialect (splice text found.start found.stop (renderLiteral dialect value)) other
      = if name = other then some value else declared dialect text other := by
  obtain ⟨layout, rfl⟩ := Layout.exists_text_eq dialect text
  have slots
      : (layout.assign name value writable).slots
        = settle (fun other => if name = other then some value else none) [] layout.slots := by
    rw [settle_single]
    rfl
  have present : layout.value? name = some found.value := by
    rw [← Layout.findDeclaration_text, first, Option.map_some]
  rw [Layout.splice_findDeclaration first writable, declared, declared,
    Layout.findDeclaration_text, Layout.findDeclaration_text, Layout.value?, slots,
    find?_settle _ (by simp), ← Layout.value?]
  by_cases named : name = other
  · rw [if_pos named, if_pos named, ← named, present]
    rfl
  · rw [if_neg named, if_neg named]
    exact Option.map_id'

/-- A numeral that is not read back takes nothing from the other names. -/
theorem declared_splice_unread {text value : Text} {lost : Declaration}
    (member : lost ∈ declarations .solidity text) (numeral : Text.isNumeral value = true)
    (unwritable : ¬ Writable .solidity value) {other : Text} (apart : lost.name ≠ other)
    : declared .solidity (splice text lost.start lost.stop value) other
      = declared .solidity text other := by
  obtain ⟨front, back, before, after⟩ := declarations_splice_unread member numeral unwritable
  have moved (places : Nat)
      : ((back.map (Declaration.shift places)).find? fun declaration =>
          declaration.name = other).map Declaration.value
        = (back.find? fun declaration => declaration.name = other).map Declaration.value := by
    rw [List.find?_map, Option.map_map]
    rfl
  rw [declared, declared, findDeclaration, findDeclaration, before, after, List.find?_append,
    List.find?_append, List.find?_cons_of_neg (by simp [apart])]
  cases front.find? fun declaration => declaration.name = other with
  | some declaration => rfl
  | none => rw [Option.none_or, Option.none_or, moved, moved]

/-- Whatever a text declares can be written as it is. -/
theorem writable_of_declared {dialect : Dialect} {text name value : Text}
    (held : declared dialect text name = some value)
    : Writable dialect value := by
  obtain ⟨declaration, first, rfl⟩ := Option.map_eq_some_iff.mp held
  obtain ⟨_, _, placed⟩ := Declaration.exists_placed (List.mem_of_find?_eq_some first)
  exact placed.writable

/-- A numeral that is written for a name is declared for it exactly if it is read back, and the
other names are as they were. Witness: whatever is declared can be written.
-/
theorem declared_write {text name value : Text} {found : Declaration}
    (first : findDeclaration .solidity text name = some found)
    (numeral : Text.isNumeral value = true)
    : (declared .solidity (splice text found.start found.stop value) name = some value
        ↔ Writable .solidity value)
      ∧ ∀ other, name ≠ other
          → declared .solidity (splice text found.start found.stop value) other
            = declared .solidity text other := by
  refine ⟨⟨writable_of_declared, fun writable => ?_⟩, fun other apart => ?_⟩
  · rw [show value = renderLiteral .solidity value from rfl, declared_splice first writable,
      if_pos rfl]
    rfl
  · by_cases writable : Writable .solidity value
    · rw [show value = renderLiteral .solidity value from rfl, declared_splice first writable,
        if_neg apart]
    · have named : found.name = name := by
        rw [findDeclaration] at first
        simpa using List.find?_some first
      exact declared_splice_unread (List.mem_of_find?_eq_some first) numeral writable
        (named ▸ apart)

-----------------------------------------------------------------------------------------
-- Steps and runs
-----------------------------------------------------------------------------------------

/-- What is declared for a target by the value that is taken for it. A value that is written is
declared exactly if it is read back; where there is nothing to write, or nothing to write it over,
all is as it was.
-/
def Written (taken before after : Option Text) : Prop :=
  match taken, before with
  | some value, some _ => after = some value ↔ Writable .solidity value
  | _, _ => after = before

variable {source : Text}

/-- A pairing writes for its own target and leaves the other names as they were. -/
theorem apply_reversed (source target : Text) (pairing : Pairing)
    : ∃ next,
        apply .reversed source target pairing
          = (next,
             outcome (given .reversed source pairing) (declared .solidity target pairing.target))
        ∧ Written (given .reversed source pairing) (declared .solidity target pairing.target)
            (declared .solidity next pairing.target)
        ∧ ∀ name, pairing.target ≠ name
            → declared .solidity next name = declared .solidity target name := by
  cases taken : findDeclaration .rust source pairing.source with
  | none =>
      have nothing : given .reversed source pairing = none := by
        rw [given, Sides.reversed, taken, Option.map_none]
      refine ⟨target, ?_, ?_, fun _ _ => rfl⟩
      · rw [nothing]
        simp [apply, Sides.reversed, taken, outcome]
      · rw [nothing]
        rfl
  | some declaration =>
      have some : given .reversed source pairing = some declaration.value := by
        rw [given, Sides.reversed, taken, Option.map_some]
      rw [some]
      cases first : findDeclaration .solidity target pairing.target with
      | none =>
          have absent : declared .solidity target pairing.target = none := by
            rw [declared, first, Option.map_none]
          refine ⟨target, ?_, ?_, fun _ _ => rfl⟩
          · rw [absent]
            simp [apply, Sides.reversed, taken, first, outcome]
          · rw [absent]
            rfl
      | some found =>
          have present : declared .solidity target pairing.target = Option.some found.value := by
            rw [declared, first, Option.map_some]
          rw [present]
          have numeral : Text.isNumeral declaration.value = true :=
            (writable_of_declared (by rw [declared, taken, Option.map_some])).isNumeral
          obtain ⟨written, others⟩ := declared_write first numeral
          refine ⟨splice target found.start found.stop declaration.value, ?_, written, others⟩
          simp [apply, Sides.reversed, taken, first, outcome, renderLiteral]

/-- A synchronization leaves the names alone that are no targets. By induction on the pairings. -/
theorem declared_synchronize_of_not_mem {pairings : List Pairing} {name : Text}
    (apart : name ∉ pairings.map Pairing.target) (target : Text)
    : declared .solidity (synchronize .reversed source target pairings).text name
      = declared .solidity target name := by
  induction pairings generalizing target with
  | nil => rfl
  | cons pairing rest ih =>
      obtain ⟨other, apart⟩ := not_or.mp (List.mem_cons.not.mp apart)
      obtain ⟨next, step, _, others⟩ := apply_reversed source target pairing
      simp only [synchronize, step]
      rw [ih apart, others name (Ne.symm other)]

/-- With distinct targets each target has what its own pairing writes. By induction on the pairings:
those in front of it leave its target alone, and so do those behind it.
-/
theorem written_synchronize (source : Text) {pairings : List Pairing}
    (distinct : (pairings.map Pairing.target).Nodup) (target : Text)
    : ∀ pairing ∈ pairings,
        Written (given .reversed source pairing) (declared .solidity target pairing.target)
          (declared .solidity (synchronize .reversed source target pairings).text
            pairing.target) := by
  induction pairings generalizing target with
  | nil => exact nofun
  | cons first rest ih =>
      obtain ⟨alone, distinct⟩ := List.nodup_cons.mp distinct
      obtain ⟨next, step, written, others⟩ := apply_reversed source target first
      simp only [synchronize, step]
      intro pairing member
      rcases List.mem_cons.mp member with rfl | later
      · rw [declared_synchronize_of_not_mem alone]
        exact written
      · have apart : first.target ≠ pairing.target := fun same =>
          alone (same ▸ List.mem_map_of_mem later)
        rw [← others pairing.target apart]
        exact ih distinct next pairing later

/-- What has become of each pairing is told by the texts as they were given. -/
theorem entries_reversed {pairings : List Pairing}
    (distinct : (pairings.map Pairing.target).Nodup) (target : Text)
    : (synchronize .reversed source target pairings).entries
      = pairings.map fun pairing =>
          (pairing,
           outcome (given .reversed source pairing)
             (declared .solidity target pairing.target)) := by
  induction pairings generalizing target with
  | nil => rfl
  | cons pairing rest ih =>
      obtain ⟨alone, distinct⟩ := List.nodup_cons.mp distinct
      obtain ⟨next, step, _, others⟩ := apply_reversed source target pairing
      simp only [synchronize, step, List.map_cons, ih distinct next, List.cons.injEq, true_and]
      refine List.map_congr_left fun other member => ?_
      rw [others other.target fun same => alone (same ▸ List.mem_map_of_mem member)]

-----------------------------------------------------------------------------------------
-- The second pass
-----------------------------------------------------------------------------------------

theorem missingTarget_reversed {pairings : List Pairing}
    (distinct : (pairings.map Pairing.target).Nodup) (target : Text)
    : (synchronize .reversed source target pairings).missingTarget
      = (pairings.filter fun pairing =>
          (given .reversed source pairing).isSome
            && (declared .solidity target pairing.target).isNone).map
          Pairing.target := by
  rw [Result.missingTarget, entries_reversed distinct, List.filterMap_map, ← List.filterMap_eq_map,
    List.filterMap_filter]
  refine List.filterMap_congr fun pairing _ => ?_
  rw [Function.comp_apply]
  cases given .reversed source pairing with
  | none => rfl
  | some value =>
      cases declared .solidity target pairing.target with
      | none => rfl
      | some present =>
          by_cases same : present = value
          · simp [outcome, same]
          · simp [outcome, same]

/-- Whatever a synchronization writes for a target is read back. -/
def ReadsBack (source target : Text) (pairings : List Pairing) : Prop :=
  ∀ pairing ∈ pairings, ∀ value, given .reversed source pairing = some value
    → declared .solidity target pairing.target ≠ none → Writable .solidity value

/-- Where all that is written is read back, each target that has a value to take has it. -/
theorem declared_of_readsBack {pairings : List Pairing}
    (distinct : (pairings.map Pairing.target).Nodup) {target : Text}
    (reads : ReadsBack source target pairings) {pairing : Pairing} (member : pairing ∈ pairings)
    {value : Text} (taken : given .reversed source pairing = some value)
    : declared .solidity (synchronize .reversed source target pairings).text pairing.target
      = (declared .solidity target pairing.target).map fun _ => value := by
  have written := written_synchronize source distinct target pairing member
  have writable := reads pairing member value taken
  rw [taken] at written
  cases before : declared .solidity target pairing.target with
  | none =>
      rw [before] at written
      exact written
  | some present =>
      rw [before] at written writable
      exact written.mpr (writable (by simp))

/-- So a second pass writes each value over itself and misses the same targets. -/
theorem synchronize_again_of_readsBack {pairings : List Pairing}
    (distinct : (pairings.map Pairing.target).Nodup) {target : Text}
    (reads : ReadsBack source target pairings)
    : let once := synchronize .reversed source target pairings
      let again := synchronize .reversed source once.text pairings
      again.text = once.text ∧ again.replaced = [] ∧ again.missingTarget = once.missingTarget := by
  intro once again
  have settled {pairing : Pairing} (member : pairing ∈ pairings) {value : Text}
      (taken : given .reversed source pairing = some value) :=
    declared_of_readsBack distinct reads member taken
  have held
      : ∀ pairing ∈ pairings, ∀ value, given .reversed source pairing = some value
          → ∀ found, findDeclaration Sides.reversed.target once.text pairing.target = some found
          → found.value = value := by
    intro pairing member value taken found first
    have holds : declared .solidity once.text pairing.target = some found.value :=
      congrArg (Option.map Declaration.value) first
    rw [settled member taken, Option.map_eq_some_iff] at holds
    obtain ⟨_, _, same⟩ := holds
    exact same.symm
  obtain ⟨text, replaced⟩ := synchronize_of_held held
  refine ⟨text, replaced, ?_⟩
  rw [missingTarget_reversed distinct, missingTarget_reversed distinct]
  congr 1
  refine List.filter_congr fun pairing member => ?_
  cases taken : given .reversed source pairing with
  | none => rfl
  | some value => rw [settled member taken, Option.isNone_map]

/-- A value that is not read back is found out by a second pass. -/
theorem readsBack_of_synchronize_again {pairings : List Pairing}
    (distinct : (pairings.map Pairing.target).Nodup) {target : Text} {once again : Result}
    (first : synchronize .reversed source target pairings = once)
    (second : synchronize .reversed source once.text pairings = again)
    (replaced : again.replaced = []) (missing : again.missingTarget = once.missingTarget)
    : ReadsBack source target pairings := by
  subst first second
  intro pairing member value taken present
  by_contra unwritable
  have written := written_synchronize source distinct target pairing member
  obtain ⟨old, before⟩ := Option.ne_none_iff_exists'.mp present
  rw [taken, before] at written
  cases after
      : declared .solidity (synchronize .reversed source target pairings).text pairing.target with
  | none =>
      -- The target is lost, so the second pass misses it, and the first has not
      rw [missingTarget_reversed distinct, missingTarget_reversed distinct] at missing
      have lost
          : pairing.target
            ∈ (pairings.filter fun pairing =>
                (given .reversed source pairing).isSome
                  && (declared .solidity (synchronize .reversed source target pairings).text
                    pairing.target).isNone).map Pairing.target :=
        List.mem_map_of_mem (List.mem_filter.mpr ⟨member, by simp [taken, after]⟩)
      rw [missing, List.mem_map] at lost
      obtain ⟨other, kept, same⟩ := lost
      have absent := (List.mem_filter.mp kept).2
      simp [same, before] at absent
  | some other =>
      -- Another declaration is found behind it, and its value is replaced
      have differs : other ≠ value := by
        rintro rfl
        exact unwritable (written.mp after)
      have entry
          : (pairing, Outcome.replaced value)
            ∈ (synchronize .reversed source (synchronize .reversed source target pairings).text
                pairings).entries := by
        rw [entries_reversed distinct]
        exact List.mem_map.mpr ⟨pairing, member, by rw [taken, after, outcome, if_neg differs]⟩
      have rewritten
          : (pairing, value)
            ∈ (synchronize .reversed source (synchronize .reversed source target pairings).text
                pairings).replaced :=
        List.mem_filterMap.mpr ⟨_, entry, rfl⟩
      rw [replaced] at rewritten
      exact List.not_mem_nil rewritten

/-- Solidity declares for each target what its pairing takes from the host, and a second pass finds
nothing to do, exactly where the values are numerals that Solidity reads as one number: a decimal
digit of some script with ASCII digits behind it. Each other value takes its target from the
contract, and a second pass misses the target, or finds another declaration of it behind. Witness:
a value that is not read back leaves a declaration less, and all others as they were.
-/
theorem synchronize_reversed (source target : Text) {pairings : List Pairing}
    (distinct : (pairings.map Pairing.target).Nodup) {once again : Result}
    (first : synchronize .reversed source target pairings = once)
    (second : synchronize .reversed source once.text pairings = again)
    : (∀ pairing ∈ pairings, ∀ value, given .reversed source pairing = some value
        → declared .solidity target pairing.target ≠ none
        → (declared .solidity once.text pairing.target = some value ↔ Writable .solidity value))
      ∧ (again.text = once.text ∧ again.replaced = [] ∧ again.missingTarget = once.missingTarget
          ↔ ∀ pairing ∈ pairings, ∀ value, given .reversed source pairing = some value
              → declared .solidity target pairing.target ≠ none
              → Writable .solidity value) := by
  refine ⟨fun pairing member value taken present => ?_, ?_⟩
  · have written := written_synchronize source distinct target pairing member
    obtain ⟨old, before⟩ := Option.ne_none_iff_exists'.mp present
    rw [taken, before, first] at written
    exact written
  · constructor
    · rintro ⟨_, replaced, missing⟩
      exact readsBack_of_synchronize_again distinct first second replaced missing
    · intro reads
      subst first second
      exact synchronize_again_of_readsBack distinct reads

/-- A host with a superscript two and with ten: the first is lost to a second pass, and the second
is read back.
-/
theorem synchronize_reversed_superscript
    : let source := "const A: &str = \"²\"; const B: &str = \"10\";".toList
      let target := "uint256 constant a = 1; uint256 constant b = 2;".toList
      let pairings := [⟨['A'], ['a']⟩, ⟨['B'], ['b']⟩]
      let once := synchronize .reversed source target pairings
      let again := synchronize .reversed source once.text pairings
      declared .solidity once.text ['a'] ≠ some ['²']
      ∧ declared .solidity once.text ['b'] = some ['1', '0']
      ∧ ¬ (again.text = once.text ∧ again.replaced = []
        ∧ again.missingTarget = once.missingTarget) := by
  intro source target pairings once again
  obtain ⟨each, noop⟩ :=
    synchronize_reversed source target (show (pairings.map Pairing.target).Nodup by decide)
      (rfl : _ = once) (rfl : _ = again)
  have unread : ¬ Writable .solidity ['²'] := by
    rintro ⟨_, first, rest, same, decimal, _⟩
    obtain ⟨rfl, _⟩ := List.cons.inj same
    exact absurd decimal (by decide)
  have read : Writable .solidity ['1', '0'] :=
    ⟨by decide, '1', ['0'], rfl, by decide, by decide⟩
  have superscript := each ⟨['A'], ['a']⟩ (by simp [pairings]) ['²'] (by decide +kernel)
    (by decide +kernel)
  have ten := each ⟨['B'], ['b']⟩ (by simp [pairings]) ['1', '0'] (by decide +kernel)
    (by decide +kernel)
  refine ⟨mt superscript.mp unread, ten.mpr read, fun same => ?_⟩
  exact unread (noop.mp same ⟨['A'], ['a']⟩ (by simp [pairings]) ['²'] (by decide +kernel)
    (by decide +kernel))

end VerifierBootstrap.Sync
