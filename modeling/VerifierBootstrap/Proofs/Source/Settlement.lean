import VerifierBootstrap.Proofs.Source.Layout

/-!
What a whole synchronization does to a layout. The pairings settle, for each name, on the value of
the last one that finds its constant, and the first slot of the name has that value in the end.
-/

namespace VerifierBootstrap.Sync

/-- Sides on which whatever the source declares can be written as a literal of the target. -/
inductive Sides.Faithful : Sides → Prop where
  | verifiers : Faithful .verifiers
  | contracts : Faithful ⟨.solidity, .solidity⟩
  | hosts : Faithful ⟨.rust, .rust⟩

/-- The value that a pairing takes from the source, if the source declares its constant. -/
def given (sides : Sides) (source : Text) (pairing : Pairing) : Option Text :=
  (findDeclaration sides.source source pairing.source).map Declaration.value

/-- The value of the last pairing for a name whose constant the source declares. -/
def lastGiven (sides : Sides) (source : Text) (pairings : List Pairing) (name : Text)
    : Option Text :=
  pairings.reverse.findSome? fun pairing =>
    if pairing.target = name then given sides source pairing else none

/-- What becomes of a pairing, by the value it takes and the value that the target has. -/
def outcome : Option Text → Option Text → Outcome
  | none, _ => .missingSource
  | some _, none => .missingTarget
  | some value, some present => if present = value then .unchanged else .replaced value

/-- Slots with the values that names settle on. Each name has its value in its first slot, and
none in case it is one of the `passed`.
-/
def settle (settled : Text → Option Text) (passed : List Text) : List Slot → List Slot
  | [] => []
  | slot :: rest =>
      {
        slot with
        value :=
          if slot.name ∈ passed then slot.value else (settled slot.name).getD slot.value
      }
      :: settle settled (slot.name :: passed) rest

variable {sides : Sides} {source : Text}

-----------------------------------------------------------------------------------------
-- The last value given
-----------------------------------------------------------------------------------------

/-- What a source declares can be written as a literal of the other side. Witness: a decimal
number of Solidity is a numeral, and the same dialect writes what it reads.
-/
theorem Sides.Faithful.writable (faithful : sides.Faithful) {pairing : Pairing} {value : Text}
    (found : given sides source pairing = some value)
    : Writable sides.target value := by
  obtain ⟨declaration, first, rfl⟩ := Option.map_eq_some_iff.mp found
  obtain ⟨left, right, placed⟩ := Declaration.exists_placed (List.mem_of_find?_eq_some first)
  have writable := placed.writable
  cases faithful with
  | verifiers => exact writable.isNumeral
  | contracts => exact writable
  | hosts => exact writable

@[simp] theorem lastGiven_nil (name : Text) : lastGiven sides source [] name = none := rfl

theorem lastGiven_cons (pairing : Pairing) (rest : List Pairing) (name : Text)
    : lastGiven sides source (pairing :: rest) name
      = (lastGiven sides source rest name).or
          (if pairing.target = name then given sides source pairing else none) := by
  simp [lastGiven, List.findSome?_append]

/-- Pairings with distinct targets each settle their own target. By induction on the pairings. -/
theorem lastGiven_eq_some_iff {pairings : List Pairing} {name value : Text}
    (distinct : (pairings.map Pairing.target).Nodup)
    : lastGiven sides source pairings name = some value
      ↔ ∃ pairing ∈ pairings, pairing.target = name ∧ given sides source pairing = some value := by
  induction pairings generalizing value with
  | nil => simp
  | cons pairing rest ih =>
      obtain ⟨alone, distinct⟩ := List.nodup_cons.mp distinct
      rw [lastGiven_cons, Option.or_eq_some_iff, ih distinct]
      by_cases named : pairing.target = name
      · have others : ∀ other ∈ rest, other.target ≠ name := by
          intro other member same
          exact alone (named ▸ same ▸ List.mem_map_of_mem member)
        have silent : lastGiven sides source rest name = none := by
          refine Option.eq_none_iff_forall_not_mem.mpr fun value held => ?_
          obtain ⟨other, member, same, _⟩ := (ih distinct).mp held
          exact others other member same
        simp only [silent, named, if_true, true_and, List.mem_cons, exists_eq_or_imp]
        constructor
        · rintro (⟨other, member, same, _⟩ | here)
          · exact absurd same (others other member)
          · exact Or.inl here
        · rintro (here | ⟨other, member, same, _⟩)
          · exact Or.inr here
          · exact absurd same (others other member)
      · simp [named]

-----------------------------------------------------------------------------------------
-- Settled slots
-----------------------------------------------------------------------------------------

@[simp] theorem map_name_settle (settled : Text → Option Text) (passed : List Text)
    (slots : List Slot)
    : (settle settled passed slots).map Slot.name = slots.map Slot.name := by
  induction slots generalizing passed with
  | nil => rfl
  | cons slot rest ih => simp [settle, ih]

@[simp] theorem settle_none (passed : List Text) (slots : List Slot)
    : settle (fun _ => none) passed slots = slots := by
  induction slots generalizing passed with
  | nil => rfl
  | cons slot rest ih => simp [settle, ih]

/-- Settling twice is settling once, the later values first. -/
theorem settle_settle (later earlier : Text → Option Text) (passed : List Text)
    (slots : List Slot)
    : settle later passed (settle earlier passed slots)
      = settle (fun name => (later name).or (earlier name)) passed slots := by
  induction slots generalizing passed with
  | nil => rfl
  | cons slot rest ih =>
      simp only [settle, ih]
      by_cases done : slot.name ∈ passed
      · simp [done]
      · cases held : later slot.name with
        | none => simp [done]
        | some value => simp [done]

theorem settle_single (name value : Text) {passed : List Text} (slots : List Slot)
    : settle (fun other => if name = other then some value else none) passed slots
      = if name ∈ passed then slots else Layout.assignSlots name value slots := by
  induction slots generalizing passed with
  | nil => simp [settle, Layout.assignSlots]
  | cons slot rest ih =>
      rw [settle, ih, Layout.assignSlots]
      by_cases named : slot.name = name
      · obtain rfl := named
        by_cases done : slot.name ∈ passed
        · simp [done]
        · simp [done]
      · by_cases done : name ∈ passed
        · simp [done, Ne.symm named]
        · simp [named, done, Ne.symm named]

/-- A name is settled in a slot unless it has come up before. -/
theorem getElem?_settle (settled : Text → Option Text) (passed : List Text) (index : Nat)
    (slots : List Slot)
    : (settle settled passed slots)[index]?
      = slots[index]?.map fun slot =>
          {
            slot with
            value :=
              if slot.name ∈ (slots.map Slot.name).take index ∨ slot.name ∈ passed then slot.value
              else (settled slot.name).getD slot.value
          } := by
  induction slots generalizing passed index with
  | nil => rfl
  | cons slot rest ih =>
      cases index with
      | zero => simp [settle]
      | succ index =>
          simp only [settle, List.getElem?_cons_succ, ih, List.map_cons, List.take_succ_cons,
            List.mem_cons, or_assoc, or_left_comm]

/-- The first value of a name in settled slots is the one it settles on. -/
theorem find?_settle (settled : Text → Option Text) {name : Text} {passed : List Text}
    (fresh : name ∉ passed) (slots : List Slot)
    : ((settle settled passed slots).find? fun slot => slot.name = name).map Slot.value
      = ((slots.find? fun slot => slot.name = name).map Slot.value).map
          fun value => (settled name).getD value := by
  induction slots generalizing passed with
  | nil => rfl
  | cons slot rest ih =>
      rw [settle]
      by_cases named : slot.name = name
      · simp [named, fresh]
      · rw [List.find?_cons_of_neg (by simp [named]), List.find?_cons_of_neg (by simp [named]),
          ih (by simp [fresh, Ne.symm named])]

-----------------------------------------------------------------------------------------
-- Steps and runs
-----------------------------------------------------------------------------------------

/-- A pairing settles its own target and nothing else. Witness: the splice writes the first slot
of the target, and a target without a slot is written nowhere.
-/
theorem apply_layout (source : Text) (faithful : sides.Faithful) (layout : Layout sides.target)
    (pairing : Pairing)
    : ∃ next : Layout sides.target,
        next.front = layout.front
        ∧ next.slots = settle (lastGiven sides source [pairing]) [] layout.slots
        ∧ apply sides source layout.text pairing
          = (next.text, outcome (given sides source pairing) (layout.value? pairing.target)) := by
  cases taken : given sides source pairing with
  | none =>
      have nothing : lastGiven sides source [pairing] = fun _ => none := by
        funext name
        simp [lastGiven_cons, taken]
      refine ⟨layout, rfl, by rw [nothing, settle_none], ?_⟩
      rw [given, Option.map_eq_none_iff] at taken
      simp [apply, taken, outcome]
  | some value =>
      have single
          : lastGiven sides source [pairing]
            = fun name => if pairing.target = name then some value else none := by
        funext name
        simp [lastGiven_cons, taken]
      have writable := faithful.writable taken
      refine ⟨layout.assign pairing.target value writable, rfl,
        by rw [single, settle_single]; rfl, ?_⟩
      obtain ⟨declaration, first, rfl⟩ := Option.map_eq_some_iff.mp taken
      cases found : findDeclaration sides.target layout.text pairing.target with
      | none =>
          -- The target has no slot of the name, so the assignment changes none
          have absent := layout.findDeclaration_text pairing.target
          rw [found, Option.map_none, eq_comm] at absent
          rw [absent]
          rw [Layout.value?, Option.map_eq_none_iff, List.find?_eq_none] at absent
          have kept
              : (layout.assign pairing.target declaration.value writable).text = layout.text := by
            simp only [Layout.text, Layout.assign]
            rw [Layout.assignSlots_of_absent _ (by simpa using absent)]
          simp [apply, first, found, outcome, kept]
      | some present =>
          rw [← layout.findDeclaration_text, found]
          simp [apply, first, found, outcome, Layout.splice_findDeclaration found writable]

/-- A synchronization leaves a layout with the same front, in which each name has settled on the
last value given. By induction on the pairings, of which each settles its own target.
-/
theorem synchronize_layout (source : Text) (faithful : sides.Faithful)
    (layout : Layout sides.target) (pairings : List Pairing)
    : ∃ final : Layout sides.target,
        final.front = layout.front
        ∧ final.slots = settle (lastGiven sides source pairings) [] layout.slots
        ∧ (synchronize sides source layout.text pairings).text = final.text := by
  induction pairings generalizing layout with
  | nil => exact ⟨layout, rfl, (settle_none [] layout.slots).symm, rfl⟩
  | cons pairing rest ih =>
      obtain ⟨next, nextFront, nextSlots, step⟩ := apply_layout source faithful layout
        pairing
      obtain ⟨final, front, slots, run⟩ := ih next
      refine ⟨final, front.trans nextFront, ?_, ?_⟩
      · rw [slots, nextSlots, settle_settle]
        congr 1
        funext name
        simp [lastGiven_cons]
      · simp [synchronize, step, run]

/-- A name has a value in the end if it had one before, the last given in case there is one. -/
theorem value?_settled {layout final : Layout sides.target} {settled : Text → Option Text}
    (slots : final.slots = settle settled [] layout.slots) (name : Text)
    : final.value? name = (layout.value? name).map fun value => (settled name).getD value := by
  rw [Layout.value?, slots, find?_settle settled (by simp), Layout.value?]

-----------------------------------------------------------------------------------------
-- Missing and replaced constants
-----------------------------------------------------------------------------------------

/-- The constants missing from the source are those of the pairings that take nothing from it. -/
theorem missingSource_synchronize (target : Text) (pairings : List Pairing)
    : (synchronize sides source target pairings).missingSource
      = (pairings.filter fun pairing => (given sides source pairing).isNone).map
          Pairing.source := by
  induction pairings generalizing target with
  | nil => rfl
  | cons pairing rest ih =>
      cases first : findDeclaration sides.source source pairing.source with
      | none => simpa [synchronize, apply, given, first, Result.missingSource] using ih target
      | some declaration =>
          cases found : findDeclaration sides.target target pairing.target with
          | none =>
              simpa [synchronize, apply, given, first, found, Result.missingSource] using ih target
          | some present =>
              simp only [synchronize, apply, given, first, found]
              rw [List.filter_cons_of_neg (by simp [first])]
              split <;> exact ih _

/-- The constants missing from the target are those without a slot in the layout. Witness: no step
gives a name its first slot or takes its last one away.
-/
theorem missingTarget_synchronize (faithful : sides.Faithful) (layout : Layout sides.target)
    (pairings : List Pairing)
    : (synchronize sides source layout.text pairings).missingTarget
      = (pairings.filter fun pairing =>
          (given sides source pairing).isSome && (layout.value? pairing.target).isNone).map
          Pairing.target := by
  induction pairings generalizing layout with
  | nil => rfl
  | cons pairing rest ih =>
      obtain ⟨next, _, slots, step⟩ := apply_layout source faithful layout pairing
      have same : ∀ name, (next.value? name).isNone = (layout.value? name).isNone := by
        intro name
        rw [value?_settled slots, Option.isNone_map]
      have later := ih next
      simp only [same] at later
      cases taken : given sides source pairing with
      | none =>
          simpa [synchronize, step, Result.missingTarget, taken, outcome] using later
      | some value =>
          cases held : layout.value? pairing.target with
          | none =>
              simpa [synchronize, step, Result.missingTarget, taken, held, outcome] using later
          | some present =>
              simp only [synchronize, step, taken, held, outcome]
              rw [List.filter_cons_of_neg (by simp [taken, held])]
              split <;> exact later

/-- Where every target has the value that its pairings take, nothing is written and nothing is
replaced. By induction on the pairings: a literal is written over itself, so the next target has its
value too.
-/
theorem synchronize_of_held {target : Text} {pairings : List Pairing}
    (held
      : ∀ pairing ∈ pairings, ∀ value, given sides source pairing = some value
          → ∀ found, findDeclaration sides.target target pairing.target = some found
          → found.value = value)
    : (synchronize sides source target pairings).text = target
      ∧ (synchronize sides source target pairings).replaced = [] := by
  induction pairings with
  | nil => exact ⟨rfl, rfl⟩
  | cons pairing rest ih =>
      have later := ih fun other member => held other (List.mem_cons_of_mem _ member)
      have here := held pairing (by simp)
      cases taken : findDeclaration sides.source source pairing.source with
      | none =>
          simp only [synchronize, apply, taken]
          exact later
      | some declaration =>
          cases first : findDeclaration sides.target target pairing.target with
          | none =>
              simp only [synchronize, apply, taken, first]
              exact later
          | some found =>
              have same : found.value = declaration.value :=
                here declaration.value (by rw [given, taken, Option.map_some]) found first
              have kept
                  : splice target found.start found.stop
                      (renderLiteral sides.target declaration.value)
                    = target := by
                rw [← same]
                exact Declaration.splice_renderLiteral (List.mem_of_find?_eq_some first)
              simp only [synchronize, apply, taken, first, kept, if_pos same]
              exact later

theorem synchronize_of_settled {layout : Layout sides.target} {pairings : List Pairing}
    (settled
      : ∀ pairing ∈ pairings, ∀ value, given sides source pairing = some value
          → ∀ present, layout.value? pairing.target = some present → present = value)
    : (synchronize sides source layout.text pairings).text = layout.text
      ∧ (synchronize sides source layout.text pairings).replaced = [] :=
  synchronize_of_held fun pairing member value taken found first =>
    settled pairing member value taken found.value
      (by rw [← layout.findDeclaration_text, first, Option.map_some])

end VerifierBootstrap.Sync
