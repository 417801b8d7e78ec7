import VerifierBootstrap.Proofs.Source.Settlement

/-!
Synchronization as one revision of the target. The pairings are taken one by one, each on the text
that the others have left. The result is the one of replacing the first literal of each name at
once, at the places that the target itself gives.
-/

namespace VerifierBootstrap.Sync

/-- A stretch of a text and what is to stand in its place. -/
structure Revision where
  start : Nat
  stop : Nat
  inserted : Text
deriving Repr, DecidableEq

/-- A text that begins at `place`, with its revisions made. The places of all of them are places
in the text as it is, whatever the length of what the others insert.
-/
def revise (place : Nat) (text : Text) : List Revision → Text
  | [] => text
  | revision :: rest =>
      text.take (revision.start - place) ++ revision.inserted
      ++ revise revision.stop (text.drop (revision.stop - place)) rest

/-- The revision of a declaration, in case it is the first of a name that has settled. -/
def revision? (dialect : Dialect) (text : Text) (settled : Text → Option Text)
    (declaration : Declaration)
    : Option Revision :=
  if findDeclaration dialect text declaration.name = some declaration then
    (settled declaration.name).map fun value =>
      ⟨declaration.start, declaration.stop, renderLiteral dialect value⟩
  else none

/-- The revisions of a text by the values that names have settled on. -/
def revisions (dialect : Dialect) (text : Text) (settled : Text → Option Text)
    : List Revision :=
  (declarations dialect text).filterMap (revision? dialect text settled)

-----------------------------------------------------------------------------------------
-- Revisions and the text between them
-----------------------------------------------------------------------------------------

/-- In front of the revisions a text is left as it is. -/
theorem revise_append (place : Nat) (front text : Text) {revisions : List Revision}
    (ordered : ∀ revision ∈ revisions, revision.start ≤ revision.stop)
    (behind : ∀ revision ∈ revisions, place + front.length ≤ revision.start)
    : revise place (front ++ text) revisions
      = front ++ revise (place + front.length) text revisions := by
  cases revisions with
  | nil => rfl
  | cons revision rest =>
      have start := behind revision (by simp)
      have stop := ordered revision (by simp)
      rw [revise, revise, List.take_append, List.drop_append, List.take_of_length_le (by omega),
        List.drop_of_length_le (by omega), Nat.sub_sub, Nat.sub_sub, List.nil_append]
      simp only [List.append_assoc]

variable {dialect : Dialect} {settled : Text → Option Text}

theorem bounds_of_revision? {text : Text} {declaration : Declaration} {revision : Revision}
    (made : revision? dialect text settled declaration = some revision)
    : revision.start = declaration.start ∧ revision.stop = declaration.stop := by
  rw [revision?, Option.ite_none_right_eq_some] at made
  obtain ⟨_, made⟩ := made
  obtain ⟨value, _, rfl⟩ := Option.map_eq_some_iff.mp made
  exact ⟨rfl, rfl⟩

theorem bounds_of_mem_revisions {text : Text} {start : Nat} {slots : List Slot}
    {revision : Revision} (writable : ∀ slot ∈ slots, Writable dialect slot.value)
    (member
      : revision
        ∈ (Slot.declarationsFrom dialect start slots).filterMap (revision? dialect text settled))
    : start ≤ revision.start ∧ revision.start ≤ revision.stop := by
  obtain ⟨declaration, inside, made⟩ := List.mem_filterMap.mp member
  obtain ⟨starts, stops⟩ := bounds_of_revision? made
  have bounds := Slot.bounds_of_mem_declarationsFrom writable inside
  omega

/-- The declaration of a slot has a revision if the name of the slot has settled and no slot in
front has the name.
-/
theorem revision?_slot (settled : Text → Option Text) {layout : Layout dialect}
    {left right : List Slot} {slot : Slot} (split : layout.slots = left ++ slot :: right)
    : let start := layout.front.length + (Slot.concat dialect left).length
      let stop := start + (renderLiteral dialect slot.value).length
      revision? dialect layout.text settled ⟨slot.name, slot.value, start, stop⟩
        = (if slot.name ∈ left.map Slot.name then none else settled slot.name).map fun value =>
            ⟨start, stop, renderLiteral dialect value⟩ := by
  intro start stop
  let declaration : Declaration := ⟨slot.name, slot.value, start, stop⟩
  have placed : (declarations dialect layout.text)[left.length]? = some declaration := by
    rw [layout.declarations_text, Slot.getElem?_declarationsFrom, split]
    simp [declaration, start, stop]
  have first := Layout.findDeclaration_eq_some_iff placed
  rw [layout.declarations_text, Slot.map_name_declarationsFrom, split, List.map_append,
    List.take_append_of_le_length (by simp), List.take_of_length_le (by simp)] at first
  by_cases earlier : slot.name ∈ left.map Slot.name
  · rw [if_pos earlier]
    exact if_neg (first.not.mpr (not_not.mpr earlier))
  · rw [if_neg earlier]
    exact if_pos (first.mpr earlier)

/-- The revisions of a layout write its settled slots. By induction on the slots that are left: the
text of each is passed over up to the next, and its literal revised if it is the first of its name.
-/
theorem revise_slots (layout : Layout dialect) (settled : Text → Option Text)
    (left : List Slot) {right : List Slot} (split : layout.slots = left ++ right)
    : revise (layout.front.length + (Slot.concat dialect left).length)
        (Slot.concat dialect right)
        ((Slot.declarationsFrom dialect
            (layout.front.length + (Slot.concat dialect left).length) right).filterMap
          (revision? dialect layout.text settled))
      = Slot.concat dialect (settle settled (left.map Slot.name).reverse right) := by
  induction right generalizing left with
  | nil => rfl
  | cons slot rest ih =>
      have later := ih (left ++ [slot]) (by simp [split])
      rw [Slot.concat_append, List.length_append, ← Nat.add_assoc, Slot.concat_cons,
        Slot.concat_nil, List.append_nil, List.map_append, List.reverse_append] at later
      have others : ∀ other ∈ rest, Writable dialect other.value :=
        fun other member => layout.writable other (by simp [split, member])
      have made := revision?_slot settled split
      have value
          : (if slot.name ∈ (left.map Slot.name).reverse then slot.value
              else (settled slot.name).getD slot.value)
            = (if slot.name ∈ left.map Slot.name then none else settled slot.name).getD
                slot.value := by
        by_cases earlier : slot.name ∈ left.map Slot.name
        · rw [if_pos (List.mem_reverse.mpr earlier), if_pos earlier]
          rfl
        · rw [if_neg (List.mem_reverse.not.mpr earlier), if_neg earlier]
      rw [Slot.declarationsFrom, settle, value, Slot.concat_cons, Slot.concat_cons]
      -- The text that is passed over is a whole slot, or the gap behind a literal that is revised
      cases written : if slot.name ∈ left.map Slot.name then none else settled slot.name with
      | none =>
          rw [written] at made
          rw [List.filterMap_cons_none made, revise_append _ _ _
            (fun revision member => (bounds_of_mem_revisions others member).2)
            (fun revision member => (bounds_of_mem_revisions others member).1)]
          exact congrArg _ later
      | some value =>
          rw [written] at made
          rw [Slot.text, List.length_append, ← Nat.add_assoc] at later
          rw [List.filterMap_cons_some made, revise, Nat.sub_self, List.take_zero, List.nil_append,
            Nat.add_sub_cancel_left, Slot.text, List.append_assoc, List.drop_left,
            List.length_append, ← Nat.add_assoc, revise_append _ _ _
              (fun revision member => (bounds_of_mem_revisions others member).2)
              (fun revision member => (bounds_of_mem_revisions others member).1)]
          exact (congrArg _ (congrArg _ later)).trans (by simp [Slot.text])

theorem revise_layout (layout : Layout dialect) (settled : Text → Option Text)
    : revise 0 layout.text (revisions dialect layout.text settled)
      = layout.front ++ Slot.concat dialect (settle settled [] layout.slots) := by
  have revised := revise_slots layout settled [] rfl
  rw [Slot.concat_nil, List.length_nil, Nat.add_zero] at revised
  have bounds
      : ∀ revision ∈ revisions dialect layout.text settled,
          layout.front.length ≤ revision.start ∧ revision.start ≤ revision.stop := by
    rw [revisions, layout.declarations_text]
    exact fun revision member => bounds_of_mem_revisions layout.writable member
  have skipped := revise_append 0 layout.front (Slot.concat dialect layout.slots)
    (fun revision member => (bounds revision member).2)
    (fun revision member => (Nat.zero_add _).trans_le (bounds revision member).1)
  refine skipped.trans ?_
  rw [revisions, layout.declarations_text, Nat.zero_add]
  exact congrArg _ revised

/-- A permutation of pairings with distinct targets settles the same values. -/
theorem lastGiven_perm {sides : Sides} {pairings others : List Pairing} (source : Text)
    (same : pairings.Perm others) (distinct : (pairings.map Pairing.target).Nodup)
    : lastGiven sides source others = lastGiven sides source pairings := by
  have distinctOthers := (same.map Pairing.target).nodup_iff.mp distinct
  funext name
  apply Option.ext
  intro value
  rw [lastGiven_eq_some_iff distinct, lastGiven_eq_some_iff distinctOthers]
  simp only [same.mem_iff]

/-- Synchronizing the pairings one by one is revising the target at once: the first declaration of
each name that has settled gets its literal, and the text between the literals stays. The revisions
do not overlap, and with distinct targets the order of the pairings does not matter. Witness: both
texts are written by the settled slots of the layout of the target.
-/
theorem text_synchronize {sides : Sides} (faithful : sides.Faithful) (source target : Text)
    (pairings : List Pairing)
    : (synchronize sides source target pairings).text
        = revise 0 target (revisions sides.target target (lastGiven sides source pairings))
      ∧ (revisions sides.target target (lastGiven sides source pairings)).Pairwise
          (fun left right => left.stop ≤ right.start)
      ∧ (∀ revision ∈ revisions sides.target target (lastGiven sides source pairings),
          revision.start < revision.stop ∧ revision.stop ≤ target.length)
      ∧ ∀ others : List Pairing,
          pairings.Perm others
          → (pairings.map Pairing.target).Nodup
          → (synchronize sides source target others).text
            = (synchronize sides source target pairings).text := by
  obtain ⟨ordered, literals⟩ := Layout.pairwise_declarations sides.target target
  have whole (chosen : List Pairing)
      : (synchronize sides source target chosen).text
        = revise 0 target (revisions sides.target target (lastGiven sides source chosen)) := by
    obtain ⟨layout, rfl⟩ := Layout.exists_text_eq sides.target target
    obtain ⟨final, front, slots, run⟩ := synchronize_layout source faithful layout chosen
    rw [run, revise_layout, Layout.text, front, slots]
  refine ⟨whole pairings, ?_, ?_, ?_⟩
  · refine List.pairwise_filterMap.mpr (ordered.imp fun {left right} apart => ?_)
    intro before madeBefore after madeAfter
    rw [(bounds_of_revision? madeBefore).2, (bounds_of_revision? madeAfter).1]
    exact apart
  · intro revision member
    obtain ⟨declaration, inside, made⟩ := List.mem_filterMap.mp member
    rw [(bounds_of_revision? made).1, (bounds_of_revision? made).2]
    exact literals declaration inside
  · intro others same distinct
    rw [whole, whole, lastGiven_perm source same distinct]

/-- Two literals are written over at once, each longer than the one it replaces, and in either
order of the pairings.
-/
theorem text_synchronize_swapped
    : let source := "uint256 constant X = 10; uint256 constant Y = 20;".toList
      let target := "const A: &str = \"1\"; const B: &str = \"2\"; const A: &str = \"3\";".toList
      let revised := "const A: &str = \"10\"; const B: &str = \"20\"; const A: &str = \"3\";".toList
      (synchronize .verifiers source target [⟨['X'], ['A']⟩, ⟨['Y'], ['B']⟩]).text = revised
      ∧ (synchronize .verifiers source target [⟨['Y'], ['B']⟩, ⟨['X'], ['A']⟩]).text = revised := by
  intro source target revised
  obtain ⟨text, _, _, permuted⟩ :=
    text_synchronize .verifiers source target [⟨['X'], ['A']⟩, ⟨['Y'], ['B']⟩]
  have written := text.trans (by decide +kernel : _ = revised)
  exact ⟨written, (permuted _ (List.Perm.swap _ _ _) (by decide)).trans written⟩

end VerifierBootstrap.Sync
