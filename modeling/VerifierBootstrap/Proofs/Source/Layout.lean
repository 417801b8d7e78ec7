import VerifierBootstrap.Proofs.Source.DeclarationExchange

/-!
Layouts of texts. A text is laid out as the literals of its declarations and the stretches between
them, which is all that synchronization distinguishes. Every text has a layout, and another value
in one of its literals gives a layout again.
-/

namespace VerifierBootstrap

open Lexeme

/-- The name and the value of a declaration, and the text from its literal to the next. -/
structure Slot where
  name : Text
  value : Text
  gap : Text

namespace Slot

/-- The text of a slot: its literal, and what follows. -/
def text (dialect : Dialect) (slot : Slot) : Text :=
  renderLiteral dialect slot.value ++ slot.gap

/-- The texts of slots, one behind the other. -/
def concat (dialect : Dialect) (slots : List Slot) : Text :=
  slots.flatMap (Slot.text dialect)

/-- The declarations that slots stand for, if the first literal is at `start`. -/
def declarationsFrom (dialect : Dialect) (start : Nat) : List Slot → List Declaration
  | [] => []
  | slot :: rest =>
      ⟨slot.name, slot.value, start, start + (renderLiteral dialect slot.value).length⟩
      :: declarationsFrom dialect (start + (slot.text dialect).length) rest

variable {dialect : Dialect}

@[simp] theorem concat_nil : concat dialect [] = [] := rfl

@[simp] theorem concat_cons (slot : Slot) (rest : List Slot)
    : concat dialect (slot :: rest) = slot.text dialect ++ concat dialect rest := by
  simp [concat]

@[simp] theorem concat_append (left right : List Slot)
    : concat dialect (left ++ right) = concat dialect left ++ concat dialect right := by
  simp [concat]

theorem declarationsFrom_append (start : Nat) (left right : List Slot)
    : declarationsFrom dialect start (left ++ right)
      = declarationsFrom dialect start left
        ++ declarationsFrom dialect (start + (concat dialect left).length) right := by
  induction left generalizing start with
  | nil => rfl
  | cons slot left ih =>
      rw [List.cons_append, declarationsFrom, ih, declarationsFrom, concat_cons,
        List.length_append, Nat.add_assoc]
      rfl

@[simp] theorem map_name_declarationsFrom (start : Nat) (slots : List Slot)
    : (declarationsFrom dialect start slots).map Declaration.name = slots.map Slot.name := by
  induction slots generalizing start with
  | nil => rfl
  | cons slot rest ih => simp [declarationsFrom, ih]

theorem getElem?_declarationsFrom (start index : Nat) (slots : List Slot)
    : (declarationsFrom dialect start slots)[index]?
      = slots[index]?.map fun slot =>
          ⟨slot.name, slot.value, start + (concat dialect (slots.take index)).length,
            start + (concat dialect (slots.take index)).length
              + (renderLiteral dialect slot.value).length⟩ := by
  induction slots generalizing start index with
  | nil => rfl
  | cons slot rest ih =>
      cases index with
      | zero => simp [declarationsFrom]
      | succ index => simp [declarationsFrom, ih, Nat.add_assoc]

/-- The declarations of slots have places from the first literal up to the end of the last. -/
theorem bounds_of_mem_declarationsFrom {start : Nat} {slots : List Slot}
    {declaration : Declaration} (writable : ∀ slot ∈ slots, Writable dialect slot.value)
    (member : declaration ∈ declarationsFrom dialect start slots)
    : start ≤ declaration.start
      ∧ declaration.start < declaration.stop
      ∧ declaration.stop ≤ start + (concat dialect slots).length := by
  induction slots generalizing start with
  | nil => simp [declarationsFrom] at member
  | cons slot rest ih =>
      obtain ⟨head, tail, rendered, _⟩ :=
        Text.renderLiteral_eq_cons dialect (writable slot (by simp)).isNumeral
      rw [concat_cons, List.length_append]
      rcases List.mem_cons.mp member with rfl | later
      · simp only [text, rendered, List.length_append, List.length_cons]
        omega
      · have bounds := ih (fun other inside => writable other (List.mem_cons_of_mem _ inside)) later
        omega

/-- The declarations of slots follow one another. -/
theorem pairwise_declarationsFrom {start : Nat} {slots : List Slot}
    (writable : ∀ slot ∈ slots, Writable dialect slot.value)
    : (declarationsFrom dialect start slots).Pairwise fun left right =>
        left.stop ≤ right.start := by
  induction slots generalizing start with
  | nil => exact List.Pairwise.nil
  | cons slot rest ih =>
      have others : ∀ other ∈ rest, Writable dialect other.value :=
        fun other member => writable other (List.mem_cons_of_mem _ member)
      refine List.Pairwise.cons ?_ (ih others)
      intro declaration member
      have bounds := bounds_of_mem_declarationsFrom others member
      simp only [text, List.length_append] at bounds
      dsimp only
      omega

variable {changed : Declaration} (value : Text)

/-- A change behind slots leaves their declarations as they are. -/
theorem map_exchange_of_before {start : Nat} {slots : List Slot}
    (writable : ∀ slot ∈ slots, Writable dialect slot.value)
    (before : start + (concat dialect slots).length ≤ changed.start)
    : (declarationsFrom dialect start slots).map (changed.exchange dialect value)
      = declarationsFrom dialect start slots := by
  refine (List.map_congr_left ?_).trans (List.map_id _)
  intro declaration inside
  have bounds := bounds_of_mem_declarationsFrom writable inside
  exact if_pos (by omega)

/-- A change in front of slots carries their declarations along. -/
theorem map_exchange_of_behind {start : Nat} (slots : List Slot)
    (filled : changed.start < changed.stop) (behind : changed.stop ≤ start)
    : (declarationsFrom dialect start slots).map (changed.exchange dialect value)
      = declarationsFrom dialect
          (start - changed.stop + (changed.start + (renderLiteral dialect value).length))
          slots := by
  induction slots generalizing start with
  | nil => rfl
  | cons slot rest ih =>
      have moved
          : changed.exchange dialect value
              ⟨slot.name, slot.value, start, start + (renderLiteral dialect slot.value).length⟩
            = ⟨slot.name, slot.value,
                start - changed.stop + (changed.start + (renderLiteral dialect value).length),
                start - changed.stop + (changed.start + (renderLiteral dialect value).length)
                  + (renderLiteral dialect slot.value).length⟩ := by
        unfold Declaration.exchange
        rw [if_neg (by dsimp only; omega), if_neg (by dsimp only; omega)]
        simp only [Declaration.mk.injEq, true_and]
        omega
      rw [declarationsFrom, List.map_cons, moved, ih (by omega), declarationsFrom]
      congr 2
      omega

/-- A change of the declaration of one slot gives the declarations of the slots with the value. -/
theorem map_exchange_of_slot {start : Nat} {left right : List Slot} {slot : Slot}
    (writable : ∀ other ∈ left ++ slot :: right, Writable dialect other.value)
    (starts : changed.start = start + (concat dialect left).length)
    (stops : changed.stop = changed.start + (renderLiteral dialect slot.value).length)
    : (declarationsFrom dialect start (left ++ slot :: right)).map
          (changed.exchange dialect value)
      = declarationsFrom dialect start (left ++ { slot with value := value } :: right) := by
  obtain ⟨head, tail, rendered, _⟩ :=
    Text.renderLiteral_eq_cons dialect (writable slot (by simp)).isNumeral
  have filled : changed.start < changed.stop := by
    simp [stops, rendered]
  have before := map_exchange_of_before value
    (fun other member => writable other (by simp [member])) starts.ge
  have here
      : changed.exchange dialect value
          ⟨slot.name, slot.value, changed.start, changed.stop⟩
        = ⟨slot.name, value, changed.start,
            changed.start + (renderLiteral dialect value).length⟩ := by
    simp [Declaration.exchange]
  have behind
      : (declarationsFrom dialect (changed.stop + slot.gap.length) right).map
            (changed.exchange dialect value)
        = declarationsFrom dialect
            (changed.start + ({ slot with value := value }.text dialect).length) right := by
    rw [map_exchange_of_behind value right filled (Nat.le_add_right _ _), text,
      List.length_append]
    congr 1
    dsimp only
    omega
  rw [declarationsFrom_append, declarationsFrom_append, List.map_append, before, ← starts,
    declarationsFrom, declarationsFrom, List.map_cons, ← stops, here, ← behind, text,
    List.length_append, ← Nat.add_assoc, ← stops]

end Slot

/-- A text as a front without declarations and slots, of which the declarations of the text are
exactly those.
-/
structure Layout (dialect : Dialect) where
  front : Text
  slots : List Slot
  writable : ∀ slot ∈ slots, Writable dialect slot.value
  declared
    : declarations dialect (front ++ Slot.concat dialect slots)
      = Slot.declarationsFrom dialect front.length slots

namespace Layout

variable {dialect : Dialect}

/-- The text of a layout. -/
def text (layout : Layout dialect) : Text :=
  layout.front ++ Slot.concat dialect layout.slots

@[simp] theorem declarations_text (layout : Layout dialect)
    : declarations dialect layout.text
      = Slot.declarationsFrom dialect layout.front.length layout.slots :=
  layout.declared

/-- Lexemes that begin at `start` make up a front and slots with their declarations. -/
def Groups (dialect : Dialect) (start : Nat) (pieces : List Lexeme) : Prop :=
  ∃ front slots,
    Lexeme.concat pieces = front ++ Slot.concat dialect slots
    ∧ (∀ slot ∈ slots, Writable dialect slot.value)
    ∧ Declaration.ofTokens dialect (Token.ofLexemes start pieces)
      = Slot.declarationsFrom dialect (start + front.length) slots

/-- A lexeme at which no declaration begins belongs to the front. -/
theorem Groups.cons {start : Nat} {lexeme : Lexeme} {rest : List Lexeme}
    (groups : Groups dialect (start + lexeme.text.length) rest)
    (skipped
      : Declaration.ofTokens dialect (Token.ofLexemes start (lexeme :: rest))
        = Declaration.ofTokens dialect (Token.ofLexemes (start + lexeme.text.length) rest))
    : Groups dialect start (lexeme :: rest) := by
  obtain ⟨front, slots, whole, writable, declared⟩ := groups
  refine ⟨lexeme.text ++ front, slots, by simp [whole], writable, ?_⟩
  rw [skipped, declared, List.length_append, Nat.add_assoc]

/-- The lexemes of a text can be grouped. By recursion on them: one that does not begin a
declaration is passed over, and behind the literal of a declaration the next slot begins.
-/
theorem groups_of_lexemes (dialect : Dialect) (text : Text) (start : Nat) (pieces : List Lexeme)
    (inside : ∀ lexeme ∈ pieces, lexeme ∈ lexemes dialect text)
    : Groups dialect start pieces := by
  match pieces with
  | [] => exact ⟨[], [], rfl, by simp, rfl⟩
  | lexeme :: rest =>
      have later :=
        groups_of_lexemes dialect text (start + lexeme.text.length) rest
          fun other member => inside other (List.mem_cons_of_mem _ member)
      cases trivia : Token.isTrivia lexeme.kind with
      | true => exact later.cons (by simp [Token.ofLexemes, trivia])
      | false =>
          cases found : Declaration.match? dialect (Token.ofLexemes start (lexeme :: rest)) with
          | none =>
              apply later.cons
              simp only [Token.ofLexemes, trivia, Bool.false_eq_true, if_false] at found ⊢
              exact Declaration.ofTokens_cons_of_none found
          | some declaration =>
              obtain ⟨before, equals, literal, after, tokens, _, reads, declared⟩ :=
                Declaration.ofTokens_of_match? found
              have cut
                  : Token.ofLexemes start (lexeme :: rest)
                    = (before ++ [equals]) ++ literal :: after := by
                rw [tokens]
                simp
              obtain ⟨left, right, split, _, _, starts, stops, behind⟩ :=
                Token.ofLexemes_eq_append_cons cut
              have member : ⟨literal.kind, literal.text⟩ ∈ lexemes dialect text :=
                inside _ (by simp [split])
              obtain ⟨writable, rendered⟩ := reads.renderLiteral member
              -- The gap of the slot is the front of what is behind its literal
              have shorter : right.length < (lexeme :: rest).length := by
                simp [split]
                omega
              obtain ⟨gap, slots, whole, others, more⟩ :=
                groups_of_lexemes dialect text literal.stop right
                  fun other member => inside other (by simp [split, member])
              have here
                  : declaration
                    = ⟨declaration.name, declaration.value, literal.start,
                        literal.start + (renderLiteral dialect declaration.value).length⟩ := by
                rw [← rendered, ← stops, ← reads.start, ← reads.stop]
              refine ⟨Lexeme.concat left, ⟨declaration.name, declaration.value, gap⟩ :: slots,
                ?_, ?_, ?_⟩
              · simp [split, Slot.text, rendered, whole]
              · simpa using ⟨writable, others⟩
              · rw [declared, ← behind, more, stops, ← starts, Slot.declarationsFrom, ← here,
                  Slot.text, List.length_append, rendered, Nat.add_assoc]
termination_by pieces.length
decreasing_by
  · exact Nat.lt_succ_self _
  · exact shorter

/-- Every text has a layout. -/
theorem exists_text_eq (dialect : Dialect) (text : Text)
    : ∃ layout : Layout dialect, layout.text = text := by
  obtain ⟨front, slots, whole, writable, declared⟩ :=
    groups_of_lexemes dialect text 0 (lexemes dialect text) fun _ member => member
  rw [concat_lexemes] at whole
  refine ⟨⟨front, slots, writable, ?_⟩, whole.symm⟩
  rw [← whole, declarations, tokenize, declared, Nat.zero_add]

/-- The declarations of a text follow one another, and each has a literal. -/
theorem pairwise_declarations (dialect : Dialect) (text : Text)
    : (declarations dialect text).Pairwise (fun left right => left.stop ≤ right.start)
      ∧ ∀ declaration ∈ declarations dialect text,
          declaration.start < declaration.stop ∧ declaration.stop ≤ text.length := by
  obtain ⟨layout, rfl⟩ := exists_text_eq dialect text
  rw [declarations_text]
  refine ⟨Slot.pairwise_declarationsFrom layout.writable, fun declaration member => ?_⟩
  have bounds := Slot.bounds_of_mem_declarationsFrom layout.writable member
  rw [Layout.text, List.length_append]
  omega

/-- A declaration is the one found by its name if no earlier declaration has the name. -/
theorem findDeclaration_eq_some_iff {text : Text} {index : Nat} {declaration : Declaration}
    (placed : (declarations dialect text)[index]? = some declaration)
    : findDeclaration dialect text declaration.name = some declaration
      ↔ declaration.name ∉ ((declarations dialect text).map Declaration.name).take index := by
  obtain ⟨ordered, literals⟩ := pairwise_declarations dialect text
  obtain ⟨within, rfl⟩ := List.getElem?_eq_some_iff.mp placed
  have split := List.take_append_drop index (declarations dialect text)
  rw [List.drop_eq_getElem_cons within] at split
  generalize (declarations dialect text)[index] = declaration at split
  rw [findDeclaration, ← List.map_take]
  rw [← split] at ordered literals
  constructor
  · intro found named
    obtain ⟨earlier, member, same⟩ := List.mem_map.mp named
    cases first
        : ((declarations dialect text).take index).find? fun other =>
            other.name = declaration.name with
    | none =>
        rw [List.find?_eq_none] at first
        exact absurd (decide_eq_true same) (first earlier member)
    | some other =>
        rw [← split, List.find?_append, first, Option.some_or] at found
        obtain rfl := Option.some.inj found
        have before := (List.pairwise_append.mp ordered).2.2 other
          (List.mem_of_find?_eq_some first) other (by simp)
        have := (literals other (by simp)).1
        omega
  · intro fresh
    rw [← split, List.find?_append, List.find?_eq_none.mpr, Option.none_or,
      List.find?_cons_of_pos (by simp)]
    intro earlier member same
    exact fresh (List.mem_map.mpr ⟨earlier, member, of_decide_eq_true same⟩)

-----------------------------------------------------------------------------------------
-- Assignment of a value to a name
-----------------------------------------------------------------------------------------

/-- The slots with a value in the first of a name. -/
def assignSlots (name value : Text) : List Slot → List Slot
  | [] => []
  | slot :: rest =>
      if slot.name = name then { slot with value := value } :: rest
      else slot :: assignSlots name value rest

theorem assignSlots_of_absent {name : Text} (value : Text) {slots : List Slot}
    (absent : ∀ slot ∈ slots, slot.name ≠ name)
    : assignSlots name value slots = slots := by
  induction slots with
  | nil => rfl
  | cons slot rest ih =>
      rw [assignSlots, if_neg (absent slot (by simp)),
        ih fun other member => absent other (List.mem_cons_of_mem _ member)]

/-- Of slots with a name, an assignment changes the first. -/
theorem assignSlots_append_cons {name : Text} (value : Text) {left : List Slot} {slot : Slot}
    (right : List Slot) (absent : ∀ other ∈ left, other.name ≠ name) (named : slot.name = name)
    : assignSlots name value (left ++ slot :: right)
      = left ++ { slot with value := value } :: right := by
  induction left with
  | nil => rw [List.nil_append, assignSlots, if_pos named, List.nil_append]
  | cons first left ih =>
      rw [List.cons_append, assignSlots, if_neg (absent first (by simp)),
        ih fun other member => absent other (List.mem_cons_of_mem _ member), List.cons_append]

/-- Slots have none of a name, or a first one. -/
theorem absent_or_first (name : Text) (slots : List Slot)
    : (∀ slot ∈ slots, slot.name ≠ name)
      ∨ ∃ left slot right,
          slots = left ++ slot :: right
          ∧ (∀ other ∈ left, other.name ≠ name)
          ∧ slot.name = name := by
  induction slots with
  | nil => exact Or.inl (by simp)
  | cons slot rest ih =>
      by_cases named : slot.name = name
      · exact Or.inr ⟨[], slot, rest, rfl, by simp, named⟩
      · rcases ih with absent | ⟨left, other, right, rfl, absent, same⟩
        · exact Or.inl (by simpa using ⟨named, absent⟩)
        · exact Or.inr ⟨slot :: left, other, right, rfl, by simpa using ⟨named, absent⟩, same⟩

theorem find?_of_absent {name : Text} {slots : List Slot} (start : Nat)
    (absent : ∀ slot ∈ slots, slot.name ≠ name)
    : (Slot.declarationsFrom dialect start slots).find? (fun declaration =>
        declaration.name = name)
      = none := by
  induction slots generalizing start with
  | nil => rfl
  | cons slot rest ih =>
      rw [Slot.declarationsFrom, List.find?_cons_of_neg (by simp [absent slot]),
        ih _ fun other member => absent other (List.mem_cons_of_mem _ member)]

theorem find?_of_first {name : Text} {left : List Slot} {slot : Slot} (start : Nat)
    (right : List Slot) (absent : ∀ other ∈ left, other.name ≠ name) (named : slot.name = name)
    : (Slot.declarationsFrom dialect start (left ++ slot :: right)).find? (fun declaration =>
        declaration.name = name)
      = some
          ⟨name, slot.value, start + (Slot.concat dialect left).length,
            start + (Slot.concat dialect left).length
              + (renderLiteral dialect slot.value).length⟩ := by
  rw [Slot.declarationsFrom_append, List.find?_append, find?_of_absent start absent,
    Slot.declarationsFrom, List.find?_cons_of_pos (by simp [named]), named]
  rfl

theorem splice_slot (front value : Text) (left right : List Slot) (slot : Slot)
    : Sync.splice (front ++ Slot.concat dialect (left ++ slot :: right))
        (front.length + (Slot.concat dialect left).length)
        (front.length + (Slot.concat dialect left).length
          + (renderLiteral dialect slot.value).length)
        (renderLiteral dialect value)
      = front ++ Slot.concat dialect (left ++ { slot with value := value } :: right) := by
  have spliced := Sync.splice_append (front ++ Slot.concat dialect left)
    (renderLiteral dialect slot.value) (slot.gap ++ Slot.concat dialect right)
    (renderLiteral dialect value)
  simpa [Slot.text] using spliced

/-- Another value in one slot gives the declarations of the slots with that value. -/
theorem declared_exchange {front value : Text} {left right : List Slot} {slot : Slot}
    (writable : ∀ other ∈ left ++ slot :: right, Writable dialect other.value)
    (declared
      : declarations dialect (front ++ Slot.concat dialect (left ++ slot :: right))
        = Slot.declarationsFrom dialect front.length (left ++ slot :: right))
    (newWritable : Writable dialect value)
    : declarations dialect
        (front ++ Slot.concat dialect (left ++ { slot with value := value } :: right))
      = Slot.declarationsFrom dialect front.length
          (left ++ { slot with value := value } :: right) := by
  let start := front.length + (Slot.concat dialect left).length
  let changed : Declaration :=
    ⟨slot.name, slot.value, start, start + (renderLiteral dialect slot.value).length⟩
  have member
      : changed ∈ declarations dialect (front ++ Slot.concat dialect (left ++ slot :: right)) := by
    rw [declared, Slot.declarationsFrom_append]
    simp [Slot.declarationsFrom, changed, start]
  rw [← splice_slot, declarations_splice member newWritable, declared,
    Slot.map_exchange_of_slot value writable rfl rfl]

/-- A layout with a value in the first slot of a name, and the same layout if it has none. -/
def assign (layout : Layout dialect) (name value : Text) (writable : Writable dialect value)
    : Layout dialect where
  front := layout.front
  slots := assignSlots name value layout.slots
  writable := by
    rcases absent_or_first name layout.slots with absent | ⟨left, slot, right, split, absent, named⟩
    · rw [assignSlots_of_absent value absent]
      exact layout.writable
    · rw [split, assignSlots_append_cons value right absent named]
      have kept := layout.writable
      simp only [split, List.mem_append, List.mem_cons] at kept ⊢
      rintro other (before | rfl | behind)
      · exact kept other (Or.inl before)
      · exact writable
      · exact kept other (Or.inr (Or.inr behind))
  declared := by
    rcases absent_or_first name layout.slots with absent | ⟨left, slot, right, split, absent, named⟩
    · rw [assignSlots_of_absent value absent]
      exact layout.declared
    · rw [split, assignSlots_append_cons value right absent named]
      have kept := layout.writable
      have declared := layout.declared
      rw [split] at kept declared
      exact declared_exchange kept declared writable

/-- The value of the first slot of a name. -/
def value? (layout : Layout dialect) (name : Text) : Option Text :=
  (layout.slots.find? fun slot => slot.name = name).map Slot.value

/-- Whether a layout declares a name, and with which value, is what its text says. -/
theorem findDeclaration_text (layout : Layout dialect) (name : Text)
    : (findDeclaration dialect layout.text name).map Declaration.value = layout.value? name := by
  rw [findDeclaration, declarations_text, value?]
  rcases absent_or_first name layout.slots with absent | ⟨left, slot, right, split, absent, named⟩
  · rw [find?_of_absent _ absent, List.find?_eq_none.mpr (by simpa using absent)]
    rfl
  · rw [split, find?_of_first _ right absent named, List.find?_append,
      List.find?_eq_none.mpr (by simpa using absent), List.find?_cons_of_pos (by simp [named])]
    rfl

/-- Writing a literal over the first declaration of a name is its assignment. -/
theorem splice_findDeclaration {layout : Layout dialect} {name value : Text}
    {found : Declaration} (first : findDeclaration dialect layout.text name = some found)
    (writable : Writable dialect value)
    : Sync.splice layout.text found.start found.stop (renderLiteral dialect value)
      = (layout.assign name value writable).text := by
  rw [findDeclaration, declarations_text] at first
  simp only [text, assign]
  rcases absent_or_first name layout.slots with absent | ⟨left, slot, right, split, absent, named⟩
  · rw [find?_of_absent _ absent] at first
    exact absurd first (by simp)
  · rw [split, find?_of_first _ right absent named] at first
    obtain rfl := Option.some.inj first
    rw [split, assignSlots_append_cons value right absent named]
    exact splice_slot layout.front value left right slot

end Layout

end VerifierBootstrap
