import Mathlib.Data.List.Forall2
import VerifierBootstrap.Proofs.Json.Nesting

/-!
How the walk over the tokens of a value ends. A value is spelled by kinds of tokens if the walk
over such tokens passes from where the value may stand to what may follow it, with the stack that
it began with. The spellings of arrays and objects are put together from those of their parts.
-/

namespace VerifierBootstrap.Json

/-- The walk passes from one state to another over tokens of these kinds. -/
def Leads (kinds : List TokenKind) (expected : Expected) (stack : List Frame) (next : Expected)
    (frames : List Frame)
    : Prop :=
  ∀ tokens rest, tokens.map Token.kind = kinds
    → run expected stack (tokens ++ rest) = run next frames rest

/-- Tokens of these kinds are read as the value wherever a value may stand. -/
def Spells (kinds : List TokenKind) (value : Json) : Prop :=
  ∀ stack,
    Leads kinds .value stack (.after value) stack
    ∧ Leads kinds .firstItem stack (.after value) stack

-----------------------------------------------------------------------------------------
-- Walks
-----------------------------------------------------------------------------------------

/-- The walk goes on behind a step. No step takes the end of the text. -/
theorem run_of_step {expected next : Expected} {stack frames : List Frame} {token : Token}
    {rest : List Token} (stepped : step expected stack token = .ok (next, frames))
    : run expected stack (token :: rest) = run next frames rest := by
  rw [run]
  · rw [stepped]
  · rintro value rfl rfl ended
    rw [step] at stepped
    · exact nomatch stepped
    all_goals simp [ended]

namespace Leads

variable {expected middle next : Expected} {stack between frames : List Frame}
  {first second : List TokenKind} {kind : TokenKind}

/-- No tokens are a walk that stays. -/
theorem nil : Leads [] expected stack expected stack := by
  intro tokens rest same
  rw [List.map_eq_nil_iff.mp same, List.nil_append]

/-- A step is a walk over one token. -/
theorem single (step_eq : ∀ position, step expected stack ⟨kind, position⟩ = .ok (next, frames))
    : Leads [kind] expected stack next frames := by
  intro tokens rest same
  obtain ⟨token, rfl, here⟩ := List.map_eq_singleton_iff.mp same
  rw [← here] at step_eq
  exact run_of_step (step_eq token.position)

/-- One walk behind another. -/
theorem append (walk : Leads first expected stack middle between)
    (more : Leads second middle between next frames)
    : Leads (first ++ second) expected stack next frames := by
  intro tokens rest same
  obtain ⟨left, right, rfl, atFirst, atSecond⟩ := List.map_eq_append_iff.mp same
  rw [List.append_assoc, walk left _ atFirst, more right _ atSecond]

/-- One step in front of a walk. -/
theorem cons (step_eq : ∀ position, step expected stack ⟨kind, position⟩ = .ok (middle, between))
    (more : Leads second middle between next frames)
    : Leads (kind :: second) expected stack next frames :=
  (single step_eq).append more

end Leads

-----------------------------------------------------------------------------------------
-- Values
-----------------------------------------------------------------------------------------

theorem spells_string (points : Points) : Spells [.string points] (.string points) :=
  fun _ => ⟨.single fun _ => rfl, .single fun _ => rfl⟩

theorem spells_scalar (value : Json) : Spells [.scalar value] value :=
  fun _ => ⟨.single fun _ => rfl, .single fun _ => rfl⟩

/-- Items behind another in an open array. By induction on the items. -/
theorem leads_items {kinds : List (List TokenKind)} {items : List Json}
    (spelled : List.Forall₂ Spells kinds items) (before : List Json) (item : Json)
    (stack : List Frame)
    : Leads (kinds.flatMap (.comma :: ·) ++ [.closeArray]) (.after item) (.array before :: stack)
        (.after (.array (before.reverse ++ item :: items))) stack := by
  induction spelled generalizing before item with
  | nil =>
      refine .single fun position => ?_
      rw [← List.reverse_cons]
      rfl
  | @cons kind next kinds items first others ih =>
      rw [List.flatMap_cons, List.append_assoc]
      refine .cons (fun _ => rfl) ((first (.array (item :: before) :: stack)).1.append ?_)
      have more := ih (item :: before) next
      rwa [List.reverse_cons, List.append_assoc, List.singleton_append] at more

/-- An array is spelled by its items, with a comma between any two, in brackets. -/
theorem spells_array {kinds : List (List TokenKind)} {items : List Json}
    (spelled : List.Forall₂ Spells kinds items)
    : Spells (.openArray :: (separated .comma kinds ++ [.closeArray])) (.array items) := by
  intro stack
  have inner
      : Leads (separated .comma kinds ++ [.closeArray]) .firstItem (.array [] :: stack)
          (.after (.array items)) stack := by
    cases spelled with
    | nil => exact .single fun _ => rfl
    | @cons kind item kinds items first others =>
        rw [separated, List.append_assoc]
        exact (first (.array [] :: stack)).2.append (leads_items others [] item stack)
  exact ⟨.cons (fun _ => rfl) inner, .cons (fun _ => rfl) inner⟩

/-- A field is spelled by its key, a colon and its value. -/
def SpellsField (kinds : List TokenKind) (field : Points × Json) : Prop :=
  ∃ rest, kinds = .string field.1 :: .colon :: rest ∧ Spells rest field.2

/-- Sets fields one behind the other. -/
def setFields (before fields : List (Points × Json)) : List (Points × Json) :=
  fields.foldl (fun before field => setField field.1 field.2 before) before

/-- Fields behind another in an open object. By induction on the fields. -/
theorem leads_fields {kinds : List (List TokenKind)} {fields : List (Points × Json)}
    (spelled : List.Forall₂ SpellsField kinds fields) (before : List (Points × Json))
    (key : Points) (value : Json) (stack : List Frame)
    : Leads (kinds.flatMap (.comma :: ·) ++ [.closeObject]) (.after value)
        (.object before key :: stack)
        (.after (.object (setFields (setField key value before) fields))) stack := by
  induction spelled generalizing before key value with
  | nil => exact .single fun _ => rfl
  | @cons kind field kinds fields first others ih =>
      obtain ⟨rest, rfl, spelled⟩ := first
      rw [List.flatMap_cons, List.append_assoc]
      exact .cons (fun _ => rfl) <| .cons (fun _ => rfl) <| .cons (fun _ => rfl) <|
        (spelled (.object (setField key value before) field.1 :: stack)).1.append
          (ih (setField key value before) field.1 field.2)

/-- An object is spelled by its fields, with a comma between any two, in braces. -/
theorem spells_object {kinds : List (List TokenKind)} {fields : List (Points × Json)}
    (spelled : List.Forall₂ SpellsField kinds fields)
    : Spells (.openObject :: (separated .comma kinds ++ [.closeObject]))
        (.object (setFields [] fields)) := by
  intro stack
  have inner
      : Leads (separated .comma kinds ++ [.closeObject]) .firstKey stack
          (.after (.object (setFields [] fields))) stack := by
    cases spelled with
    | nil => exact .single fun _ => rfl
    | @cons kind field kinds fields first others =>
        obtain ⟨rest, rfl, spelled⟩ := first
        rw [separated, List.append_assoc]
        exact .cons (fun _ => rfl) <| .cons (fun _ => rfl) <|
          (spelled (.object [] field.1 :: stack)).1.append
            (leads_fields others [] field.1 field.2 stack)
  exact ⟨.cons (fun _ => rfl) inner, .cons (fun _ => rfl) inner⟩

/-- An object of one field is spelled by the key, a colon and the value, in braces. -/
theorem spells_field {kinds : List TokenKind} {value : Json} (spelled : Spells kinds value)
    (key : Points)
    : Spells (.openObject :: .string key :: .colon :: (kinds ++ [.closeObject]))
        (.object [(key, value)]) := by
  have field : SpellsField (.string key :: .colon :: kinds) (key, value) := ⟨kinds, rfl, spelled⟩
  have single := spells_object (.cons field .nil)
  rwa [separated, List.flatMap_nil, List.append_nil] at single

-----------------------------------------------------------------------------------------
-- Texts
-----------------------------------------------------------------------------------------

/-- Lexemes that are read as tokens which spell a value and have no more than `height` arrays and
objects open at once.
-/
def Writes (height : Nat) (lexemes : List Text) (value : Json) : Prop :=
  ∃ kinds, List.Forall₂ Reads lexemes kinds ∧ Spells kinds value ∧ Nests height kinds

/-- The lexemes of items in brackets. -/
def bracketed (items : List (List Text)) : List Text :=
  ['['] :: (separated [','] items ++ [[']']])

variable {height : Nat}

theorem Writes.mono {more : Nat} {lexemes : List Text} {value : Json}
    (written : Writes height lexemes value) (less : height ≤ more)
    : Writes more lexemes value := by
  obtain ⟨kinds, reads, spelled, nests⟩ := written
  exact ⟨kinds, reads, spelled, nests.mono less⟩

theorem writes_string {text : Text} (plain : ∀ char ∈ text, IsPlain char)
    : Writes 0 ['\x22' :: (text ++ ['\x22'])] (.ofText text) :=
  ⟨_, .cons (reads_string plain) .nil, spells_string _, .cons (fun _ => rfl) .nil⟩

/-- Items that are written are read as tokens that spell them. By induction on the items. -/
theorem exists_kinds_of_writes {items : List (List Text)} {values : List Json}
    (written : List.Forall₂ (Writes height) items values)
    : ∃ kinds,
        List.Forall₂ (List.Forall₂ Reads) items kinds
        ∧ List.Forall₂ Spells kinds values
        ∧ ∀ item ∈ kinds, Nests height item := by
  induction written with
  | nil => exact ⟨[], .nil, .nil, nofun⟩
  | cons first _ ih =>
      obtain ⟨kind, reads, spelled, nests⟩ := first
      obtain ⟨kinds, others, rest, each⟩ := ih
      exact ⟨kind :: kinds, .cons reads others, .cons spelled rest,
        List.forall_mem_cons.mpr ⟨nests, each⟩⟩

theorem writes_array {items : List (List Text)} {values : List Json}
    (written : List.Forall₂ (Writes height) items values)
    : Writes (height + 1) (bracketed items) (.array values) := by
  obtain ⟨kinds, reads, spelled, each⟩ := exists_kinds_of_writes written
  have commas : Reads [','] .comma := reads_mark rfl
  exact ⟨_,
    .cons (reads_mark rfl)
      (List.rel_append (forall₂_separated commas reads) (.cons (reads_mark rfl) .nil)),
    spells_array spelled, .enclosed (fun _ => rfl) (fun _ => rfl) (.separated each)⟩

theorem writes_field {key : Text} {lexemes : List Text} {value : Json}
    (plain : ∀ char ∈ key, IsPlain char) (written : Writes height lexemes value)
    : Writes (height + 1)
        (['\x7b'] :: ('\x22' :: (key ++ ['\x22'])) :: [':'] :: (lexemes ++ [['\x7d']]))
        (.object [(.ofText key, value)]) := by
  obtain ⟨kinds, reads, spelled, nests⟩ := written
  have field : Nests height (.string (.ofText key) :: .colon :: kinds) :=
    .cons (fun _ => rfl) (.cons (fun _ => rfl) nests)
  exact ⟨_,
    .cons (reads_mark rfl) <| .cons (reads_string plain) <| .cons (reads_mark rfl) <|
      List.rel_append reads (.cons (reads_mark rfl) .nil),
    spells_field spelled _, .enclosed (fun _ => rfl) (fun _ => rfl) field⟩

/-- A text that is written from the lexemes of a value is the value, whatever blanks are between
them.
-/
theorem parse_of_spaced {lexemes : List Text} {value : Json} {text : Text}
    (written : Writes height lexemes value) (spaced : Spaced lexemes text)
    : parse text = .ok value := by
  obtain ⟨kinds, reads, spelled, _⟩ := written
  have same := kinds_tokensFrom reads spaced 0
  obtain ⟨before, ending, split, spelling, ended⟩ := List.map_eq_append_iff.mp same
  obtain ⟨token, rfl, last⟩ := List.map_eq_singleton_iff.mp ended
  rw [parse, tokens, split, (spelled []).1 before [token] spelling]
  simp only [run, last]

/-- Blanks open nothing. -/
theorem depth_of_spaced {lexemes : List Text} {value : Json} {text : Text}
    (written : Writes height lexemes value) (spaced : Spaced lexemes text)
    : depth text ≤ height := by
  obtain ⟨kinds, reads, _, nests⟩ := written
  have bounded := nests.bounded 0
  rw [Nat.zero_add] at bounded
  rw [depth, tokens, kinds_tokensFrom reads spaced 0, deepest_append, nests.balanced]
  exact Nat.max_le.mpr ⟨bounded, Nat.zero_le _⟩

end VerifierBootstrap.Json
