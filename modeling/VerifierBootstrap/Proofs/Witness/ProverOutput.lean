import VerifierBootstrap.Proofs.Bytes.Hex
import VerifierBootstrap.Proofs.Except
import VerifierBootstrap.Proofs.Witness.FlatSeal

/-!
The format of the output of the prover. A token, a pair of tokens and a pair of pairs are
described without the reader, and exactly they are read. Whatever else stands in a group is
refused with the name of the group, so the first group that is no pair is the one that is named.
-/

namespace VerifierBootstrap

/-- A JSON string is a text if it is the string of the text. By induction on the string. -/
theorem Json.Points.toText?_eq_some_iff {points : Json.Points} {text : Text}
    : points.toText? = some text ↔ points = .ofText text := by
  induction points generalizing text with
  | nil =>
      cases text with
      | nil => exact ⟨fun _ => rfl, fun _ => rfl⟩
      | cons char rest => exact ⟨(nomatch ·), (nomatch ·)⟩
  | cons point points ih =>
      cases point with
      | surrogate unit =>
          cases text with
          | nil => exact ⟨(nomatch ·), (nomatch ·)⟩
          | cons char rest => exact ⟨(nomatch ·), (nomatch ·)⟩
      | scalar char =>
          rw [toText?, Option.map_eq_some_iff]
          constructor
          · rintro ⟨rest, read, rfl⟩
            rw [ih.mp read]
            rfl
          · intro same
            cases text with
            | nil => exact nomatch same
            | cons other rest =>
                obtain ⟨first, more⟩ := List.cons.inj same
                obtain rfl := Json.Point.scalar.inj first
                exact ⟨rest, ih.mpr more, rfl⟩

theorem Json.ofText_injective : Function.Injective Json.ofText := by
  intro text other same
  have found : (Points.ofText text).toText? = some other :=
    Points.toText?_eq_some_iff.mpr (Json.string.inj same)
  rw [Points.toText?_eq_some_iff.mpr rfl] at found
  exact Option.some.inj found

namespace Witness

/-- A token of bytes: a string of digits that spell them, behind one mark or none. -/
def IsToken (value : Json) (bytes : Bytes) : Prop :=
  ∃ mark ∈ Hex.marks, ∃ digits,
    value = Json.ofText (mark ++ digits) ∧ Hex.Spells digits bytes

/-- A list of two items. -/
inductive IsTwo {α : Type} (IsItem : Json → α → Prop) : Json → List α → Prop where
  | intro {first second : Json} {left right : α}
    (atFirst : IsItem first left) (atSecond : IsItem second right)
    : IsTwo IsItem (.array [first, second]) [left, right]

/-- A list of two tokens. -/
def IsPair : Json → List Bytes → Prop :=
  IsTwo IsToken

/-- A list of two lists of two tokens. -/
def IsPairs : Json → List (List Bytes) → Prop :=
  IsTwo IsPair

/-- The groups hold a proof: a pair, two pairs and a pair, and whatever follows them. -/
inductive IsProof : List Json → Groth16Seal → Prop where
  | intro {first second third : Json} {rest : List Json} {a c : List Bytes}
    {b : List (List Bytes)}
    (atFirst : IsPair first a) (atSecond : IsPairs second b) (atThird : IsPair third c)
    : IsProof (first :: second :: third :: rest) ⟨a, b, c⟩

theorem IsProof.exists_eq {items : List Json} {proof : Groth16Seal} (isProof : IsProof items proof)
    : ∃ a₀ a₁ b₀₀ b₀₁ b₁₀ b₁₁ c₀ c₁,
        proof = ⟨[a₀, a₁], [[b₀₀, b₀₁], [b₁₀, b₁₁]], [c₀, c₁]⟩ := by
  obtain ⟨⟨_, _⟩, ⟨⟨_, _⟩, ⟨_, _⟩⟩, ⟨_, _⟩⟩ := isProof
  exact ⟨_, _, _, _, _, _, _, _, rfl⟩

/-- The first fault of the groups is in the group of a name, or in the output as a whole. -/
inductive FirstFault : List Json → String → Prop where
  | output {items : List Json} (few : items.length < 3) : FirstFault items "output"
  | a {first second third : Json} {rest : List Json} (faulty : ¬∃ pair, IsPair first pair)
    : FirstFault (first :: second :: third :: rest) "a"
  | b {first second third : Json} {rest : List Json}
    (atFirst : ∃ pair, IsPair first pair) (faulty : ¬∃ pairs, IsPairs second pairs)
    : FirstFault (first :: second :: third :: rest) "b"
  | c {first second third : Json} {rest : List Json}
    (atFirst : ∃ pair, IsPair first pair) (atSecond : ∃ pairs, IsPairs second pairs)
    (faulty : ¬∃ pair, IsPair third pair)
    : FirstFault (first :: second :: third :: rest) "c"

-----------------------------------------------------------------------------------------
-- What is read
-----------------------------------------------------------------------------------------

section
variable {group : String} {value : Json}

theorem decodeToken_eq_ok_iff {bytes : Bytes}
    : decodeToken group value = .ok bytes ↔ IsToken value bytes := by
  cases value with
  | string points =>
      have read
          : decodeToken group (.string points) = .ok bytes ↔ tokenBytes? points = some bytes := by
        rw [decodeToken]
        cases tokenBytes? points with
        | none => exact ⟨(nomatch ·), (nomatch ·)⟩
        | some other =>
            exact ⟨fun same => congrArg some (Except.ok.inj same),
              fun same => congrArg Except.ok (Option.some.inj same)⟩
      rw [read, tokenBytes?, Option.bind_eq_some_iff]
      constructor
      · rintro ⟨text, found, decoded⟩
        obtain ⟨mark, member, digits, rfl, spelled⟩ :=
          Hex.decode?_dropMark_eq_some_iff.mp decoded
        exact ⟨mark, member, digits,
          congrArg Json.string (Json.Points.toText?_eq_some_iff.mp found), spelled⟩
      · rintro ⟨mark, member, digits, same, spelled⟩
        exact ⟨mark ++ digits,
          Json.Points.toText?_eq_some_iff.mpr (Json.string.inj same),
          Hex.decode?_dropMark_eq_some_iff.mpr ⟨mark, member, digits, rfl, spelled⟩⟩
  | _ =>
      exact ⟨(nomatch ·), fun ⟨_, _, _, same, _⟩ => nomatch same⟩

theorem decodePair_eq_ok_iff {pair : List Bytes}
    : decodePair group value = .ok pair ↔ IsPair value pair := by
  constructor
  · intro decoded
    obtain ⟨items, rfl, two, each⟩ := decodePair_eq_ok decoded
    match items, pair, each with
    | [_, _], [_, _], .cons atFirst (.cons atSecond .nil) =>
        exact .intro (decodeToken_eq_ok_iff.mp atFirst) (decodeToken_eq_ok_iff.mp atSecond)
  · rintro ⟨atFirst, atSecond⟩
    rw [decodePair, if_neg (by simp), List.mapM_cons, decodeToken_eq_ok_iff.mpr atFirst,
      List.mapM_cons, decodeToken_eq_ok_iff.mpr atSecond]
    rfl

theorem decodePairs_eq_ok_iff {pairs : List (List Bytes)}
    : decodePairs group value = .ok pairs ↔ IsPairs value pairs := by
  constructor
  · intro decoded
    obtain ⟨first, second, left, right, rfl, rfl, atFirst, atSecond⟩ := decodePairs_eq_ok decoded
    exact .intro (decodePair_eq_ok_iff.mp atFirst) (decodePair_eq_ok_iff.mp atSecond)
  · rintro ⟨atFirst, atSecond⟩
    rw [decodePairs, List.mapM_cons, decodePair_eq_ok_iff.mpr atFirst, List.mapM_cons,
      decodePair_eq_ok_iff.mpr atSecond]
    rfl

end

-----------------------------------------------------------------------------------------
-- What is refused
-----------------------------------------------------------------------------------------

/-- Whatever fails is a fault of the group. -/
def Blames {α : Type} (group : String) (result : Except Failure α) : Prop :=
  ∀ failure, result = .error failure → ∃ cause, failure = .decode group cause

namespace Blames

variable {α β : Type} {group : String}

theorem ok (value : α) : Blames group (.ok value) :=
  fun _ failed => nomatch failed

theorem error (cause : DecodeFault)
    : Blames group (.error (.decode group cause) : Except Failure α) :=
  fun _ failed => ⟨cause, (Except.error.inj failed).symm⟩

theorem bind {first : Except Failure α} {next : α → Except Failure β}
    (blamed : Blames group first) (later : ∀ value, Blames group (next value))
    : Blames group (first >>= next) := by
  intro failure failed
  cases first with
  | error other => exact blamed failure (congrArg Except.error (Except.error.inj failed))
  | ok value => exact later value failure failed

/-- Items that are decoded one by one. By induction on the items. -/
theorem mapM {decode : α → Except Failure β} (each : ∀ item, Blames group (decode item))
    (items : List α)
    : Blames group (items.mapM decode) := by
  induction items with
  | nil => exact ok []
  | cons item rest ih =>
      rw [List.mapM_cons]
      exact bind (each item) fun _ => bind ih fun _ => ok _

theorem decodeToken (value : Json) : Blames group (Witness.decodeToken group value) := by
  unfold Witness.decodeToken
  split
  · split
    · exact .ok _
    · exact .error _
  · exact .error _

theorem decodePair (value : Json) : Blames group (Witness.decodePair group value) := by
  unfold Witness.decodePair
  split
  · split
    · exact .error _
    · exact .mapM decodeToken _
  · exact .error _

theorem decodePairs (value : Json) : Blames group (Witness.decodePairs group value) := by
  unfold Witness.decodePairs
  split
  · exact .mapM decodePair _
  · exact .error _

end Blames

-----------------------------------------------------------------------------------------
-- The groups of an output
-----------------------------------------------------------------------------------------

section
variable {nesting : Nat} {output : Text}

theorem groups_of_parse {items : List Json}
    (parsed : Json.parseWithin nesting ('[' :: output ++ [']']) = .ok (.array items))
    : groups nesting output = .ok items := by
  rw [groups, parsed]

/-- Too few groups are a fault of the output. -/
theorem readProof_of_few {items : List Json} (found : groups nesting output = .ok items)
    (few : items.length < 3)
    : readProof nesting output = .error (.decode "output" (.groupCount items.length)) := by
  rw [readProof, parse, found]
  rcases items with _ | ⟨_, _ | ⟨_, _ | ⟨_, _⟩⟩⟩
  · rfl
  · rfl
  · rfl
  · simp only [List.length_cons] at few
    omega

/-- The groups are read one behind the other. -/
theorem readProof_of_groups {first second third : Json} {rest : List Json}
    (found : groups nesting output = .ok (first :: second :: third :: rest))
    : readProof nesting output
      = (do
          let a ← decodePair "a" first
          let b ← decodePairs "b" second
          let c ← decodePair "c" third
          return ⟨a, b, c⟩) := by
  rw [readProof, parse, found]
  dsimp only
  cases atFirst : decodePair "a" first with
  | error failure => rfl
  | ok a =>
      cases atSecond : decodePairs "b" second with
      | error failure => rfl
      | ok b =>
          cases atThird : decodePair "c" third with
          | error failure => rfl
          | ok c => rfl

/-- What is accepted is an array with a proof in it. -/
theorem readProof_eq_ok_iff {items : List Json} {proof : Groth16Seal}
    (found : groups nesting output = .ok items)
    : readProof nesting output = .ok proof ↔ IsProof items proof := by
  constructor
  · intro accepted
    match items with
    | [] | [_] | [_, _] => exact nomatch (readProof_of_few found (by simp)).symm.trans accepted
    | first :: second :: third :: rest =>
        rw [readProof_of_groups found] at accepted
        obtain ⟨a, atFirst, accepted⟩ := ok_of_bind accepted
        obtain ⟨b, atSecond, accepted⟩ := ok_of_bind accepted
        obtain ⟨c, atThird, accepted⟩ := ok_of_bind accepted
        obtain rfl := Except.ok.inj accepted
        exact .intro (decodePair_eq_ok_iff.mp atFirst) (decodePairs_eq_ok_iff.mp atSecond)
          (decodePair_eq_ok_iff.mp atThird)
  · rintro ⟨atFirst, atSecond, atThird⟩
    rw [readProof_of_groups found, decodePair_eq_ok_iff.mpr atFirst,
      decodePairs_eq_ok_iff.mpr atSecond, decodePair_eq_ok_iff.mpr atThird]
    rfl

/-- What is refused is refused for its first fault. -/
theorem exists_firstFault {items : List Json} {failure : Failure}
    (found : groups nesting output = .ok items)
    (refused : readProof nesting output = .error failure)
    : ∃ group cause, failure = .decode group cause ∧ FirstFault items group := by
  match items with
  | [] | [_] | [_, _] =>
      rw [readProof_of_few found (by simp)] at refused
      exact ⟨_, _, (Except.error.inj refused).symm, .output (by simp)⟩
  | first :: second :: third :: rest =>
      rw [readProof_of_groups found] at refused
      have unread {α : Type} {result : Except Failure α} {Shape : α → Prop} {other : Failure}
          (read : ∀ {value}, result = .ok value ↔ Shape value) (failed : result = .error other)
          : ¬∃ value, Shape value := by
        rintro ⟨value, sound⟩
        exact nomatch failed.symm.trans (read.mpr sound)
      cases atFirst : decodePair "a" first with
      | error other =>
          obtain ⟨cause, rfl⟩ := Blames.decodePair first other atFirst
          rw [atFirst] at refused
          exact ⟨_, _, (Except.error.inj refused).symm, .a (unread decodePair_eq_ok_iff atFirst)⟩
      | ok a =>
          have first := Exists.intro a (decodePair_eq_ok_iff.mp atFirst)
          cases atSecond : decodePairs "b" second with
          | error other =>
              obtain ⟨cause, rfl⟩ := Blames.decodePairs second other atSecond
              rw [atFirst, atSecond] at refused
              exact ⟨_, _, (Except.error.inj refused).symm,
                .b first (unread decodePairs_eq_ok_iff atSecond)⟩
          | ok b =>
              have second := Exists.intro b (decodePairs_eq_ok_iff.mp atSecond)
              cases atThird : decodePair "c" third with
              | error other =>
                  obtain ⟨cause, rfl⟩ := Blames.decodePair third other atThird
                  rw [atFirst, atSecond, atThird] at refused
                  exact ⟨_, _, (Except.error.inj refused).symm,
                    .c first second (unread decodePair_eq_ok_iff atThird)⟩
              | ok c =>
                  rw [atFirst, atSecond, atThird] at refused
                  exact nomatch refused

/-- The groups of a proof have no fault. -/
theorem FirstFault.not_isProof {items : List Json} {group : String}
    (fault : FirstFault items group) (proof : Groth16Seal)
    : ¬IsProof items proof := by
  rintro ⟨atFirst, atSecond, atThird⟩
  cases fault with
  | output few => exact absurd few (by simp)
  | a faulty => exact faulty ⟨_, atFirst⟩
  | b _ faulty => exact faulty ⟨_, atSecond⟩
  | c _ _ faulty => exact faulty ⟨_, atThird⟩

/-- Of the faults one is the first. -/
theorem FirstFault.unique {items : List Json} {group other : String}
    (fault : FirstFault items group) (again : FirstFault items other)
    : group = other := by
  cases fault with
  | output few =>
      cases again with
      | output => rfl
      | _ => exact absurd few (by simp)
  | a faulty =>
      cases again with
      | output few => exact absurd few (by simp)
      | a => rfl
      | b atFirst | c atFirst => exact absurd atFirst faulty
  | b atFirst faulty =>
      cases again with
      | output few => exact absurd few (by simp)
      | a unsound => exact absurd atFirst unsound
      | b => rfl
      | c _ atSecond => exact absurd atSecond faulty
  | c atFirst atSecond faulty =>
      cases again with
      | output few => exact absurd few (by simp)
      | a unsound => exact absurd atFirst unsound
      | b _ unsound => exact absurd atSecond unsound
      | c => rfl

/-- Of the outputs that are an array in brackets exactly those with the groups of a proof are
accepted, and as the proof that is written there. Every other is refused as a fault in a group,
and the group is the first that is at fault. Witness: a group is read only behind sound ones, and
the reader of a group blames no other.
-/
theorem readProof_accepts_or_blames {items : List Json}
    (parsed : Json.parseWithin nesting ('[' :: output ++ [']']) = .ok (.array items))
    : (∀ proof, readProof nesting output = .ok proof ↔ IsProof items proof)
      ∧ (∀ group,
          (∃ cause, readProof nesting output = .error (.decode group cause))
          ↔ FirstFault items group)
      ∧ ((∃ proof, readProof nesting output = .ok proof)
          ∨ ∃ group cause, readProof nesting output = .error (.decode group cause)) := by
  have found := groups_of_parse parsed
  refine ⟨fun proof => readProof_eq_ok_iff found, fun group => ⟨?_, ?_⟩, ?_⟩
  · rintro ⟨cause, refused⟩
    obtain ⟨other, _, same, fault⟩ := exists_firstFault found refused
    obtain ⟨rfl, _⟩ := Failure.decode.inj same
    exact fault
  · intro fault
    cases read : readProof nesting output with
    | ok proof => exact absurd ((readProof_eq_ok_iff found).mp read) (fault.not_isProof proof)
    | error failure =>
        obtain ⟨other, cause, rfl, first⟩ := exists_firstFault found read
        obtain rfl := fault.unique first
        exact ⟨cause, rfl⟩
  · cases read : readProof nesting output with
    | ok proof => exact .inl ⟨proof, rfl⟩
    | error failure =>
        obtain ⟨group, cause, rfl, _⟩ := exists_firstFault found read
        exact .inr ⟨group, cause, rfl⟩

/-- A token with two marks in the second group is the first fault, although the third group is no
pair either.
-/
theorem readProof_accepts_or_blames_doubled_mark
    : ∃ cause,
        readProof Limits.usual.nesting "[\"0X0a\",\"\"],[[\"00\",\"fF\"],[\"0x0x\",\"\"]],7".toList
        = .error (.decode "b" cause) := by
  have parsed
      : Json.parseWithin Limits.usual.nesting
          ('[' :: "[\"0X0a\",\"\"],[[\"00\",\"fF\"],[\"0x0x\",\"\"]],7".toList ++ [']'])
        = .ok (.array
          [.array [.ofText "0X0a".toList, .ofText []],
            .array [.array [.ofText "00".toList, .ofText "fF".toList],
              .array [.ofText "0x0x".toList, .ofText []]],
            .integer 7]) := by
    cbv
  have first : ∃ pair, IsPair (.array [.ofText "0X0a".toList, .ofText []]) pair := by
    have read
        : decodePair "a" (.array [.ofText "0X0a".toList, .ofText []]) = .ok [[0x0A], []] := by
      decide +kernel
    exact ⟨_, decodePair_eq_ok_iff.mp read⟩
  have second
      : ¬∃ pairs,
          IsPairs
            (.array [.array [.ofText "00".toList, .ofText "fF".toList],
              .array [.ofText "0x0x".toList, .ofText []]])
            pairs := by
    rintro ⟨_, ⟨_, ⟨doubled, _⟩⟩⟩
    have read : decodeToken "b" (.ofText "0x0x".toList) = .ok _ :=
      decodeToken_eq_ok_iff.mpr doubled
    have refused : (decodeToken "b" (.ofText "0x0x".toList)).toOption = none := by decide +kernel
    rw [read] at refused
    cases refused
  exact ((readProof_accepts_or_blames parsed).2.1 "b").mpr (.b first second)

end

end Witness

end VerifierBootstrap
