import VerifierBootstrap.Proofs.Json.Lexed
import VerifierBootstrap.Proofs.Json.Values

/-!
How a text is refused. An integer of more digits than are read, and an array or object that there is
no room for, are seen only where a value may stand. So a text is refused for one of them exactly if
the tokens before it could be continued to a whole value. A text with room for all of it is read as
without a limit.
-/

namespace VerifierBootstrap.Json

/-- A value may stand behind tokens of these kinds: with one there they can be continued to those of
a whole value.
-/
def AwaitsValue (kinds : List TokenKind) : Prop :=
  ∃ more value, Leads (kinds ++ .scalar .null :: more) .value [] (.after value) []

/-- The first thing wrong with a text is an integer of so many digits, more than are read. -/
def MeetsLongInteger (nesting : Nat) (text : Text) (digits : Nat) : Prop :=
  ∃ before token after,
    tokens text = before ++ token :: after
    ∧ AwaitsValue (before.map Token.kind)
    ∧ deepest 0 (before.map Token.kind) ≤ nesting
    ∧ BeginsInteger (text.drop token.position) digits
    ∧ integerDigits < digits

/-- The first thing wrong with a text is an array or object that there is no room for. -/
def MeetsTooDeep (nesting : Nat) (text : Text) (enclosure : Enclosure) : Prop :=
  ∃ before token after,
    tokens text = before ++ token :: after
    ∧ AwaitsValue (before.map Token.kind)
    ∧ deepest 0 (before.map Token.kind) ≤ nesting
    ∧ openAfter 0 (before.map Token.kind) = nesting
    ∧ token.kind.opens? = some enclosure

/-- A fault that is not one of the grammar. -/
def Fault.IsLimit (fault : Fault) : Prop :=
  ∀ message position, .malformed message position ≠ fault

/-- A token with nothing wrong in it, which is not the end of the text. -/
structure TokenKind.IsSound (kind : TokenKind) : Prop where
  regular : kind ≠ .stray
  whole : ∀ fault, kind ≠ .broken fault
  inside : kind ≠ .endOfText

/-- A value, or the first item of an array. -/
def Expected.IsOpen (expected : Expected) : Prop :=
  expected = .value ∨ expected = .firstItem

variable {expected next : Expected} {stack frames : List Frame} {token : Token}
  {tokens before after : List Token} {kind : TokenKind} {kinds : List TokenKind} {fault : Fault}
  {value : Json} {text : Text} {nesting : Nat}

-----------------------------------------------------------------------------------------
-- Steps
-----------------------------------------------------------------------------------------

theorem isSound_of_step (stepped : step expected stack token = .ok (next, frames))
    : token.kind.IsSound := by
  unfold step at stepped
  split at stepped
  all_goals constructor <;> simp_all

theorem step_eq_limit_iff (limit : fault.IsLimit)
    : step expected stack token = .error fault
      ↔ expected.IsOpen ∧ token.kind = .broken fault := by
  constructor
  · intro refused
    unfold step at refused
    split at refused
    all_goals simp_all [Expected.IsOpen, Fault.IsLimit]
  · rintro ⟨rfl | rfl, broken⟩
    · simp only [step, broken]
    · simp only [step, broken]

/-- Only where it is wrong the walk looks at the position of a token. -/
theorem step_of_kind {token : Token} (stepped : step expected stack token = .ok (next, frames))
    (position : Nat)
    : step expected stack ⟨token.kind, position⟩ = .ok (next, frames) := by
  unfold step at stepped
  split at stepped
  all_goals simp only [reduceCtorEq, Except.ok.injEq, Prod.mk.injEq] at stepped
  all_goals
    obtain ⟨rfl, rfl⟩ := stepped
    simp_all only [step]

/-- Behind a token that is refused nothing is looked at. -/
theorem run_of_refused {token : Token} {fault : Fault}
    (refused : step expected stack token = .error fault)
    : (∃ value, ∀ rest, run expected stack (token :: rest) = .ok value)
      ∨ ∀ rest, run expected stack (token :: rest) = .error fault := by
  by_cases ended : ∃ value, expected = .after value ∧ stack = [] ∧ token.kind = .endOfText
  · obtain ⟨value, rfl, rfl, last⟩ := ended
    refine .inl ⟨value, fun rest => ?_⟩
    rw [run]
    exact last
  · refine .inr fun rest => ?_
    rw [run, refused]
    rintro value rfl rfl last
    exact ended ⟨value, rfl, rfl, last⟩

/-- A value and what opens one are taken only where a value may stand. -/
theorem isOpen_of_step (stepped : step expected stack token = .ok (next, frames))
    (begins
      : (∃ value, token.kind = .scalar value) ∨ ∃ enclosure, token.kind.opens? = some enclosure)
    : expected.IsOpen := by
  unfold step at stepped
  split at stepped
  all_goals simp_all [Expected.IsOpen, TokenKind.opens?]

/-- What is wrong with a token is wrong where a value may stand, whatever follows. -/
theorem run_of_broken (opened : expected.IsOpen) (broken : token.kind = .broken fault)
    (rest : List Token)
    : run expected stack (token :: rest) = .error fault := by
  rcases opened with rfl | rfl
  · simp [run, step, broken]
  · simp [run, step, broken]

-----------------------------------------------------------------------------------------
-- Walks
-----------------------------------------------------------------------------------------

/-- What is open can be closed. By induction on the stack. -/
theorem exists_leads_after (stack : List Frame) (value : Json)
    : ∃ kinds whole, Leads kinds (.after value) stack (.after whole) [] := by
  induction stack generalizing value with
  | nil =>
      exact ⟨[], value, .nil⟩
  | cons frame stack ih =>
      cases frame with
      | array items =>
          obtain ⟨kinds, whole, walk⟩ := ih (.array (value :: items).reverse)
          exact ⟨.closeArray :: kinds, whole, .cons (fun _ => rfl) walk⟩
      | object fields key =>
          obtain ⟨kinds, whole, walk⟩ := ih (.object (setField key value fields))
          exact ⟨.closeObject :: kinds, whole, .cons (fun _ => rfl) walk⟩

/-- The first step of a walk to the end. Witness: if no step is taken, what follows the token makes
no difference, but the end of the text does.
-/
theorem Leads.exists_step {kind : TokenKind} {value : Json}
    (walk : Leads (kind :: kinds) expected stack (.after value) [])
    : ∃ next frames,
        (∀ position, step expected stack ⟨kind, position⟩ = .ok (next, frames))
        ∧ Leads kinds next frames (.after value) [] := by
  cases stepped : step expected stack ⟨kind, 0⟩ with
  | ok reached =>
      refine ⟨reached.1, reached.2, step_of_kind stepped, fun tokens rest same => ?_⟩
      rw [← run_of_step stepped, ← List.cons_append]
      exact walk (⟨kind, 0⟩ :: tokens) rest (congrArg _ same)
  | error fault =>
      have ends (rest : List Token) :=
        walk (⟨kind, 0⟩ :: kinds.map (⟨·, 0⟩)) rest (by simp [Function.comp_def])
      have atNone := ends []
      have atEnd := ends [⟨.endOfText, 0⟩]
      rcases run_of_refused stepped with ⟨early, same⟩ | same
      · rw [List.cons_append, same] at atNone
        exact nomatch atNone
      · rw [List.cons_append, same] at atEnd
        exact nomatch atEnd

/-- Nothing is wrong along a walk to the end. By induction on its tokens. -/
theorem Leads.isSound (walk : Leads kinds expected stack (.after value) [])
    : ∀ kind ∈ kinds, kind.IsSound := by
  induction kinds generalizing expected stack with
  | nil => exact nofun
  | cons kind kinds ih =>
      obtain ⟨next, frames, stepped, walk⟩ := walk.exists_step
      exact List.forall_mem_cons.mpr ⟨isSound_of_step (stepped 0), ih walk⟩

theorem exists_leads_of_value {more : List TokenKind} {value whole : Json}
    (walk : Leads (kinds ++ .scalar value :: more) expected stack (.after whole) [])
    : ∃ next frames, Leads kinds expected stack next frames ∧ next.IsOpen := by
  induction kinds generalizing expected stack with
  | nil =>
      obtain ⟨next, frames, stepped, _⟩ := walk.exists_step
      exact ⟨expected, stack, .nil, isOpen_of_step (stepped 0) (.inl ⟨value, rfl⟩)⟩
  | cons kind kinds ih =>
      obtain ⟨next, frames, stepped, walk⟩ := walk.exists_step
      obtain ⟨last, between, walked, opened⟩ := ih walk
      exact ⟨last, between, .cons stepped walked, opened⟩

/-- A value may stand where the walk expects one. -/
theorem awaitsValue_iff
    : AwaitsValue kinds ↔ ∃ next frames, Leads kinds .value [] next frames ∧ next.IsOpen := by
  constructor
  · rintro ⟨more, value, walk⟩
    exact exists_leads_of_value walk
  · rintro ⟨next, frames, walk, opened⟩
    obtain ⟨more, whole, closing⟩ := exists_leads_after frames .null
    refine ⟨more, whole, walk.append (.cons (fun _ => ?_) closing)⟩
    rcases opened with rfl | rfl
    · rfl
    · rfl

theorem AwaitsValue.isSound (awaits : AwaitsValue kinds) : ∀ kind ∈ kinds, kind.IsSound := by
  obtain ⟨more, value, walk⟩ := awaits
  exact fun kind member => walk.isSound kind (List.mem_append_left _ member)

/-- The walk is refused for a limit where a value may stand. By induction on the tokens. -/
theorem exists_of_run_eq_limit (limit : fault.IsLimit)
    (refused : run expected stack tokens = .error fault)
    : ∃ before token after next frames,
        tokens = before ++ token :: after
        ∧ Leads (before.map Token.kind) expected stack next frames
        ∧ next.IsOpen
        ∧ token.kind = .broken fault := by
  induction tokens generalizing expected stack with
  | nil => exact absurd (Except.error.inj refused) (limit _ _)
  | cons token tokens ih =>
      cases stepped : step expected stack token with
      | ok reached =>
          rw [run_of_step stepped] at refused
          obtain ⟨before, other, after, next, frames, rfl, walk, opened, broken⟩ := ih refused
          exact ⟨token :: before, other, after, next, frames, rfl,
            .cons (step_of_kind stepped) walk, opened, broken⟩
      | error other =>
          rcases run_of_refused stepped with ⟨value, same⟩ | same
          · exact nomatch (same tokens).symm.trans refused
          · rw [Except.error.inj ((same tokens).symm.trans refused)] at stepped
            obtain ⟨opened, broken⟩ := (step_eq_limit_iff limit).mp stepped
            exact ⟨[], token, tokens, expected, stack, rfl, .nil, opened, broken⟩

/-- A whole walk is refused for a limit exactly if a token that is at it stands where a value may
stand.
-/
theorem run_eq_limit_iff (limit : fault.IsLimit)
    : run .value [] tokens = .error fault
      ↔ ∃ before token after,
          tokens = before ++ token :: after
          ∧ AwaitsValue (before.map Token.kind)
          ∧ token.kind = .broken fault := by
  constructor
  · intro refused
    obtain ⟨before, token, after, next, frames, split, walk, opened, broken⟩ :=
      exists_of_run_eq_limit limit refused
    exact ⟨before, token, after, split, awaitsValue_iff.mpr ⟨next, frames, walk, opened⟩, broken⟩
  · rintro ⟨before, token, after, rfl, awaits, broken⟩
    obtain ⟨next, frames, walk, opened⟩ := awaitsValue_iff.mp awaits
    rw [walk before _ rfl]
    exact run_of_broken opened broken after

theorem exists_step_of_run (accepted : run expected stack (token :: tokens) = .ok value)
    (inside : token.kind ≠ .endOfText)
    : ∃ next frames,
        step expected stack token = .ok (next, frames) ∧ run next frames tokens = .ok value := by
  cases stepped : step expected stack token with
  | error fault =>
      rw [run, stepped] at accepted
      · cases accepted
      · exact fun _ _ _ => inside
  | ok reached =>
      refine ⟨reached.1, reached.2, rfl, ?_⟩
      rwa [run_of_step stepped] at accepted

/-- What is walked over before the end of an accepted text. By induction on it. -/
theorem exists_leads_of_run
    (accepted : run expected stack (before ++ token :: after) = .ok value)
    (inside : ∀ other ∈ before, other.kind ≠ .endOfText)
    : ∃ next frames,
        Leads (before.map Token.kind) expected stack next frames
        ∧ run next frames (token :: after) = .ok value := by
  induction before generalizing expected stack with
  | nil => exact ⟨expected, stack, .nil, accepted⟩
  | cons other before ih =>
      obtain ⟨first, others⟩ := List.forall_mem_cons.mp inside
      obtain ⟨middle, between, stepped, accepted⟩ := exists_step_of_run accepted first
      obtain ⟨next, frames, walk, accepted⟩ := ih accepted others
      exact ⟨next, frames, .cons (step_of_kind stepped) walk, accepted⟩

-----------------------------------------------------------------------------------------
-- Tokens of a text
-----------------------------------------------------------------------------------------

/-- The end of the text is not a token of any character. -/
theorem readToken_ne_endOfText (position : Nat) (char : Char) (text : Text)
    : (readToken position char text).1 ≠ .endOfText := by
  have here := tokenAt_readToken position char text
  intro ended
  generalize readToken position char text = token at here ended
  cases here with
  | @mark kind mark =>
      obtain rfl : kind = .endOfText := ended
      exact isMark_of_mark? mark
  | _ => exact nomatch ended

/-- Nothing stands behind the end of the text. By recursion of the lexer. -/
theorem ne_endOfText_of_tokensFrom {position : Nat}
    (split : tokensFrom position text = before ++ token :: after)
    : ∀ other ∈ before, other.kind ≠ .endOfText := by
  fun_induction tokensFrom position text generalizing before with
  | case1 position =>
      cases before with
      | nil => exact List.forall_mem_nil _
      | cons other before => exact absurd (List.cons.inj split).2 (by simp)
  | case2 position char rest blank ih => exact ih split
  | case3 position char rest filled kind taken read ih =>
      cases before with
      | nil => exact List.forall_mem_nil _
      | cons other before =>
          obtain ⟨rfl, behind⟩ := List.cons.inj split
          have known := readToken_ne_endOfText position char rest
          rw [read] at known
          exact List.forall_mem_cons.mpr ⟨known, ih behind⟩

-----------------------------------------------------------------------------------------
-- Texts with and without room
-----------------------------------------------------------------------------------------

theorem parseWithin_of_depth_le (fits : depth text ≤ nesting)
    : parseWithin nesting text = parse text := by
  rw [parseWithin, within_of_deepest_le fits, parse]

/-- A text without room has a first token that opens one too many, which is met as broken. -/
theorem exists_of_lt_depth (deep : nesting < depth text)
    : ∃ before token enclosure after,
        Json.tokens text = before ++ token :: after
        ∧ token.kind.opens? = some enclosure
        ∧ within nesting 0 (Json.tokens text)
          = before ++ ⟨.broken (.tooDeep enclosure), token.position⟩ :: after := by
  obtain ⟨before, token, enclosure, after, split, fits, full, opens⟩ :=
    exists_of_lt_deepest (Nat.zero_le _) deep
  refine ⟨before, token, enclosure, after, split, opens, ?_⟩
  rw [split, within_append fits, full, within_of_full opens]

/-- A text is read exactly if it is a value and there is room for it. -/
theorem parseWithin_eq_ok_iff
    : parseWithin nesting text = .ok value ↔ parse text = .ok value ∧ depth text ≤ nesting := by
  by_cases fits : depth text ≤ nesting
  · rw [parseWithin_of_depth_le fits, and_iff_left fits]
  · refine ⟨fun accepted => ?_, fun read => absurd read.2 fits⟩
    obtain ⟨before, token, enclosure, after, split, _, broken⟩ :=
      exists_of_lt_depth (Nat.not_le.mp fits)
    rw [parseWithin, broken] at accepted
    obtain ⟨next, frames, _, accepted⟩ :=
      exists_leads_of_run accepted (ne_endOfText_of_tokensFrom split)
    obtain ⟨_, _, stepped, _⟩ := exists_step_of_run accepted nofun
    exact absurd rfl ((isSound_of_step stepped).whole _)

/-- A value that there is no room for is refused for that. -/
theorem exists_tooDeep_of_parse (parsed : parse text = .ok value) (deep : nesting < depth text)
    : ∃ enclosure, parseWithin nesting text = .error (.tooDeep enclosure) := by
  obtain ⟨before, token, enclosure, after, split, opens, broken⟩ := exists_of_lt_depth deep
  rw [parse, split] at parsed
  obtain ⟨next, frames, walk, accepted⟩ :=
    exists_leads_of_run parsed (ne_endOfText_of_tokensFrom split)
  have inside : token.kind ≠ .endOfText := by
    intro ended
    rw [ended] at opens
    cases opens
  obtain ⟨_, _, stepped, _⟩ := exists_step_of_run accepted inside
  refine ⟨enclosure, ?_⟩
  rw [parseWithin, broken, walk before _ rfl]
  exact run_of_broken (isOpen_of_step stepped (.inr ⟨enclosure, opens⟩)) rfl after

/-- A text is refused for an integer of so many digits exactly if it is the first thing wrong. -/
theorem parseWithin_eq_longInteger_iff {digits : Nat}
    : parseWithin nesting text = .error (.longInteger digits)
      ↔ MeetsLongInteger nesting text digits := by
  rw [parseWithin, run_eq_limit_iff fun _ _ => by simp]
  constructor
  · rintro ⟨before, token, after, split, awaits, broken⟩
    obtain ⟨fits, original, rest, within, rfl | ⟨_, enclosure, _, other⟩⟩ :=
      exists_of_within (Nat.zero_le _) split fun other member =>
        (awaits.isSound _ (List.mem_map_of_mem member)).whole
    · have member : token ∈ Json.tokens text := by simp [within]
      exact ⟨before, token, rest, within, awaits, fits, (kind_eq_longInteger_iff member).mp broken⟩
    · cases broken.symm.trans other
  · rintro ⟨before, token, after, split, awaits, fits, long⟩
    have member : token ∈ Json.tokens text := by simp [split]
    have broken := (kind_eq_longInteger_iff member).mpr long
    have room : token.kind.openBehind (openAfter 0 (before.map Token.kind)) ≤ nesting := by
      rw [broken]
      exact Nat.le_trans (openAfter_le_deepest 0 _) fits
    have reached := within_append fits (token :: after)
    rw [within_cons room, ← split] at reached
    exact ⟨before, token, _, reached, awaits, broken⟩

/-- A text is refused for an array or object without room exactly if it is the first thing wrong.
-/
theorem parseWithin_eq_tooDeep_iff {enclosure : Enclosure}
    : parseWithin nesting text = .error (.tooDeep enclosure)
      ↔ MeetsTooDeep nesting text enclosure := by
  rw [parseWithin, run_eq_limit_iff fun _ _ => by simp]
  constructor
  · rintro ⟨before, token, after, split, awaits, broken⟩
    obtain ⟨fits, original, rest, within, rfl | ⟨full, other, opens, same⟩⟩ :=
      exists_of_within (Nat.zero_le _) split fun other member =>
        (awaits.isSound _ (List.mem_map_of_mem member)).whole
    · have member : token ∈ Json.tokens text := by simp [within]
      exact absurd broken (kind_ne_tooDeep member enclosure)
    · cases broken.symm.trans same
      exact ⟨before, original, rest, within, awaits, fits, full, opens⟩
  · rintro ⟨before, token, after, split, awaits, fits, full, opens⟩
    refine ⟨before, ⟨.broken (.tooDeep enclosure), token.position⟩, after, ?_, awaits, rfl⟩
    rw [split, within_append fits, full, within_of_full opens]

end VerifierBootstrap.Json
