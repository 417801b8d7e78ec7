import VerifierBootstrap.Proofs.Json.Grammar
import VerifierBootstrap.Proofs.Json.Refusals

/-!
Values behind the items of an array. A text that is an array in brackets is cut into the same tokens
when a comma and more values follow it in the brackets. So the array has the same items, and behind
them those of the values, and it is as deep as the deeper part.
-/

namespace VerifierBootstrap.Json

variable {expected next : Expected} {stack frames : List Frame} {text more : Text}
  {token : Token} {tokens : List Token} {kind : TokenKind} {kinds : List TokenKind} {value : Json}

/-- A text that is cut into the tokens of a value is the value. -/
theorem parse_of_lexed (lexed : Lexed text kinds)
    (walk : Leads kinds .value [] (.after value) [])
    : parse text = .ok value := by
  obtain ⟨tokens, same, split⟩ := lexed 0 [] nofun
  rw [List.append_nil] at split
  rw [parse, Json.tokens, split, walk tokens _ same, tokensFrom]
  rfl

/-- The end of a text opens nothing. -/
theorem depth_of_lexed (lexed : Lexed text kinds) : depth text = deepest 0 kinds := by
  obtain ⟨tokens, same, split⟩ := lexed 0 [] nofun
  rw [List.append_nil] at split
  have last (opened : Nat) : deepest opened [.endOfText] = opened := Nat.max_self opened
  rw [depth, Json.tokens, split, tokensFrom, List.map_append, same, deepest_append]
  exact (congrArg _ (last _)).trans (Nat.max_eq_left (openAfter_le_deepest 0 kinds))

/-- In brackets a text is one level deeper. -/
theorem depth_of_lexed_bracketed (lexed : Lexed text kinds)
    : depth ('[' :: text ++ [']']) = deepest 1 kinds := by
  have enclosed : Lexed ('[' :: text ++ [']']) (.openArray :: (kinds ++ [.closeArray])) :=
    lexed.enclosed rfl rfl (by decide)
  have closed (opened : Nat) : deepest opened [.closeArray] = opened :=
    Nat.max_eq_left (Nat.sub_le opened 1)
  rw [depth_of_lexed enclosed, deepest, Nat.max_eq_right (Nat.zero_le _)]
  change deepest 1 (kinds ++ [.closeArray]) = _
  rw [deepest_append, closed]
  exact Nat.max_eq_left (openAfter_le_deepest 1 kinds)

-----------------------------------------------------------------------------------------
-- Tokens before a bracket
-----------------------------------------------------------------------------------------

/-- A sound token before a bracket is read the same before all that cuts it off. -/
theorem readToken_of_bracket {char : Char} {position taken : Nat} (sound : kind.IsSound)
    (read : readToken position char (text ++ [']']) = (kind, taken))
    : taken ≤ text.length
      ∧ ∀ other rest, Cuts rest → readToken other char (text ++ rest) = (kind, taken) := by
  have bracket : Cuts [']'] := cuts_cons (by decide) []
  have here := tokenAt_readToken position char (text ++ [']'])
  rw [read] at here
  cases here with
  | mark mark =>
      refine ⟨Nat.zero_le _, fun other rest _ => ?_⟩
      rw [readToken, mark]
  | string quote closed =>
      obtain rfl := quote
      obtain ⟨body, behind, rfl, isBody⟩ := exists_body_of_bracket closed
      obtain ⟨points, reads⟩ := exists_reads_quoted isBody
      cases reads with
      | intro _ always =>
          have shape (rest : Text)
              : body ++ '\x22' :: behind ++ rest = body ++ ['\x22'] ++ (behind ++ rest) := by
            simp
          rw [shape, always] at read
          rw [← read, ← (Prod.mk.inj read).2]
          refine ⟨by simp, fun other rest _ => ?_⟩
          rw [shape, always]
  | scalar =>
      have again {rest : Text} (cuts : Cuts rest) := readToken_scalar_append bracket cuts read
      exact ⟨(again bracket 0).2, fun other rest cuts => (again cuts other).1⟩
  | broken => exact absurd rfl (sound.whole _)
  | stray => exact absurd rfl sound.regular

-----------------------------------------------------------------------------------------
-- The walk to a bracket
-----------------------------------------------------------------------------------------

/-- Where the first item of an array is expected, the array is open and has none yet. -/
def Begun (expected : Expected) (stack : List Frame) : Prop :=
  expected = .firstItem → ∃ rest, stack = .array [] :: rest

theorem begun_of_step (stepped : step expected stack token = .ok (next, frames))
    : Begun next frames := by
  rintro rfl
  unfold step at stepped
  split at stepped
  all_goals simp_all
  · exact ⟨_, stepped.symm⟩
  · exact ⟨_, stepped.symm⟩

theorem run_endOfText {position : Nat}
    (accepted : run expected stack [⟨.endOfText, position⟩] = .ok value)
    : expected = .after value ∧ stack = [] := by
  unfold run at accepted
  split at accepted
  · obtain rfl := Except.ok.inj accepted
    exact ⟨rfl, rfl⟩
  · split at accepted
    · rename_i stepped
      exact absurd rfl (isSound_of_step stepped).inside
    · cases accepted

theorem step_closeArray {position : Nat}
    (stepped : step expected stack ⟨.closeArray, position⟩ = .ok (next, frames))
    : (expected = .firstItem
        ∧ ∃ items, stack = .array items :: frames ∧ next = .after (.array items.reverse))
      ∨ ∃ value items,
          expected = .after value
          ∧ stack = .array items :: frames
          ∧ next = .after (.array (value :: items).reverse) := by
  unfold step at stepped
  split at stepped
  all_goals simp_all

/-- What is walked over before a bracket is cut into tokens by itself. By induction on the length of
the text, a token less each time.
-/
theorem exists_leads_to_bracket {position : Nat} (begun : Begun expected stack)
    (accepted : run expected stack (tokensFrom position (text ++ [']'])) = .ok value)
    : ∃ kinds next frames,
        Lexed text kinds
        ∧ Leads kinds expected stack next frames
        ∧ openAfter (level expected stack) kinds = level next frames
        ∧ Begun next frames
        ∧ run next frames (tokensFrom (position + text.length) [']']) = .ok value := by
  obtain ⟨size, bound⟩ : ∃ size, text.length < size := ⟨_, Nat.lt_succ_self _⟩
  induction size generalizing text position expected stack with
  | zero => exact absurd bound (Nat.not_lt_zero _)
  | succ size ih =>
      cases text with
      | nil => exact ⟨[], expected, stack, .nil, .nil, rfl, begun, accepted⟩
      | cons char text =>
          rw [List.length_cons] at bound
          rw [List.cons_append, tokensFrom] at accepted
          split at accepted
          · rename_i blank
            obtain ⟨kinds, next, frames, lexed, walk, opened, begun, ended⟩ :=
              ih begun accepted (by omega)
            have blanks : Blanks [char] := by simpa [Blanks, isBlank, or_assoc] using blank
            refine ⟨kinds, next, frames, lexed.blanks_append blanks, walk, opened, begun, ?_⟩
            rwa [List.length_cons, Nat.add_comm text.length, ← Nat.add_assoc]
          · rename_i filled
            cases read : readToken position char (text ++ [']']) with
            | mk kind taken =>
                rw [read] at accepted
                have inside : kind ≠ .endOfText := by
                  have known := readToken_ne_endOfText position char (text ++ [']'])
                  rwa [read] at known
                obtain ⟨middle, between, stepped, accepted⟩ := exists_step_of_run accepted inside
                obtain ⟨short, again⟩ := readToken_of_bracket (isSound_of_step stepped) read
                rw [List.drop_append_of_le_length short] at accepted
                have less : (text.drop taken).length < size := by
                  rw [List.length_drop]
                  omega
                obtain ⟨kinds, next, frames, lexed, walk, opened, begun, ended⟩ :=
                  ih (begun_of_step stepped) accepted less
                rw [← level_of_step stepped] at opened
                refine ⟨kind :: kinds, next, frames,
                  .token taken (by simpa using filled) short again lexed,
                  .cons (step_of_kind stepped) walk, opened, begun, ?_⟩
                have stop
                    : position + 1 + taken + (text.drop taken).length
                      = position + (char :: text).length := by
                  rw [List.length_drop, List.length_cons]
                  omega
                rwa [← stop]

-----------------------------------------------------------------------------------------
-- More items
-----------------------------------------------------------------------------------------

theorem cons_separated {α : Type} {mark : α} {items : List (List α)} (filled : items ≠ [])
    : mark :: separated mark items = items.flatMap (mark :: ·) := by
  cases items with
  | nil => exact absurd rfl filled
  | cons item rest => rfl

/-- An open array, with what was read of it. -/
theorem parse_bracket (text : Text)
    : parse ('[' :: text) = run .firstItem [.array []] (tokensFrom 1 text) := by
  rw [parse, tokens, tokensFrom]
  exact run_of_step rfl

theorem tokensFrom_bracket (position : Nat)
    : tokensFrom position [']'] = [⟨.closeArray, position⟩, ⟨.endOfText, position + 1⟩] := by
  rw [tokensFrom, if_neg (by decide)]
  exact congrArg _ (tokensFrom.eq_1 _)

/-- What is in the brackets of an array that has items leads to the last of them, and closes what it
opens.
-/
theorem exists_leads_of_parse {items : List Json}
    (parsed : parse ('[' :: text ++ [']']) = .ok (.array items)) (filled : items ≠ [])
    : ∃ kinds before item,
        Lexed text kinds
        ∧ Leads kinds .firstItem [.array []] (.after item) [.array before]
        ∧ openAfter 1 kinds = 1
        ∧ items = before.reverse ++ [item] := by
  rw [List.cons_append, parse_bracket] at parsed
  obtain ⟨kinds, next, frames, lexed, walk, opened, begun, ended⟩ :=
    exists_leads_to_bracket (fun _ => ⟨[], rfl⟩) parsed
  rw [tokensFrom_bracket] at ended
  obtain ⟨last, rest, stepped, ended⟩ := exists_step_of_run ended nofun
  obtain ⟨rfl, rfl⟩ := run_endOfText ended
  rcases step_closeArray stepped with ⟨rfl, before, rfl, same⟩ | ⟨item, before, rfl, rfl, same⟩
  · obtain ⟨rest, open_⟩ := begun rfl
    obtain ⟨none, _⟩ := List.cons.inj open_
    obtain rfl := Frame.array.inj none
    exact absurd (Json.array.inj (Expected.after.inj same)) filled
  · refine ⟨kinds, before, item, lexed, walk, opened, ?_⟩
    rw [Json.array.inj (Expected.after.inj same), List.reverse_cons]

/-- Values with commas between them are cut into the tokens of the values. -/
theorem IsSequence.exists_kinds (sequence : IsSequence more)
    : ∃ kinds values,
        kinds ≠ []
        ∧ Lexed more (separated .comma kinds)
        ∧ List.Forall₂ Spells kinds values := by
  obtain ⟨elements, some, each, rfl⟩ := sequence
  obtain ⟨kinds, values, lexed, spelled⟩ :=
    exists_forall₂_between fun element member => (each element member).exists_kinds
  refine ⟨kinds, values, ?_, lexed_separated lexed, spelled⟩
  rintro rfl
  cases lexed
  exact some rfl

section
variable {items : List Json} (parsed : parse ('[' :: text ++ [']']) = .ok (.array items))
  (filled : items ≠ []) (sequence : IsSequence more)
include parsed filled sequence

/-- The items of an array stay when more values are written behind them. -/
theorem parse_append
    : ∃ others,
        parse ('[' :: (text ++ ',' :: more) ++ [']']) = .ok (.array (items ++ others)) := by
  obtain ⟨kinds, before, item, lexed, walk, _, rfl⟩ := exists_leads_of_parse parsed filled
  obtain ⟨others, values, some, lexedOthers, spelled⟩ := sequence.exists_kinds
  have whole := lexed.append_mark lexedOthers (show ',' ∈ cutters by decide) rfl
  have closed := walk.append (leads_items spelled before item [])
  rw [← cons_separated some, ← List.append_assoc] at closed
  refine ⟨values, parse_of_lexed (whole.enclosed rfl rfl (by decide)) ?_⟩
  rw [List.append_assoc before.reverse]
  exact .cons (fun _ => rfl) closed

/-- An array is as deep as the deeper of the values that it had and those written behind them. -/
theorem depth_append
    : depth ('[' :: (text ++ ',' :: more) ++ [']'])
      = max (depth ('[' :: text ++ [']'])) (depth ('[' :: more ++ [']'])) := by
  obtain ⟨kinds, _, _, lexed, _, opened, _⟩ := exists_leads_of_parse parsed filled
  obtain ⟨others, _, _, lexedOthers, _⟩ := sequence.exists_kinds
  have whole := lexed.append_mark lexedOthers (show ',' ∈ cutters by decide) rfl
  have comma
      : deepest 1 (.comma :: separated .comma others) = deepest 1 (separated .comma others) :=
    Nat.max_eq_right (le_deepest 1 _)
  rw [depth_of_lexed_bracketed whole, depth_of_lexed_bracketed lexed,
    depth_of_lexed_bracketed lexedOthers, deepest_append, opened, comma]

end

end VerifierBootstrap.Json
