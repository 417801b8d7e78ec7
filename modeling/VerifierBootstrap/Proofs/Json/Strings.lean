import Mathlib.Data.Bool.AllAny
import VerifierBootstrap.Proofs.Bytes.Hex
import VerifierBootstrap.Proofs.Json.LongIntegers

/-!
Strings with escapes. What stands between quotes is told by a grammar, and exactly that is read up to
the closing quote. So a string is read the same at every place and before every text.
-/

namespace VerifierBootstrap.Json

/-- What may stand between quotes: plain characters, escapes of one letter, and escapes of four
hexadecimal digits.
-/
inductive IsBody : Text → Prop where
  | nil : IsBody []
  | plain {char : Char} {text : Text} (isPlain : IsPlain char) (rest : IsBody text)
    : IsBody (char :: text)
  | letter {char : Char} {text : Text}
    (letter : char ∈ ['\x22', '\\', '/', 'b', 'f', 'n', 'r', 't']) (rest : IsBody text)
    : IsBody ('\\' :: char :: text)
  | unit {a b c d : Char} {text : Text}
    (digits : ∀ char ∈ [a, b, c, d], char ∈ Hex.lowercase ++ Hex.uppercase) (rest : IsBody text)
    : IsBody ('\\' :: 'u' :: a :: b :: c :: d :: text)

/-- A body between quotes. -/
def quoted (body : Text) : Text :=
  '\x22' :: (body ++ ['\x22'])

variable {body text : Text} {start position : Nat}

/-- The digits of the two rows are those that have a value. -/
theorem mem_rows_iff {char : Char}
    : char ∈ Hex.lowercase ++ Hex.uppercase ↔ ∃ value, Hex.value? char = some value := by
  rw [List.mem_append, List.mem_iff_getElem?, List.mem_iff_getElem?, ← exists_or]
  exact exists_congr fun value => Hex.value?_eq_some_iff.symm

theorem exists_unit?_iff {a b c d : Char}
    : (∃ unit, unit? a b c d = some unit)
      ↔ ∀ char ∈ [a, b, c, d], char ∈ Hex.lowercase ++ Hex.uppercase := by
  simp only [List.forall_mem_cons, mem_rows_iff, unit?]
  constructor
  · rintro ⟨unit, found⟩
    split at found
    · rename_i first second third fourth
      exact ⟨⟨_, first⟩, ⟨_, second⟩, ⟨_, third⟩, ⟨_, fourth⟩, nofun⟩
    · exact nomatch found
  · rintro ⟨⟨_, first⟩, ⟨_, second⟩, ⟨_, third⟩, ⟨_, fourth⟩, _⟩
    rw [first, second, third, fourth]
    exact ⟨_, rfl⟩

theorem exists_escape?_iff {char : Char}
    : (∃ meant, escape? char = some meant)
      ↔ char ∈ ['\x22', '\\', '/', 'b', 'f', 'n', 'r', 't'] := by
  have known
      : ∀ char ∈ ['\x22', '\\', '/', 'b', 'f', 'n', 'r', 't'], (escape? char).isSome = true :=
    List.all_iff_forall_prop.mp (by decide)
  constructor
  · rintro ⟨meant, found⟩
    by_contra other
    simp only [List.mem_cons, List.not_mem_nil, or_false, not_or] at other
    simp [escape?, other] at found
  · exact fun letter => Option.isSome_iff_exists.mp (known char letter)

/-- A body is read up to the closing quote, as the same characters wherever it stands. By induction
on the body.
-/
theorem exists_points_of_isBody (isBody : IsBody body)
    : ∃ points, ∀ start position rest,
        readString start position (body ++ '\x22' :: rest)
        = .ok (points, position + body.length + 1) := by
  induction isBody with
  | nil => exact ⟨[], fun start position rest => by simp [readString]⟩
  | @plain char text isPlain rest ih =>
      obtain ⟨unquoted, unescaped, printable⟩ := isPlain
      obtain ⟨points, read⟩ := ih
      refine ⟨.scalar char :: points, fun start position rest => ?_⟩
      rw [List.cons_append, readString, if_neg unquoted, if_neg (by omega), read]
      · simp
        omega
      all_goals simp [unescaped]
  | @letter char text letter rest ih =>
      obtain ⟨meant, found⟩ := exists_escape?_iff.mpr letter
      have apart : char ≠ 'u' := by
        rintro rfl
        exact absurd letter (by decide)
      obtain ⟨points, read⟩ := ih
      refine ⟨.scalar meant :: points, fun start position rest => ?_⟩
      rw [List.cons_append, List.cons_append, readString, if_neg apart, found]
      · dsimp only
        rw [read]
        simp
        omega
      all_goals simp [apart]
  | @unit a b c d text digits rest ih =>
      obtain ⟨unit, found⟩ := exists_unit?_iff.mpr digits
      obtain ⟨points, read⟩ := ih
      refine ⟨.ofUnit unit :: points, fun start position rest => ?_⟩
      obtain ⟨e, more, behind⟩ : ∃ e more, text ++ '\x22' :: rest = e :: more :=
        List.exists_cons_of_ne_nil (by simp)
      have onward := read start (position + 6) rest
      rw [behind] at onward
      simp only [List.cons_append, behind, readString, found, onward]
      simp
      omega

/-- What is read is a body up to the closing quote. By recursion of the reader. -/
theorem exists_body_of_readString {points : Points} {stop : Nat}
    (read : readString start position text = .ok (points, stop))
    : ∃ body rest, text = body ++ '\x22' :: rest ∧ IsBody body := by
  fun_induction readString start position text generalizing points stop with
  | case4 position a b c d e rest unit found points stop atRest ih =>
      obtain ⟨body, behind, split, isBody⟩ := ih atRest
      exact ⟨'\\' :: 'u' :: a :: b :: c :: d :: body, behind, by rw [split]; rfl,
        .unit (exists_unit?_iff.mp ⟨unit, found⟩) isBody⟩
  | case8 position char rest _ other meant found points stop atRest ih =>
      obtain ⟨body, behind, rfl, isBody⟩ := ih atRest
      exact ⟨'\\' :: char :: body, behind, rfl,
        .letter (exists_escape?_iff.mp ⟨meant, found⟩) isBody⟩
  | case10 position rest =>
      exact ⟨[], rest, rfl, .nil⟩
  | case12 position char rest atEnd _ escaped unquoted printable points stop atRest ih =>
      obtain ⟨body, behind, split, isBody⟩ := ih atRest
      have unescaped : char ≠ '\\' := by
        rintro rfl
        cases rest with
        | nil => exact atEnd rfl rfl
        | cons next rest => exact escaped next rest rfl rfl
      exact ⟨char :: body, behind, by rw [split]; rfl,
        .plain ⟨unquoted, unescaped, Nat.le_of_not_lt printable⟩ isBody⟩
  | _ => cases read

/-- A body between quotes is a lexeme. -/
theorem exists_reads_quoted (isBody : IsBody body)
    : ∃ points, Reads (quoted body) (.string points) := by
  obtain ⟨points, read⟩ := exists_points_of_isBody isBody
  refine ⟨points.joinPairs, .intro rfl fun position rest => ?_⟩
  rw [List.append_assoc, List.singleton_append, readToken]
  simp only [mark?]
  simp [read]
  omega

/-- A string that is closed before a bracket is closed without it. -/
theorem exists_body_of_bracket {points : Points} {stop : Nat}
    (read : readString start position (text ++ [']']) = .ok (points, stop))
    : ∃ body rest, text = body ++ '\x22' :: rest ∧ IsBody body := by
  obtain ⟨body, behind, split, isBody⟩ := exists_body_of_readString read
  rcases List.eq_nil_or_concat behind with rfl | ⟨rest, last, rfl⟩
  · exact absurd (List.append_inj_right' split rfl) (by decide)
  · refine ⟨body, rest, ?_, isBody⟩
    rw [List.concat_eq_append, ← List.cons_append, ← List.append_assoc] at split
    exact List.append_inj_left' split rfl

end VerifierBootstrap.Json
