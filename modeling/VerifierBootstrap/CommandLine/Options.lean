import VerifierBootstrap.Text.Digit

/-!
Options on a command line. An option is a word behind two hyphens, which may be cut short as
long as it stays unambiguous; some have a letter behind one hyphen too, and letters may be run
together. A value is the next argument, or stands behind an equals sign. Nothing but options is
allowed.
-/

namespace VerifierBootstrap.CommandLine

/-- An option: its word, its letter if it has one, and whether a value follows. Only options
without a value have letters.
-/
structure Choice where
  word : String
  letter : Option Char
  takesValue : Bool
deriving Repr, DecidableEq

/-- The option that asks for an explanation, which every command line has. -/
def helpChoice : Choice :=
  ⟨"help", some 'h', false⟩

/-- An option that was given, with its value. An option that takes a value is without one if two
hyphens stand in its place.
-/
structure Given where
  choice : Choice
  value : Option Text
deriving Repr, DecidableEq

/-- What an argument is taken for, before its neighbours are looked at. -/
inductive Argument where
  /-- A value, or a word that stands alone. -/
  | plain (text : Text)
  /-- Two hyphens, which make plain whatever follows. -/
  | separator
  /-- It has the form of an option and is none. -/
  | unknown
  | word (choice : Choice) (attached : Option Text)
  /-- A run of letters, of which the first is an option. -/
  | letters (run : Text)
deriving Repr, DecidableEq

/-- A negative numeral, which is a value though it begins with a hyphen: decimal digits, or a
point among them with a digit behind it. A line feed may follow.
-/
def isNegativeNumeral : Text → Bool
  | '-' :: rest =>
      let body := if rest.getLast? = some '\n' then rest.dropLast else rest
      let isDigits := fun text : Text => !text.isEmpty && text.all Text.isDecimal
      isDigits body ||
        match body.dropWhile Text.isDecimal with
        | '.' :: fraction => isDigits fraction
        | _ => false
  | _ => false

/-- The two sides of the first equals sign, if there is one. -/
def splitEquals (text : Text) : Text × Option Text :=
  match text.dropWhile (· ≠ '=') with
  | [] => (text, none)
  | _ :: value => (text.takeWhile (· ≠ '='), some value)

/-- The options that a word may stand for: the one it spells, or else all that it begins. -/
def matching (choices : List Choice) (word : Text) : List Choice :=
  match choices.filter fun choice => choice.word.toList = word with
  | [] => choices.filter fun choice => word.isPrefixOf choice.word.toList
  | exact => exact

/-- The option of a letter. -/
def ofLetter? (choices : List Choice) (letter : Char) : Option Choice :=
  choices.find? fun choice => choice.letter = some letter

/-- An argument that begins with a hyphen and names no option. -/
def unnamed (argument : Text) : Argument :=
  if isNegativeNumeral argument || argument.contains ' ' then .plain argument else .unknown

/-- The letters behind one hyphen. An equals sign behind the first is passed over if more
follows it.
-/
def lettersOf : Text → Text
  | letter :: '=' :: next :: rest => letter :: next :: rest
  | run => run

/-- What an argument is taken for; nothing if it may stand for several options. -/
def classify? (choices : List Choice) (argument : Text) : Option Argument :=
  match argument with
  | ['-', '-'] => some .separator
  | '-' :: '-' :: rest =>
      let (word, attached) := splitEquals rest
      match matching choices word with
      | [] => some (unnamed argument)
      | [choice] => some (.word choice attached)
      | _ => none
  | '-' :: letter :: rest =>
      if (ofLetter? choices letter).isSome then some (.letters (lettersOf (letter :: rest)))
      else some (unnamed argument)
  | _ => some (.plain argument)

/-- What arguments are taken for. Behind the separator all are plain. -/
def classifyAll? (choices : List Choice) : List Text → Option (List Argument)
  | [] => some []
  | argument :: rest =>
      match classify? choices argument with
      | none => none
      | some .separator => some (.separator :: rest.map .plain)
      | some kind => (classifyAll? choices rest).map (kind :: ·)

/-- The options of a run of letters, if each is one. -/
def readLetters? (choices : List Choice) (run : Text) : Option (List Choice) :=
  run.mapM (ofLetter? choices)

/-- The value that is attached to an option. Two hyphens alone are none. -/
def attachedValue (text : Text) : Option Text :=
  if text = ['-', '-'] then none else some text

/-- What a command line comes to. -/
inductive Reading where
  /-- It is refused. -/
  | misused
  /-- It asks for an explanation. -/
  | help
  | options (given : List Given)
deriving Repr, DecidableEq

/-- Reads arguments from left to right. `strange` says that something was no option, which is
refused at the end; a wish for an explanation is granted where it stands.
-/
def readArguments (choices : List Choice) (strange : Bool) (given : List Given)
    : List Argument → Reading
  | [] => if strange then .misused else .options given
  | .plain _ :: rest => readArguments choices true given rest
  | .separator :: rest => readArguments choices true given rest
  | .unknown :: rest => readArguments choices true given rest
  | .letters run :: rest =>
      match readLetters? choices run with
      | none => .misused
      | some found =>
          if found.contains helpChoice then .help
          else readArguments choices strange (given ++ found.map (⟨·, none⟩)) rest
  | .word choice attached :: rest =>
      match choice.takesValue, attached, rest with
      | true, some value, rest =>
          readArguments choices strange (given ++ [⟨choice, attachedValue value⟩]) rest
      | true, none, .plain value :: rest =>
          readArguments choices strange (given ++ [⟨choice, some value⟩]) rest
      | true, none, _ => .misused
      | false, some _, _ => .misused
      | false, none, rest =>
          if choice = helpChoice then .help
          else readArguments choices strange (given ++ [⟨choice, none⟩]) rest

/-- Reads a command line that has the given options. -/
def read (choices : List Choice) (arguments : List String) : Reading :=
  let all := helpChoice :: choices
  match classifyAll? all (arguments.map String.toList) with
  | none => .misused
  | some kinds => readArguments all false [] kinds

/-- Whether an option was given. -/
def isGiven (given : List Given) (choice : Choice) : Bool :=
  given.any fun one => one.choice = choice

/-- The last time that an option was given, which is the one that counts. -/
def last? (given : List Given) (choice : Choice) : Option Given :=
  given.reverse.find? fun one => one.choice = choice

/-- The value of an option unless it is empty, which is as good as none. -/
def filledValue? (given : List Given) (choice : Choice) : Option String :=
  match (last? given choice).bind (·.value) with
  | none | some [] => none
  | some value => some (String.ofList value)

end VerifierBootstrap.CommandLine
