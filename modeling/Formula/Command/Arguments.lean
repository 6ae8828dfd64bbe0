import Formula.Command

/-!
# Command-line arguments

The arguments name a command and its expression, with settings before and after them. A setting is
given once at each of the two places; the limits and the verbosity may stand at both, and then the
one after the command counts. A word that starts with a dash is a setting unless it follows `--`.
-/

namespace Formula.Command

/-- What a dashed argument sets. -/
inductive Setting where
  | verbose
  | maxDepth
  | maxHeight
  | input
  | pretty
  deriving DecidableEq, Repr

namespace Setting

/-- Whether a value follows the name. -/
def takesValue : Setting → Bool
  | .maxDepth | .maxHeight | .input => true
  | .verbose | .pretty => false

/-- The settings that every command has. -/
def shared : List Setting := [.verbose, .maxDepth, .maxHeight]

/-- The setting of a name after two dashes. -/
def ofLong? : String → Option Setting
  | "verbose" => some .verbose
  | "max-depth" => some .maxDepth
  | "max-height" => some .maxHeight
  | "input" => some .input
  | "pretty" => some .pretty
  | _ => none

/-- The setting of a letter after one dash. -/
def ofShort? : Char → Option Setting
  | 'v' => some .verbose
  | 'i' => some .input
  | 'p' => some .pretty
  | _ => none

end Setting

/-- The settings that are given, with their values, and the other words. -/
structure Given where
  settings : List (Setting × String)
  words : List String
  deriving DecidableEq, Repr

namespace Given

/-- Nothing. -/
def empty : Given := ⟨[], []⟩

/-- One more setting. -/
def addSetting (setting : Setting) (value : String) (given : Given) : Given :=
  { given with settings := (setting, value) :: given.settings }

/-- One more word. -/
def addWord (word : String) (given : Given) : Given :=
  { given with words := word :: given.words }

/-- Whether no setting is given twice. -/
def isSettled (given : Given) : Bool :=
  (given.settings.map Prod.fst).Nodup

/-- Whether a setting is given. -/
def has (given : Given) (setting : Setting) : Bool :=
  given.settings.any fun other => other.1 = setting

/-- The value of a setting. -/
def value? (given : Given) (setting : Setting) : Option String :=
  (given.settings.find? fun other => other.1 = setting).map Prod.snd

end Given

/-- An argument by its form: a setting's name with the value after an equals sign, letters, or a
word. A dash alone is a word. -/
inductive Argument where
  | long (name : String) (value : Option String)
  | short (letters : List Char)
  | word (text : String)
  deriving DecidableEq, Repr

/-- The form of an argument. -/
def Argument.ofText (text : String) : Argument :=
  match text.toList with
  | '-' :: '-' :: rest =>
    let name := rest.takeWhile fun c => c ≠ '='
    match rest.drop name.length with
    | [] => .long (String.ofList name) none
    | _ :: value => .long (String.ofList name) (some (String.ofList value))
  | '-' :: c :: rest => .short (c :: rest)
  | _ => .word text

/-- The settings of letters after one dash, and the setting that still needs a value, if the last
one does. Letters after a setting that takes a value are its value. -/
def lettersSettings? (available : List Setting) :
    List Char → Option (List (Setting × String) × Option Setting)
  | [] => some ([], none)
  | c :: rest => do
    let setting ← Setting.ofShort? c
    if available.contains setting then
      if setting.takesValue then
        match rest with
        | [] => return ([], some setting)
        | '=' :: value => return ([(setting, String.ofList value)], none)
        | value => return ([(setting, String.ofList value)], none)
      else
        let (settings, pending) ← lettersSettings? available rest
        return ((setting, "") :: settings, pending)
    else none

/-- A setting that the next argument is the value of, with what the arguments after it give. -/
def withValue? (setting : Setting) (value : String) (given : Option Given) : Option Given :=
  match Argument.ofText value with
  | .word _ => given.map (Given.addSetting setting value)
  | _ => none

/-- What arguments give; `stopAtWord` leaves everything after the first word unread, as words. -/
def read? (available : List Setting) (stopAtWord : Bool) : List String → Option Given
  | [] => some .empty
  | "--" :: rest => if stopAtWord then none else some ⟨[], rest⟩
  | arg :: rest =>
    match Argument.ofText arg with
    | .word text =>
      if stopAtWord then some ⟨[], text :: rest⟩
      else (read? available stopAtWord rest).map (Given.addWord text)
    | .long name value =>
      match (Setting.ofLong? name).filter available.contains, value with
      | none, _ => none
      | some setting, some value =>
        if setting.takesValue then
          (read? available stopAtWord rest).map (Given.addSetting setting value)
        else none
      | some setting, none =>
        if setting.takesValue then
          match rest with
          | value :: rest => withValue? setting value (read? available stopAtWord rest)
          | [] => none
        else (read? available stopAtWord rest).map (Given.addSetting setting "")
    | .short letters =>
      match lettersSettings? available letters with
      | none => none
      | some (settings, pending) =>
        let given := match pending with
          | none => read? available stopAtWord rest
          | some setting =>
            match rest with
            | value :: rest => withValue? setting value (read? available stopAtWord rest)
            | [] => none
        given.map fun given => { given with settings := settings ++ given.settings }

/-- A limit: decimal digits with an optional plus, below `2 ^ 64`. -/
def readLimit? (text : String) : Option Nat :=
  let digits := match text.toList with
    | '+' :: rest => rest
    | chars => chars
  if digits.isEmpty || !digits.all Char.isDigit then none
  else
    let n := Nat.ofDigitChars 10 digits 0
    if n < twoPow 64 then some n else none

/-- The value of a limit: after the command, else before it, else the default. -/
def limitOf? (before after : Given) (setting : Setting) (default : Nat) : Option Nat := do
  let early ← ((before.value? setting).mapM readLimit? : Option (Option Nat))
  let late ← ((after.value? setting).mapM readLimit? : Option (Option Nat))
  return (late <|> early).getD default

/-- A command that is invoked with limits. -/
structure Invocation where
  limits : Limits
  command : Command
  deriving DecidableEq, Repr

/-- The settings that a command's name makes available. -/
def settingsOf? : String → Option (List Setting)
  | "eval" => some (Setting.shared ++ [.input, .pretty])
  | "check" | "tokens" => some Setting.shared
  | _ => none

/-- The command of a name with its expression and settings. -/
def ofName? (name expression : String) (given : Given) : Option Command :=
  match name with
  | "eval" => some (.eval expression (given.value? .input) (given.has .pretty))
  | "check" => some (.check expression)
  | "tokens" => some (.tokens expression)
  | _ => none

/-- Reads arguments as an invocation. -/
def Invocation.ofArguments? (args : List String) : Option Invocation := do
  let before ← read? Setting.shared true args
  let name :: rest := before.words | none
  let after ← read? (← settingsOf? name) false rest
  let [expression] := after.words | none
  let command ← ofName? name expression after
  let defaults : Limits := {}
  let maxDepth ← limitOf? before after .maxDepth defaults.maxDepth
  let maxHeight ← limitOf? before after .maxHeight defaults.maxHeight
  if before.isSettled && after.isSettled then some ⟨⟨maxDepth, maxHeight⟩, command⟩ else none

/-- Runs a program with arguments and standard input; arguments that make no command are an error of
their own. -/
def runArguments (args : List String) (stdin : String) : Outcome :=
  match Invocation.ofArguments? args with
  | some invocation => invocation.command.run invocation.limits stdin
  | none => ⟨2, "", "Invalid arguments\n"⟩

end Formula.Command
