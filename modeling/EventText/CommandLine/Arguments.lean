import EventText.Request

/-!
Reading the words of a command line: options, flags, the name of a command, and its preset. A
command line is refused for a reason; asking for help is one of them.
-/

namespace EventText

inductive Command where
  | list
  | describe (preset : Text)
  | resolve (request : Request) (json : Bool)

structure Invocation where
  config : Option Text
  command : Command

namespace CommandLine

inductive Refusal where
  | help
  | version
  /-- There is nothing on the command line. -/
  | nothingAsked
  | missingCommand
  | unknownCommand
  | unknownArgument
  | invalidValue
  | unreadableValue
  /-- A flag has a value. -/
  | valueOfFlag
  | repeatedArgument
  | missingArgument
deriving DecidableEq

/-- The exit code. Those who asked for help or the version get what they wanted. -/
def Refusal.exitCode : Refusal → Nat
  | help => 0
  | version => 0
  | _ => 2

/-- Where a word stands: before the command, or behind it. -/
inductive Level where
  | program
  | list
  | describe
  | resolve
deriving DecidableEq

def Level.ofName? (name : Text) : Option Level :=
  [("list", list), ("show", describe), ("resolve", resolve)].findSome? fun entry =>
    if entry.1.toList == name then some entry.2 else none

def helpName : Text :=
  "help".toList

inductive ValueOption where
  | config
  | start
  | finish
  | title
  | description
  | id
  | seed
  | grammar
deriving DecidableEq

inductive Flag where
  | json
  | help
  | version
deriving DecidableEq

inductive Setting where
  | option (option : ValueOption)
  | flag (flag : Flag)
deriving DecidableEq

def commonSettings : List (String × Setting) := [
  ("config", .option .config), ("help", .flag .help), ("h", .flag .help),
  ("version", .flag .version), ("V", .flag .version)]

/-- The settings by their names. A name of one letter follows a single hyphen. -/
def Level.settings : Level → List (String × Setting)
  | resolve => commonSettings ++ [
      ("start", .option .start), ("s", .option .start),
      ("end", .option .finish), ("e", .option .finish),
      ("title", .option .title), ("description", .option .description), ("id", .option .id),
      ("seed", .option .seed), ("grammar", .option .grammar), ("json", .flag .json)]
  | _ => commonSettings

def Level.setting? (level : Level) (name : Text) : Option Setting :=
  (level.settings.find? fun entry => entry.1.toList == name).map (·.2)

def Level.longSetting? (level : Level) (name : Text) : Option Setting :=
  if name.length = 1 then none else level.setting? name

def grammarOf? (name : Text) : Option Grammar :=
  [("regex", Grammar.pattern), ("scanner", .brackets)].findSome? fun entry =>
    if entry.1.toList == name then some entry.2 else none

/-- A seed: digits, perhaps behind a plus sign, in 64 bits. -/
def seedOf? (text : Text) : Option UInt64 :=
  let digits := match text with
    | '+' :: rest => rest
    | digits => digits
  if digits.isEmpty || !digits.all Char.isDigit then none
  else
    let n := digitsValue digits
    if n < UInt64.size then some (UInt64.ofNat n) else none

def ValueOption.refusal? (option : ValueOption) (value : Text) : Option Refusal :=
  match option with
  | config => if value.isEmpty then some .invalidValue else none
  | seed => if (seedOf? value).isNone then some .unreadableValue else none
  | grammar => if (grammarOf? value).isNone then some .invalidValue else none
  | _ => none

/-- What was read last, and is taken in when the next argument begins. -/
inductive Pending where
  | option (option : ValueOption) (value : Option Text)
  | preset (name : Text)

structure Arguments where
  values : List (ValueOption × Text) := []
  json : Bool := false
  preset : Option Text := none
  pending : Option Pending := none
  /-- Two hyphens came, and words are not settings any more. -/
  plainWords : Bool := false

namespace Arguments

def value? (a : Arguments) (option : ValueOption) : Option Text :=
  a.values.lookup option

def set (a : Arguments) (option : ValueOption) (value : Text) : Except Refusal Arguments :=
  if (a.value? option).isSome then .error .repeatedArgument
  else
    match option.refusal? value with
    | some refusal => .error refusal
    | none => .ok { a with values := (option, value) :: a.values }

def settle (a : Arguments) : Except Refusal Arguments :=
  match a.pending with
  | none => .ok a
  | some (.option _ none) => .error .invalidValue
  | some (.option option (some value)) => { a with pending := none }.set option value
  | some (.preset name) => .ok { a with pending := none, preset := some name }

def raiseFlag (a : Arguments) (flag : Flag) : Except Refusal Arguments := do
  let a ← a.settle
  match flag with
  | .help => throw .help
  | .version => throw .version
  | .json => if a.json then throw .repeatedArgument else return { a with json := true }

def attach (a : Arguments) (option : ValueOption) (value : Text) : Except Refusal Arguments := do
  (← a.settle).set option value

def await (a : Arguments) (option : ValueOption) : Except Refusal Arguments := do
  return { ← a.settle with pending := some (.option option none) }

def awaited? (a : Arguments) : Option ValueOption :=
  match a.pending with
  | some (.option option none) => if a.plainWords then none else some option
  | _ => none

def hasPreset (a : Arguments) : Bool :=
  a.preset.isSome ||
    match a.pending with
    | some (.preset _) => true
    | _ => false

/-- Takes a word with two hyphens: a name, and perhaps a value behind an equals sign. -/
def takeLong (a : Arguments) (level : Level) (word : Text) : Except Refusal Arguments :=
  match level.longSetting? (word.takeWhile (· != '=')), word.dropWhile (· != '=') with
  | none, _ => .error .unknownArgument
  | some (.option option), [] => a.await option
  | some (.option option), _ :: value => a.attach option value
  | some (.flag flag), [] => a.raiseFlag flag
  | some (.flag _), _ :: _ => .error .valueOfFlag

/-- Takes the letters behind a single hyphen: flags, and perhaps an option at the end, with its
value glued to it or behind an equals sign. -/
def takeShort (a : Arguments) (level : Level) : Text → Except Refusal Arguments
  | [] => .ok a
  | c :: rest =>
    match level.setting? [c] with
    | none => .error .unknownArgument
    | some (.flag flag) => do (← a.raiseFlag flag).takeShort level rest
    | some (.option option) =>
      match rest with
      | [] => a.await option
      | '=' :: value => a.attach option value
      | value => a.attach option value

def takeWord (a : Arguments) (level : Level) (word : Text) : Except Refusal Arguments :=
  match level with
  | .program =>
    if a.plainWords && ((Level.ofName? word).isSome || word == helpName) then
      .error .unknownArgument
    else
      .error .unknownCommand
  | .list => .error .unknownArgument
  | _ => if a.hasPreset then .error .unknownArgument
    else do return { ← a.settle with pending := some (.preset word) }

def take (a : Arguments) (level : Level) (word : Text) : Except Refusal Arguments :=
  if a.plainWords then a.takeWord level word
  else
    match word with
    | ['-', '-'] => .ok { a with plainWords := true }
    | '-' :: '-' :: setting => a.takeLong level setting
    | '-' :: c :: letters => a.takeShort level (c :: letters)
    | word =>
      match a.awaited? with
      | some option => .ok { a with pending := some (.option option (some word)) }
      | none => a.takeWord level word

def takeAll (a : Arguments) (level : Level) (words : List Text) : Except Refusal Arguments := do
  (← words.foldlM (·.take level) a).settle

def require (argument : Option Text) : Except Refusal Text :=
  match argument with
  | some argument => .ok argument
  | none => .error .missingArgument

def command (a : Arguments) (level : Level) : Except Refusal Command :=
  match level with
  | .program => .error .missingCommand
  | .list => return .list
  | .describe => return .describe (← require a.preset)
  | .resolve => do
    let request := {
      preset := ← require a.preset
      start := ← require (a.value? .start)
      finish := a.value? .finish
      title := a.value? .title
      description := a.value? .description
      id := a.value? .id
      seed := (a.value? .seed).bind seedOf?
      grammar := ((a.value? .grammar).bind grammarOf?).getD .pattern }
    return .resolve request a.json

end Arguments

def helpAbout : List Text → Refusal
  | [] => .help
  | [name] => if (Level.ofName? name).isSome || name == helpName then .help else .unknownCommand
  | _ => .unknownCommand

/-- The invocation by the words before the command, of which `a` are the arguments so far, and those
behind it. The words behind the command are looked at before the last word in front of it, and a
configuration file that is named there counts. -/
def readFrom (a : Arguments) : List Text → Except Refusal Invocation
  | [] => do
    let a ← a.settle
    throw (if a.values.isEmpty then .nothingAsked else .missingCommand)
  | word :: rest =>
    if a.plainWords || a.awaited?.isSome then do
      readFrom (← a.take .program word) rest
    else if word == helpName then
      .error (helpAbout rest)
    else
      match Level.ofName? word with
      | some level => do
        let inner ← Arguments.takeAll {} level rest
        let command ← inner.command level
        let a ← a.settle
        return ⟨(inner.value? .config).or (a.value? .config), command⟩
      | none => do readFrom (← a.take .program word) rest

def readWords (words : List Text) : Except Refusal Invocation :=
  readFrom {} words

end CommandLine

end EventText
