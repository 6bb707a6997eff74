import Cohort.CommandLine.Arguments
import Cohort.CommandLine.Terminal

/-!
# Grammar of the command line

Arguments are read from left to right. A value that stands apart from its option is
kept unread until the next option is recognized, or the arguments end; so whatever is
not recognized is reported first.
-/

set_option autoImplicit false

namespace Cohort

/-- Options that take a value. -/
inductive Setting where
  | scenario
  | callers
  | keys
  | capacity
  | workMs
  | rounds
  | failCloseEvery
  | workerThreads
deriving DecidableEq

/-- Options that take none. -/
inductive Switch where
  | flakyDials
  | progress
  | verbose
  | quiet
  | help
  | version
deriving DecidableEq

def Setting.all : List Setting :=
  [.scenario, .callers, .keys, .capacity, .workMs, .rounds, .failCloseEvery, .workerThreads]

def Setting.name : Setting → String
  | .scenario => "scenario"
  | .callers => "callers"
  | .keys => "keys"
  | .capacity => "capacity"
  | .workMs => "work-ms"
  | .rounds => "rounds"
  | .failCloseEvery => "fail-close-every"
  | .workerThreads => "worker-threads"

def Setting.valueName : Setting → String
  | .scenario => "SCENARIO"
  | .callers => "CALLERS"
  | .keys => "KEYS"
  | .capacity => "CAPACITY"
  | .workMs => "WORK_MS"
  | .rounds => "ROUNDS"
  | .failCloseEvery => "FAIL_CLOSE_EVERY"
  | .workerThreads => "WORKER_THREADS"

/-- How messages refer to the option. -/
def Setting.usage (setting : Setting) : String :=
  "--" ++ setting.name ++ " <" ++ setting.valueName ++ ">"

def Switch.all : List Switch :=
  [.flakyDials, .progress, .verbose, .quiet, .help, .version]

def Switch.name : Switch → String
  | .flakyDials => "flaky-dials"
  | .progress => "progress"
  | .verbose => "verbose"
  | .quiet => "quiet"
  | .help => "help"
  | .version => "version"

def Switch.letter? : Switch → Option Char
  | .flakyDials | .progress => none
  | .verbose => some 'v'
  | .quiet => some 'q'
  | .help => some 'h'
  | .version => some 'V'

/-- How messages refer to the option. One that may be repeated shows it. -/
def Switch.usage : Switch → String
  | .verbose => "--verbose..."
  | switch => "--" ++ switch.name

/-- Why a text is not a number. -/
inductive NumberError where
  | empty
  | invalidDigit
  | tooLarge
deriving DecidableEq

def NumberError.message : NumberError → String
  | .empty => "cannot parse integer from empty string"
  | .invalidDigit => "invalid digit found in string"
  | .tooLarge => "number too large to fit in target type"

/-- Reads the digits that follow a number read so far. The first fault is told: a
number that has become too large is not read to its end. -/
def readDigits (number : Nat) : List Char → Except NumberError Nat
  | [] => .ok number
  | char :: rest =>
      if char.isDigit then
        let number := 10 * number + (char.toNat - '0'.toNat)
        if number < UInt64.size then readDigits number rest else .error .tooLarge
      else .error .invalidDigit

/-- A decimal number of 64 bits, with at most one plus sign in front. -/
def readNumber (text : String) : Except NumberError Nat :=
  match text.toList with
  | [] => .error .empty
  | ['+'] => .error .invalidDigit
  | '+' :: digits => readDigits 0 digits
  | digits => readDigits 0 digits

/-- Why a command line was not read to its end, asking for help included. -/
inductive UsageError where
  | unexpected (argument : String)
  | missingValue (setting : Setting)
  | repeatedSetting (setting : Setting)
  | repeatedSwitch (switch : Switch)
  | unexpectedValue (value : String) (switch : Switch)
  | invalidNumber (value : String) (setting : Setting) (error : NumberError)
  | invalidScenario (value : String)
  /-- Help was asked for, in full or in short. -/
  | help (full : Bool)
  | version
deriving DecidableEq

/-- The message of a command line that is wrong. Asking for help is not. What it quotes
is quoted as the medium shows it. -/
def UsageError.message (medium : Medium) : UsageError → String
  | .unexpected argument =>
      "error: unexpected argument '" ++ medium.shownText argument ++ "' found"
  | .missingValue setting =>
      "error: a value is required for '" ++ setting.usage ++ "' but none was supplied"
  | .repeatedSetting setting =>
      "error: the argument '" ++ setting.usage ++ "' cannot be used multiple times"
  | .repeatedSwitch switch =>
      "error: the argument '" ++ switch.usage ++ "' cannot be used multiple times"
  | .unexpectedValue value switch =>
      "error: unexpected value '" ++ medium.shownText value ++ "' for '" ++ switch.usage
        ++ "' found; no more were expected"
  | .invalidNumber value setting error =>
      "error: invalid value '" ++ medium.shownText value ++ "' for '" ++ setting.usage ++ "': "
        ++ error.message
  | .invalidScenario value =>
      "error: invalid value '" ++ medium.shownText value ++ "' for '" ++ Setting.scenario.usage
        ++ "'"
  | .help _ | .version => ""

/-- The message up to its first line break; what it quotes may hold one. -/
def UsageError.headline (error : UsageError) (medium : Medium) : String :=
  firstLine (error.message medium)

/-- What was read so far. -/
structure Reading where
  arguments : Arguments := {}
  /-- The options given so far. -/
  settings : List Setting := []
  switches : List Switch := []
  /-- The option that was recognized last, if it takes a value, and the value if it
  stood apart; not read yet. -/
  pending : Option (Setting × Option String) := none

namespace Reading

def setNumber (arguments : Arguments) (number : Nat) : Setting → Arguments
  | .scenario => arguments
  | .callers => { arguments with callers := number }
  | .keys => { arguments with keys := number }
  | .capacity => { arguments with capacity := number }
  | .workMs => { arguments with workMs := number }
  | .rounds => { arguments with rounds := number }
  | .failCloseEvery => { arguments with failCloseEvery := number }
  | .workerThreads => { arguments with workerThreads := number }

/-- Reads the value of an option, which must not have been given before. -/
def assign (reading : Reading) (setting : Setting) (value : String) :
    Except UsageError Reading :=
  if setting ∈ reading.settings then .error (.repeatedSetting setting)
  else
    let settings := reading.settings ++ [setting]
    match setting with
    | .scenario =>
        match Scenario.ofName? value with
        | some scenario =>
            .ok { reading with arguments := { reading.arguments with scenario }, settings }
        | none =>
            if value.isEmpty then .error (.missingValue .scenario)
            else .error (.invalidScenario value)
    | setting =>
        match readNumber value with
        | .error error => .error (.invalidNumber value setting error)
        | .ok number =>
            .ok { reading with arguments := setNumber reading.arguments number setting, settings }

/-- Reads the value that is still unread, now that the next option is recognized. -/
def settle (reading : Reading) : Except UsageError Reading :=
  match reading.pending with
  | none => .ok reading
  | some (setting, none) => .error (.missingValue setting)
  | some (setting, some value) => { reading with pending := none }.assign setting value

/-- Turns a switch on. -/
def turnOn (reading : Reading) (switch : Switch) : Except UsageError Reading := do
  let reading ← reading.settle
  let arguments := reading.arguments
  match switch with
  | .verbose =>
      return { reading with arguments := { arguments with verbose := min 255 (arguments.verbose + 1) } }
  | .help => .error (.help true)
  | .version => .error .version
  | .flakyDials => once reading { arguments with flakyDials := true }
  | .progress => once reading { arguments with progress := true }
  | .quiet => once reading { arguments with quiet := true }
where
  once (reading : Reading) (arguments : Arguments) : Except UsageError Reading :=
    if switch ∈ reading.switches then .error (.repeatedSwitch switch)
    else .ok { reading with arguments, switches := reading.switches ++ [switch] }

/-- Reads an option written in full, without its dashes. -/
def readLong (reading : Reading) (name : String) (value : Option String) :
    Except UsageError Reading :=
  match Switch.all.find? (fun switch => switch.name == name) with
  | some switch =>
      match value with
      | some value => .error (.unexpectedValue value switch)
      | none => reading.turnOn switch
  | none =>
      match Setting.all.find? (fun setting => setting.name == name) with
      | some setting => do
          let reading ← reading.settle
          match value with
          | some value => reading.assign setting value
          | none => return { reading with pending := some (setting, none) }
      | none => .error (.unexpected ("--" ++ name))

/-- Reads a cluster of one-letter options. Help asked for by letter is short. -/
def readLetters (reading : Reading) : List Char → Except UsageError Reading
  | [] => .ok reading
  | letter :: rest =>
      match Switch.all.find? (fun switch => switch.letter? == some letter) with
      | none => .error (.unexpected ("-" ++ letter.toString))
      | some .help => do
          let _ ← reading.settle
          .error (.help false)
      | some switch => do
          let reading ← reading.turnOn switch
          reading.readLetters rest

/-- Reads an argument that is no option: the value of the option before it, if that
still lacks one. -/
def readPlain (reading : Reading) (argument : String) : Except UsageError Reading :=
  match reading.pending with
  | some (setting, none) => .ok { reading with pending := some (setting, some argument) }
  | _ => .error (.unexpected argument)

/-- Reads one argument that is not the end of the options. -/
def readArgument (reading : Reading) (argument : String) : Except UsageError Reading :=
  match argument.toList with
  | '-' :: '-' :: option =>
      let name := option.takeWhile (fun char => char != '=')
      let value :=
        match option.dropWhile (fun char => char != '=') with
        | [] => none
        | _ :: value => some (String.ofList value)
      reading.readLong (String.ofList name) value
  | '-' :: letter :: letters => reading.readLetters (letter :: letters)
  | _ => reading.readPlain argument

/-- Reads all arguments. Nothing may follow the end of the options. -/
def readAll (reading : Reading) : List String → Except UsageError Reading
  | [] => reading.settle
  | "--" :: [] => reading.settle
  | "--" :: argument :: _ => .error (.unexpected argument)
  | argument :: rest => do
      let reading ← reading.readArgument argument
      reading.readAll rest

end Reading

/-- Reads a command line without the name of the program. -/
def Arguments.read (line : List String) : Except UsageError Arguments := do
  let reading ← ({} : Reading).readAll line
  return reading.arguments

end Cohort
