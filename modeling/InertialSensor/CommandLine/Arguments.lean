/-!
# Arguments

The options come before the command, those of the command after it. A short option may carry its
value in the same word, with or without an equals sign, and short options may share a word, as in
`-XR4`; a long option carries its value after an equals sign or in the next word. A value in a word
of its own does not start with a dash. No option may be given twice.
-/

namespace InertialSensor.CommandLine

/-- Where the sensor's transport comes from. -/
inductive Backend where
  | simulated
  | adapter
deriving DecidableEq

/-- What is asked of the sensor. -/
inductive Command where
  /-- Sample and print reports, for a number of seconds or until interrupted. -/
  | start (seconds : Option Nat)
  | test
  | reset
  | info
  | registers
  | provoke
deriving DecidableEq

/-- A command line. -/
structure Request where
  external : Bool
  mounting : Nat
  rangeG : Nat
  backend : Backend
  channel : Nat
  command : Command
deriving DecidableEq

/-! ### Words -/

/-- An option that can be given. -/
structure Flag where
  short : Option Char
  long : String
  takesValue : Bool
deriving DecidableEq

/-- An option as given, with its value if it takes one. -/
abbrev Given := Flag × String

/-- A word that can be a value: one that does not start with a dash, or a dash alone. -/
def isValue (word : String) : Bool :=
  match word.toList with
  | '-' :: _ :: _ => false
  | _ => true

/-- The options in a word of short ones, and the words left. -/
def shortOptions (flags : List Flag) : List Char → List String → Option (List Given × List String)
  | [], words => some ([], words)
  | c :: cs, words =>
    match flags.find? fun f => f.short = some c with
    | none => none
    | some f =>
      if f.takesValue then
        match cs, words with
        | [], value :: words => if isValue value then some ([(f, value)], words) else none
        | [], [] => none
        | '=' :: value, words => some ([(f, String.ofList value)], words)
        | value, words => some ([(f, String.ofList value)], words)
      else
        (shortOptions flags cs words).map fun (given, words) => ((f, "") :: given, words)

/-- The option in a word of a long one without its dashes, and the words left. -/
def longOption (flags : List Flag) (word : List Char) (words : List String) :
    Option (List Given × List String) :=
  let name := word.takeWhile (· ≠ '=')
  let attached := word.dropWhile (· ≠ '=')
  match flags.find? fun f => f.long.toList = name with
  | none => none
  | some f =>
    match f.takesValue, attached, words with
    | false, [], words => some ([(f, "")], words)
    | true, _ :: value, words => some ([(f, String.ofList value)], words)
    | true, [], value :: words => if isValue value then some ([(f, value)], words) else none
    | _, _, _ => none

/-- The options at the start of a list of words, and the words from the first one that is no option
on; at most `fuel` words are looked at. -/
def options (flags : List Flag) : (fuel : Nat) → List String → Option (List Given × List String)
  | 0, words => some ([], words)
  | _ + 1, [] => some ([], [])
  | fuel + 1, word :: words =>
    let taken :=
      match word.toList with
      | '-' :: '-' :: c :: cs => longOption flags (c :: cs) words
      | ['-', '-'] => some ([], "--" :: words)
      | '-' :: c :: cs => shortOptions flags (c :: cs) words
      | _ => some ([], word :: words)
    match taken with
    | none => none
    | some ([], words) => some ([], words)
    | some (given, words) =>
      (options flags fuel words).map fun (others, words) => (given ++ others, words)

/-! ### Values -/

/-- The value of a text of decimal digits, of which there must be one. -/
def digits? (cs : List Char) : Option Nat :=
  if cs.isEmpty ∨ ¬ cs.all (·.isDigit) then none
  else some (cs.foldl (fun n c => 10 * n + (c.toNat - '0'.toNat)) 0)

/-- A natural number below a bound, with an optional plus sign. Where `signed`, minus zero is zero
too. -/
def number? (signed : Bool) (bound : Nat) (s : String) : Option Nat :=
  let value :=
    match s.toList with
    | '+' :: cs => digits? cs
    | '-' :: cs => if signed then (digits? cs).filter (· = 0) else none
    | cs => digits? cs
  value.filter (· < bound)

def backend? (s : String) : Option Backend :=
  if s = "sim" then some .simulated else if s = "ftdi" then some .adapter else none

/-! ### Command lines -/

def externalFlag : Flag := ⟨some 'X', "external", false⟩

def mountingFlag : Flag := ⟨some 'R', "rotation", true⟩

def rangeFlag : Flag := ⟨some 'a', "accel-range", true⟩

def backendFlag : Flag := ⟨none, "bus", true⟩

def channelFlag : Flag := ⟨none, "channel", true⟩

def durationFlag : Flag := ⟨some 'd', "duration", true⟩

/-- The options that come before the command. -/
def leadingFlags : List Flag := [externalFlag, mountingFlag, rangeFlag, backendFlag, channelFlag]

/-- No option is given twice. -/
def isUnambiguous (given : List Given) : Bool := decide (given.map (·.1)).Nodup

/-- The value of an option, or a default if it is not given; `none` if the value is malformed. -/
def valueOr {α : Type} (given : List Given) (f : Flag) (default : α) (read : String → Option α) :
    Option α :=
  match given.find? fun g => g.1 = f with
  | none => some default
  | some (_, value) => read value

/-- The words after a command: options, and at most a closing double dash. -/
def trailing? (flags : List Flag) (words : List String) : Option (List Given) :=
  match options flags (words.length + 1) words with
  | some (given, []) | some (given, ["--"]) => if isUnambiguous given then some given else none
  | _ => none

/-- The command that a word names, with the words after it. -/
def command? (word : String) (words : List String) : Option Command :=
  let plain (c : Command) : Option Command := (trailing? [] words).map fun _ => c
  match word with
  | "start" => do
    let given ← trailing? [durationFlag] words
    let seconds ← valueOr given durationFlag none fun s => (number? false UInt64.size s).map some
    pure (.start seconds)
  | "test" => plain .test
  | "reset" => plain .reset
  | "info" => plain .info
  | "regdump" => plain .registers
  | "testerror" => plain .provoke
  | _ => none

/-- A whole command line, unless it is malformed. -/
def parse? (words : List String) : Option Request := do
  let (given, rest) ← options leadingFlags (words.length + 1) words
  match rest with
  | [] => none
  | word :: words =>
    if isUnambiguous given then
      let mounting ← valueOr given mountingFlag 0 (number? true UInt8.size)
      let rangeG ← valueOr given rangeFlag 8 (number? true UInt32.size)
      let backend ← valueOr given backendFlag .simulated backend?
      let channel ← valueOr given channelFlag 0 (number? true UInt32.size)
      let command ← command? word words
      pure
        { external := given.any fun g => g.1 = externalFlag
          mounting := mounting
          rangeG := rangeG
          backend := backend
          channel := channel
          command := command }
    else none

end InertialSensor.CommandLine
