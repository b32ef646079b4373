import Rtsp.Pull.Source

/-!
The command line: one address, and options in any order before and behind it. A value stands behind
its option, or behind an equals sign in the same word. A word that is no option and no second
address can be told at once; a value that stands in a word of its own is looked at when the next
word has been understood.
-/
namespace Rtsp.CommandLine

inductive Flag
  | transport
  | readTimeout
  | writeTimeout
  | queueSize
  | rangeType
  | rangeStart
  | fingerprint
  | retryPause
  deriving DecidableEq, Repr

namespace Flag

def all : List Flag :=
  [.transport, .readTimeout, .writeTimeout, .queueSize, .rangeType, .rangeStart, .fingerprint,
   .retryPause]

def name : Flag → Text
  | .transport => "transport".toList
  | .readTimeout => "read-timeout".toList
  | .writeTimeout => "write-timeout".toList
  | .queueSize => "queue-size".toList
  | .rangeType => "range-type".toList
  | .rangeStart => "range-start".toList
  | .fingerprint => "fingerprint".toList
  | .retryPause => "retry-pause".toList

def ofName? (name : Text) : Option Flag := all.find? fun f => f.name == name

/-- The option with the name of its value. -/
def usage (f : Flag) : Text :=
  let value := (Text.upper f.name).map fun c => if c = '-' then '_' else c
  "--".toList ++ f.name ++ " <".toList ++ value ++ ['>']

end Flag

/-- Why a text is no number of a queue's size. -/
inductive SizeFault
  | empty
  | digit
  | tooLarge
  deriving DecidableEq, Repr

def SizeFault.message : SizeFault → Text
  | .empty => "cannot parse integer from empty string".toList
  | .digit => "invalid digit found in string".toList
  | .tooLarge => "number too large to fit in target type".toList

/-- Digits behind `n`; the first that is none, or that makes the number too large, decides. -/
def digits (n : Nat) : Text → Except SizeFault Nat
  | [] => .ok n
  | c :: rest =>
    if c.isDigit then
      let n := n * 10 + (c.toNat - '0'.toNat)
      if n < Text.bound 64 then digits n rest else .error .tooLarge
    else .error .digit

def size (t : Text) : Except SizeFault Nat :=
  if t = [] then .error .empty
  else
    match Text.unsigned t with
    | [] => .error .digit
    | t => digits 0 t

/-- Why the words of a command line cannot be followed. -/
inductive Misuse
  | invalid (flag : Flag) (value reason : Text)
  | missingValue (flag : Flag)
  | repeated (flag : Flag)
  | unexpected (word : Text)
  | unexpectedValue (value word : Text)
  | missingAddress
  deriving DecidableEq, Repr

def hint : Text := "\n\nFor more information, try '--help'.".toList

def usage : Text := "\n\nUsage: rtsp-pull [OPTIONS] <URL>".toList

def Misuse.message (m : Misuse) : Text :=
  "error: ".toList ++
    (match m with
      | .invalid flag value reason =>
        "invalid value '".toList ++ value ++ "' for '".toList ++ flag.usage ++ "': ".toList ++ reason
      | .missingValue flag =>
        "a value is required for '".toList ++ flag.usage ++ "' but none was supplied".toList
      | .repeated flag =>
        "the argument '".toList ++ flag.usage ++ "' cannot be used multiple times".toList ++ usage
      | .unexpected word => "unexpected argument '".toList ++ word ++ "' found".toList ++ usage
      | .unexpectedValue value word =>
        "unexpected value '".toList ++ value ++ "' for '".toList ++ word ++
          "' found; no more were expected".toList ++ usage
      | .missingAddress =>
        "the following required arguments were not provided:\n  <URL>".toList ++
          "\n\nUsage: rtsp-pull <URL>".toList) ++
    hint

/-- What a word may turn out to be. -/
inductive Word
  | separator
  | help
  | helpValue (value : Text)
  | option (flag : Flag) (value : Option Text)
  | unknown (shown : Text)
  | plain
  deriving DecidableEq, Repr

def Word.ofLong (t : Text) : Word :=
  let (name, value) := match Text.cut? '=' t with
    | some (name, value) => (name, some value)
    | none => (t, none)
  if name = "help".toList then
    match value with
    | some value => .helpValue value
    | none => .help
  else
    match Flag.ofName? name with
    | some flag => .option flag value
    | none => .unknown ("--".toList ++ name)

def Word.ofShort (letter : Char) (rest : Text) : Word :=
  if letter = 'h' then .help
  else if letter = 't' then
    match rest with
    | [] => .option .transport none
    | '=' :: value => .option .transport (some value)
    | value => .option .transport (some value)
  else .unknown ['-', letter]

def Word.of : Text → Word
  | ['-', '-'] => .separator
  | '-' :: '-' :: t => .ofLong t
  | '-' :: letter :: rest => .ofShort letter rest
  | _ => .plain

/-- What has been understood: the address, the other settings, the options that were there, and an
option whose value is still to be looked at, or still to come. -/
structure Reading where
  address : Option Text
  draft : Settings.Draft
  used : List Flag
  pending : Option (Flag × Option Text)
  deriving DecidableEq, Repr

def Reading.start : Reading := ⟨none, .ofUrl [], [], none⟩

/-- A fault in the value of an option. -/
def refuse {α : Type} (flag : Flag) (value : Text) : Except Fault α → Except Misuse α
  | .ok x => .ok x
  | .error f => .error (.invalid flag value f.message)

/-- The draft with the value of an option in its place. -/
def assign (d : Settings.Draft) (flag : Flag) (value : Text) : Except Misuse Settings.Draft :=
  match flag with
  | .transport =>
    (refuse flag value (Settings.Preference.parse value)).map fun p => { d with transport := p }
  | .readTimeout =>
    (refuse flag value (Duration.parse value)).map fun t => { d with readTimeout := t }
  | .writeTimeout =>
    (refuse flag value (Duration.parse value)).map fun t => { d with writeTimeout := t }
  | .queueSize =>
    match size value with
    | .ok n => .ok { d with queueSize := n }
    | .error e => .error (.invalid flag value e.message)
  | .rangeType =>
    (refuse flag value (PlayRange.Kind.parse value)).map fun k => { d with rangeKind := k }
  | .rangeStart => .ok { d with rangeStart := value }
  | .fingerprint => .ok { d with pin := some value }
  | .retryPause =>
    (refuse flag value (Duration.parse value)).map fun t => { d with retryPause := t }

namespace Reading

def put (r : Reading) (flag : Flag) (value : Text) : Except Misuse Reading :=
  if r.used.contains flag then .error (.repeated flag)
  else (assign r.draft flag value).map fun d => { r with draft := d, used := flag :: r.used }

/-- The pending option is done with. -/
def resolve (r : Reading) : Except Misuse Reading :=
  match r.pending with
  | none => .ok r
  | some (flag, none) => .error (.missingValue flag)
  | some (flag, some value) => { r with pending := none }.put flag value

/-- The word is the value of an option that waits for one. -/
def awaits? (r : Reading) : Option Flag :=
  match r.pending with
  | some (flag, none) => some flag
  | _ => none

/-- An address, if there is none yet. -/
def takeAddress (r : Reading) (word : Text) : Except Misuse Reading :=
  if r.address.isSome then .error (.unexpected word)
  else r.resolve.map fun r => { r with address := some word }

def takePlain (r : Reading) (word : Text) : Except Misuse Reading :=
  match r.awaits? with
  | some flag => .ok { r with pending := some (flag, some word) }
  | none => r.takeAddress word

def takeOption (r : Reading) (flag : Flag) (value : Option Text) : Except Misuse Reading := do
  let r ← r.resolve
  match value with
  | some value => r.put flag value
  | none => pure { r with pending := some (flag, none) }

end Reading

/-- What the words ask for: an explanation, or a source with these settings. -/
inductive Wish
  | help
  | pull (draft : Settings.Draft)
  deriving DecidableEq, Repr

def finish (r : Reading) : Except Misuse Wish := do
  let r ← r.resolve
  match r.address with
  | some url => pure (.pull { r.draft with url := url })
  | none => throw .missingAddress

/-- Behind a separator every word is an address. -/
def readPlain (r : Reading) : List Text → Except Misuse Wish
  | [] => finish r
  | word :: rest =>
    match r.takeAddress word with
    | .ok r => readPlain r rest
    | .error m => .error m

def read (r : Reading) : List Text → Except Misuse Wish
  | [] => finish r
  | word :: rest =>
    match Word.of word with
    | .separator => readPlain r rest
    | .help => r.resolve.map fun _ => .help
    | .helpValue value => .error (.unexpectedValue value "--help".toList)
    | .unknown shown => .error (.unexpected shown)
    | .plain =>
      match r.takePlain word with
      | .ok r => read r rest
      | .error m => .error m
    | .option flag value =>
      match r.takeOption flag value with
      | .ok r => read r rest
      | .error m => .error m

def parse (words : List Text) : Except Misuse Wish := read .start words

/-- What is to be done: nothing but to say something and leave, or to pull. -/
inductive Action
  | leave (code : UInt32) (output : Text)
  | pull (settings : Settings)

def helpText : Text :=
  "Pull an RTSP stream and log the packets it relays\n\nUsage: rtsp-pull [OPTIONS] <URL>".toList

def action (words : List Text) : Action :=
  match parse words with
  | .error m => .leave 2 m.message
  | .ok .help => .leave 0 helpText
  | .ok (.pull draft) =>
    match draft.build with
    | .error f => .leave 2 ("Invalid configuration: ".toList ++ f.message)
    | .ok settings => .pull settings

def greeting (settings : Settings) : Text :=
  "Pulling ".toList ++ settings.locator.uri ++ " - press Enter to stop".toList

def farewell (s : Pull.Source) : Text :=
  "relayed ".toList ++ Text.decimal s.relayed ++ " packets, dropped ".toList ++
    Text.decimal s.dropped

end Rtsp.CommandLine
