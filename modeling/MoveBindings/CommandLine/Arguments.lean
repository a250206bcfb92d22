import MoveBindings.Text.Digit
import MoveBindings.Text.Quoted
import MoveBindings.Text.Search

/-!
# Command line arguments

The command takes one manifest and options. A long option may be shortened as
long as it stays unambiguous, and takes its value after an equals sign or as
the next argument. Short flags may be written together, the last of them with a
value that follows directly. An argument that starts with a dash is an option,
unless it is a negative number, a dash alone, or an unknown one with a space in
it. Two dashes end the options, and are no value of an option either.
-/

namespace MoveBindings.CommandLine

/-- The options. -/
inductive Switch where
  | help
  | output
  | config
  | name
  | stdout
  | noScaffold
  | verbose
deriving DecidableEq, Repr

namespace Switch

/-- All options, in the order in which they are described. -/
def all : List Switch := [.help, .output, .config, .name, .stdout, .noScaffold, .verbose]

/-- The spellings of an option. -/
def spellings : Switch → List String
  | .help => ["-h", "--help"]
  | .output => ["-o", "--output"]
  | .config => ["-c", "--config"]
  | .name => ["-n", "--name"]
  | .stdout => ["--stdout"]
  | .noScaffold => ["--no-scaffold"]
  | .verbose => ["-v", "--verbose"]

/-- Whether an option has a value. -/
def takesValue : Switch → Bool
  | .output | .config | .name => true
  | .help | .stdout | .noScaffold | .verbose => false

/-- An option as errors name it. -/
def title (s : Switch) : String := "/".intercalate s.spellings

/-- Every spelling with its option. -/
def table : List (String × Switch) :=
  all.flatMap fun s => s.spellings.map fun spelling => (spelling, s)

/-- The option of a spelling. -/
def ofSpelling? (spelling : String) : Option Switch := table.lookup spelling

end Switch

/-- What can be wrong with the arguments. -/
inductive UsageError where
  | manifestMissing
  | unrecognized (arguments : List String)
  | valueExpected (switch : Switch)
  | valueIgnored (switch : Switch) (value : String)
  | ambiguous (argument : String) (candidates : List String)
deriving DecidableEq, Repr

/-- The report of an error. -/
def UsageError.message : UsageError → String
  | .manifestMissing => "the following arguments are required: manifest"
  | .unrecognized arguments => "unrecognized arguments: " ++ " ".intercalate arguments
  | .valueExpected switch => "argument " ++ switch.title ++ ": expected one argument"
  | .valueIgnored switch value =>
    "argument " ++ switch.title ++ ": ignored explicit argument " ++ Text.quote value
  | .ambiguous argument candidates =>
    "ambiguous option: " ++ argument ++ " could match " ++ ", ".intercalate candidates

/-! ## Kinds of arguments -/

/-- An argument by its kind. What is attached to an option is written in the same argument. -/
inductive Word where
  | plain (text : String)
  | separator
  | option (switch : Switch) (short : Bool) (attached : Option (List Char))
  | unknown (text : String)
deriving DecidableEq, Repr

/-- Whether a text is a negative number: digits after the dash, perhaps with a point that digits
follow, and perhaps a line feed at the end. -/
def isNegativeNumber (text : List Char) : Bool :=
  match text with
  | '-' :: body =>
    let body := if body.getLast? = some '\n' then body.dropLast else body
    let rest := body.dropWhile Text.isDecimalDigit
    match rest with
    | [] => !body.isEmpty
    | '.' :: decimals => !decimals.isEmpty && decimals.all Text.isDecimalDigit
    | _ => false
  | _ => false

/-- The options that a text may stand for, with the spelling and what is attached. -/
def candidates (text : List Char) : List (String × Switch × Option (List Char)) :=
  match text with
  | '-' :: '-' :: _ =>
    let (start, value) := Text.cutAt '=' text
    let attached := if text.contains '=' then some value else none
    (Switch.table.filter fun entry => start.isPrefixOf entry.1.toList).map fun (spelling, s) =>
      (spelling, s, attached)
  | dash :: letter :: value =>
    let start := String.ofList [dash, letter]
    (Switch.table.filter fun entry => entry.1 == start).map fun (spelling, s) =>
      (spelling, s, some value)
  | _ => []

/-- Whether a spelling has one dash. -/
def isShort (spelling : String) : Bool := spelling.toList.take 2 != ['-', '-']

/-- The kind of an argument that starts with a dash and is no option as it stands. -/
def classifyDashed (argument : String) : Except UsageError Word :=
  let text := argument.toList
  let (start, value) := Text.cutAt '=' text
  match if text.contains '=' then Switch.ofSpelling? (String.ofList start) else none with
  | some switch =>
    .ok (.option switch (isShort (String.ofList start)) (some value))
  | none =>
    match candidates text with
    | [(spelling, switch, attached)] => .ok (.option switch (isShort spelling) attached)
    | [] =>
      if isNegativeNumber text || text.contains ' ' then .ok (.plain argument)
      else .ok (.unknown argument)
    | several => .error (.ambiguous argument (several.map Prod.fst))

/-- The kind of an argument. -/
def classify (argument : String) : Except UsageError Word :=
  if argument = "-" ∨ argument.toList.head? ≠ some '-' then .ok (.plain argument)
  else match Switch.ofSpelling? argument with
    | some switch => .ok (.option switch (isShort argument) none)
    | none => classifyDashed argument

/-- The kinds of arguments. After two dashes nothing is an option. -/
def classifyAll : List String → Except UsageError (List Word)
  | [] => .ok []
  | "--" :: rest => .ok (.separator :: rest.map .plain)
  | argument :: rest => do
    let word ← classify argument
    let words ← classifyAll rest
    return word :: words

/-! ## Options in one argument -/

/-- The options of one argument with their values, and the last one if its value is the argument
that comes next. -/
structure Expansion where
  options : List (Switch × Option String)
  awaiting : Option Switch := none
deriving DecidableEq, Repr

/-- The value that a text gives to an option. Two dashes leave it without one. -/
def valueOf (text : String) : Option String := if text = "--" then none else some text

/-- An expansion with a flag before it. -/
def Expansion.withFlag (flag : Switch) (e : Expansion) : Expansion :=
  { e with options := (flag, none) :: e.options }

/-- The options of an argument in which a text is attached to the first one: its value, or more
short flags after a short one. -/
def expandAttached (switch : Switch) (short : Bool) (text : List Char) :
    Except UsageError Expansion :=
  if switch.takesValue then .ok { options := [(switch, valueOf (String.ofList text))] }
  else match text with
    | [] => .error (.valueIgnored switch "")
    | letter :: rest =>
      match if short then Switch.ofSpelling? (String.ofList ['-', letter]) else none with
      | none => .error (.valueIgnored switch (String.ofList (letter :: rest)))
      | some next =>
        match rest with
        | [] =>
          if next.takesValue then .ok { options := [(switch, none)], awaiting := some next }
          else .ok { options := [(switch, none), (next, none)] }
        | c :: value => (expandAttached next true (c :: value)).map (.withFlag switch)

/-- The options of an argument. -/
def expand (switch : Switch) (short : Bool) : Option (List Char) → Except UsageError Expansion
  | some attached => expandAttached switch short attached
  | none =>
    if switch.takesValue then .ok { options := [], awaiting := some switch }
    else .ok { options := [(switch, none)] }

/-! ## The whole command line -/

/-- What a command line asks for. An option that is left without a value is none. -/
structure Invocation where
  manifest : String := ""
  output : Option String := some "ts-output"
  config : Option String := none
  name : Option String := some "move-bindings"
  stdout : Bool := false
  noScaffold : Bool := false
  verbose : Bool := false
deriving DecidableEq, Repr

/-- Why no invocation comes out of a command line. -/
inductive Stop where
  | help
  | usage (error : UsageError)
deriving DecidableEq, Repr

/-- A command line that is read so far. -/
structure Progress where
  invocation : Invocation := {}
  manifestGiven : Bool := false
  extras : List String := []
deriving DecidableEq, Repr

namespace Progress

/-- Takes an option with its value, if it has one. -/
def take (p : Progress) (switch : Switch) (value : Option String) : Except Stop Progress :=
  match switch with
  | .help => .error .help
  | .output => .ok { p with invocation := { p.invocation with output := value } }
  | .config => .ok { p with invocation := { p.invocation with config := value } }
  | .name => .ok { p with invocation := { p.invocation with name := value } }
  | .stdout => .ok { p with invocation := { p.invocation with stdout := true } }
  | .noScaffold => .ok { p with invocation := { p.invocation with noScaffold := true } }
  | .verbose => .ok { p with invocation := { p.invocation with verbose := true } }

/-- Takes options in order. -/
def takeAll (p : Progress) : List (Switch × Option String) → Except Stop Progress
  | [] => .ok p
  | (switch, value) :: rest => do (← p.take switch value).takeAll rest

/-- Takes the manifest. -/
def takeManifest (p : Progress) (path : String) : Progress :=
  { p with invocation := { p.invocation with manifest := path }, manifestGiven := true }

/-- Keeps an argument that has no meaning. -/
def keep (p : Progress) (argument : String) : Progress :=
  { p with extras := p.extras ++ [argument] }

/-- Reads arguments from left to right. The first plain argument is the manifest; two dashes before
or after it belong to it. -/
def read (p : Progress) : List Word → Except Stop Progress
  | [] => .ok p
  | .plain text :: rest =>
    if p.manifestGiven then (p.keep text).read rest
    else match rest with
      | .separator :: rest => (p.takeManifest text).read rest
      | rest => (p.takeManifest text).read rest
  | .separator :: rest =>
    match rest with
    | .plain text :: rest =>
      if p.manifestGiven then ((p.keep "--").keep text).read rest
      else (p.takeManifest text).read rest
    | rest => (p.keep "--").read rest
  | .unknown text :: rest => (p.keep text).read rest
  | .option switch short attached :: rest =>
    match expand switch short attached with
    | .error error => .error (.usage error)
    | .ok expansion =>
      match expansion.awaiting, rest with
      | none, rest => do (← p.takeAll expansion.options).read rest
      | some last, .plain value :: rest => do
        (← p.takeAll (expansion.options ++ [(last, some value)])).read rest
      | some last, _ => .error (.usage (.valueExpected last))

end Progress

/-- What a list of arguments asks for. -/
def parse (arguments : List String) : Except Stop Invocation :=
  match classifyAll arguments with
  | .error error => .error (.usage error)
  | .ok words => do
    let p ← ({} : Progress).read words
    if !p.manifestGiven then throw (.usage .manifestMissing)
    else if !p.extras.isEmpty then throw (.usage (.unrecognized p.extras))
    else return p.invocation

end MoveBindings.CommandLine
