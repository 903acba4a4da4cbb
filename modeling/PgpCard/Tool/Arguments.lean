/-!
# `PgpCard.Tool.Arguments`: what a command line asks for

A command line is global options, a subcommand, and then the options and values of that
subcommand. Arguments are read from left to right, and the first thing that settles the
matter does: a mistake, or a request for help or for the version. What is missing is
noticed at the end.

A long option takes its value after `=` or from the next argument. Short options may
stand together in one argument, where one that takes a value takes the rest, with or
without `=` before it. The next argument is not taken for a value when it looks like an
option, which a single hyphen does not. After `--` nothing is an option any more. No
option may be given twice.
-/

set_option autoImplicit false

namespace PgpCard.Tool

/-- What the tool is asked to do with a token. -/
inductive Action where
  | info
  /-- Verifies PW1 for other operations, or PW3. -/
  | verifyPin (pin : String) (admin : Bool)
  | sign (pin data : String)
  | decipher (pin data : String)
  deriving DecidableEq, Repr

/-- What the tool is asked to do. -/
inductive Task where
  | list
  /-- Does something with the token in the named reader, or in the first with a card. -/
  | token (reader : Option String) (action : Action)
  deriving DecidableEq, Repr

/-- What a command line asks for. -/
inductive Request where
  | task (task : Task)
  | help
  | version
  | usage
  deriving DecidableEq, Repr

/-- The options of the tool. -/
inductive Flag where
  | reader
  | verbose
  | pin
  | admin
  | help
  | version
  deriving DecidableEq, Repr

/-- The option is followed by a value. -/
def Flag.takesValue : Flag → Bool
  | .reader => true
  | .pin => true
  | _ => false

/-- The places of a command line where different things are allowed. -/
inductive Place where
  /-- Before the subcommand. -/
  | global
  | list
  | info
  | verifyPin
  | sign
  | decipher
  deriving DecidableEq, Repr

namespace Place

/-- The subcommand of this name. -/
def ofName? (name : String) : Option Place :=
  if name = "list" then some .list
  else if name = "info" then some .info
  else if name = "verify-pin" then some .verifyPin
  else if name = "sign" then some .sign
  else if name = "decipher" then some .decipher
  else none

/-- The options by their long names. -/
def longNames : Place → List (String × Flag)
  | .global =>
    [("reader", .reader), ("verbose", .verbose), ("help", .help), ("version", .version)]
  | .list => [("help", .help)]
  | .info => [("help", .help)]
  | .verifyPin => [("pin", .pin), ("admin", .admin), ("help", .help)]
  | .sign => [("pin", .pin), ("help", .help)]
  | .decipher => [("pin", .pin), ("help", .help)]

/-- The options by their short names. -/
def shortNames : Place → List (Char × Flag)
  | .global => [('r', .reader), ('v', .verbose), ('h', .help), ('V', .version)]
  | _ => [('h', .help)]

/-- A value without an option may stand here. -/
def takesData : Place → Bool
  | .sign => true
  | .decipher => true
  | _ => false

end Place

/-- What has been read so far. -/
structure Given where
  reader : Option String := none
  verbose : Bool := false
  pin : Option String := none
  admin : Bool := false
  data : Option String := none
  deriving DecidableEq, Repr

namespace Given

/-- Notes an option that takes no value. -/
def noteSwitch (g : Given) : Flag → Except Request Given
  | .help => .error .help
  | .version => .error .version
  | .verbose => if g.verbose then .error .usage else .ok { g with verbose := true }
  | .admin => if g.admin then .error .usage else .ok { g with admin := true }
  | _ => .error .usage

/-- Notes an option with its value. -/
def noteValue (g : Given) (flag : Flag) (value : String) : Except Request Given :=
  match flag with
  | .reader => if g.reader.isSome then .error .usage else .ok { g with reader := some value }
  | .pin => if g.pin.isSome then .error .usage else .ok { g with pin := some value }
  | _ => .error .usage

/-- Notes a value without an option. -/
def noteData (g : Given) (place : Place) (value : String) : Except Request Given :=
  if place.takesData && g.data.isNone then .ok { g with data := some value }
  else .error .usage

/-- The request once all is read. -/
def conclude (g : Given) (place : Place) : Request :=
  match place, g.pin, g.data with
  | .list, _, _ => .task .list
  | .info, _, _ => .task (.token g.reader .info)
  | .verifyPin, some pin, _ => .task (.token g.reader (.verifyPin pin g.admin))
  | .sign, some pin, some data => .task (.token g.reader (.sign pin data))
  | .decipher, some pin, some data => .task (.token g.reader (.decipher pin data))
  | _, _, _ => .usage

end Given

/-- The shapes of an argument. -/
inductive Shape where
  /-- `--` alone. -/
  | separator
  /-- A long option, with the value after `=` if there is one. -/
  | long (name : List Char) (value : Option (List Char))
  | short (names : List Char)
  /-- Anything else; a single hyphen too. -/
  | plain
  deriving DecidableEq, Repr

namespace Shape

/-- The parts of a text before and after its first `=`. -/
def splitValue (text : List Char) : List Char × Option (List Char) :=
  match text.dropWhile (· ≠ '=') with
  | [] => (text, none)
  | _ :: value => (text.takeWhile (· ≠ '='), some value)

/-- The shape of an argument. -/
def ofChars : List Char → Shape
  | ['-', '-'] => .separator
  | '-' :: '-' :: rest => .long (splitValue rest).1 (splitValue rest).2
  | ['-'] => .plain
  | '-' :: rest => .short rest
  | _ => .plain

end Shape

/-- What one argument leads to. -/
inductive Effect where
  /-- The matter is settled. -/
  | settle (request : Request)
  /-- The argument is done with. -/
  | next (given : Given)
  /-- The next argument is the value of an option. -/
  | awaits (given : Given) (flag : Flag)
  /-- A subcommand begins. -/
  | enter (place : Place)
  /-- Only values follow. -/
  | onlyData
  /-- The rest says what help is asked for. -/
  | helpOn
  deriving DecidableEq, Repr

namespace Effect

/-- What comes of noting something. -/
def ofNoted : Except Request Given → Effect
  | .ok g => .next g
  | .error request => .settle request

/-- Reads a long option. A switch takes no value after `=`. -/
def ofLong (place : Place) (g : Given) (name : List Char) (value : Option (List Char)) :
    Effect :=
  match place.longNames.find? fun entry => entry.1.toList = name with
  | none => .settle .usage
  | some (_, flag) =>
    match flag.takesValue, value with
    | true, none => .awaits g flag
    | true, some value => ofNoted (g.noteValue flag (String.ofList value))
    | false, none => ofNoted (g.noteSwitch flag)
    | false, some _ => .settle .usage

/-- The value that stands together with a short option: without the `=` before it. -/
def attached : List Char → List Char
  | '=' :: text => text
  | text => text

/-- Reads short options that stand together. -/
def ofShort (place : Place) (g : Given) : List Char → Effect
  | [] => .next g
  | c :: rest =>
    match place.shortNames.find? fun entry => entry.1 = c with
    | none => .settle .usage
    | some (_, flag) =>
      if flag.takesValue then
        match rest with
        | [] => .awaits g flag
        | _ => ofNoted (g.noteValue flag (String.ofList (attached rest)))
      else
        match g.noteSwitch flag with
        | .error request => .settle request
        | .ok g => ofShort place g rest

/-- Reads an argument that is no option. Before the subcommand it must be one. -/
def ofPlain (place : Place) (g : Given) (arg : String) : Effect :=
  if place = .global then
    if arg = "help" then .helpOn
    else match Place.ofName? arg with
      | some place => .enter place
      | none => .settle .usage
  else ofNoted (g.noteData place arg)

/-- Reads an argument where an option or a value may stand. No subcommand can come after
`--`, so there it is a mistake before the subcommand. -/
def ofArgument (place : Place) (g : Given) (arg : String) : Effect :=
  match Shape.ofChars arg.toList with
  | .separator => if place = .global then .settle .usage else .onlyData
  | .long name value => ofLong place g name value
  | .short names => ofShort place g names
  | .plain => ofPlain place g arg

/-- Reads an argument where the value of an option must stand. -/
def ofAwaited (g : Given) (flag : Flag) (arg : String) : Effect :=
  match Shape.ofChars arg.toList with
  | .plain => ofNoted (g.noteValue flag arg)
  | _ => .settle .usage

end Effect

/-- Reads what follows `--`: values only. -/
def readRest (place : Place) (g : Given) : List String → Request
  | [] => g.conclude place
  | arg :: rest =>
    match g.noteData place arg with
    | .error request => request
    | .ok g => readRest place g rest

/-- Reads what follows `help`: nothing, or the name of a subcommand. -/
def readHelp : List String → Request
  | [] => .help
  | [name] => if name = "help" ∨ (Place.ofName? name).isSome then .help else .usage
  | _ => .usage

/-- Reads arguments from a place of the command line; `waiting` is an option that has yet
to get its value. -/
def readFrom (place : Place) (g : Given) (waiting : Option Flag) : List String → Request
  | [] => if waiting.isSome then .usage else g.conclude place
  | arg :: rest =>
    let effect :=
      match waiting with
      | some flag => Effect.ofAwaited g flag arg
      | none => Effect.ofArgument place g arg
    match effect with
    | .settle request => request
    | .next g => readFrom place g none rest
    | .awaits g flag => readFrom place g (some flag) rest
    | .enter place => readFrom place g none rest
    | .onlyData => readRest place g rest
    | .helpOn => readHelp rest

/-- What a command line asks for. -/
def Request.ofArguments (args : List String) : Request :=
  readFrom .global {} none args

end PgpCard.Tool
