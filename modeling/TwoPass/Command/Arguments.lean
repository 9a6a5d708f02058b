/-!
# Command-line arguments

Options may stand anywhere among the arguments.  An option with a value takes it from the same
argument, behind an equals sign or behind its letter, or else from the next argument, whatever that
looks like.  Letters may be grouped.  Two dashes end the options.
-/

namespace TwoPass.Command

/-- An option that takes a value. -/
inductive ValueOption where
  /-- The object program file. -/
  | output
  /-- The listing file. -/
  | listing
  /-- The symbol and literal file. -/
  | symbols
  /-- The limit on text records. -/
  | recordLimit
  /-- The instruction table. -/
  | instructions
  deriving DecidableEq, Repr

/-- An option without a value. -/
inductive Switch where
  /-- Refuse a label that is defined twice. -/
  | strict
  /-- Say more. -/
  | verbose
  /-- Explain the command. -/
  | help
  /-- Name the version. -/
  | version
  deriving DecidableEq, Repr

/-- A request that is answered before anything is checked. -/
inductive Request where
  /-- Explain the command. -/
  | help
  /-- Name the version. -/
  | version
  deriving DecidableEq, Repr

/-- The arguments, sorted by what they mean. -/
structure Arguments where
  /-- The arguments that belong to no option. -/
  positional : List String := []
  /-- The object program file. -/
  output : Option String := none
  /-- The listing file. -/
  listing : Option String := none
  /-- The symbol and literal file. -/
  symbols : Option String := none
  /-- The limit on text records. -/
  recordLimit : Option String := none
  /-- The instruction table. -/
  instructions : Option String := none
  /-- Whether a label that is defined twice is refused. -/
  strict : Bool := false
  /-- Whether to say more. -/
  verbose : Bool := false
  /-- The first request. -/
  request : Option Request := none
  deriving DecidableEq, Repr

namespace Arguments

/-- Gives an option its value; a later value replaces an earlier one. -/
def give (arguments : Arguments) (option : ValueOption) (value : String) : Arguments :=
  match option with
  | .output => { arguments with output := some value }
  | .listing => { arguments with listing := some value }
  | .symbols => { arguments with symbols := some value }
  | .recordLimit => { arguments with recordLimit := some value }
  | .instructions => { arguments with instructions := some value }

/-- Turns a switch on; only the first request counts. -/
def turnOn (arguments : Arguments) : Switch → Arguments
  | .strict => { arguments with strict := true }
  | .verbose => { arguments with verbose := true }
  | .help => { arguments with request := arguments.request <|> some .help }
  | .version => { arguments with request := arguments.request <|> some .version }

/-- The options with long names. -/
def longOption? : String → Option (ValueOption ⊕ Switch)
  | "--output" => some (.inl .output)
  | "--listing" => some (.inl .listing)
  | "--symbols" => some (.inl .symbols)
  | "--record-limit" => some (.inl .recordLimit)
  | "--instructions" => some (.inl .instructions)
  | "--strict" => some (.inr .strict)
  | "--verbose" => some (.inr .verbose)
  | "--help" => some (.inr .help)
  | "--version" => some (.inr .version)
  | _ => none

/-- The options with letters. -/
def letterOption? : Char → Option (ValueOption ⊕ Switch)
  | 'o' => some (.inl .output)
  | 'l' => some (.inl .listing)
  | 's' => some (.inl .symbols)
  | 'v' => some (.inr .verbose)
  | _ => none

/-- The arguments after an option, and the option whose value is still to come. -/
abbrev Reading := Arguments × Option ValueOption

/-- Reads a group of letters.  A letter that takes a value takes the rest of the group, or waits for
the next argument if it is the last. -/
def readLetters (arguments : Arguments) : List Char → Option Reading
  | [] => some (arguments, none)
  | letter :: rest => match letterOption? letter with
    | none => none
    | some (.inr switch) => readLetters (arguments.turnOn switch) rest
    | some (.inl option) =>
      if rest.isEmpty then some (arguments, some option)
      else some (arguments.give option (String.ofList rest), none)

/-- Reads an option by its long name, with the value behind the equals sign if there is one. -/
def readLong (arguments : Arguments) (name : String) (value : Option String) : Option Reading :=
  match longOption? name, value with
  | some (.inl option), some given => some (arguments.give option given, none)
  | some (.inl option), none => some (arguments, some option)
  | some (.inr switch), none => some (arguments.turnOn switch, none)
  | some (.inr _), some _ => none
  | none, _ => none

/-- Reads an argument that begins with a dash. -/
def readOption (arguments : Arguments) (argument : List Char) : Option Reading :=
  match argument with
  | '-' :: '-' :: _ =>
    let name := String.ofList (argument.takeWhile fun c => c ≠ '=')
    let value := match argument.dropWhile fun c => c ≠ '=' with
      | _ :: given => some (String.ofList given)
      | [] => none
    arguments.readLong name value
  | _ => arguments.readLetters (argument.drop 1)

/-- Whether an argument is an option: a dash with something behind it. -/
def isOption : List Char → Bool
  | '-' :: _ :: _ => true
  | _ => false

/-- Reads further arguments; `awaiting` is the option whose value comes first among them. -/
def readFrom (arguments : Arguments) (awaiting : Option ValueOption) :
    List String → Option Arguments
  | [] => if awaiting.isSome then none else some arguments
  | argument :: rest => match awaiting with
    | some option => readFrom (arguments.give option argument) none rest
    | none =>
      if argument = "--" then
        some { arguments with positional := arguments.positional ++ rest }
      else if isOption argument.toList then
        match arguments.readOption argument.toList with
        | none => none
        | some (arguments, awaiting) => readFrom arguments awaiting rest
      else readFrom { arguments with positional := arguments.positional ++ [argument] } none rest

/-- Reads the arguments of a command; there is no result if they are not well formed. -/
def read (arguments : List String) : Option Arguments := readFrom {} none arguments

end Arguments

end TwoPass.Command
