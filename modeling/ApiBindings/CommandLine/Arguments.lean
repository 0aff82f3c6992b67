import ApiBindings.Text.Visible

/-!
# Arguments

What a user asks for, read from the arguments of the program, and what is said about arguments that ask
for nothing. Options may come in any order; the value of an option stands behind it, or is attached to it.
A value is checked when the next option begins or the arguments end.
-/

namespace ApiBindings.CommandLine

/-! ## Requests -/

/-- The formats that a view is printed in. -/
inductive Format where
  | json
  | yaml
  deriving DecidableEq, Repr

/-- The formats by name. -/
def Format.names : List (String × Format) := [("json", .json), ("yaml", .yaml)]

/-- The shells that arguments can be completed for. -/
def shellNames : List String := ["bash", "elvish", "fish", "powershell", "zsh"]

/-- What the program does. -/
inductive Command where
  | prepare (input : Option String) (format : Format) (isTyped : Bool)
  | render (input template output : Option String)
  | validate (input : String)
  | init (isForced : Bool)
  | completions (shell : String)
  deriving DecidableEq, Repr

/-- What a user asks for. -/
inductive Request where
  | command (c : Command)
  | version
  | help
  deriving DecidableEq, Repr

/-- Why arguments ask for nothing. -/
inductive UsageError where
  | noArguments
  | unknownCommand (name : String)
  | unexpected (argument : String)
  | unexpectedValue (value argument : String)
  | missing
  | noValue (argument : String)
  | invalidValue (value argument : String)
  | repeated (argument : String)
  deriving DecidableEq, Repr

/-- What the program is. -/
def about : String := "Swagger 1.x/2.0 view-model builder and template renderer"

/-- The wording of a usage error. What the user wrote is cited without control sequences. -/
def UsageError.message : UsageError → String
  | .noArguments => about
  | .unknownCommand name => "error: unrecognized subcommand '" ++ Text.visible name ++ "'"
  | .unexpected argument => "error: unexpected argument '" ++ Text.visible argument ++ "' found"
  | .unexpectedValue value argument =>
    "error: unexpected value '" ++ Text.visible value ++ "' for '" ++ argument ++ "' found; no more were expected"
  | .missing => "error: the following required arguments were not provided:"
  | .noValue argument => "error: a value is required for '" ++ argument ++ "' but none was supplied"
  | .invalidValue value argument => "error: invalid value '" ++ Text.visible value ++ "' for '" ++ argument ++ "'"
  | .repeated argument => "error: the argument '" ++ argument ++ "' cannot be used multiple times"

/-! ## Parameters of commands -/

/-- What a parameter of a command takes. -/
inductive Takes where
  /-- Nothing: it is given or not. -/
  | nothing
  /-- Any text but the empty one. -/
  | path
  /-- One of several words. -/
  | oneOf (words : List String)
  deriving DecidableEq, Repr

/-- A parameter of a command: an option with its names, or a positional one. -/
structure Parameter where
  name : String
  short : Option Char := none
  isPositional : Bool := false
  takes : Takes
  deriving DecidableEq, Repr

namespace Parameter

/-- The name of the value of a parameter. -/
def valueName (p : Parameter) : String := "<" ++ String.ofList (p.name.toList.map Char.toUpper) ++ ">"

/-- A parameter as messages show it. -/
def shown (p : Parameter) : String :=
  if p.isPositional then p.valueName
  else if p.takes = .nothing then "--" ++ p.name
  else "--" ++ p.name ++ " " ++ p.valueName

/-- A value of a parameter is checked. -/
def check (p : Parameter) (value : String) : Except UsageError Unit :=
  if value = "" then .error (.noValue p.shown)
  else match p.takes with
    | .oneOf words => if words.contains value then .ok () else .error (.invalidValue value p.shown)
    | _ => .ok ()

end Parameter

/-- The document that a command works on. -/
def inputParameter : Parameter := { name := "input", short := some 'i', takes := .path }

/-- The parameters of the commands, by the names of the commands. -/
def commandParameters : List (String × List Parameter) :=
  [("prepare", [inputParameter,
      { name := "format", takes := .oneOf (Format.names.map (·.1)) },
      { name := "typescript", takes := .nothing }]),
    ("render", [inputParameter,
      { name := "template", short := some 't', takes := .path },
      { name := "output", short := some 'o', takes := .path }]),
    ("validate", [inputParameter]),
    ("init", [{ name := "force", takes := .nothing }]),
    ("completions", [{ name := "shell", isPositional := true, takes := .oneOf shellNames }])]

/-! ## Reading arguments -/

/-- The name and the attached value of a long option, if an argument is one. -/
def longOption? (argument : String) : Option (String × Option String) :=
  match argument.toList with
  | '-' :: '-' :: c :: rest =>
    let cs := c :: rest
    some (String.ofList (cs.takeWhile (· ≠ '=')),
      match cs.dropWhile (· ≠ '=') with
      | _ :: value => some (String.ofList value)
      | [] => none)
  | _ => none

/-- The letters of short options, if an argument holds any. -/
def shortOptions? (argument : String) : Option (List Char) :=
  match argument.toList with
  | '-' :: '-' :: _ => none
  | '-' :: c :: rest => some (c :: rest)
  | _ => none

/-- What is known of the parameters of a command: the values that were given and checked, and a parameter
whose value is not checked yet or still has to come. -/
structure Given where
  values : List (String × String) := []
  pending : Option (Parameter × Option String) := none
  isHelp : Bool := false

namespace Given

/-- A parameter with its value; one that was given before is refused. -/
def add (g : Given) (p : Parameter) (value : String) : Except UsageError Given :=
  if (g.values.lookup p.name).isSome then .error (.repeated p.shown)
  else .ok { g with values := (p.name, value) :: g.values }

/-- The pending value is checked. -/
def settle (g : Given) : Except UsageError Given :=
  match g.pending with
  | none => .ok g
  | some (p, none) => .error (.noValue p.shown)
  | some (p, some value) => do
    let added ← g.add p value
    p.check value
    return { added with pending := none }

/-- Whether a value has to come. -/
def awaits? (g : Given) : Option Parameter :=
  match g.pending with
  | some (p, none) => some p
  | _ => none

/-- An option begins, with a value that is attached to it or that has to come. -/
def option (g : Given) (p : Parameter) (attached : Option String) : Except UsageError Given := do
  let g ← g.settle
  match attached with
  | some value => settle { g with pending := some (p, some value) }
  | none => return { g with pending := some (p, none) }

/-- An option without a value. -/
def flag (g : Given) (p : Parameter) : Except UsageError Given := do
  (← g.settle).add p ""

end Given

/-- The letters of short options, one after another; behind one that takes a value comes the value. -/
def shortLetters (parameters : List Parameter) (g : Given) : List Char → Except UsageError Given
  | [] => .ok g
  | c :: rest =>
    match parameters.find? fun p => p.short == some c with
    | some p =>
      if p.takes = .nothing then do
        shortLetters parameters (← g.flag p) rest
      else
        g.option p (match rest with
          | [] => none
          | '=' :: value => some (String.ofList value)
          | value => some (String.ofList value))
    | none =>
      if c = 'h' then do
        return { (← g.settle) with isHelp := true }
      else .error (.unexpected (String.ofList ['-', c]))

/-- The arguments of a command, from some point on; behind `--` they are all positional. -/
def readFrom (parameters : List Parameter) (g : Given) (areTrailing : Bool) :
    List String → Except UsageError Given
  | [] => g.settle
  | a :: rest =>
    if g.isHelp then .ok g
    else if !areTrailing && a = "--" then readFrom parameters g true rest
    else match if areTrailing then none else longOption? a with
      | some (name, attached) =>
        match parameters.find? fun p => !p.isPositional && p.name == name with
        | some p =>
          if p.takes = .nothing then
            match attached with
            | some value => .error (.unexpectedValue value p.shown)
            | none => do readFrom parameters (← g.flag p) areTrailing rest
          else do readFrom parameters (← g.option p attached) areTrailing rest
        | none =>
          if name = "help" then
            match attached with
            | some value => .error (.unexpectedValue value "--help")
            | none => do return { (← g.settle) with isHelp := true }
          else .error (.unexpected ("--" ++ name))
      | none =>
        match if areTrailing then none else shortOptions? a with
        | some letters => do readFrom parameters (← shortLetters parameters g letters) areTrailing rest
        | none =>
          match if areTrailing then none else g.awaits? with
          | some p => readFrom parameters { g with pending := some (p, some a) } areTrailing rest
          | none =>
            let taken (p : Parameter) : Bool :=
              (g.values.lookup p.name).isSome || (g.pending.map (·.1)) == some p
            match parameters.find? fun p => p.isPositional && !taken p with
            | some p => do
              readFrom parameters { (← g.settle) with pending := some (p, some a) } areTrailing rest
            | none => .error (.unexpected a)

/-- The command with a name, given the values of its parameters. -/
def commandOf (name : String) (values : List (String × String)) : Except UsageError Command :=
  let value (key : String) : Option String := values.lookup key
  let needed (key : String) : Except UsageError String :=
    match value key with
    | some v => .ok v
    | none => .error .missing
  match name with
  | "prepare" =>
    .ok (.prepare (value "input") (((value "format").bind fun f => List.lookup f Format.names).getD .json)
      (value "typescript").isSome)
  | "render" => .ok (.render (value "input") (value "template") (value "output"))
  | "validate" => do return .validate (← needed "input")
  | "init" => .ok (.init (value "force").isSome)
  | "completions" => do return .completions (← needed "shell")
  | _ => .error (.unknownCommand name)

/-- The request of the letters of short options that no command stands before. -/
def leadingLetter : List Char → Except UsageError Request
  | 'V' :: _ => .ok .version
  | 'h' :: _ => .ok .help
  | c :: _ => .error (.unexpected (String.ofList ['-', c]))
  | [] => .error .noArguments

/-- Whether a name is that of a command, or asks for help. -/
def isCommandName (name : String) : Bool := name == "help" || (commandParameters.lookup name).isSome

/-- What help is asked for: that of one command at most, since no command has commands of its own. -/
def helpRequest : List String → Except UsageError Request
  | [] => .ok .help
  | name :: rest =>
    if !isCommandName name then .error (.unknownCommand name)
    else match rest with
      | [] => .ok .help
      | other :: _ => .error (.unknownCommand other)

/-- What the arguments ask for. Behind `--` there are no commands, so the name of one is out of place there. -/
def request : List String → Except UsageError Request
  | [] => .error .noArguments
  | ["--"] => .error .noArguments
  | "--" :: a :: _ => .error (if isCommandName a then .unexpected a else .unknownCommand a)
  | "help" :: names => helpRequest names
  | a :: rest =>
    match longOption? a, shortOptions? a with
    | some (name, attached), _ =>
      if name = "version" ∨ name = "help" then
        match attached with
        | some value => .error (.unexpectedValue value ("--" ++ name))
        | none => .ok (if name = "version" then .version else .help)
      else .error (.unexpected ("--" ++ name))
    | none, some letters => leadingLetter letters
    | none, none =>
      match commandParameters.lookup a with
      | none => .error (.unknownCommand a)
      | some parameters => do
        let g ← readFrom parameters {} false rest
        if g.isHelp then return .help else return .command (← commandOf a g.values)

end ApiBindings.CommandLine
