/-!
# CommandLine.Arguments — options and operands of a program

A program takes options, by a long name behind two dashes or by a letter behind one, each with a
value; operands, all of which must be there; and possibly commands, each with options and operands
of its own. A value stands behind an equals sign, right behind the letter, or in the next argument.
After two dashes alone nothing is an option any more.

A value is looked at when the next option or operand begins, or at the end. So a complaint about an
argument that nobody knows comes before one about the value just before it.
-/

namespace RemoteDevice.CommandLine

/-- Why arguments are not what a program takes, or that they ask for help or the version. -/
inductive Usage where
  | help
  | version
  | unknownArgument
  | missingValue
  | refusedValue
  | repeated
  | unwantedValue
  | missingCommand
  | unknownCommand
  | missingArgument
deriving DecidableEq, Repr

/-- What a program says about arguments it does not take. -/
def Usage.message : Usage → String
  | help => "help"
  | version => "version"
  | unknownArgument => "unexpected argument"
  | missingValue => "a value is required"
  | refusedValue => "invalid value"
  | repeated => "an argument cannot be used multiple times"
  | unwantedValue => "unexpected value"
  | missingCommand => "a command is required"
  | unknownCommand => "unrecognized command"
  | missingArgument => "required arguments were not provided"

/-- Whether the arguments ask for something else than what the program does. -/
def Usage.isRequest (u : Usage) : Bool :=
  u = help || u = version

/-- An option that takes a value: its names, what is wrong with a value if anything, whether it has
to be given, and the value it has otherwise. -/
structure Setting where
  name : String
  letter : Char
  complaint : String → Option Usage := fun _ => none
  required : Bool := false
  default : Option String := none

/-- What a program or a command takes. -/
structure Form where
  options : List Setting := []
  operands : List String := []
  versioned : Bool := false

/-- The values that were given, by name. -/
abbrev Values := List (String × String)

/-- What has been read: the values, the option or operand that was begun last, with its value as
soon as that is there, how many operands there were, and whether options are over. -/
structure Progress where
  values : Values := []
  pending : Option (String × Option String) := none
  operands : Nat := 0
  plain : Bool := false

namespace Form

/-- The option with a long name. -/
def long? (f : Form) (name : String) : Option Setting :=
  f.options.find? (·.name == name)

/-- The option with a letter. -/
def short? (f : Form) (c : Char) : Option Setting :=
  f.options.find? (·.letter == c)

/-- Takes the value of an option or operand in. -/
def accept (f : Form) (name value : String) (p : Progress) : Except Usage Progress :=
  if (p.values.lookup name).isSome then .error .repeated
  else
    match (f.long? name).bind (·.complaint value) with
    | some u => .error u
    | none => .ok { p with values := (name, value) :: p.values }

/-- Finishes what was begun last. -/
def settle (f : Form) (p : Progress) : Except Usage Progress :=
  match p.pending with
  | none => .ok p
  | some (_, none) => .error .missingValue
  | some (name, some value) => f.accept name value { p with pending := none }

/-- Begins an option, whose value may be there already. -/
def begin (f : Form) (o : Setting) (value : Option String) (p : Progress) :
    Except Usage Progress := do
  let p ← f.settle p
  match value with
  | some value => f.accept o.name value p
  | none => .ok { p with pending := some (o.name, none) }

/-- A request for help or the version. -/
def ask (f : Form) (u : Usage) (value : Option String) (p : Progress) : Except Usage Progress :=
  match value with
  | some _ => .error .unwantedValue
  | none => (f.settle p).bind fun _ => .error u

/-- The text behind the first equals sign, and the text before it. -/
def cutValue (cs : List Char) : List Char × Option String :=
  match cs.span (· ≠ '=') with
  | (name, _ :: value) => (name, some (.ofList value))
  | (name, []) => (name, none)

/-- An argument behind two dashes. -/
def readLong (f : Form) (cs : List Char) (p : Progress) : Except Usage Progress :=
  let (name, value) := cutValue cs
  let name := String.ofList name
  match f.long? name with
  | some o => f.begin o value p
  | none =>
    if name = "help" then f.ask .help value p
    else if name = "version" ∧ f.versioned then f.ask .version value p
    else .error .unknownArgument

/-- An argument behind one dash: a letter, and what follows it. -/
def readShort (f : Form) (c : Char) (rest : List Char) (p : Progress) : Except Usage Progress :=
  match f.short? c with
  | some o =>
    let value := match rest with
      | [] => none
      | '=' :: value => some (String.ofList value)
      | value => some (String.ofList value)
    f.begin o value p
  | none =>
    if c = 'h' then f.ask .help none p
    else if c = 'V' ∧ f.versioned then f.ask .version none p
    else .error .unknownArgument

/-- An operand; `excess` is the complaint about one too many. -/
def readOperand (f : Form) (excess : Usage) (arg : String) (p : Progress) :
    Except Usage Progress :=
  match f.operands[p.operands]? with
  | none => .error excess
  | some name => do
    let p ← f.settle p
    .ok { p with pending := some (name, some arg), operands := p.operands + 1 }

/-- One argument. -/
def readArgument (f : Form) (excess : Usage) (arg : String) (p : Progress) :
    Except Usage Progress :=
  if p.plain then f.readOperand excess arg p
  else
    match arg.toList, p.pending with
    | ['-', '-'], _ => .ok { p with plain := true }
    | '-' :: '-' :: cs, _ => f.readLong cs p
    | '-' :: c :: rest, _ => f.readShort c rest p
    | _, some (name, none) => .ok { p with pending := some (name, some arg) }
    | _, _ => f.readOperand excess arg p

/-- Whether the next argument is the value of an option. -/
def awaits (p : Progress) : Bool :=
  match p.pending with
  | some (_, none) => true
  | _ => false

/-- The values with the defaults of options that were not given. -/
def withDefaults (f : Form) (values : Values) : Values :=
  values ++ f.options.filterMap fun o =>
    if (values.lookup o.name).isSome then none else o.default.map (o.name, ·)

/-- Whether everything that has to be given is. -/
def isComplete (f : Form) (values : Values) : Bool :=
  f.options.all (fun o => !o.required || (values.lookup o.name).isSome) &&
    f.operands.all fun name => (values.lookup name).isSome

/-- The values at the end of the arguments. -/
def finish (f : Form) (p : Progress) : Except Usage Values := do
  let values := f.withDefaults (← f.settle p).values
  if f.isComplete values then .ok values else .error .missingArgument

/-- Reads all the arguments of a form without commands. -/
def read (f : Form) : List String → Progress → Except Usage Values
  | [], p => f.finish p
  | arg :: args, p => do f.read args (← f.readArgument .unknownArgument arg p)

end Form

/-! ## Programs with commands -/

/-- A program: what it takes before the command, and the commands. -/
structure Program where
  form : Form
  commands : List (String × Form)

/-- The name of the command that shows help. -/
def helpCommand : String := "help"

namespace Program

/-- Whether a word names a command. -/
def isCommand (p : Program) (word : String) : Bool :=
  word = helpCommand || (p.commands.lookup word).isSome

/-- What the help command is asked for: nothing but one command may follow it, not even options. -/
def helpOn (p : Program) : List String → Usage
  | [] => .help
  | [word] => if p.isCommand word then .help else .unknownCommand
  | _ => .unknownCommand

/-- A command and its arguments. What is wrong with these comes before what is wrong with the
arguments of the program itself. -/
def command (p : Program) (name : String) (args : List String) (q : Progress) :
    Except Usage (Values × String × Values) :=
  match p.commands.lookup name with
  | none => .error (p.helpOn args)
  | some f => do
    let inner ← f.read args {}
    .ok (← p.form.finish q, name, inner)

/-- Reads all the arguments: gives the values of the program, the command, and its values. -/
def read (p : Program) : List String → Progress → Except Usage (Values × String × Values)
  | [], q => do
    let _ ← p.form.settle q
    .error .missingCommand
  | arg :: args, q =>
    if !q.plain && !Form.awaits q && p.isCommand arg then p.command arg args q
    else do
      let excess := if q.plain && p.isCommand arg then .unknownArgument else .unknownCommand
      p.read args (← p.form.readArgument excess arg q)

end Program

end RemoteDevice.CommandLine
