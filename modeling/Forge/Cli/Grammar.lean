import Forge.Named
import Forge.Text.Numeral
import Forge.Text.Search

/-!
# The grammar of command lines

A form says which options and which operands a command line has. Options may stand anywhere among
the operands; a long one may be shortened as long as it is the only one that starts so, and its
value may follow after an equals sign. After `--` everything is an operand. Negative numbers and
arguments with a blank in them are operands, unless they are options of the form.

`Form.read` reads a command line against a form. Arguments that belong to nothing are left over;
`Group.read` picks the form of a command and refuses what is left over.
-/

namespace Forge.Cli

/-- The types of the values of options and operands. -/
inductive ValueType where
  | text
  | whole
  | seconds
deriving DecidableEq, Repr

/-- The name of a type in messages. -/
def ValueType.label : ValueType → String
  | .text => "str"
  | .whole => "int"
  | .seconds => "float"

/-- The value of an option or an operand; a switch that is set has the value `on`. -/
inductive ArgumentValue where
  | on
  | text (s : String)
  | whole (i : Int)
  | seconds (x : Binary64)
deriving DecidableEq, Repr

/-- An option: its names, the key of its value, the type of the value if it takes one, and the
values that it accepts if these are listed. -/
structure CommandOption where
  names : List String
  key : String
  type : Option ValueType
  choices : List String
deriving DecidableEq, Repr

/-- An operand, which is named by its place. -/
structure Operand where
  name : String
  type : ValueType
deriving DecidableEq, Repr

/-- The options and operands of a command. -/
structure Form where
  program : String
  options : List CommandOption
  operands : List Operand
deriving DecidableEq, Repr

/-- Why a command line is not carried out: it asks for help, or it is refused by a program. -/
inductive Stop where
  | help (program : String)
  | refused (program text : String)
deriving DecidableEq, Repr

/-- What an argument is taken to be: an operand, the mark after which there are only operands, or
an option, possibly unknown, under the name that it goes by and with the value that is attached to
it. A value is `joined` if an equals sign stands before it. -/
inductive Piece where
  | operand
  | mark
  | option (option : Option CommandOption) (name : String) (attached : Option (Bool × String))
deriving DecidableEq, Repr

/-- The values that have been read, by their keys. -/
abbrev Values := List (String × ArgumentValue)

namespace Form

/-! ## Telling options from operands -/

/-- The option of a name. -/
def optionNamed? (f : Form) (name : String) : Option CommandOption :=
  f.options.find? fun o => o.names.contains name

/-- The option that asks for help. -/
def helpKey : String := "help"

/-- The parts before and after the first equals sign. -/
def splitAtEquals? (cs : List Char) : Option (String × String) :=
  match cs.dropWhile (· != '=') with
  | _ :: value => some (String.ofList (cs.takeWhile (· != '=')), String.ofList value)
  | [] => none

/-- What an argument with two hyphens may abbreviate. -/
def longMatches (f : Form) (argument : String) : List (CommandOption × Piece) :=
  let (start, attached) := match splitAtEquals? argument.toList with
    | some (start, value) => (start, some (true, value))
    | none => (argument, none)
  f.options.flatMap fun o =>
    (o.names.filter (Text.startsWith start)).map fun n => (o, .option (some o) n attached)

/-- What an argument with one hyphen may stand for: an option with its value behind it, or the
start of an option. -/
def shortMatches (f : Form) (argument : String) : List (CommandOption × Piece) :=
  let start := String.ofList (argument.toList.take 2)
  let value := String.ofList (argument.toList.drop 2)
  f.options.flatMap fun o =>
    (o.names.filter fun n => n == start || Text.startsWith argument n).map fun n =>
      (o, .option (some o) n (if n = start then some (false, value) else none))

/-- The name under which a piece was matched. -/
def Piece.name : Piece → String
  | .option _ name _ => name
  | _ => ""

/-- Whether the characters are decimal digits of any script, at least one of them. -/
def isDigits (cs : List Char) : Bool :=
  !cs.isEmpty && cs.all fun c => (Text.digitValue? c).isSome

/-- Whether an argument is a negative number: digits, with a point before the last of them or
not. A line end may follow. -/
def isNegativeNumber (argument : String) : Bool :=
  match argument.toList with
  | '-' :: cs =>
    let cs := if cs.getLast? = some '\n' then cs.dropLast else cs
    isDigits cs ||
      match cs.dropWhile (· != '.') with
      | _ :: fraction =>
        isDigits fraction &&
          (cs.takeWhile (· != '.')).all fun c => (Text.digitValue? c).isSome
      | [] => false
  | _ => false

/-- The piece of an argument that starts with a hyphen and is no option as it stands. -/
def abbreviated (f : Form) (argument : String) : Except Stop Piece :=
  let found := if Text.startsWith "--" argument then f.longMatches argument
    else f.shortMatches argument
  match found with
  | [(_, piece)] => .ok piece
  | _ :: _ :: _ =>
    .error (.refused f.program ("ambiguous option: " ++ argument ++ " could match " ++
      ", ".intercalate (found.map fun m => Piece.name m.2)))
  | [] =>
    if isNegativeNumber argument || argument.toList.contains ' ' then .ok .operand
    else .ok (.option none argument none)

/-- What an argument is taken to be. -/
def piece (f : Form) (argument : String) : Except Stop Piece :=
  match argument.toList with
  | '-' :: _ :: _ =>
    match f.optionNamed? argument with
    | some o => .ok (.option (some o) argument none)
    | none =>
      match splitAtEquals? argument.toList with
      | some (name, value) =>
        match f.optionNamed? name with
        | some o => .ok (.option (some o) name (some (true, value)))
        | none => f.abbreviated argument
      | none => f.abbreviated argument
  | _ => .ok .operand

/-- An argument with what it is taken to be. -/
abbrev Item := String × Piece

/-- The arguments with what they are taken to be. -/
def pieces (f : Form) : List String → Except Stop (List Item)
  | [] => .ok []
  | a :: as =>
    if a = "--" then .ok ((a, .mark) :: as.map fun b => (b, .operand))
    else do
      let p ← f.piece a
      let ps ← f.pieces as
      .ok ((a, p) :: ps)

/-! ## Values -/

/-- The refusal of an argument. -/
def refuse {α : Type} (f : Form) (argument text : String) : Except Stop α :=
  .error (.refused f.program ("argument " ++ argument ++ ": " ++ text))

/-- The value that a text stands for. -/
def convert (f : Form) (argument : String) (type : ValueType) (text : String) :
    Except Stop ArgumentValue :=
  let malformed : Except Stop ArgumentValue :=
    f.refuse argument ("invalid " ++ type.label ++ " value: " ++ Text.quoted text)
  match type with
  | .text => .ok (.text text)
  | .whole =>
    match Text.readInt text with
    | .ok i => .ok (.whole i)
    | .error _ => malformed
  | .seconds =>
    match Text.readReal? text with
    | some x => .ok (.seconds x)
    | none => malformed

/-- The words for a value that is not among the choices. -/
def invalidChoice (value : String) (choices : List String) : String :=
  "invalid choice: " ++ Text.quoted value ++ " (choose from " ++
    ", ".intercalate (choices.map Text.quoted) ++ ")"

/-- The names of an option in messages. -/
def label (o : CommandOption) : String := "/".intercalate o.names

/-- The values with an option set. -/
def set (f : Form) (o : CommandOption) (text : Option String) (values : Values) :
    Except Stop Values :=
  match o.type, text with
  | some type, some text =>
    if !o.choices.isEmpty && !o.choices.contains text then
      f.refuse (label o) (invalidChoice text o.choices)
    else do
      let v ← f.convert (label o) type text
      .ok (Named.put o.key v values)
  | _, _ =>
    if o.key = helpKey then .error (.help f.program)
    else .ok (Named.put o.key .on values)

/-! ## Reading a command line -/

/-- The words for a value attached to an option that takes none. -/
def ignoredValue (value : String) : String := "ignored explicit argument " ++ Text.quoted value

/-- What one argument sets: options in order, each with the text of its value, the arguments that
belong to nothing, and the items after it. -/
structure Taken where
  settings : List (CommandOption × Option String)
  unknown : List String
  rest : List Item

/-- Takes an option from its item. Switches of one letter may be written behind one another. -/
def take (f : Form) : (fuel : Nat) → (settings : List (CommandOption × Option String)) →
    (o : CommandOption) → (name : String) → (attached : Option (Bool × String)) →
    (rest : List Item) → Except Stop Taken
  | 0, settings, _, _, _, rest => .ok ⟨settings, [], rest⟩
  | fuel + 1, settings, o, name, attached, rest =>
    match attached, o.type with
    | some (_, value), some _ => .ok ⟨settings ++ [(o, some value)], [], rest⟩
    | some (joined, value), none =>
      match Text.startsWith "--" name, value.toList with
      | false, c :: cs =>
        if joined || c == '-' then f.refuse (label o) (ignoredValue value)
        else
          let settings := settings ++ [(o, none)]
          let next := String.ofList ['-', c]
          match f.optionNamed? next with
          | some o' =>
            let attached := match cs with
              | [] => none
              | '=' :: cs => some (true, String.ofList cs)
              | cs => some (false, String.ofList cs)
            take f fuel settings o' next attached rest
          | none => .ok ⟨settings, ["-" ++ value], rest⟩
      | _, _ => f.refuse (label o) (ignoredValue value)
    | none, some _ =>
      match rest with
      | (value, .operand) :: rest => .ok ⟨settings ++ [(o, some value)], [], rest⟩
      | _ => f.refuse (label o) "expected one argument"
    | none, none => .ok ⟨settings ++ [(o, none)], [], rest⟩

/-- The values with several options set. -/
def setAll (f : Form) : List (CommandOption × Option String) → Values → Except Stop Values
  | [], values => .ok values
  | (o, text) :: settings, values => do
    let values ← f.set o text values
    f.setAll settings values

/-- The items without the marks at their start. -/
def skipMarks (items : List Item) : List Item :=
  items.dropWhile fun i => i.2 == .mark

/-- Takes one operand from the items, with the mark before or after it. -/
def takeOperand? (items : List Item) : Option (String × List Item) :=
  match skipMarks items with
  | (value, .operand) :: rest => some (value, skipMarks rest)
  | _ => none

/-- Takes as many operands as there are items for before the next option, and answers the values,
the operands that are left, and the items after them. -/
def takeOperands (f : Form) : List Operand → List Item → Values →
    Except Stop (Values × List Operand × List Item)
  | [], items, values => .ok (values, [], items)
  | p :: ps, items, values =>
    match takeOperand? items with
    | some (text, rest) => do
      let v ← f.convert p.name p.type text
      takeOperands f ps rest (Named.put p.name v values)
    | none => .ok (values, p :: ps, items)

/-- Whether an item is an option. -/
def isOption (i : Item) : Bool :=
  match i.2 with
  | .option .. => true
  | _ => false

/-- Reads the items: operands up to the next option, then the option, and so on. Answers the
values, the operands that are missing, and the arguments that belong to nothing. -/
def readItems (f : Form) : (fuel : Nat) → List Operand → List Item → Values → List String →
    Except Stop (Values × List Operand × List String)
  | 0, operands, items, values, unknown => .ok (values, operands, unknown ++ items.map (·.1))
  | fuel + 1, operands, items, values, unknown =>
    match items with
    | (argument, .option o name attached) :: rest =>
      match o with
      | none => readItems f fuel operands rest values (unknown ++ [argument])
      | some o => do
        let taken ← f.take argument.length [] o name attached rest
        let values ← f.setAll taken.settings values
        readItems f fuel operands taken.rest values (unknown ++ taken.unknown)
    | items => do
      let (values, operands, rest) ← f.takeOperands operands items values
      let extra := rest.takeWhile fun i => !isOption i
      let rest := rest.dropWhile fun i => !isOption i
      let unknown := unknown ++ extra.map (·.1)
      if rest.isEmpty then .ok (values, operands, unknown)
      else readItems f fuel operands rest values unknown

/-- Reads a command line: the values of its options and operands, and the arguments that belong to
nothing. -/
def read (f : Form) (arguments : List String) : Except Stop (Values × List String) := do
  let items ← f.pieces arguments
  let (values, missing, unknown) ← f.readItems (items.length + 1) f.operands items [] []
  if missing.isEmpty then .ok (values, unknown)
  else
    .error (.refused f.program ("the following arguments are required: " ++
      ", ".intercalate (missing.map Operand.name)))

end Form

/-! ## Groups of commands -/

/-- The option that asks for help. -/
def helpOption : CommandOption := ⟨["-h", "--help"], Form.helpKey, none, []⟩

/-- A group of commands, each with its form and with `α`. -/
structure Group (α : Type) where
  program : String
  commands : List (String × Form × α)

namespace Group

variable {α : Type}

/-- The form of what may stand before the name of a command. -/
def front (g : Group α) : Form := ⟨g.program, [helpOption], []⟩

/-- Reads the arguments up to the name of the command: answers those that belong to nothing, and
the arguments from the name on. -/
def readFront (g : Group α) : (fuel : Nat) → List Form.Item → List String →
    Except Stop (List String × List String)
  | 0, items, unknown => .ok (unknown, items.map (·.1))
  | fuel + 1, items, unknown =>
    match items with
    | (argument, .option o name attached) :: rest =>
      match o with
      | none => readFront g fuel rest (unknown ++ [argument])
      | some o => do
        let taken ← g.front.take argument.length [] o name attached rest
        let _ ← g.front.setAll taken.settings []
        readFront g fuel taken.rest (unknown ++ taken.unknown)
    | [(_, .mark)] => .ok (unknown, [])
    | items => .ok (unknown, items.map (·.1))

/-- Reads a command line of the group. -/
def read (g : Group α) (arguments : List String) : Except Stop (α × Values) := do
  let items ← g.front.pieces arguments
  let (unknown, named) ← g.readFront (items.length + 1) items []
  match named with
  | [] => .error (.refused g.program "the following arguments are required: command")
  | name :: rest =>
    match Named.get? name g.commands with
    | none => g.front.refuse "command" (Form.invalidChoice name (g.commands.map (·.1)))
    | some (form, a) =>
      let (values, more) ← form.read rest
      let unknown := unknown ++ more
      if unknown.isEmpty then .ok (a, values)
      else
        .error (.refused g.program ("unrecognized arguments: " ++ " ".intercalate unknown))

end Group

end Forge.Cli
