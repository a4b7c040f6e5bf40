import CaptureForest.CommandLine.Grammar
import CaptureForest.Text.Alphanumeric
import CaptureForest.Text.Layout
/-!
# Reading command lines

The arguments of a program are told apart into options and operands, and read from left to right. Long
options may be abbreviated and may have their value behind an equals sign; single letters may stand
together behind one hyphen. After two hyphens nothing is an option. The first operand of a program names a
command, which reads all that follows.
-/

namespace CaptureForest

namespace CommandLine

/-- Why the reading of a command line ends early: help is asked for, or something is wrong. -/
inductive Halt where
  | help (s : Synopsis)
  | misuse (s : Synopsis) (complaint : String)
deriving BEq, Repr, Inhabited

/-- What stands behind the name of an option in the same argument: a value after an equals sign, or more
letters. -/
inductive Attached where
  | nothing
  | value (v : String)
  | letters (s : String)
deriving BEq, Repr, Inhabited

/-- What an argument looks like. An option comes with the name that it spells and what is behind it. -/
inductive Shape where
  | operand
  | separator
  | option (o : OptionRule) (name : String) (behind : Attached)
  | unknownOption
deriving BEq, Repr, Inhabited

def complain (title message : String) : String := "argument " ++ title ++ ": " ++ message

def invalidChoice (word : String) (words : List String) : String :=
  "invalid choice: " ++ Text.quote word ++ " (choose from " ++
    String.intercalate ", " (words.map Text.quote) ++ ")"

def isNumber (s : List Char) : Bool :=
  let digit (c : Char) : Bool := Text.isDecimal c
  let body := s.drop 1
  let fraction := (body.dropWhile digit).drop 1
  s.take 1 == ['-'] && !body.isEmpty &&
    (body.all digit || ((body.dropWhile digit).take 1 == ['.'] && !fraction.isEmpty && fraction.all digit))

namespace Synopsis

/-- All names of options with their rules, in order. -/
def names (s : Synopsis) : List (String × OptionRule) :=
  s.options.flatMap fun o => o.names.map fun name => (name, o)

def find? (s : Synopsis) (name : String) : Option OptionRule := s.names.lookup name

/-- An argument cut at its first equals sign. -/
def cutValue (argument : String) : String × Attached :=
  let (name, value) := Text.cutAt '=' argument
  (name, if argument.toList.contains '=' then .value value else .nothing)

/-- The options that an argument may abbreviate. A single letter may have more letters behind it. -/
def candidates (s : Synopsis) (argument : String) : List Shape :=
  if Text.startsWith argument "--" then
    let (start, value) := cutValue argument
    (s.names.filter fun n => Text.startsWith n.1 start).map fun (name, o) => .option o name value
  else
    let letter := String.ofList (argument.toList.take 2)
    let behind := String.ofList (argument.toList.drop 2)
    s.names.filterMap fun (name, o) =>
      if name = letter then some (.option o name (.letters behind))
      else if Text.startsWith name argument then some (.option o name .nothing)
      else none

def shapeName : Shape → String
  | .option _ name _ => name
  | _ => ""

/-- The option that an argument names in full, alone or with a value. -/
def inFull? (s : Synopsis) (argument : String) : Option Shape :=
  match s.find? argument with
  | some o => some (.option o argument .nothing)
  | none =>
    let (name, value) := cutValue argument
    if value == .nothing then none else (s.find? name).map fun o => .option o name value

/-- What an argument before the separator looks like. -/
def shape (s : Synopsis) (argument : String) : Except Halt Shape :=
  if !Text.startsWith argument "-" || argument.length = 1 then .ok .operand
  else
    match s.inFull? argument with
    | some found => .ok found
    | none =>
      match s.candidates argument with
      | [found] => .ok found
      | [] =>
        if isNumber argument.toList || argument.toList.contains ' ' then .ok .operand
        else .ok .unknownOption
      | several => .error <| .misuse s <| "ambiguous option: " ++ argument ++ " could match " ++
          String.intercalate ", " (several.map shapeName)

/-- The shapes of all arguments. -/
def shapes (s : Synopsis) : List String → Except Halt (List (Shape × String))
  | [] => .ok []
  | argument :: rest =>
    if argument = "--" then .ok ((.separator, argument) :: rest.map fun a => (.operand, a))
    else do
      let first ← s.shape argument
      let others ← s.shapes rest
      return (first, argument) :: others

/-! ### Options -/

/-- The arguments set by an option that is given a value, if it takes one. -/
def apply (s : Synopsis) (arguments : Pairs) (o : OptionRule) (value : String) : Except Halt Pairs :=
  let key := Value.str o.argument
  let checked (words : List String) (set : Value) : Except Halt Pairs :=
    if words.contains value then .ok (Pairs.insert key set arguments)
    else .error (.misuse s (complain o.title (invalidChoice value words)))
  match o.kind with
  | .help => .error (.help s)
  | .switch => .ok (Pairs.insert key (.bool true) arguments)
  | .text => .ok (Pairs.insert key (.str value) arguments)
  | .choice words => checked words (.str value)
  | .choices words =>
    checked words (.list (((Pairs.get o.argument arguments).items?.getD []) ++ [.str value]))

/-- The options that one argument gives, the option whose value has to follow, and the letters from the
first on that is no option. -/
structure Cluster where
  given : List (OptionRule × String) := []
  open? : Option OptionRule := none
  unknown : List Char := []

def ignored (s : Synopsis) (o : OptionRule) (value : List Char) : Halt :=
  .misuse s (complain o.title ("ignored explicit argument " ++ Text.quote (String.ofList value)))

/-- What an option gives whose value is all that is behind its letter. -/
def valueBehind (o : OptionRule) : List Char → Cluster
  | [] => { open? := some o }
  | '=' :: value => { given := [(o, String.ofList value)] }
  | value => { given := [(o, String.ofList value)] }

/-- The options of the letters behind an option that takes no value. -/
def letters (s : Synopsis) (o : OptionRule) : List Char → Except Halt Cluster
  | [] => .ok {}
  | '=' :: value => .error (ignored s o value)
  | '-' :: value => .error (ignored s o ('-' :: value))
  | c :: rest =>
    match s.find? (String.ofList ['-', c]) with
    | none => .ok { unknown := c :: rest }
    | some next =>
      if next.kind.takesValue then .ok (valueBehind next rest)
      else do
        let others ← s.letters next rest
        return { others with given := (next, "") :: others.given }

/-- What an option gives, with what is behind its name. -/
def cluster (s : Synopsis) (o : OptionRule) : Attached → Except Halt Cluster
  | .nothing => .ok (if o.kind.takesValue then { open? := some o } else { given := [(o, "")] })
  | .value v =>
    if o.kind.takesValue then .ok { given := [(o, v)] } else .error (ignored s o v.toList)
  | .letters behind =>
    if o.kind.takesValue then .ok { given := [(o, behind)] }
    else do
      let others ← s.letters o behind.toList
      return { others with given := (o, "") :: others.given }

def applyAll (s : Synopsis) (arguments : Pairs) (given : List (OptionRule × String)) : Except Halt Pairs :=
  given.foldlM (fun arguments (o, value) => s.apply arguments o value) arguments

/-- The values of arguments that are not given. -/
def absent (s : Synopsis) : Pairs :=
  Pairs.fields ((s.options.filter (·.kind != .help)).map fun o => (o.argument, o.absent))

end Synopsis

/-! ### Commands -/

/-- What was read so far: the operand, the other arguments, and what fits nowhere. -/
structure Reading where
  operand : Option String := none
  arguments : Pairs
  extras : List String := []
deriving BEq, Repr, Inhabited

namespace Reading

def addExtra (r : Reading) (argument : String) : Reading := { r with extras := r.extras ++ [argument] }

def setOperand (r : Reading) (operand : String) : Reading := { r with operand := some operand }

/-- The reading with the options that an argument gives, and with its unknown letters. -/
def take (s : Synopsis) (r : Reading) (given : List (OptionRule × String)) (unknown : List Char) :
    Except Halt Reading := do
  let arguments ← s.applyAll r.arguments given
  let r := { r with arguments }
  return if unknown.isEmpty then r else r.addExtra (String.ofList ('-' :: unknown))

/-- The reading after an option, whose value may be the next argument, and how many of the next arguments
it took. -/
def takeOption (s : Synopsis) (r : Reading) (o : OptionRule) (behind : Attached)
    (next : Option (Shape × String)) : Except Halt (Reading × Nat) := do
  let c ← s.cluster o behind
  match c.open?, next with
  | none, _ => return (← r.take s c.given c.unknown, 0)
  | some last, some (.operand, a) => return (← r.take s (c.given ++ [(last, a)]) c.unknown, 1)
  | some last, _ => throw (.misuse s (complain last.title "expected one argument"))

def isSeparator : Shape → Bool
  | .separator => true
  | _ => false

/-- The reading after one argument of a command, and how many of the next arguments it took. The separator
belongs to the operand beside it. -/
def step (s : Synopsis) (r : Reading) (shape : Shape) (a : String) (next : Option (Shape × String)) :
    Except Halt (Reading × Nat) :=
  match shape with
  | .unknownOption => .ok (r.addExtra a, 0)
  | .operand =>
    if r.operand.isSome then .ok (r.addExtra a, 0)
    else .ok (r.setOperand a, if next.any fun n => isSeparator n.1 then 1 else 0)
  | .separator =>
    match r.operand, next with
    | none, some (_, b) => .ok (r.setOperand b, 1)
    | _, _ => .ok (r.addExtra a, 0)
  | .option o _ behind => r.takeOption s o behind next

end Reading

/-- Reads the arguments of a command from left to right. -/
def readCommand (s : Synopsis) (r : Reading) : List (Shape × String) → Except Halt Reading
  | [] => .ok r
  | (shape, a) :: rest =>
    match r.step s shape a rest.head? with
    | .error e => .error e
    | .ok (r, taken) => readCommand s r (rest.drop taken)
termination_by arguments => arguments.length
decreasing_by grind

/-- The arguments of a command, its operand first, and what fits nowhere. -/
def commandArguments (s : Synopsis) (arguments : List String) : Except Halt (Pairs × List String) := do
  let r ← readCommand s { arguments := s.absent } (← s.shapes arguments)
  match r.operand with
  | some operand => return ((.str s.operand.name, .str operand) :: r.arguments, r.extras)
  | none => throw (.misuse s ("the following arguments are required: " ++ s.operand.name))

namespace Program

/-- Reads what follows the name of a command. -/
def readNamed (p : Program) (r : Reading) (name : String) (rest : List String) : Except Halt Reading :=
  match p.commands.find? (·.name == name) with
  | none => .error <| .misuse p.synopsis <|
      complain p.synopsis.operand.name (invalidChoice name (p.commands.map (·.name)))
  | some c => do
    let (arguments, extras) ← commandArguments (p.synopsisOf c) rest
    return ⟨some name, r.arguments ++ arguments, r.extras ++ extras⟩

/-- Reads the arguments of a program up to its command, which reads the others. -/
def readArguments (p : Program) (r : Reading) : List (Shape × String) → Except Halt Reading
  | [] => .ok r
  | (shape, a) :: rest =>
    match shape with
    | .unknownOption => p.readArguments (r.addExtra a) rest
    | .operand => p.readNamed r a (rest.map (·.2))
    | .separator => if rest.isEmpty then .ok (r.addExtra a) else p.readNamed r a (rest.map (·.2))
    | .option o _ behind =>
      match r.takeOption p.synopsis o behind rest.head? with
      | .error e => .error e
      | .ok (r, taken) => p.readArguments r (rest.drop taken)
termination_by arguments => arguments.length
decreasing_by all_goals grind

/-- The name under which the command is kept among the arguments. -/
def commandKey : String := "command"

/-- All arguments of a command line: those of the program, the command, and those of the command. -/
def read (p : Program) (arguments : List String) : Except Halt Pairs := do
  let s := p.synopsis
  let own := s.absent ++ Pairs.fields [(commandKey, .none)]
  let r ← p.readArguments { arguments := own } (← s.shapes arguments)
  if r.extras.isEmpty then
    match r.operand with
    | some name => return Pairs.insert (.str commandKey) (.str name) r.arguments
    | none => return r.arguments
  else throw (.misuse s ("unrecognized arguments: " ++ String.intercalate " " r.extras))

end Program

end CommandLine

end CaptureForest
