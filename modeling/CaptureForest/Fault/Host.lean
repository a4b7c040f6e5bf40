import CaptureForest.Value.Text
/-!
# Faults of the host

Faults that do not belong to this library: arguments of a wrong type, missing files, interrupts. Such
a fault has a kind and arguments, and a fault of the file system may name a file.
-/

namespace CaptureForest

inductive HostKind where
  | assertion
  | missingAttribute
  | fileExists
  | fileNotFound
  | general
  | index
  | interrupt
  | isDirectory
  | key
  | notDirectory
  | overflow
  | permission
  | recursion
  | representer
  | runtime
  | system
  | type
  | unicodeDecode
  | value
  | zeroDivision
  | memory
  | notImplemented
  | timeout
  | other (name : String)
deriving DecidableEq, Repr, Inhabited

namespace HostKind

/-- The kinds of fault that some part of the program tells from others. -/
def all : List HostKind :=
  [.assertion, .missingAttribute, .fileExists, .fileNotFound, .general, .index, .interrupt, .isDirectory,
    .key, .notDirectory, .overflow, .permission, .recursion, .representer, .runtime, .system, .type,
    .unicodeDecode, .value, .zeroDivision, .memory, .notImplemented, .timeout]

/-- The name of a kind of fault in logs. -/
def name : HostKind → String
  | .assertion => "AssertionError"
  | .missingAttribute => "AttributeError"
  | .fileExists => "FileExistsError"
  | .fileNotFound => "FileNotFoundError"
  | .general => "Exception"
  | .index => "IndexError"
  | .interrupt => "KeyboardInterrupt"
  | .isDirectory => "IsADirectoryError"
  | .key => "KeyError"
  | .notDirectory => "NotADirectoryError"
  | .overflow => "OverflowError"
  | .permission => "PermissionError"
  | .recursion => "RecursionError"
  | .representer => "RepresenterError"
  | .runtime => "RuntimeError"
  | .system => "OSError"
  | .type => "TypeError"
  | .unicodeDecode => "UnicodeDecodeError"
  | .value => "ValueError"
  | .zeroDivision => "ZeroDivisionError"
  | .memory => "MemoryError"
  | .notImplemented => "NotImplementedError"
  | .timeout => "TimeoutError"
  | .other name => name

/-- Further faults that the operating system reports with a number. -/
def otherSystemNames : List String := [
  "BlockingIOError", "BrokenPipeError", "ChildProcessError", "ConnectionAbortedError", "ConnectionError",
  "ConnectionRefusedError", "ConnectionResetError", "InterruptedError", "ProcessLookupError"]

/-- Further kinds of fault, of which only the name matters. -/
def otherNames : List String := otherSystemNames ++ [
  "ArithmeticError", "BufferError", "EOFError", "FloatingPointError", "ImportError", "LookupError",
  "ModuleNotFoundError", "NameError", "ReferenceError", "StopAsyncIteration", "StopIteration",
  "SyntaxError", "SystemError", "UnboundLocalError", "UnicodeError", "UserWarning", "Warning"]

/-- Other names of the general fault of the operating system. -/
def systemNames : List String := ["EnvironmentError", "IOError"]

def ofName? (name : String) : Option HostKind :=
  if systemNames.contains name then some .system
  else if otherNames.contains name then some (.other name)
  else all.find? (·.name == name)

/-- Faults that the operating system reports with a number. -/
def isSystem : HostKind → Bool
  | .fileExists | .fileNotFound | .isDirectory | .notDirectory | .permission | .system | .timeout => true
  | .other name => otherSystemNames.contains name
  | _ => false

/-- The special kinds of system fault, by their number. -/
def ofErrorNumber? : Int → Option HostKind
  | 1 | 13 => some .permission
  | 2 => some .fileNotFound
  | 3 => some (.other "ProcessLookupError")
  | 4 => some (.other "InterruptedError")
  | 10 => some (.other "ChildProcessError")
  | 11 | 114 | 115 => some (.other "BlockingIOError")
  | 17 => some .fileExists
  | 20 => some .notDirectory
  | 21 => some .isDirectory
  | 32 | 108 => some (.other "BrokenPipeError")
  | 103 => some (.other "ConnectionAbortedError")
  | 104 => some (.other "ConnectionResetError")
  | 110 => some .timeout
  | 111 => some (.other "ConnectionRefusedError")
  | _ => none

end HostKind

/-- A fault of the host. A system fault can name a file, or two. -/
structure HostFault where
  kind : HostKind
  arguments : List Value := []
  filename : Option Value := none
  otherFilename : Option Value := none
deriving BEq, Repr, Inhabited

namespace HostFault

/-- The special kind of a general system fault with a known number. -/
def specialKind (kind : HostKind) (number : Value) : HostKind :=
  match kind, number with
  | .system, .int n => (HostKind.ofErrorNumber? n).getD .system
  | .system, .bool true => (HostKind.ofErrorNumber? 1).getD .system
  | kind, _ => kind

/-- A fault built from the arguments as given. Of two to five arguments of a system fault, the first is its
number, the second its text, and the third and the fifth are the files it names. -/
def ofArguments (kind : HostKind) (arguments : List Value) : HostFault :=
  let given : Value → Option Value := fun v => if v.isAbsent then none else some v
  match kind.isSystem && arguments.length ≤ 5, arguments with
  | true, number :: text :: rest =>
    let filename := rest.head?.bind given
    { kind := specialKind kind number, arguments := [number, text], filename
      otherFilename := if filename.isSome then rest[2]?.bind given else none }
  | _, _ => { kind, arguments }

/-- The text of a fault. A system fault shows its number, its text and the files it names. -/
def text (e : HostFault) : String :=
  let files := (e.filename.map fun f => ": " ++ f.quoted).getD "" ++
    (e.otherFilename.map fun f => " -> " ++ f.quoted).getD ""
  let numbered (number text : Value) : String := "[Errno " ++ number.plain ++ "] " ++ text.plain ++ files
  match e.kind.isSystem, e.arguments with
  | true, [number, text] => numbered number text
  | isSystem, arguments =>
    if isSystem && e.filename.isSome then numbered .none .none
    else match arguments with
      | [] => ""
      | [argument] => if e.kind = .key then argument.quoted else argument.plain
      | _ => (Value.tuple arguments).quoted

def withFilename (e : HostFault) (file : Option Value) : HostFault :=
  if e.kind.isSystem then { e with filename := file } else e

end HostFault

end CaptureForest
