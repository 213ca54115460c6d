-- SUMMARY: The command line of a replay: its arguments read into options, or the reason they are refused.
import Statescope.Text.Split

/-!
# Options

A replay is told by its arguments which snapshots to read, where layouts are
kept, and what to export. Every option takes one value, joined to its name by an
equals sign or given as the next argument, and may be given once. Arguments are
read from left to right; the first one that asks for help or for the version
ends the reading, and so does the first one that is refused.
-/

namespace Statescope.Replay

/-- The options that take a value. -/
inductive Setting where
  | snapshots
  | storeDir
  | seed
  | layout
  | exportFile
deriving DecidableEq

namespace Setting

def name : Setting → String
  | .snapshots => "snapshots"
  | .storeDir => "store-dir"
  | .seed => "seed"
  | .layout => "layout"
  | .exportFile => "export"

def all : List Setting := [.snapshots, .storeDir, .seed, .layout, .exportFile]

/-- The option of a name. -/
def ofName? (name : String) : Option Setting := all.find? (·.name = name)

/-- Whether the value is a path, which cannot be empty. -/
def isPath (s : Setting) : Bool := s ≠ .layout

@[simp] theorem ofName?_name (s : Setting) : ofName? s.name = some s := by
  cases s <;> rfl

end Setting

inductive UsageError where
  | unknown (argument : String)
  | repeated (s : Setting)
  | missingValue (s : Setting)
  | emptyPath (s : Setting)
  | superfluousValue (argument : String)
  | missingOption (s : Setting)
deriving DecidableEq

namespace UsageError

def message : UsageError → String
  | .unknown argument => "unexpected argument " ++ argument
  | .repeated s => "--" ++ s.name ++ " is given twice"
  | .missingValue s => "--" ++ s.name ++ " needs a value"
  | .emptyPath s => "--" ++ s.name ++ " needs a path"
  | .superfluousValue argument => "no value expected in " ++ argument
  | .missingOption s => "--" ++ s.name ++ " is missing"

/-- The exit code of the program. -/
def code (_ : UsageError) : Nat := 2

end UsageError

structure Options where
  snapshots : String
  storeDir : Option String := none
  seed : Option String := none
  layout : Option String := none
  exportFile : Option String := none
deriving DecidableEq

/-- What the arguments ask for. -/
inductive Request where
  | replay (options : Options)
  | help
  | version
deriving DecidableEq

/-! ## Single arguments -/

inductive Argument where
  | setting (s : Setting) (value : Option String)
  | help
  | version
  /-- Two hyphens: no options follow. -/
  | stop
deriving DecidableEq

namespace Argument

/-- An argument after its two hyphens: a name, perhaps with a value. -/
def ofName (argument name : String) (value : Option String) : Except UsageError Argument :=
  match Setting.ofName? name with
  | some s => .ok (.setting s value)
  | none =>
    if name = "help" ∨ name = "version" then
      if value.isSome then .error (.superfluousValue argument)
      else .ok (if name = "help" then .help else .version)
    else .error (.unknown argument)

def read (argument : String) : Except UsageError Argument :=
  match argument.toList with
  | ['-', '-'] => .ok .stop
  | '-' :: '-' :: rest =>
    match Text.splitFirst? ['='] rest with
    | some (name, value) => ofName argument (String.ofList name) (some (String.ofList value))
    | none => ofName argument (String.ofList rest) none
  | '-' :: 'h' :: _ => .ok .help
  | '-' :: 'V' :: _ => .ok .version
  | _ => .error (.unknown argument)

/-- Whether an argument can be the value of the option before it. -/
def isValue (argument : String) : Bool :=
  match argument.toList with
  | '-' :: _ :: _ => false
  | _ => true

end Argument

/-! ## All arguments -/

/-- The options read so far, with their values. -/
abbrev Settings := List (Setting × String)

namespace Settings

def get? (given : Settings) (s : Setting) : Option String := given.lookup s

/-- Adds an option that has not been given yet. -/
def add (given : Settings) (s : Setting) (value : String) : Except UsageError Settings :=
  if s.isPath && value = "" then .error (.emptyPath s)
  else if (given.get? s).isSome then .error (.repeated s)
  else .ok ((s, value) :: given)

def options (given : Settings) : Except UsageError Options :=
  match given.get? .snapshots with
  | none => .error (.missingOption .snapshots)
  | some snapshots => .ok {
      snapshots
      storeDir := given.get? .storeDir
      seed := given.get? .seed
      layout := given.get? .layout
      exportFile := given.get? .exportFile }

end Settings

namespace Request

/-- The request once all arguments are read. -/
def ofSettings (given : Settings) : Except UsageError Request := given.options.map .replay

/-- Reads the arguments that follow the options already given. -/
def readFrom (given : Settings) : List String → Except UsageError Request
  | [] => ofSettings given
  | argument :: rest =>
    match Argument.read argument with
    | .error e => .error e
    | .ok .help => .ok .help
    | .ok .version => .ok .version
    | .ok .stop =>
      match rest with
      | [] => ofSettings given
      | stray :: _ => .error (.unknown stray)
    | .ok (.setting s (some value)) =>
      match given.add s value with
      | .error e => .error e
      | .ok given => readFrom given rest
    | .ok (.setting s none) =>
      match rest with
      | [] => .error (.missingValue s)
      | value :: rest =>
        if Argument.isValue value then
          match given.add s value with
          | .error e => .error e
          | .ok given => readFrom given rest
        else .error (.missingValue s)

def read (arguments : List String) : Except UsageError Request := readFrom [] arguments

end Request

end Statescope.Replay
