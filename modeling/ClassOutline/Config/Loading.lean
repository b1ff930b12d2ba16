import ClassOutline.Config.Environment
import ClassOutline.Log.Record

/-!
Variables from files of variables.

What a file binds is found out by a reader. Of several bindings of one name the last one counts, in the place of the
first. A variable that is set already stays as it is, and a name without a value sets nothing. The system refuses
some names and values; then the variables before them are set and those after them are not.
-/
namespace ClassOutline.Config

open Log

/-- A name, and its value if it has one. -/
abbrev Binding := String × Option String

/-- What a reader makes of a file of variables: what it has to say, and the bindings in order or why there are none. -/
structure VariableReading where
  records : List Record
  bindings : Except String (List Binding)

/-- A reader of files of variables. A file may be missing, and its values may refer to variables that are set. -/
abbrev VariableReader := Environment → Option ByteArray → VariableReading

inductive LoadingFault where
  | unreadable (message : String)
  | nullCharacter
  | equalsSign
  | emptyName
  deriving DecidableEq, Repr

def LoadingFault.message : LoadingFault → String
  | unreadable message => message
  | nullCharacter => "embedded null byte"
  | equalsSign => "illegal environment variable name"
  | emptyName => "[Errno 22] Invalid argument"

/-- Bind a name in its old place, or behind the others. -/
def rebind (bs : List Binding) (b : Binding) : List Binding :=
  if bs.any fun e => e.1 == b.1 then bs.map fun e => if e.1 = b.1 then b else e else bs ++ [b]

/-- The last binding of each name, in the place of the first one. -/
def collected (bs : List Binding) : List Binding :=
  bs.foldl rebind []

namespace Environment

/-- Why the system does not set a variable to a value. -/
def refusal? (name value : String) : Option LoadingFault :=
  if name.toList.contains '\x00' || value.toList.contains '\x00' then some .nullCharacter
  else if name.toList.contains '=' then some .equalsSign
  else if name.isEmpty then some .emptyName
  else none

/-- Set the variables that have a value and are not set, up to one that the system refuses. -/
def insertAll (env : Environment) : List Binding → Environment × Option LoadingFault
  | [] => (env, none)
  | (_, none) :: rest => env.insertAll rest
  | (name, some value) :: rest =>
    if env.isSet name then env.insertAll rest
    else match refusal? name value with
      | some fault => (env, some fault)
      | none => (env.insert name value).insertAll rest

def load (reader : VariableReader) (env : Environment) (file : Option ByteArray) : Environment × Option LoadingFault :=
  match (reader env file).bindings with
  | .error message => (env, some (.unreadable message))
  | .ok bs => env.insertAll (collected bs)

end Environment

end ClassOutline.Config
