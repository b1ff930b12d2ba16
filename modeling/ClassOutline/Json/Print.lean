import ClassOutline.Text.Raw

/-!
JSON documents and their texts, on one line or with one item a line. The members of an object keep their order.
-/
namespace ClassOutline

inductive Json where
  | null
  | bool (b : Bool)
  | number (n : Int)
  | string (s : RawText)
  | array (items : List Json)
  | object (members : List (RawText × Json))

instance : Inhabited Json := ⟨.null⟩

namespace Json

structure Format where
  /-- Letters outside of printable ASCII are written as their UTF-16 units. -/
  ascii : Bool
  /-- One item a line, each level indented by this many spaces more; no spaces for zero or less. -/
  indent : Option Int
  /-- Between items on one line. -/
  itemSeparator : String
  /-- Between the name and the value of a member. -/
  nameSeparator : String

/-- On one line, with a space after each separator, in ASCII only. -/
def Format.asciiLine : Format := ⟨true, none, ", ", ": "⟩

def Format.indented (indent : Int) : Format := ⟨false, some indent, ",", ": "⟩

inductive IndentFault where
  /-- The indentation is not a signed number of 64 bits. -/
  | beyondWord
  /-- There is no room for the spaces of one indentation. -/
  | beyondMemory
  deriving DecidableEq, Repr

def IndentFault.message : IndentFault → String
  | beyondWord => "cannot fit 'int' into an index-sized integer"
  | beyondMemory => ""

/-- One item a line, if the indentation can be written with room for so many spaces. -/
def Format.indented? (room : Nat) (indent : Int) : Except IndentFault Format :=
  if indent < -0x8000000000000000 ∨ 0x8000000000000000 ≤ indent then .error .beyondWord
  else if room < indent then .error .beyondMemory
  else .ok (.indented indent)

/-- A number below `2 ^ 16` as an escape. -/
def unitEscape (n : Nat) : List Char :=
  '\\' :: 'u' :: Text.hex 4 n

/-- A character as one or two UTF-16 units. -/
def charEscape (c : Char) : List Char :=
  let n := c.toNat
  if n < 0x10000 then unitEscape n
  else
    let rest := n - 0x10000
    unitEscape (0xD800 + rest / 0x400) ++ unitEscape (0xDC00 + rest % 0x400)

def stringChar (ascii : Bool) (c : Char) : List Char :=
  if c = '"' ∨ c = '\\' then ['\\', c]
  else if c = '\n' then ['\\', 'n']
  else if c = '\r' then ['\\', 'r']
  else if c = '\t' then ['\\', 't']
  else if c.toNat = 0x0C then ['\\', 'f']
  else if c.toNat = 0x08 then ['\\', 'b']
  else if c.toNat < 0x20 then charEscape c
  else if ascii ∧ 0x7F ≤ c.toNat then charEscape c
  else [c]

/-- How one letter stands inside a string. A byte that is no character is escaped in ASCII and stays else. -/
def stringLetter (ascii : Bool) : Letter → RawText
  | .char c => (stringChar ascii c).map .char
  | .stray b => if ascii then (unitEscape (Letter.stray b).code).map .char else [.stray b]

def stringText (ascii : Bool) (s : RawText) : RawText :=
  .char '"' :: s.flatMap (stringLetter ascii) ++ [.char '"']

/-- A new line at a depth, for a format with one item a line. -/
def Format.newLine (f : Format) (depth : Nat) : RawText :=
  match f.indent with
  | none => []
  | some n => .char '\n' :: List.replicate (n.toNat * depth) (.char ' ')

/-- Items in brackets at a depth; brackets without items are written together. -/
def Format.bracket (f : Format) (depth : Nat) (opening closing : RawText) (items : List RawText) : RawText :=
  match items with
  | [] => opening ++ closing
  | items =>
    opening ++ f.newLine (depth + 1) ++ (raw f.itemSeparator ++ f.newLine (depth + 1)).intercalate items ++
      f.newLine depth ++ closing

mutual

/-- The text of a document at a depth. -/
def print (f : Format) (depth : Nat) : Json → RawText
  | null => "null"
  | bool b => if b then "true" else "false"
  | number n => toString n
  | string s => stringText f.ascii s
  | array items => f.bracket depth "[" "]" (printItems f (depth + 1) items)
  | object members => f.bracket depth "\x7b" "\x7d" (printMembers f (depth + 1) members)

def printItems (f : Format) (depth : Nat) : List Json → List RawText
  | [] => []
  | item :: rest => item.print f depth :: printItems f depth rest

def printMembers (f : Format) (depth : Nat) : List (RawText × Json) → List RawText
  | [] => []
  | (name, value) :: rest =>
    (stringText f.ascii name ++ raw f.nameSeparator ++ value.print f depth) :: printMembers f depth rest

end

def render (f : Format) (j : Json) : RawText :=
  j.print f 0

end Json

end ClassOutline
