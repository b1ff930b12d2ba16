import ClassOutline.Text.Quoted

/-!
Texts that come from the system.

To the system a file name or an argument is a row of bytes. Where they are UTF-8 the text has their characters;
a byte that is no part of a character stands in the text as a letter of its own. Such a letter has the code of a
lone surrogate, so no encoder takes it: JSON escapes it, UTF-8 has nothing for it, and messages show its number.
-/
namespace ClassOutline

/-- A character, or a byte from `0x80` on that is no part of one, counted from there. -/
inductive Letter where
  | char (c : Char)
  | stray (b : Fin 128)
  deriving DecidableEq, Repr

namespace Letter

/-- The code point. That of a byte is its low surrogate. -/
def code : Letter → Nat
  | char c => c.toNat
  | stray b => 0xDC80 + b.val

def size : Letter → Nat
  | char c => c.utf8Size
  | stray _ => 1

def isStray : Letter → Bool
  | char _ => false
  | stray _ => true

instance : LE Letter := ⟨fun a b => a.code ≤ b.code⟩

instance : LT Letter := ⟨fun a b => a.code < b.code⟩

instance : DecidableLT Letter := fun a b => inferInstanceAs (Decidable (a.code < b.code))

end Letter

/-- A text from the system. -/
abbrev RawText := List Letter

def raw (s : String) : RawText :=
  s.toList.map .char

instance : Coe String RawText := ⟨raw⟩

namespace RawText

def size : RawText → Nat
  | [] => 0
  | l :: rest => l.size + size rest

def chars? : RawText → Option (List Char)
  | [] => some []
  | .char c :: rest => (chars? rest).map (c :: ·)
  | .stray _ :: _ => none

/-- The number of a letter that is no character, as messages write it. -/
def escape (l : Letter) : List Char :=
  '\\' :: 'u' :: Text.hex 4 l.code

def shownLetter : Letter → List Char
  | .char c => [c]
  | .stray b => escape (.stray b)

def shown (t : RawText) : String :=
  String.ofList (t.flatMap shownLetter)

def quotedLetter (quote : Char) : Letter → List Char
  | .char c => Text.quotedChar quote c
  | .stray b => escape (.stray b)

def quoteFor (t : RawText) : Char :=
  if t.contains (.char '\'') && !t.contains (.char '"') then '"' else '\''

def quoted (t : RawText) : String :=
  let quote := quoteFor t
  String.ofList (quote :: t.flatMap (quotedLetter quote) ++ [quote])

/-- Why a text with stray bytes is not encoded. The message names the first run of them. -/
def encodingMessage (t : RawText) : String :=
  let first := (t.takeWhile fun l => !l.isStray).length
  match (t.drop first).takeWhile Letter.isStray with
  | [l] =>
    let shownStray := String.ofList (escape l)
    s!"'utf-8' codec can't encode character '{shownStray}' in position {first}: surrogates not allowed"
  | run =>
    let last := first + run.length - 1
    s!"'utf-8' codec can't encode characters in position {first}-{last}: surrogates not allowed"

def utf8? (t : RawText) : Except String String :=
  match t.chars? with
  | some cs => .ok (String.ofList cs)
  | none => .error t.encodingMessage

end RawText

end ClassOutline
