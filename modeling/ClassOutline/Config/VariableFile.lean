import ClassOutline.Config.Loading
import ClassOutline.Text.Basic
import ClassOutline.Text.Case
import ClassOutline.Text.Utf8

/-!
A reader of files of variables.

A line binds a name to a value: `NAME=value`, perhaps after the word `export`, with blanks around the sign. A
value in quotes may go over several lines and hold escapes; any other ends with the line or before a comment,
which begins with a blank and a number sign. A name without a sign has no value. A line that is none of this
counts for nothing. A value may refer to a variable by `$` and its name in braces, perhaps with `:-` and a text for the
case that it has no value.
-/
namespace ClassOutline.Config.VariableFile

def isInlineBlank (c : Char) : Bool :=
  Text.isBlank c && c != '\n' && c != '\r'

def endsLine (c : Char) : Bool :=
  c == '\n' || c == '\r'

def unifyLines : List Char → List Char
  | '\r' :: '\n' :: cs => '\n' :: unifyLines cs
  | '\r' :: cs => '\n' :: unifyLines cs
  | c :: cs => c :: unifyLines cs
  | [] => []

def afterLine (cs : List Char) : List Char :=
  (cs.dropWhile fun c => !endsLine c).drop 1

/-- The text without a leading `export` and the blanks after it. -/
def dropExport (cs : List Char) : List Char :=
  let word := "export".toList
  let rest := cs.drop word.length
  match word.isPrefixOf cs, rest with
  | true, c :: _ => if isInlineBlank c then rest.dropWhile isInlineBlank else cs
  | _, _ => cs

/-- A name, which may be missing before a comment, and what follows it. -/
def name? (cs : List Char) : Option (Option String × List Char) :=
  match cs with
  | '#' :: _ => some (none, cs)
  | '\'' :: rest =>
    let name := rest.takeWhile (· != '\'')
    match name, rest.drop name.length with
    | _ :: _, _ :: after => some (some (String.ofList name), after)
    | _, _ => none
  | _ =>
    let name := cs.takeWhile fun c => c != '=' && c != '#' && !Text.isBlank c
    if name.isEmpty then none else some (some (String.ofList name), cs.drop name.length)

/-- A text up to its closing quote, and what follows. A character after a backslash closes nothing. -/
def closed? (quote : Char) : List Char → Option (List Char × List Char)
  | [] => none
  | '\\' :: c :: rest => (closed? quote rest).map fun r => ('\\' :: c :: r.1, r.2)
  | c :: rest => if c == quote then some ([], rest) else (closed? quote rest).map fun r => (c :: r.1, r.2)

def escapes : List (Char × Char) :=
  [('\\', '\\'), ('\'', '\''), ('"', '"'), ('a', '\x07'), ('b', '\x08'), ('f', '\x0c'), ('n', '\n'), ('r', '\r'),
    ('t', '\t'), ('v', '\x0b')]

/-- The text with its escapes replaced, as far as they are known. -/
def unescape (known : List (Char × Char)) : List Char → List Char
  | '\\' :: c :: cs =>
    match known.lookup c with
    | some d => d :: unescape known cs
    | none => '\\' :: unescape known (c :: cs)
  | c :: cs => c :: unescape known cs
  | [] => []
termination_by cs => cs.length

def beforeComment : List Char → List Char
  | [] => []
  | c :: cs =>
    if Text.isBlank c && (cs.dropWhile Text.isBlank).head? == some '#' then [] else c :: beforeComment cs

/-- A value and what follows it, from the text right after the sign: a comment may follow the sign at once. -/
def value? (cs : List Char) : Option (String × List Char) :=
  match cs.dropWhile isInlineBlank with
  | '\'' :: rest =>
    (closed? '\'' rest).map fun r => (String.ofList (unescape (escapes.take 2) r.1), r.2)
  | '"' :: rest => (closed? '"' rest).map fun r => (String.ofList (unescape escapes r.1), r.2)
  | _ =>
    let line := cs.takeWhile fun c => !endsLine c
    some (String.ofList (Text.trim (beforeComment line)), cs.drop line.length)

/-- The text after a comment and the end of the line, if nothing else stands there. -/
def lineEnd? (cs : List Char) : Option (List Char) :=
  match cs.dropWhile isInlineBlank with
  | [] => some []
  | '#' :: rest => some (afterLine rest)
  | c :: rest => if endsLine c then some rest else none

/-- The statement at the front, which may be a comment or no more than blanks, and what follows its line. There is none
if the line cannot be read. -/
def statement? (cs : List Char) : Option (Option Binding) × List Char :=
  match cs.dropWhile Text.isBlank with
  | [] => (some none, [])
  | start =>
    let cs := dropExport start
    match name? cs with
    | none => (none, afterLine cs)
    | some (name, afterName) =>
      match afterName.dropWhile isInlineBlank with
      | '=' :: afterSign =>
        match value? afterSign with
        | none => (none, afterLine afterSign)
        | some (value, afterValue) =>
          match lineEnd? afterValue with
          | some rest => (some (name.map fun n => (n, some value)), rest)
          | none => (none, afterLine afterValue)
      | rest =>
        match lineEnd? rest with
        | some after => (some (name.map fun n => (n, none)), after)
        | none => (none, afterLine rest)

def binding (cs : List Char) : Option Binding × List Char :=
  ((statement? cs).1.join, (statement? cs).2)

/-- The bindings of a text with at most `lines` lines. -/
def bindingsOf : Nat → List Char → List Binding
  | 0, _ => []
  | lines + 1, cs =>
    if cs.isEmpty then []
    else
      let first := binding cs
      first.1.toList ++ bindingsOf lines first.2

def dropMark : List Char → List Char
  | '\ufeff' :: cs => cs
  | cs => cs

def bindings (text : List Char) : List Binding :=
  bindingsOf text.length (unifyLines (dropMark text))

/-- The numbers of the lines that cannot be read, in a text that starts on some line and has at most `lines` lines.
Blank lines in front of such a line count as its beginning. -/
def unreadableOf : Nat → Nat → List Char → List Nat
  | 0, _, _ => []
  | lines + 1, number, cs =>
    if cs.isEmpty then []
    else
      let first := statement? cs
      let next := number + (cs.count '\n' - first.2.count '\n')
      (if first.1.isNone then [number] else []) ++ unreadableOf lines next first.2

def unreadable (text : List Char) : List Nat :=
  unreadableOf text.length 1 (unifyLines (dropMark text))

/-- A reference behind its opening brace: the name, the text for the case that it has no value, and what follows
the closing brace. -/
def reference? (cs : List Char) : Option (String × String × List Char) :=
  let name := cs.takeWhile fun c => c != '\x7d' && c != ':'
  match cs.drop name.length with
  | '\x7d' :: rest => some (String.ofList name, "", rest)
  | ':' :: '-' :: rest =>
    let default := rest.takeWhile (· != '\x7d')
    match rest.drop default.length with
    | _ :: after => some (String.ofList name, String.ofList default, after)
    | [] => none
  | _ => none

/-- The text with its references replaced, where `value` gives the value of a name or the given text. -/
def interpolate (value : String → String → String) : Nat → List Char → List Char
  | 0, cs => cs
  | _, [] => []
  | fuel + 1, c :: cs =>
    let plain := c :: interpolate value fuel cs
    match c, cs with
    | '$', '\x7b' :: rest =>
      match reference? rest with
      | some (name, default, after) => (value name default).toList ++ interpolate value fuel after
      | none => plain
    | _, _ => plain

/-- The value of a name for a reference: that of the environment, or else that of the last binding before. -/
def referenceValue (env : Environment) (earlier : List Binding) (name default : String) : String :=
  match env.get? name with
  | some value => value
  | none =>
    match earlier.lookup name with
    | some value => value.getD ""
    | none => default

/-- Bindings with their references replaced, after earlier ones of which the last stands in front. -/
def resolve (env : Environment) (earlier : List Binding) : List Binding → List Binding
  | [] => []
  | (name, value) :: rest =>
    let resolved := (name, value.map fun v =>
      String.ofList (interpolate (referenceValue env earlier) v.length v.toList))
    resolved :: resolve env (resolved :: earlier) rest

def offWords : List String := ["1", "true", "t", "yes", "y"]

def isOff (env : Environment) : Bool :=
  match env.get? "PYTHON_DOTENV_DISABLED" with
  | some value => offWords.any fun word => Text.foldIs word value
  | none => false

def unreadableRecord (line : Nat) : Log.Record :=
  .of .warning "dotenv.main" s!"python-dotenv could not parse statement starting at line {line}"

/-- Read a file. One that is missing, or turned off, binds nothing. -/
def reader : VariableReader := fun env file =>
  match isOff env, file with
  | false, some content =>
    match Text.decodeUtf8? content with
    | .ok text => ⟨(unreadable text).map unreadableRecord, .ok (resolve env [] (bindings text))⟩
    | .error message => ⟨[], .error message⟩
  | _, _ => ⟨[], .ok []⟩

end ClassOutline.Config.VariableFile
