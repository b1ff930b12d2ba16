import ClassOutline.Php.Numeral
import ClassOutline.Php.Token
import ClassOutline.Text.Case

/-!
From the bytes of a source to its tokens.

A source is read as a list of characters, one for each byte, so that positions are offsets and every byte
that is not ASCII is a letter. What a character means depends on where it stands: in markup outside the tags,
in code, or in a template that may hold code again. Blanks, comments, markup and the plain text of templates
leave no token; of a comment it is kept that it stands before a token.
-/
namespace ClassOutline.Php

/-- Where a character stands. -/
inductive Mode where
  | markup
  | code
  /-- Between two quotes of a kind that allows code. -/
  | template (quote : Char)
  /-- Between the lines of a labelled text; a raw one holds no code. -/
  | labelled (label : List Char) (raw : Bool) (lineStart : Bool)
  deriving DecidableEq, Repr

/-- What a piece of a source leaves. -/
inductive Piece where
  | nothing
  | comment
  | token (lexeme : Lexeme)

/-- What the first character of a source begins. -/
structure Scan where
  /-- How many characters belong to it besides the first one. -/
  more : Nat
  piece : Piece
  /-- The modes after it, the innermost first. -/
  modes : List Mode

/-! ### Character classes -/

def backquote : Char := Char.ofNat 0x60

def openBrace : Char := '\x7b'

def closeBrace : Char := '\x7d'

def isBlankByte (c : Char) : Bool :=
  c == ' ' || c == '\t' || c == '\n' || c == '\r' || c == '\x0b' || c == '\x0c'

def startsName (c : Char) : Bool :=
  c.isAlpha || c == '_' || 0x80 ≤ c.toNat

def continuesName (c : Char) : Bool :=
  startsName c || c.isDigit

/-- The first character satisfies a test. -/
def headIs (p : Char → Bool) : List Char → Bool
  | [] => false
  | c :: _ => p c

/-! ### Lengths of tokens -/

/-- The length of a line comment, which ends before a line break or a closing tag. -/
def lineCommentLength (n : Nat) : List Char → Nat
  | [] => n
  | c :: cs =>
    if c == '\n' || c == '\r' || (c == '?' && headIs (· == '>') cs) then n else lineCommentLength (n + 1) cs

/-- The length up to the end of a block comment. -/
def blockCommentLength? (n : Nat) : List Char → Option Nat
  | [] => none
  | c :: cs => if c == '*' && headIs (· == '/') cs then some (n + 2) else blockCommentLength? (n + 1) cs

/-- The length up to the closing single quote. -/
def quotedLength? (n : Nat) : List Char → Option Nat
  | [] => none
  | '\\' :: _ :: cs => quotedLength? (n + 2) cs
  | c :: cs => if c == '\'' then some (n + 1) else quotedLength? (n + 1) cs

/-- The length of a name, with the backslashes that join its parts. -/
def nameLength : List Char → Nat
  | [] => 0
  | c :: cs =>
    if continuesName c || (c == '\\' && headIs startsName cs) then nameLength cs + 1 else 0

/-- The length of a subscript in the plain text of a template: a name, a variable, or a whole number that may be
negative, between square brackets. -/
def subscriptLength? : List Char → Option Nat
  | '[' :: cs =>
    let n :=
      match cs with
      | '$' :: rest => if headIs startsName rest then (rest.takeWhile continuesName).length + 1 else 0
      | '-' :: rest => if headIs Char.isDigit rest then Numeral.wholeLength rest + 1 else 0
      | c :: _ => if startsName c then (cs.takeWhile continuesName).length else Numeral.wholeLength cs
      | [] => 0
    if n != 0 && headIs (· == ']') (cs.drop n) then some (n + 2) else none
  | _ => none

/-- The length of a variable in the plain text of a template, behind its dollar sign. A square bracket right behind
its name opens a subscript. -/
def templateVariableLength? (cs : List Char) : Option Nat :=
  let n := (cs.takeWhile continuesName).length
  if headIs (· == '[') (cs.drop n) then (subscriptLength? (cs.drop n)).map (n + ·) else some n

/-- The opening of a labelled text after its three angle brackets: its length, the label, and whether the text
is raw. -/
def labelOpening? (cs : List Char) : Option (Nat × List Char × Bool) :=
  let blanks := (cs.takeWhile fun c => c == ' ' || c == '\t').length
  let afterBlanks := cs.drop blanks
  let quote := afterBlanks.head?.filter fun c => c == '\'' || c == '"'
  let fromLabel := afterBlanks.drop quote.toList.length
  let label := fromLabel.takeWhile continuesName
  let afterLabel := fromLabel.drop label.length
  let closed := afterLabel.drop quote.toList.length
  if headIs startsName label && quote.toList.isPrefixOf afterLabel then
    let size := blanks + 2 * quote.toList.length + label.length
    match closed with
    | '\r' :: '\n' :: _ => some (size + 2, label, quote == some '\'')
    | c :: _ => if c == '\n' || c == '\r' then some (size + 1, label, quote == some '\'') else none
    | [] => none
  else none

/-- The length of the closing label at the beginning of a line. -/
def labelClosing? (label cs : List Char) : Option Nat :=
  let blanks := (cs.takeWhile fun c => c == ' ' || c == '\t').length
  let fromLabel := cs.drop blanks
  if label.isPrefixOf fromLabel && !headIs continuesName (fromLabel.drop label.length)
  then some (blanks + label.length)
  else none

/-- Symbols of several characters, the longer ones first. -/
def longSymbols : List String :=
  ["<<<", "**=", "...", "<=>", "===", "!==", "<<=", ">>=", "??=", "?->",
    "+=", "-=", "*=", "/=", ".=", "%=", "&=", "|=", "^=", "->", "=>", "::", "==", "!=", "<>", "<=", ">=", "&&",
    "||", "??", "<<", ">>", "**", "++", "--", "|>", "#["]

def shortSymbols : List Char :=
  ['+', '-', '*', '/', '%', '=', '<', '>', '!', '~', '^', '&', '|', '.', ',', ';', ':', '?', '@', '(', ')', '[',
    ']', '$', '\\']

/-- The longest symbol in front. -/
def symbol? (c : Char) (cs : List Char) : Option String :=
  (longSymbols.find? fun s => s.toList.isPrefixOf (c :: cs)).orElse fun _ =>
    if shortSymbols.contains c then some (String.singleton c) else none

/-! ### One step -/

/-- Whether a quoted or a labelled text begins here. -/
def startsText (cs : List Char) : Bool :=
  headIs (fun c => c == '\'' || c == '"') cs || ['<', '<', '<'].isPrefixOf cs

/-- A word, a qualified name, or the mark of a binary text, which means nothing. -/
def namePiece (name rest : List Char) : Piece :=
  if name.head? == some '\\' then .token .rootedName
  else if name.contains '\\' then
    let first := Text.lowerAscii (String.ofList (name.takeWhile (· != '\\')))
    .token (if first == "namespace" then .relativeName else .qualifiedName)
  else if (name == ['b'] || name == ['B']) && startsText rest then .nothing
  else .token (.word (Text.lowerAscii (String.ofList name)))

/-- A step in markup: only an opening tag counts. The tag that prints stands for the keyword that does. -/
def scanMarkup (modes : List Mode) (c : Char) (cs : List Char) : Scan :=
  if c == '<' && headIs (· == '?') cs then
    if ['?', '='].isPrefixOf cs then ⟨2, .token (.word "echo"), modes⟩
    else if Text.lowerAscii (String.ofList (cs.take 4)) == "?php" then ⟨4, .nothing, modes⟩
    else ⟨1, .nothing, modes⟩
  else ⟨0, .nothing, .markup :: modes⟩

/-- A step in code; `modes` are those around it. -/
def scanCode (modes : List Mode) (c : Char) (cs : List Char) : Option Scan :=
  let here := Mode.code :: modes
  let token (more : Nat) (lexeme : Lexeme) : Option Scan := some ⟨more, .token lexeme, here⟩
  if isBlankByte c then some ⟨0, .nothing, here⟩
  else if (c == '#' && !headIs (· == '[') cs) || (c == '/' && headIs (· == '/') cs) then
    some ⟨lineCommentLength 0 cs, .comment, here⟩
  else if c == '/' && headIs (· == '*') cs then
    (blockCommentLength? 0 (cs.drop 1)).map fun n => ⟨1 + n, .comment, here⟩
  else if c == '?' && headIs (· == '>') cs then some ⟨1, .token (.symbol ";"), .markup :: here⟩
  else if c == '\'' then (quotedLength? 0 cs).map fun n => ⟨n, .token .text, here⟩
  else if c == '"' then some ⟨0, .token .templateStart, .template c :: here⟩
  else if c == backquote then some ⟨0, .token .commandStart, .template c :: here⟩
  else if c.isDigit || (c == '.' && headIs Char.isDigit cs) then
    (Numeral.length? (c :: cs)).bind fun n => token (n - 1) .number
  else if c == '$' && headIs startsName cs then token (cs.takeWhile continuesName).length .variableName
  else if startsName c || (c == '\\' && headIs startsName cs) then
    let n := nameLength cs
    some ⟨n, namePiece (c :: cs.take n) (cs.drop n), here⟩
  else if c == openBrace then some ⟨0, .token (.symbol "\x7b"), .code :: here⟩
  else if c == closeBrace then some ⟨0, .token (.symbol "\x7d"), if modes.isEmpty then here else modes⟩
  else match symbol? c cs with
    | some "<<<" =>
      match labelOpening? (cs.drop 2) with
      | some (n, label, raw) => some ⟨2 + n, .token .templateStart, .labelled label raw true :: here⟩
      | none => none
    | some s => token (s.length - 1) (.symbol s)
    | none => none

/-- A step that begins with a dollar sign and a brace in a template. A name with nothing else up to the closing
brace is a variable; a name before a square bracket is one with a subscript. -/
def scanBraced (here : List Mode) (cs : List Char) : Scan :=
  let name := (cs.drop 1).takeWhile continuesName
  let n := name.length
  match headIs startsName name, cs.drop (1 + n) with
  | true, '\x7d' :: _ => ⟨n + 2, .nothing, here⟩
  | true, '[' :: _ => ⟨n + 1, .token (.hole .subscript), .code :: here⟩
  | _, _ => ⟨1, .token (.hole .expression), .code :: here⟩

/-- A step in the text of a template that neither ends it nor is a backslash. -/
def scanTemplateText (here : List Mode) (c : Char) (cs : List Char) : Option Scan :=
  if c == openBrace && headIs (· == '$') cs then some ⟨0, .token (.hole .place), .code :: here⟩
  else if c == '$' && headIs (· == openBrace) cs then some (scanBraced here cs)
  else if c == '$' && headIs startsName cs then
    (templateVariableLength? cs).map fun n => ⟨n, .nothing, here⟩
  else some ⟨0, .nothing, here⟩

/-- A step between quotes. -/
def scanTemplate (modes : List Mode) (quote c : Char) (cs : List Char) : Option Scan :=
  let here := Mode.template quote :: modes
  if c == quote then some ⟨0, .token .templateEnd, modes⟩
  else if c == '\\' then some ⟨1, .nothing, here⟩
  else scanTemplateText here c cs

/-- A step in a labelled text. -/
def scanLabelled (modes : List Mode) (label : List Char) (raw lineStart : Bool) (c : Char) (cs : List Char) :
    Option Scan :=
  let here (lineStart : Bool) := Mode.labelled label raw lineStart :: modes
  let endsLine := c == '\n' || (c == '\r' && !headIs (· == '\n') cs)
  match if lineStart then labelClosing? label (c :: cs) else none with
  | some n => some ⟨n - 1, .token .templateEnd, modes⟩
  | none =>
    if raw then some ⟨0, .nothing, here endsLine⟩
    else if c == '\\' && !headIs (fun d => d == '\n' || d == '\r') cs then some ⟨1, .nothing, here false⟩
    else scanTemplateText (here endsLine) c cs

/-- The step, unless it takes a null byte, which nothing but markup may hold. -/
def withoutNull (c : Char) (cs : List Char) (s : Scan) : Option Scan :=
  if (c :: cs.take s.more).contains '\x00' then none else some s

/-- What a character begins. -/
def scan (modes : List Mode) (c : Char) (cs : List Char) : Option Scan :=
  match modes with
  | [] => none
  | .markup :: outer => some (scanMarkup outer c cs)
  | .code :: outer => (scanCode outer c cs).bind (withoutNull c cs)
  | .template quote :: outer => (scanTemplate outer quote c cs).bind (withoutNull c cs)
  | .labelled label raw lineStart :: outer =>
    (scanLabelled outer label raw lineStart c cs).bind (withoutNull c cs)

/-! ### All tokens -/

/-- What is known of the tokens so far. -/
structure Progress where
  modes : List Mode
  start : Nat
  row : Nat
  /-- Whether there is a comment after the last token. -/
  commented : Bool
  /-- The tokens, the last one first. -/
  done : List Token

/-- Add a step that takes so many characters and lines. -/
def Progress.add (p : Progress) (s : Scan) (size lines : Nat) : Progress :=
  let next : Progress := { p with modes := s.modes, start := p.start + size, row := p.row + lines }
  match s.piece with
  | .nothing => next
  | .comment => { next with commented := true }
  | .token lexeme =>
    { next with commented := false
                done := ⟨lexeme, p.start, p.start + size, p.row, p.commented⟩ :: p.done }

/-- The tokens so far and those of the rest of a source. -/
def tokensFrom (p : Progress) : List Char → Option (List Token)
  | [] => some p.done.reverse
  | c :: cs =>
    match scan p.modes c cs with
    | none => none
    | some s => tokensFrom (p.add s (1 + s.more) ((c :: cs.take s.more).count '\n')) (cs.drop s.more)
termination_by cs => cs.length
decreasing_by
  rw [List.length_drop, List.length_cons]
  omega

/-- The tokens of a source; there are none if a text or a comment is not closed or a character has no meaning. -/
def tokens? (source : ByteArray) : Option (List Token) :=
  tokensFrom ⟨[.markup, .code], 0, 0, false, []⟩ (source.data.toList.map fun b => Char.ofNat b.toNat)

end ClassOutline.Php
