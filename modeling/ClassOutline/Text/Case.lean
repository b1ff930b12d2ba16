import ClassOutline.Text.CaseTable

/-!
Lower-casing of whole texts and the comparison with ASCII names without regard to case.

A character is lowered by the mappings of `lowerRuns`. Two characters are special: U+0130 becomes an
`i` with a combining dot, and a capital sigma becomes the final form when it ends a word.
-/
namespace ClassOutline.Text

def inRanges (ranges : List (Nat × Nat)) (n : Nat) : Bool :=
  ranges.any fun r => r.1 ≤ n && n ≤ r.2

def CaseRun.covers (r : CaseRun) (n : Nat) : Bool :=
  r.first ≤ n && n ≤ r.last && (n - r.first) % r.step == 0

/-- The lower case of one character, for characters that have a single one. -/
def lowerChar (c : Char) : Char :=
  let n := c.toNat
  if n < 0x80 then
    if 0x41 ≤ n && n ≤ 0x5A then Char.ofNat (n + 32) else c
  else match lowerRuns.find? (·.covers n) with
    | some r => Char.ofNat (n + r.shift).toNat
    | none => c

def nextIsCased (cs : List Char) : Bool :=
  match cs.dropWhile fun c => inRanges caseIgnorableRanges c.toNat with
  | [] => false
  | c :: _ => inRanges casedRanges c.toNat

/-- Lower a text whose characters before it are `before`, the nearest one first. -/
def lowerAfter (before : List Char) : List Char → List Char
  | [] => []
  | c :: cs =>
    let lowered :=
      if c.toNat = 0x130 then ['i', Char.ofNat 0x307]
      else if c.toNat = 0x3A3 then
        [if nextIsCased before && !nextIsCased cs then Char.ofNat 0x3C2 else Char.ofNat 0x3C3]
      else [lowerChar c]
    lowered ++ lowerAfter (c :: before) cs

def lower (cs : List Char) : List Char :=
  lowerAfter [] cs

/-- The lower case of an ASCII text; other characters stay. -/
def lowerAscii (s : String) : String :=
  s.map Char.toLower

/-- The upper case of one character if all of it is ASCII, as for a long s or the ligatures of f. -/
def upperAscii (c : Char) : List Char :=
  match c.toNat with
  | 0xDF => ['S', 'S']
  | 0x131 => ['I']
  | 0x17F => ['S']
  | 0xFB00 => ['F', 'F']
  | 0xFB01 => ['F', 'I']
  | 0xFB02 => ['F', 'L']
  | 0xFB03 => ['F', 'F', 'I']
  | 0xFB04 => ['F', 'F', 'L']
  | 0xFB05 => ['S', 'T']
  | 0xFB06 => ['S', 'T']
  | _ => [c.toUpper]

/-- The case folding of one character if all of it is ASCII, as for a long s or the sign for kelvin. -/
def foldAscii (c : Char) : List Char :=
  match c.toNat with
  | 0xDF => ['s', 's']
  | 0x17F => ['s']
  | 0x1E9E => ['s', 's']
  | 0x212A => ['k']
  | 0xFB00 => ['f', 'f']
  | 0xFB01 => ['f', 'i']
  | 0xFB02 => ['f', 'l']
  | 0xFB03 => ['f', 'f', 'i']
  | 0xFB04 => ['f', 'f', 'l']
  | 0xFB05 => ['s', 't']
  | 0xFB06 => ['s', 't']
  | _ => [c.toLower]

/-- Whether the case folding of a text is the given ASCII name, itself in lower case. -/
def foldIs (name : String) (s : String) : Bool :=
  s.toList.flatMap foldAscii == name.toList

/-- Whether the upper case of a text is the given ASCII name, itself in upper case. -/
def upperIs (name : String) (s : String) : Bool :=
  s.toList.flatMap upperAscii == name.toList

end ClassOutline.Text
