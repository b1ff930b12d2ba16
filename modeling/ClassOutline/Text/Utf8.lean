import ClassOutline.Text.Quoted

/-!
Reading bytes as UTF-8, with U+FFFD in place of what is not UTF-8, or with a message about it.

The reader goes byte by byte. Between the bytes of one character it keeps the bits read so far and the
range in which the next byte must lie; a byte outside of that range ends the broken character, which
gives one U+FFFD, and is then read as the first byte of the next one.
-/
namespace ClassOutline.Text

/-- A character of which at least one byte has been read and `more` are missing. -/
structure PartialChar where
  bits : Nat
  more : Nat
  low : Nat
  high : Nat
  deriving DecidableEq

def replacement : Char := Char.ofNat 0xFFFD

def beginChar (b : Nat) : List Char × Option PartialChar :=
  if b < 0x80 then ([Char.ofNat b], none)
  else if 0xC2 ≤ b ∧ b ≤ 0xDF then ([], some ⟨b - 0xC0, 1, 0x80, 0xBF⟩)
  else if b = 0xE0 then ([], some ⟨0, 2, 0xA0, 0xBF⟩)
  else if b = 0xED then ([], some ⟨0xD, 2, 0x80, 0x9F⟩)
  else if 0xE1 ≤ b ∧ b ≤ 0xEF then ([], some ⟨b - 0xE0, 2, 0x80, 0xBF⟩)
  else if b = 0xF0 then ([], some ⟨0, 3, 0x90, 0xBF⟩)
  else if 0xF1 ≤ b ∧ b ≤ 0xF3 then ([], some ⟨b - 0xF0, 3, 0x80, 0xBF⟩)
  else if b = 0xF4 then ([], some ⟨4, 3, 0x80, 0x8F⟩)
  else ([replacement], none)

def readByte (pending : Option PartialChar) (b : Nat) : List Char × Option PartialChar :=
  match pending with
  | none => beginChar b
  | some p =>
    if p.low ≤ b ∧ b ≤ p.high then
      let bits := p.bits * 0x40 + (b - 0x80)
      if p.more ≤ 1 then ([Char.ofNat bits], none) else ([], some ⟨bits, p.more - 1, 0x80, 0xBF⟩)
    else
      let (cs, next) := beginChar b
      (replacement :: cs, next)

/-- Read the remaining bytes; an unfinished character at the end is broken too. -/
def readBytes (pending : Option PartialChar) : List UInt8 → List Char
  | [] => if pending.isSome then [replacement] else []
  | b :: bs =>
    let (cs, next) := readByte pending b.toNat
    cs ++ readBytes next bs

def decodeUtf8 (bytes : ByteArray) : List Char :=
  readBytes none bytes.data.toList

/-- Where bytes stop to be UTF-8, and why. A character that is not finished began at `start`. -/
def brokenAt? (pending : Option PartialChar) (start here : Nat) : List UInt8 → Option (Nat × Nat × String)
  | [] => if pending.isSome then some (start, here, "unexpected end of data") else none
  | b :: bs =>
    let next := (readByte pending b.toNat).2
    match pending with
    | none =>
      if (beginChar b.toNat).1 = [replacement] then some (here, here + 1, "invalid start byte")
      else brokenAt? next here (here + 1) bs
    | some p =>
      if p.low ≤ b.toNat ∧ b.toNat ≤ p.high then brokenAt? next start (here + 1) bs
      else some (start, here, "invalid continuation byte")

def decodeUtf8? (bytes : ByteArray) : Except String (List Char) :=
  match brokenAt? none 0 0 bytes.data.toList with
  | none => .ok (decodeUtf8 bytes)
  | some (start, stop, reason) =>
    if stop = start + 1 then
      let byte := String.ofList (hex 2 (bytes.get! start).toNat)
      .error s!"'utf-8' codec can't decode byte 0x{byte} in position {start}: {reason}"
    else
      let last := stop - 1
      .error s!"'utf-8' codec can't decode bytes in position {start}-{last}: {reason}"

end ClassOutline.Text
