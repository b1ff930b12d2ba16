import ClassOutline.Json.Print
import ClassOutline.Proofs.RawTexts
import Mathlib.Data.List.Forall2

/-!
# Reading JSON

A reader of JSON documents whose numbers are integers, and what it makes of the parts of a written document: strings
with their escapes, numbers, and lists with commas and blanks between their items. A lone surrogate of a byte that is no
character is read as that byte, whether it is escaped or stands for itself.
-/
namespace ClassOutline.Json

/-! ### The reader -/

/-- Blanks that may stand between the parts of a document. -/
def isGap (l : Letter) : Bool :=
  l = .char ' ' || l = .char '\n' || l = .char '\r' || l = .char '\t'

def skipGap (t : RawText) : RawText :=
  t.dropWhile isGap

/-- The value of a hexadecimal digit of either case. -/
def hexValue? : Letter → Option Nat
  | .char c =>
    if c.isDigit then some (c.toNat - 0x30)
    else if 'a' ≤ c ∧ c ≤ 'f' then some (c.toNat - 0x57)
    else if 'A' ≤ c ∧ c ≤ 'F' then some (c.toNat - 0x37)
    else none
  | .stray _ => none

/-- The UTF-16 unit of four hexadecimal digits. -/
def unit? (a b c d : Letter) : Option Nat := do
  return 0x1000 * (← hexValue? a) + 0x100 * (← hexValue? b) + 0x10 * (← hexValue? c) + (← hexValue? d)

/-- The character that an escape of one letter stands for. -/
def escaped? (l : Letter) : Option Char :=
  [(.char '"', '"'), (.char '\\', '\\'), (.char '/', '/'), (.char 'b', '\x08'), (.char 'f', '\x0c'), (.char 'n', '\n'),
    (.char 'r', '\r'), (.char 't', '\t')].lookup l

/-- The codes of the letters and of the escaped units up to the closing quote, and what follows it. -/
def readUnits : RawText → Option (List Nat × RawText)
  | .char '"' :: rest => some ([], rest)
  | .char '\\' :: .char 'u' :: a :: b :: c :: d :: rest => do
    let n ← unit? a b c d
    let (units, after) ← readUnits rest
    return (n :: units, after)
  | .char '\\' :: l :: rest => do
    let e ← escaped? l
    let (units, after) ← readUnits rest
    return (e.toNat :: units, after)
  | l :: rest =>
    if l = .char '\\' ∨ l.code < 0x20 then none
    else (readUnits rest).map fun x => (l.code :: x.1, x.2)
  | [] => none

/-- The letters of codes. Those of two surrogates make one character, and a low one alone may be that of a byte. -/
def joinUnits : List Nat → Option RawText
  | [] => some []
  | n :: rest =>
    if 0xD800 ≤ n ∧ n < 0xDC00 then
      match rest with
      | m :: rest =>
        if 0xDC00 ≤ m ∧ m < 0xE000 then
          (joinUnits rest).map (.char (Char.ofNat (0x10000 + 0x400 * (n - 0xD800) + (m - 0xDC00))) :: ·)
        else none
      | [] => none
    else if 0xDC80 ≤ n ∧ n < 0xDD00 then (joinUnits rest).map (.stray (Fin.ofNat 128 (n - 0xDC80)) :: ·)
    else if 0xDC00 ≤ n ∧ n < 0xE000 then none
    else (joinUnits rest).map (.char (Char.ofNat n) :: ·)

/-- A string behind its opening quote. -/
def readString (t : RawText) : Option (RawText × RawText) := do
  let (units, after) ← readUnits t
  let letters ← joinUnits units
  return (letters, after)

def isDigit : Letter → Bool
  | .char c => c.isDigit
  | .stray _ => false

def char? : Letter → Option Char
  | .char c => some c
  | .stray _ => none

/-- Digits, of which the first is no zero unless it is the only one. -/
def readDigits (t : RawText) : Option (Nat × RawText) :=
  let digits := (t.takeWhile isDigit).filterMap char?
  if digits = [] ∨ (digits.head? = some '0' ∧ 1 < digits.length) then none
  else some (Nat.ofDigitChars 10 digits 0, t.dropWhile isDigit)

def readNumber : RawText → Option (Int × RawText)
  | .char '-' :: rest => (readDigits rest).map fun x => (-x.1, x.2)
  | t => (readDigits t).map fun x => (x.1, x.2)

def words : List (RawText × Json) :=
  [("null", .null), ("true", .bool true), ("false", .bool false)]

def readWord (t : RawText) : Option (Json × RawText) :=
  words.findSome? fun word => if word.1.isPrefixOf t then some (word.2, t.drop word.1.length) else none

/-- A word or a number. -/
def readAtom (t : RawText) : Option (Json × RawText) :=
  readWord t <|> (readNumber t).map fun x => (.number x.1, x.2)

/-- What follows a character, after a gap. -/
def expect (c : Char) (t : RawText) : Option RawText :=
  if (skipGap t).head? = some (.char c) then some (skipGap t).tail else none

/-- At least one item, commas between items, and the closing bracket. The number bounds how many there are. -/
def readList {α : Type} (item : RawText → Option (α × RawText)) (closing : Char) :
    Nat → RawText → Option (List α × RawText)
  | 0, _ => none
  | bound + 1, t => do
    let (a, rest) ← item t
    match expect ',' rest with
    | some rest => (readList item closing bound rest).map fun x => (a :: x.1, x.2)
    | none => (expect closing rest).map fun rest => ([a], rest)

/-- Items, or none, and the closing bracket. -/
def readBracket {α : Type} (item : RawText → Option (α × RawText)) (closing : Char) (bound : Nat)
    (t : RawText) : Option (List α × RawText) :=
  match expect closing t with
  | some rest => some ([], rest)
  | none => readList item closing bound t

/-- The name of a member, a colon, and its value. -/
def readMember (value : RawText → Option (Json × RawText)) (t : RawText) :
    Option ((RawText × Json) × RawText) := do
  let (name, rest) ← readString (← expect '"' t)
  let (j, rest) ← value (← expect ':' rest)
  return ((name, j), rest)

/-- A document that is nested less deeply than a bound, and what follows it. -/
def readValue : Nat → RawText → Option (Json × RawText)
  | 0, _ => none
  | bound + 1, t =>
    match skipGap t with
    | [] => none
    | l :: rest =>
      if l = .char '"' then (readString rest).map fun x => (.string x.1, x.2)
      else if l = .char '[' then (readBracket (readValue bound) ']' bound rest).map fun x => (.array x.1, x.2)
      else if l = .char '\x7b' then
        (readBracket (readMember (readValue bound)) '\x7d' bound rest).map fun x => (.object x.1, x.2)
      else readAtom (l :: rest)

/-- The document that a text is, if it is one. -/
def read? (text : RawText) : Option Json :=
  match readValue (text.length + 1) text with
  | some (j, rest) => if skipGap rest = [] then some j else none
  | none => none

/-! ### Strings -/

private theorem hexValue?_hexDigit : ∀ n < 16, hexValue? (.char (Text.hexDigit n)) = some n := by
  decide

private theorem unit?_hex {n : Nat} (h : n < 0x10000) :
    ∃ a b c d, (Text.hex 4 n).map Letter.char = [a, b, c, d] ∧ unit? a b c d = some n := by
  refine ⟨_, _, _, _, rfl, ?_⟩
  have hmod (k : Nat) : hexValue? (.char (Text.hexDigit (k % 16))) = some (k % 16) :=
    hexValue?_hexDigit _ (Nat.mod_lt _ (by decide))
  simp only [unit?, hmod, Option.bind_eq_bind, Option.bind_some, Option.pure_def, Option.some.injEq]
  omega

private theorem readUnits_unitEscape {n : Nat} (h : n < 0x10000) (rest : RawText) :
    readUnits ((unitEscape n).map .char ++ rest) = (readUnits rest).map fun x => (n :: x.1, x.2) := by
  obtain ⟨a, b, c, d, hdigits, hunit⟩ := unit?_hex h
  simp only [unitEscape, List.map_cons, hdigits, List.cons_append, List.nil_append, readUnits, hunit]
  cases readUnits rest <;> rfl

private theorem readUnits_letter {l : Letter} {c : Char} (h : escaped? l = some c) (rest : RawText) :
    readUnits (.char '\\' :: l :: rest) = (readUnits rest).map fun x => (c.toNat :: x.1, x.2) := by
  have hu : l ≠ .char 'u' := by
    rintro rfl
    have hnone : escaped? (.char 'u') = none := rfl
    rw [hnone] at h
    cases h
  rw [readUnits]
  · simp only [h]
    cases readUnits rest <;> rfl
  · rintro a b c d rest rfl
    exact fun _ => hu rfl

private theorem readUnits_plain {l : Letter} (hquote : l ≠ .char '"') (hslash : l ≠ .char '\\')
    (hcontrol : 0x20 ≤ l.code)
    (rest : RawText) : readUnits (l :: rest) = (readUnits rest).map fun x => (l.code :: x.1, x.2) := by
  have hno : ¬ (l = .char '\\' ∨ l.code < 0x20) := by
    rintro (h | h)
    · exact hslash h
    · omega
  rw [readUnits, if_neg hno]
  all_goals simp_all

/-- The numbers that stand for a character inside a string. -/
def charUnits (ascii : Bool) (c : Char) : List Nat :=
  if ascii = true ∧ 0x10000 ≤ c.toNat then
    [0xD800 + (c.toNat - 0x10000) / 0x400, 0xDC00 + (c.toNat - 0x10000) % 0x400]
  else [c.toNat]

def letterUnits (ascii : Bool) : Letter → List Nat
  | .char c => charUnits ascii c
  | .stray b => [(Letter.stray b).code]

private theorem charUnits_of_lt {c : Char} (h : c.toNat < 0x10000) (ascii : Bool) : charUnits ascii c = [c.toNat] := by
  rw [charUnits, if_neg]
  omega

private theorem toNat_lt (c : Char) : c.toNat < 0x110000 := by
  rcases c.valid with h | h
  · exact Nat.lt_trans h (by decide)
  · exact h.2

private theorem not_surrogate (c : Char) : c.toNat < 0xD800 ∨ 0xE000 ≤ c.toNat := by
  rcases c.valid with h | h
  · exact .inl h
  · exact .inr h.1

private theorem readUnits_charEscape {ascii : Bool} {c : Char} (h : ascii = true ∨ c.toNat < 0x10000) (rest : RawText) :
    readUnits ((charEscape c).map .char ++ rest) =
      (readUnits rest).map fun x => (charUnits ascii c ++ x.1, x.2) := by
  rw [charEscape]
  split
  · rename_i hsmall
    rw [readUnits_unitEscape hsmall, charUnits_of_lt hsmall]
    rfl
  · rename_i hlarge
    have hbound := toNat_lt c
    have hascii : ascii = true := h.resolve_right hlarge
    rw [List.map_append, List.append_assoc, readUnits_unitEscape (by omega), readUnits_unitEscape (by omega), charUnits,
      if_pos ⟨hascii, by omega⟩, Option.map_map]
    rfl

private theorem readUnits_stringChar (ascii : Bool) (c : Char) (rest : RawText) :
    readUnits ((stringChar ascii c).map .char ++ rest) =
      (readUnits rest).map fun x => (charUnits ascii c ++ x.1, x.2) := by
  have hletter {e : Char} (h : escaped? (.char e) = some c) (hsmall : c.toNat < 0x10000) :
      readUnits (['\\', e].map .char ++ rest) = (readUnits rest).map fun x => (charUnits ascii c ++ x.1, x.2) := by
    rw [charUnits_of_lt hsmall]
    exact readUnits_letter h rest
  unfold stringChar
  split_ifs with hself hline hreturn htab hform hback hcontrol hascii
  · rcases hself with rfl | rfl
    · exact hletter rfl (by decide)
    · exact hletter rfl (by decide)
  · subst hline
    exact hletter rfl (by decide)
  · subst hreturn
    exact hletter rfl (by decide)
  · subst htab
    exact hletter rfl (by decide)
  · obtain rfl : c = '\x0c' := Char.toNat_inj.mp hform
    exact hletter rfl (by decide)
  · obtain rfl : c = '\x08' := Char.toNat_inj.mp hback
    exact hletter rfl (by decide)
  · exact readUnits_charEscape (.inr (by omega)) rest
  · exact readUnits_charEscape (.inl hascii.1) rest
  · have hunits : charUnits ascii c = [c.toNat] := by
      rw [charUnits, if_neg]
      rintro ⟨h, hlarge⟩
      exact hascii ⟨h, by omega⟩
    have hquote : Letter.char c ≠ .char '"' := fun h => hself (.inl (Letter.char.inj h))
    have hslash : Letter.char c ≠ .char '\\' := fun h => hself (.inr (Letter.char.inj h))
    rw [hunits]
    exact readUnits_plain hquote hslash (Nat.le_of_not_lt hcontrol) rest

private theorem readUnits_stringLetter (ascii : Bool) (l : Letter) (rest : RawText) :
    readUnits (stringLetter ascii l ++ rest) = (readUnits rest).map fun x => (letterUnits ascii l ++ x.1, x.2) := by
  cases l with
  | char c => exact readUnits_stringChar ascii c rest
  | stray b =>
    have hcode : (Letter.stray b).code < 0x10000 := by
      have := b.isLt
      simp only [Letter.code]
      omega
    rw [stringLetter]
    split
    · exact readUnits_unitEscape hcode rest
    · have hcontrol : 0x20 ≤ (Letter.stray b).code := by
        simp only [Letter.code]
        omega
      exact readUnits_plain (by simp) (by simp) hcontrol rest

private theorem readUnits_flatMap (ascii : Bool) (s rest : RawText) :
    readUnits (s.flatMap (stringLetter ascii) ++ .char '"' :: rest) = some (s.flatMap (letterUnits ascii), rest) := by
  induction s with
  | nil => rfl
  | cons l s ih =>
    rw [List.flatMap_cons, List.append_assoc, readUnits_stringLetter, ih]
    rfl

private theorem joinUnits_charUnits (ascii : Bool) (c : Char) (units : List Nat) :
    joinUnits (charUnits ascii c ++ units) = (joinUnits units).map (.char c :: ·) := by
  have hbound := toNat_lt c
  have hvalid := not_surrogate c
  rw [charUnits]
  split
  · rename_i hlarge
    have hhigh : 0xD800 ≤ 0xD800 + (c.toNat - 0x10000) / 0x400 ∧ 0xD800 + (c.toNat - 0x10000) / 0x400 < 0xDC00 := by
      omega
    have hlow : 0xDC00 ≤ 0xDC00 + (c.toNat - 0x10000) % 0x400 ∧ 0xDC00 + (c.toNat - 0x10000) % 0x400 < 0xE000 := by
      omega
    have hsum : 0x10000 + 0x400 * (0xD800 + (c.toNat - 0x10000) / 0x400 - 0xD800) +
        (0xDC00 + (c.toNat - 0x10000) % 0x400 - 0xDC00) = c.toNat := by
      omega
    rw [List.cons_append, joinUnits.eq_def]
    simp only [List.cons_append, List.nil_append]
    rw [if_pos hhigh, if_pos hlow, hsum, Char.ofNat_toNat]
  · have hhigh : ¬ (0xD800 ≤ c.toNat ∧ c.toNat < 0xDC00) := by omega
    have hbyte : ¬ (0xDC80 ≤ c.toNat ∧ c.toNat < 0xDD00) := by omega
    have hlow : ¬ (0xDC00 ≤ c.toNat ∧ c.toNat < 0xE000) := by omega
    rw [List.cons_append, List.nil_append, joinUnits.eq_def]
    simp only [if_neg hhigh, if_neg hbyte, if_neg hlow, Char.ofNat_toNat]

private theorem joinUnits_letterUnits (ascii : Bool) (l : Letter) (units : List Nat) :
    joinUnits (letterUnits ascii l ++ units) = (joinUnits units).map (l :: ·) := by
  cases l with
  | char c => exact joinUnits_charUnits ascii c units
  | stray b =>
    have hb := b.isLt
    have hhigh : ¬ (0xD800 ≤ 0xDC80 + b.val ∧ 0xDC80 + b.val < 0xDC00) := by omega
    have hbyte : 0xDC80 ≤ 0xDC80 + b.val ∧ 0xDC80 + b.val < 0xDD00 := by omega
    have hval : Fin.ofNat 128 (0xDC80 + b.val - 0xDC80) = b := by
      rw [Nat.add_sub_cancel_left]
      exact Fin.ofNat_val_eq_self b
    rw [letterUnits, Letter.code, List.cons_append, List.nil_append, joinUnits.eq_def]
    simp only [if_neg hhigh, if_pos hbyte, hval]

private theorem joinUnits_flatMap (ascii : Bool) (s : RawText) :
    joinUnits (s.flatMap (letterUnits ascii)) = some s := by
  induction s with
  | nil => rfl
  | cons l s ih =>
    rw [List.flatMap_cons, joinUnits_letterUnits, ih]
    rfl

theorem readString_stringText (ascii : Bool) (s rest : RawText) :
    readString (s.flatMap (stringLetter ascii) ++ .char '"' :: rest) = some (s, rest) := by
  simp only [readString, readUnits_flatMap, Option.bind_eq_bind, Option.bind_some, joinUnits_flatMap]
  rfl

/-! ### Numbers and words -/

/-- A digit before this text would be the last one. -/
def NoDigit (t : RawText) : Prop :=
  ∀ l ∈ t.head?, isDigit l = false

theorem head?_toDigits (n : Nat) (h : (Nat.toDigits 10 n).head? = some '0') : n = 0 := by
  induction n using Nat.strongRecOn with
  | ind n ih =>
    rw [Nat.toDigits_eq_if (by decide)] at h
    split at h
    · simpa using h
    · rename_i hlarge
      rw [List.head?_append_of_ne_nil _ Nat.toDigits_ne_nil] at h
      have := ih (n / 10) (by omega) h
      omega

private theorem toDigits_eq_cons (n : Nat) : ∃ c cs, Nat.toDigits 10 n = c :: cs ∧ c.isDigit = true := by
  cases hdigits : Nat.toDigits 10 n with
  | nil => exact absurd hdigits Nat.toDigits_ne_nil
  | cons c cs =>
    refine ⟨c, cs, rfl, ?_⟩
    exact Nat.isDigit_of_mem_toDigits (b := 10) (n := n) (by decide) (by decide) (by simp [hdigits])

private theorem readDigits_toDigits (n : Nat) {rest : RawText} (h : NoDigit rest) :
    readDigits ((Nat.toDigits 10 n).map .char ++ rest) = some (n, rest) := by
  have hdigits : ∀ l ∈ (Nat.toDigits 10 n).map Letter.char, isDigit l = true := by
    intro l hl
    obtain ⟨c, hc, rfl⟩ := List.mem_map.mp hl
    exact Nat.isDigit_of_mem_toDigits (b := 10) (n := n) (by decide) (by decide) hc
  have htake : rest.takeWhile isDigit = [] := by
    cases rest with
    | nil => rfl
    | cons l t => simp [h l rfl]
  have hdrop : rest.dropWhile isDigit = rest := by
    cases rest with
    | nil => rfl
    | cons l t => simp [h l rfl]
  have hchars : ((Nat.toDigits 10 n).map Letter.char).filterMap char? = Nat.toDigits 10 n := by
    rw [List.filterMap_map]
    exact List.filterMap_some
  have hzero : ¬ (Nat.toDigits 10 n = [] ∨
      ((Nat.toDigits 10 n).head? = some '0' ∧ 1 < (Nat.toDigits 10 n).length)) := by
    rintro (hnil | ⟨hhead, hlength⟩)
    · exact Nat.toDigits_ne_nil hnil
    · rw [head?_toDigits n hhead] at hlength
      exact absurd hlength (by decide)
  rw [readDigits, List.takeWhile_append_of_pos hdigits, List.dropWhile_append_of_pos hdigits, htake, hdrop,
    List.append_nil, hchars]
  simp only [hzero, if_false, Nat.ofDigitChars_ten_toDigits]

theorem toList_number (n : Int) :
    (toString n).toList = if 0 ≤ n then Nat.toDigits 10 n.toNat else '-' :: Nat.toDigits 10 (-n).toNat := by
  rw [Int.toString_eq_repr, Int.repr_eq_if]
  split
  · exact Nat.toList_repr
  · rw [String.toList_append, Nat.toList_repr]
    rfl

/-- A number starts with a digit or a sign. -/
theorem head_number (n : Int) : ∃ c cs, (toString n).toList = c :: cs ∧ (c.isDigit = true ∨ c = '-') := by
  rw [toList_number]
  split
  · obtain ⟨c, cs, hdigits, hc⟩ := toDigits_eq_cons n.toNat
    exact ⟨c, cs, hdigits, .inl hc⟩
  · exact ⟨_, _, rfl, .inr rfl⟩

private theorem readNumber_number (n : Int) {rest : RawText} (h : NoDigit rest) :
    readNumber (raw (toString n) ++ rest) = some (n, rest) := by
  rw [raw, toList_number]
  split
  · rename_i hn
    rw [readNumber, readDigits_toDigits _ h]
    · simp only [Option.map_some, Int.toNat_of_nonneg hn]
    · intro r hr
      obtain ⟨c, cs, hdigits, hc⟩ := toDigits_eq_cons n.toNat
      rw [hdigits, List.map_cons, List.cons_append, List.cons.injEq, Letter.char.injEq] at hr
      rw [hr.1] at hc
      exact absurd hc (by decide)
  · rw [List.map_cons, List.cons_append, readNumber, readDigits_toDigits _ h]
    simp only [Option.map_some, Option.some.injEq, Prod.mk.injEq, and_true]
    omega

private theorem readWord_eq_none {c : Char} (hc : c.isDigit = true ∨ c = '-') (t : RawText) :
    readWord (.char c :: t) = none := by
  have hne : c ≠ 'n' ∧ c ≠ 't' ∧ c ≠ 'f' := by
    refine ⟨?_, ?_, ?_⟩ <;> rintro rfl <;> exact absurd hc (by decide)
  simp [readWord, words, raw, hne.1.symm, hne.2.1.symm, hne.2.2.symm]

theorem readAtom_number (n : Int) {rest : RawText} (h : NoDigit rest) :
    readAtom (raw (toString n) ++ rest) = some (.number n, rest) := by
  obtain ⟨c, cs, hnumber, hc⟩ := head_number n
  have hword : readWord (raw (toString n) ++ rest) = none := by
    rw [raw, hnumber]
    exact readWord_eq_none hc _
  rw [readAtom, hword, readNumber_number n h]
  rfl

/-! ### Gaps and brackets -/

def Gap (t : RawText) : Prop :=
  ∀ l ∈ t, isGap l = true

instance (t : RawText) : Decidable (Gap t) :=
  List.decidableBAll (fun l => isGap l = true) t

theorem Gap.nil : Gap [] :=
  fun _ h => absurd h List.not_mem_nil

theorem Gap.append {t u : RawText} (ht : Gap t) (hu : Gap u) : Gap (t ++ u) :=
  fun l h => (List.mem_append.mp h).elim (ht l) (hu l)

private theorem isDigit_of_isGap {l : Letter} (h : isGap l = true) : isDigit l = false := by
  simp only [isGap, Bool.or_eq_true, decide_eq_true_eq] at h
  rcases h with ((rfl | rfl) | rfl) | rfl <;> rfl

theorem Gap.noDigit {gap : RawText} (h : Gap gap) : NoDigit gap :=
  fun l hl => isDigit_of_isGap (h l (List.mem_of_mem_head? hl))

private theorem Gap.noDigit_append {gap : RawText} (h : Gap gap) {c : Char} (hc : c.isDigit = false) (t : RawText) :
    NoDigit (gap ++ .char c :: t) := by
  intro l hl
  cases gap with
  | nil =>
    obtain rfl : .char c = l := by simpa using hl
    exact hc
  | cons e gap =>
    obtain rfl : e = l := by simpa using hl
    exact isDigit_of_isGap (h e List.mem_cons_self)

theorem skipGap_append {lead : RawText} (h : Gap lead) (t : RawText) : skipGap (lead ++ t) = skipGap t :=
  List.dropWhile_append_of_pos h

theorem skipGap_cons {l : Letter} (h : isGap l = false) (t : RawText) : skipGap (l :: t) = l :: t := by
  simp [skipGap, h]

theorem expect_eq_some {lead : RawText} (hlead : Gap lead) {c : Char} (hc : isGap (.char c) = false) (t : RawText) :
    expect c (lead ++ .char c :: t) = some t := by
  simp [expect, skipGap_append hlead, skipGap_cons hc]

theorem expect_eq_none {lead : RawText} (hlead : Gap lead) {l : Letter} {c : Char} (hl : isGap l = false)
    (hne : l ≠ .char c) (t : RawText) : expect c (lead ++ l :: t) = none := by
  simp [expect, skipGap_append hlead, skipGap_cons hl, hne]

/-- A character that ends a list. -/
structure Closes (c : Char) : Prop where
  solid : isGap (.char c) = false
  noComma : c ≠ ','
  noDigit : c.isDigit = false

/-- A text that starts with a letter that is neither a gap nor a closing bracket. -/
def Solid (closing : Char) (text : RawText) : Prop :=
  ∃ l t, text = l :: t ∧ isGap l = false ∧ l ≠ .char closing

/-- A reader gets a value out of a text wherever the text stands, if no digit follows it. -/
def Reads {α : Type} (item : RawText → Option (α × RawText)) (text : RawText) (a : α) : Prop :=
  ∀ lead rest, Gap lead → NoDigit rest → item (lead ++ (text ++ rest)) = some (a, rest)

theorem readList_intercalate {α : Type} {item : RawText → Option (α × RawText)} {closing : Char}
    (hclosing : Closes closing) {gap trail : RawText} (hgap : Gap gap) (htrail : Gap trail) (rest : RawText)
    {texts : List RawText} {values : List α} (hread : List.Forall₂ (Reads item) texts values) (hne : texts ≠ [])
    {bound : Nat} (hbound : texts.length ≤ bound) {lead : RawText} (hlead : Gap lead) :
    readList item closing bound (lead ++ ((.char ',' :: gap).intercalate texts ++ (trail ++ .char closing :: rest))) =
      some (values, rest) := by
  induction hread generalizing bound lead with
  | nil => exact absurd rfl hne
  | @cons text a texts values hfirst hlater ih =>
    obtain ⟨bound, rfl⟩ : ∃ k, bound = k + 1 := ⟨bound - 1, by simp at hbound; omega⟩
    cases hlater with
    | nil =>
      have hitem := hfirst lead (trail ++ .char closing :: rest) hlead (htrail.noDigit_append hclosing.noDigit rest)
      have hcomma : Letter.char closing ≠ .char ',' := fun h => hclosing.noComma (Letter.char.inj h)
      rw [List.intercalate_singleton, readList, hitem]
      simp [expect_eq_none htrail hclosing.solid hcomma, expect_eq_some htrail hclosing.solid]
    | @cons text' a' texts values hsecond hlater =>
      -- The gap behind the comma is the lead of the next item.
      have hfewer : (text' :: texts).length ≤ bound := by simpa using hbound
      have hrest := ih (List.cons_ne_nil _ _) hfewer hgap
      rw [List.intercalate_cons_cons]
      simp only [List.append_assoc, List.cons_append]
      have hcomma (t : RawText) : NoDigit (.char ',' :: t) := Gap.nil.noDigit_append rfl t
      have hexpect (t : RawText) : expect ',' (.char ',' :: t) = some t := expect_eq_some Gap.nil rfl t
      rw [readList, hfirst lead _ hlead (hcomma _)]
      simp only [Option.bind_eq_bind, Option.bind_some, hexpect, hrest, Option.map_some]

end ClassOutline.Json
