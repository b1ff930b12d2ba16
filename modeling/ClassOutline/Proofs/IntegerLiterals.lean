import ClassOutline.Config.Settings
import ClassOutline.Proofs.JsonReading
import ClassOutline.Proofs.TextLaws
import Mathlib.Data.List.Induction
import Mathlib.Data.List.TakeWhile
import Mathlib.Data.Nat.Digits.Defs

/-!
# The integers of the settings

A variable with an integer is a literal: blanks, perhaps a sign, decimal digits of any script with single underscores
between them, and blanks. Settings can be read exactly if each of the three variables is unset or such a literal with
at most 4300 digits; otherwise the first one that is neither is told in the message.
-/
namespace ClassOutline.Config

/-! ### Literals -/

/-- Digits with single underscores between them, and the values of the digits. -/
inductive Digits : List Char → List Nat → Prop
  | last {c : Char} {d : Nat} (h : Text.digitValue? c = some d) : Digits [c] [d]
  | next {c : Char} {d : Nat} {cs : List Char} {ds : List Nat} (h : Text.digitValue? c = some d)
      (hrest : Digits cs ds) : Digits (c :: cs) (d :: ds)
  | apart {c : Char} {d : Nat} {cs : List Char} {ds : List Nat} (h : Text.digitValue? c = some d)
      (hrest : Digits cs ds) : Digits (c :: '_' :: cs) (d :: ds)

/-- A sign, which may be missing, and the factor that it stands for. -/
inductive Sign : List Char → Int → Prop
  | missing : Sign [] 1
  | plus : Sign ['+'] 1
  | minus : Sign ['-'] (-1)

/-- The number with the given decimal digits, the highest first. -/
def decimal (digits : List Nat) : Nat :=
  Nat.ofDigits 10 digits.reverse

/-- A text that begins with blanks, perhaps a sign, and digits, which are followed by the given rest. -/
def Begins (text : String) (factor : Int) (digits : List Nat) (rest : List Char) : Prop :=
  ∃ before sign body, text.toList = before ++ (sign ++ (body ++ rest)) ∧ (∀ c ∈ before, isIntegerBlank c = true) ∧
    Sign sign factor ∧ Digits body digits

/-- A text is an integer literal: blanks around a sign and digits, of which there are not too many. -/
def Denotes (text : String) (n : Int) : Prop :=
  ∃ factor digits after, Begins text factor digits after ∧ (∀ c ∈ after, isIntegerBlank c = true) ∧
    digits.length ≤ maxDigits ∧ n = factor * decimal digits

/-- A text begins like a literal, but with too many digits. -/
def HasTooMany (text : String) (count : Nat) : Prop :=
  ∃ factor digits rest, Begins text factor digits rest ∧ (∀ c ∈ rest.head?, isIntegerBody c = false) ∧
    digits.length = count ∧ maxDigits < count

/-! ### Characters -/

private theorem isBlank_of_digit {c : Char} {d : Nat} (h : Text.digitValue? c = some d) : Text.isBlank c = false := by
  obtain ⟨start, hstart, _⟩ := Option.map_eq_some_iff.mp h
  have hmem := List.mem_of_find?_eq_some hstart
  have hrange := List.find?_some hstart
  simp only [Bool.and_eq_true, decide_eq_true_eq] at hrange
  have hc : Char.ofNat (start + (c.toNat - start)) = c := by
    rw [Nat.add_sub_cancel' hrange.1, Char.ofNat_toNat]
  have hcodes : ∀ start ∈ Text.zeroDigits, ∀ k < 10, Text.isBlank (Char.ofNat (start + k)) = false := by decide
  rw [← hc]
  exact hcodes start hmem _ (by omega)

private theorem isIntegerBlank_of_isIntegerBody {c : Char} (h : isIntegerBody c = true) : isIntegerBlank c = false := by
  rw [isIntegerBody, Bool.or_eq_true, beq_iff_eq] at h
  rcases h with rfl | h
  · rfl
  · obtain ⟨d, hd⟩ := Option.isSome_iff_exists.mp h
    rw [isIntegerBlank, isBlank_of_digit hd, Bool.false_and]

private theorem isIntegerBody_of_digit {c : Char} {d : Nat} (h : Text.digitValue? c = some d) :
    isIntegerBody c = true := by
  simp [isIntegerBody, h]

private theorem ne_underscore_of_digit {c : Char} {d : Nat} (h : Text.digitValue? c = some d) : c ≠ '_' := by
  rintro rfl
  have hnone : Text.digitValue? '_' = none := by decide
  simp [hnone] at h

/-- A digit is no sign. -/
theorem splitSign_of_digit {c : Char} {d : Nat} (h : Text.digitValue? c = some d) (cs : List Char) :
    splitSign (c :: cs) = (false, c :: cs) := by
  have hplus : Text.digitValue? '+' = none := by decide
  have hminus : Text.digitValue? '-' = none := by decide
  unfold splitSign
  split
  · simp_all
  · simp_all
  · rfl

/-! ### Digits and underscores -/

namespace Digits

variable {cs : List Char} {ds : List Nat}

private theorem exists_cons (h : Digits cs ds) : ∃ c d rest, cs = c :: rest ∧ Text.digitValue? c = some d := by
  cases h with
  | last h => exact ⟨_, _, _, rfl, h⟩
  | next h hrest => exact ⟨_, _, _, rfl, h⟩
  | apart h hrest => exact ⟨_, _, _, rfl, h⟩

theorem isIntegerBody (h : Digits cs ds) : ∀ c ∈ cs, isIntegerBody c = true := by
  induction h with
  | last h => simpa using isIntegerBody_of_digit h
  | next h hrest ih => exact List.forall_mem_cons.mpr ⟨isIntegerBody_of_digit h, ih⟩
  | apart h hrest ih =>
    exact List.forall_mem_cons.mpr ⟨isIntegerBody_of_digit h, List.forall_mem_cons.mpr ⟨rfl, ih⟩⟩

private theorem filterMap_eq (h : Digits cs ds) : cs.filterMap Text.digitValue? = ds := by
  have hunderscore : Text.digitValue? '_' = none := by decide
  induction h with
  | last h => simp [h]
  | next h hrest ih => rw [List.filterMap_cons_some h, ih]
  | apart h hrest ih => rw [List.filterMap_cons_some h, List.filterMap_cons_none hunderscore, ih]

private theorem append_digit (h : Digits cs ds) {c : Char} {d : Nat} (hc : Text.digitValue? c = some d) :
    Digits (cs ++ [c]) (ds ++ [d]) := by
  induction h with
  | last h => exact .next h (.last hc)
  | next h hrest ih => exact .next h ih
  | apart h hrest ih => exact .apart h ih

end Digits

section Underscores

private theorem not_underscoresSeparate_underscore (cs : List Char) : underscoresSeparate ('_' :: cs) = false := by
  simp [underscoresSeparate, Text.splitOn]

variable {c : Char} (hc : c ≠ '_') (cs : List Char)

include hc

/-- The first group goes on to the first underscore, so only the groups behind it can be empty. -/
theorem underscoresSeparate_cons :
    underscoresSeparate (c :: cs) = (Text.splitOn '_' cs).tail.all fun group => !group.isEmpty := by
  rw [underscoresSeparate, Text.splitOn, if_neg hc]
  cases hcs : Text.splitOn '_' cs with
  | nil => exact absurd hcs (Text.splitOn_ne_nil _ _)
  | cons part parts => simp

private theorem tail_splitOn_cons : (Text.splitOn '_' (c :: cs)).tail = (Text.splitOn '_' cs).tail := by
  rw [Text.splitOn, if_neg hc]
  cases hcs : Text.splitOn '_' cs with
  | nil => exact absurd hcs (Text.splitOn_ne_nil _ _)
  | cons part parts => rfl

private theorem underscoresSeparate_next {c' : Char} (hc' : c' ≠ '_') :
    underscoresSeparate (c :: c' :: cs) = underscoresSeparate (c' :: cs) := by
  rw [underscoresSeparate_cons hc, underscoresSeparate_cons hc', tail_splitOn_cons hc']

private theorem underscoresSeparate_apart : underscoresSeparate (c :: '_' :: cs) = underscoresSeparate cs := by
  rw [underscoresSeparate_cons hc, Text.splitOn, if_pos rfl, List.tail_cons, underscoresSeparate]

end Underscores

theorem Digits.underscoresSeparate {cs : List Char} {ds : List Nat} (h : Digits cs ds) :
    underscoresSeparate cs = true := by
  induction h with
  | last h => exact underscoresSeparate_cons (ne_underscore_of_digit h) []
  | next h hrest ih =>
    obtain ⟨c', d', rest, rfl, hc'⟩ := hrest.exists_cons
    rw [underscoresSeparate_next (ne_underscore_of_digit h) rest (ne_underscore_of_digit hc'), ih]
  | apart h hrest ih => rw [underscoresSeparate_apart (ne_underscore_of_digit h), ih]

private theorem exists_digit {c : Char} (h : isIntegerBody c = true) (hc : c ≠ '_') :
    ∃ d, Text.digitValue? c = some d := by
  simpa [isIntegerBody, hc, Option.isSome_iff_exists] using h

private theorem ne_underscore_of_separate {c : Char} {cs : List Char} (h : underscoresSeparate (c :: cs) = true) :
    c ≠ '_' := by
  rintro rfl
  simp [not_underscoresSeparate_underscore] at h

private theorem exists_digits {cs : List Char} (hbody : ∀ c ∈ cs, isIntegerBody c = true)
    (h : underscoresSeparate cs = true) : ∃ ds, Digits cs ds := by
  -- An underscore is taken together with the digit before it, so the rest may be two characters shorter.
  induction cs using List.twoStepInduction with
  | nil => exact absurd h (by decide)
  | singleton c =>
    obtain ⟨d, hd⟩ := exists_digit (hbody c List.mem_cons_self) (ne_underscore_of_separate h)
    exact ⟨_, .last hd⟩
  | cons_cons c c' cs ih ih' =>
    have hc := ne_underscore_of_separate h
    obtain ⟨d, hd⟩ := exists_digit (hbody c List.mem_cons_self) hc
    have hrest : ∀ x ∈ c' :: cs, isIntegerBody x = true := fun x hx => hbody x (List.mem_cons_of_mem _ hx)
    by_cases hc' : c' = '_'
    · subst hc'
      rw [underscoresSeparate_apart hc] at h
      obtain ⟨ds, hds⟩ := ih (fun x hx => hrest x (List.mem_cons_of_mem _ hx)) h
      exact ⟨_, .apart hd hds⟩
    · rw [underscoresSeparate_next hc cs hc'] at h
      obtain ⟨ds, hds⟩ := ih' c' hrest h
      exact ⟨_, .next hd hds⟩

/-! ### Reading a literal -/

private theorem decimal_concat (ds : List Nat) (d : Nat) : decimal (ds ++ [d]) = 10 * decimal ds + d := by
  rw [decimal, List.reverse_append, List.reverse_singleton, List.singleton_append, Nat.ofDigits_cons, decimal,
    Nat.add_comm]

theorem Digits.digitsValue {cs : List Char} {ds : List Nat} (h : Digits cs ds) : digitsValue cs = decimal ds := by
  rw [Config.digitsValue, h.filterMap_eq, decimal, Nat.ofDigits_eq_foldr, List.foldr_reverse]
  congr 1
  funext n d
  simp [Nat.add_comm]

private theorem splitSign_append {sign : List Char} {factor : Int} (hsign : Sign sign factor) {body : List Char}
    {ds : List Nat} (hbody : Digits body ds) (rest : List Char) :
    splitSign (sign ++ (body ++ rest)) = (decide (factor = -1), body ++ rest) := by
  obtain ⟨c, d, cs, rfl, hc⟩ := hbody.exists_cons
  cases hsign with
  | missing => exact splitSign_of_digit hc _
  | plus => rfl
  | minus => rfl

private theorem dropWhile_blank {sign : List Char} {factor : Int} (hsign : Sign sign factor) {body : List Char}
    {ds : List Nat} (hbody : Digits body ds) (rest : List Char) :
    (sign ++ (body ++ rest)).dropWhile isIntegerBlank = sign ++ (body ++ rest) := by
  obtain ⟨c, d, cs, rfl, hc⟩ := hbody.exists_cons
  have hblank := isIntegerBlank_of_isIntegerBody (isIntegerBody_of_digit hc)
  cases hsign with
  | missing => simp [hblank]
  | plus => rfl
  | minus => rfl

private theorem span_of_head? {p : Char → Bool} {cs rest : List Char} (h : ∀ c ∈ cs, p c = true)
    (hrest : ∀ c ∈ rest.head?, p c = false) :
    (cs ++ rest).takeWhile p = cs ∧ (cs ++ rest).dropWhile p = rest := by
  rw [List.takeWhile_append_of_pos h, List.dropWhile_append_of_pos h]
  cases rest with
  | nil => simp
  | cons c rest =>
    have hc := hrest c rfl
    simp [hc]

/-- What a text is read as that begins with digits. -/
theorem integer_of_begins {text : String} {factor : Int} {digits : List Nat} {rest : List Char}
    (h : Begins text factor digits rest) (hrest : ∀ c ∈ rest.head?, isIntegerBody c = false) :
    integer text =
      if maxDigits < digits.length then .error (.tooManyDigits digits.length)
      else if rest.all isIntegerBlank then .ok (factor * decimal digits)
      else .error (.malformed text) := by
  obtain ⟨before, sign, body, htext, hbefore, hsign, hbody⟩ := h
  have hsigned : splitSign (text.toList.dropWhile isIntegerBlank) = (decide (factor = -1), body ++ rest) := by
    rw [htext, List.dropWhile_append_of_pos hbefore, dropWhile_blank hsign hbody, splitSign_append hsign hbody]
  obtain ⟨htake, hdrop⟩ := span_of_head? hbody.isIntegerBody hrest
  have hfactor : (if decide (factor = -1) = true then -(decimal digits : Int) else decimal digits) =
      factor * decimal digits := by
    cases hsign <;> simp
  simp only [integer, hsigned, htake, hdrop, hbody.filterMap_eq, hbody.underscoresSeparate, hbody.digitsValue,
    hfactor, Bool.not_true, Bool.false_eq_true, if_false]
  cases rest.all isIntegerBlank <;> rfl

private theorem sign_splitSign (cs : List Char) :
    ∃ sign factor, Sign sign factor ∧ cs = sign ++ (splitSign cs).2 := by
  unfold splitSign
  split
  · exact ⟨_, _, .minus, rfl⟩
  · exact ⟨_, _, .plus, rfl⟩
  · exact ⟨_, _, .missing, rfl⟩

/-- A text begins with digits, or else it is malformed. -/
theorem begins_or_malformed (text : String) :
    (∃ factor digits rest, Begins text factor digits rest ∧ ∀ c ∈ rest.head?, isIntegerBody c = false) ∨
      integer text = .error (.malformed text) := by
  obtain ⟨sign, factor, hsign, htext⟩ := sign_splitSign (text.toList.dropWhile isIntegerBlank)
  cases hseparate : underscoresSeparate
      ((splitSign (text.toList.dropWhile isIntegerBlank)).2.takeWhile isIntegerBody) with
  | false => exact .inr (by simp [integer, hseparate])
  | true =>
    generalize (splitSign (text.toList.dropWhile isIntegerBlank)).2 = body at htext hseparate
    obtain ⟨digits, hdigits⟩ := exists_digits (fun c hc => List.mem_takeWhile_imp hc) hseparate
    refine .inl ⟨factor, digits, body.dropWhile isIntegerBody, ⟨text.toList.takeWhile isIntegerBlank, sign,
      body.takeWhile isIntegerBody, ?_, fun c hc => List.mem_takeWhile_imp hc, hsign, hdigits⟩,
      Text.head?_dropWhile isIntegerBody body⟩
    rw [List.takeWhile_append_dropWhile, ← htext, List.takeWhile_append_dropWhile]

private theorem not_body_of_blanks {cs : List Char} (h : ∀ c ∈ cs, isIntegerBlank c = true) :
    ∀ c ∈ cs.head?, isIntegerBody c = false := by
  intro c hc
  have hblank := h c (List.mem_of_head? hc)
  by_contra hbody
  rw [isIntegerBlank_of_isIntegerBody (Bool.not_eq_false _ ▸ hbody)] at hblank
  exact Bool.false_ne_true hblank

/-- A text is read exactly if it is a literal, and then as the integer that it denotes. -/
theorem integer_eq_ok_iff {text : String} {n : Int} : integer text = .ok n ↔ Denotes text n := by
  constructor
  · intro h
    rcases begins_or_malformed text with ⟨factor, digits, rest, hbegins, hrest⟩ | hmalformed
    · rw [integer_of_begins hbegins hrest] at h
      split_ifs at h with hmany hblank
      exact ⟨factor, digits, rest, hbegins, List.all_eq_true.mp hblank, by omega, (Except.ok.inj h).symm⟩
    · simp [hmalformed] at h
  · rintro ⟨factor, digits, after, hbegins, hafter, hfew, rfl⟩
    rw [integer_of_begins hbegins (not_body_of_blanks hafter), if_neg (by omega), if_pos (List.all_eq_true.mpr hafter)]

/-- What is said about a text that is no literal. -/
structure FaultOf (text : String) (fault : IntegerFault) : Prop where
  tooMany : ∀ count, HasTooMany text count → fault = .tooManyDigits count
  /-- The message shows the text as it is, but no more than a number of characters. -/
  malformed : (∀ count, ¬ HasTooMany text count) → fault = .malformed text ∧
    fault.message = "invalid literal for int() with base 10: " ++
      String.ofList ((Text.quoted text).toList.take maxShownText)

private theorem faultOf_of_error {text : String} {fault : IntegerFault} (h : integer text = .error fault) :
    FaultOf text fault := by
  constructor
  case tooMany =>
    rintro count ⟨factor, digits, rest, hbegins, hrest, rfl, hmany⟩
    rw [integer_of_begins hbegins hrest, if_pos hmany] at h
    exact (Except.error.inj h).symm
  case malformed =>
    intro hfew
    have hfault : fault = .malformed text := by
      rcases begins_or_malformed text with ⟨factor, digits, rest, hbegins, hrest⟩ | hmalformed
      · rw [integer_of_begins hbegins hrest] at h
        split_ifs at h with hmany hblank
        · exact absurd ⟨factor, digits, rest, hbegins, hrest, rfl, hmany⟩ (hfew digits.length)
        · exact (Except.error.inj h).symm
      · exact (Except.error.inj (hmalformed.symm.trans h)).symm
    subst hfault
    exact ⟨rfl, rfl⟩

/-! ### Decimal texts -/

private theorem digitValue?_digitChar {d : Nat} (h : d < 10) : Text.digitValue? (Nat.digitChar d) = some d := by
  have hall : ∀ d < 10, Text.digitValue? (Nat.digitChar d) = some d := by decide
  exact hall d h

private theorem exists_digits_toDigits (n : Nat) :
    ∃ ds, Digits (Nat.toDigits 10 n) ds ∧ decimal ds = n ∧ ∀ k, 0 < k → n < 10 ^ k → ds.length ≤ k := by
  induction n using Nat.strongRecOn with
  | ind n ih =>
    rw [Nat.toDigits_eq_if (by decide)]
    split
    · rename_i hsmall
      exact ⟨[n], .last (digitValue?_digitChar hsmall), rfl, fun k hk _ => hk⟩
    · rename_i hlarge
      obtain ⟨ds, hds, hvalue, hlength⟩ := ih (n / 10) (by omega)
      refine ⟨ds ++ [n % 10], hds.append_digit (digitValue?_digitChar (Nat.mod_lt _ (by decide))), ?_, ?_⟩
      · rw [decimal_concat, hvalue, Nat.div_add_mod]
      · -- A number with two or more digits has one digit more than its tenth.
        intro k hk hn
        obtain ⟨k, rfl⟩ := Nat.exists_eq_succ_of_ne_zero hk.ne'
        have hdiv : n / 10 < 10 ^ k := by
          rw [Nat.pow_succ] at hn
          exact Nat.div_lt_of_lt_mul (by omega)
        have hpos : 0 < k := by
          by_contra hzero
          obtain rfl : k = 0 := by omega
          omega
        have := hlength k hpos hdiv
        simp only [List.length_append, List.length_singleton]
        omega

/-- An integer's decimal text denotes it, if it is within the limit. -/
theorem denotes_toString {n : Int} (h : n.natAbs < 10 ^ maxDigits) : Denotes (toString n) n := by
  obtain ⟨ds, hds, hvalue, hlength⟩ := exists_digits_toDigits n.natAbs
  have hfew := hlength maxDigits (by decide) h
  have htext := Json.toList_number n
  split at htext
  · rename_i hn
    refine ⟨1, ds, [], ⟨[], [], Nat.toDigits 10 n.natAbs, ?_, by simp, .missing, hds⟩, by simp, hfew, by omega⟩
    rw [htext, List.append_nil, show n.toNat = n.natAbs by omega]
    rfl
  · rename_i hn
    refine ⟨-1, ds, [], ⟨[], ['-'], Nat.toDigits 10 n.natAbs, ?_, by simp, .minus, hds⟩, by simp, hfew, by omega⟩
    rw [htext, List.append_nil, show (-n).toNat = n.natAbs by omega]
    rfl

/-! ### Settings -/

/-- The variables with integers, in the order in which they are read. -/
def numberNames : List String := ["PORT", "MAX_WORKERS", "JSON_INDENT"]

/-- A variable is set, but not to a literal. -/
def Offends (env : Environment) (name text : String) : Prop :=
  env.get? name = some text ∧ ∀ n, ¬ Denotes text n

def FirstOffender (env : Environment) (name text : String) : Prop :=
  Offends env name text ∧ ∃ before after, numberNames = before ++ name :: after ∧
    ∀ other ∈ before, ∀ value, ¬ Offends env other value

/-- The integer of a variable, which is the given one if it is not set. -/
inductive NumberOf (env : Environment) (name : String) (default : Int) : Int → Prop
  | unset (h : env.get? name = none) : NumberOf env name default default
  | literal {text : String} {n : Int} (h : env.get? name = some text) (hn : Denotes text n) :
      NumberOf env name default n

/-- The integers among the settings are those of the variables, and there is at least one worker. -/
structure HasNumbers (env : Environment) (settings : Settings) : Prop where
  port : ∀ n, NumberOf env "PORT" 8000 n ↔ n = settings.port
  maxWorkers : ∃ workers, (∀ n, NumberOf env "MAX_WORKERS" 1 n ↔ n = workers) ∧ settings.maxWorkers = max 1 workers
  jsonIndent : ∀ n, NumberOf env "JSON_INDENT" 4 n ↔ n = settings.jsonIndent

variable {env : Environment} {name : String}

private theorem integer_value_eq_ok_iff {default : String} {d n : Int} (hdefault : integer default = .ok d) :
    integer (Settings.value env name default) = .ok n ↔ NumberOf env name d n := by
  unfold Settings.value
  constructor
  · intro h
    cases hget : env.get? name with
    | none =>
      rw [hget, Option.getD_none, hdefault] at h
      exact Except.ok.inj h ▸ .unset hget
    | some text =>
      rw [hget, Option.getD_some] at h
      exact .literal hget (integer_eq_ok_iff.mp h)
  · rintro (hget | ⟨hget, hn⟩)
    · rw [hget, Option.getD_none, hdefault]
    · rw [hget, Option.getD_some, integer_eq_ok_iff.mpr hn]

/-- A variable that is read does not offend. -/
theorem NumberOf.not_offends {d n : Int} (h : NumberOf env name d n) (text : String) : ¬ Offends env name text := by
  rintro ⟨hget, hnone⟩
  cases h with
  | unset hunset => simp [hunset] at hget
  | literal hset hn => exact hnone n (Option.some.inj (hset.symm.trans hget) ▸ hn)

private theorem offends_of_error {default : String} {d : Int} {fault : IntegerFault}
    (hdefault : integer default = .ok d)
    (h : integer (Settings.value env name default) = .error fault) :
    ∃ text, Offends env name text ∧ FaultOf text fault := by
  unfold Settings.value at h
  cases hget : env.get? name with
  | none => simp [hget, hdefault] at h
  | some text =>
    rw [hget, Option.getD_some] at h
    refine ⟨text, ⟨hget, fun n hn => ?_⟩, faultOf_of_error h⟩
    simp [integer_eq_ok_iff.mpr hn] at h

/-- Either there are settings and no variable offends, or the first one that does is told. -/
theorem ofEnvironment_cases (env : Environment) :
    (∃ settings, Settings.ofEnvironment env = .ok settings ∧ HasNumbers env settings ∧
      ∀ name ∈ numberNames, ∀ text, ¬ Offends env name text) ∨
    ∃ fault name text, Settings.ofEnvironment env = .error fault ∧ FirstOffender env name text ∧
      FaultOf text fault := by
  have hread {name default : String} {d n : Int} (hdefault : integer default = .ok d)
      (h : integer (Settings.value env name default) = .ok n) : ∀ m, NumberOf env name d m ↔ m = n := by
    intro m
    rw [← integer_value_eq_ok_iff hdefault, h, Except.ok.injEq, eq_comm]
  have h8000 : integer "8000" = .ok 8000 := by decide
  have h1 : integer "1" = .ok 1 := by decide
  have h4 : integer "4" = .ok 4 := by decide
  unfold Settings.ofEnvironment Settings.read Settings.integerOr
  -- The variables are read one after the other, and the first fault ends the reading.
  cases hport : integer (Settings.value env "PORT" "8000") with
  | error fault =>
    obtain ⟨text, hoffends, hfault⟩ := offends_of_error h8000 hport
    exact .inr ⟨fault, "PORT", text, rfl, ⟨hoffends, [], _, rfl, by simp⟩, hfault⟩
  | ok port =>
    have hport := hread h8000 hport
    have hportFine := ((hport port).mpr rfl).not_offends
    cases hworkers : integer (Settings.value env "MAX_WORKERS" "1") with
    | error fault =>
      obtain ⟨text, hoffends, hfault⟩ := offends_of_error h1 hworkers
      exact .inr ⟨fault, "MAX_WORKERS", text, rfl, ⟨hoffends, ["PORT"], _, rfl, by simpa using hportFine⟩, hfault⟩
    | ok workers =>
      have hworkers := hread h1 hworkers
      have hworkersFine := ((hworkers workers).mpr rfl).not_offends
      cases hindent : integer (Settings.value env "JSON_INDENT" "4") with
      | error fault =>
        obtain ⟨text, hoffends, hfault⟩ := offends_of_error h4 hindent
        exact .inr ⟨fault, "JSON_INDENT", text, rfl,
          ⟨hoffends, ["PORT", "MAX_WORKERS"], _, rfl, by simpa using ⟨hportFine, hworkersFine⟩⟩, hfault⟩
      | ok indent =>
        have hindent := hread h4 hindent
        have hindentFine := ((hindent indent).mpr rfl).not_offends
        exact .inl ⟨_, rfl, ⟨hport, ⟨workers, hworkers, rfl⟩, hindent⟩,
          by simpa [numberNames] using ⟨hportFine, hworkersFine, hindentFine⟩⟩

/-- Settings can be read exactly if each of the three variables is unset or set to an integer literal with at most
4300 digits. Otherwise the fault is that of the text of the first one in their order that is neither. Settings that
are read have the integers that the literals denote, and every integer within the limit on digits is read from its
decimal text. -/
theorem settings_need_integer_literals (env : Environment) :
    ((∃ fault, Settings.ofEnvironment env = .error fault) ↔
      ∃ name ∈ numberNames, ∃ text, Offends env name text) ∧
    (∀ fault, Settings.ofEnvironment env = .error fault →
      ∃ name text, FirstOffender env name text ∧ FaultOf text fault) ∧
    (∀ settings, Settings.ofEnvironment env = .ok settings → HasNumbers env settings) ∧
    ∀ n : Int, n.natAbs < 10 ^ maxDigits →
      (∀ name, env.get? name = some (toString n) → ∀ text, ¬ Offends env name text) ∧
      ∀ settings, Settings.ofEnvironment env = .ok settings →
        (env.get? "PORT" = some (toString n) → settings.port = n) ∧
        (env.get? "MAX_WORKERS" = some (toString n) → settings.maxWorkers = max 1 n) ∧
        (env.get? "JSON_INDENT" = some (toString n) → settings.jsonIndent = n) := by
  have hcases := ofEnvironment_cases env
  have hnumbers : ∀ settings, Settings.ofEnvironment env = .ok settings → HasNumbers env settings := by
    intro settings h
    rcases hcases with ⟨read, hread, hnumbers, _⟩ | ⟨fault, _, _, hfault, _⟩
    · exact Except.ok.inj (hread.symm.trans h) ▸ hnumbers
    · simp [hfault] at h
  refine ⟨⟨?_, ?_⟩, ?_, hnumbers, ?_⟩
  · rintro ⟨fault, h⟩
    rcases hcases with ⟨read, hread, _⟩ | ⟨_, name, text, _, ⟨hoffends, before, after, hnames, _⟩, _⟩
    · simp [hread] at h
    · exact ⟨name, by simp [hnames], text, hoffends⟩
  · rintro ⟨name, hname, text, hoffends⟩
    rcases hcases with ⟨_, _, _, hfine⟩ | ⟨fault, _, _, hfault, _⟩
    · exact absurd hoffends (hfine name hname text)
    · exact ⟨fault, hfault⟩
  · intro fault h
    rcases hcases with ⟨read, hread, _⟩ | ⟨told, name, text, htold, hfirst, hof⟩
    · simp [hread] at h
    · exact ⟨name, text, hfirst, Except.error.inj (htold.symm.trans h) ▸ hof⟩
  · intro n hn
    have hdenotes := denotes_toString hn
    refine ⟨fun name hget text => ?_, fun settings h => ?_⟩
    · have hnumber : NumberOf env name n n := .literal hget hdenotes
      exact hnumber.not_offends text
    obtain ⟨hport, ⟨workers, hworkers, hmax⟩, hindent⟩ := hnumbers settings h
    refine ⟨fun hget => ?_, fun hget => ?_, fun hget => ?_⟩
    · exact ((hport n).mp (.literal hget hdenotes)).symm
    · rw [hmax, (hworkers n).mp (.literal hget hdenotes)]
    · exact ((hindent n).mp (.literal hget hdenotes)).symm

private theorem length_le_quotedChars (quote : Char) (cs : List Char) :
    cs.length ≤ (cs.flatMap (Text.quotedChar quote)).length := by
  induction cs with
  | nil => exact Nat.le_refl 0
  | cons c cs ih =>
    have hc : 0 < (Text.quotedChar quote c).length := by
      unfold Text.quotedChar
      split_ifs <;> simp
    rw [List.flatMap_cons, List.length_append, List.length_cons]
    omega

private theorem length_lt_quoted (s : String) : s.toList.length < (Text.quoted s).toList.length := by
  have := length_le_quotedChars (Text.quoteFor s.toList) s.toList
  simp only [Text.quoted, String.toList_ofList, List.length_append, List.length_cons]
  omega

private theorem integer_word {text : String} {cs : List Char} (h : text.toList = 'x' :: cs) :
    integer text = .error (.malformed text) := by
  have hblank : isIntegerBlank 'x' = false := by decide
  have hbody : isIntegerBody 'x' = false := by decide
  have hempty : underscoresSeparate [] = false := rfl
  simp [integer, h, hblank, splitSign, hbody, hempty]

private theorem ofEnvironment_of_port {text : String} {fault : IntegerFault} (h : integer text = .error fault) :
    Settings.ofEnvironment ⟨[("PORT", text)]⟩ = .error fault := by
  have hget : (⟨[("PORT", text)]⟩ : Environment).get? "PORT" = some text := by simp [Environment.get?]
  unfold Settings.ofEnvironment Settings.read Settings.integerOr Settings.value
  rw [hget, Option.getD_some, h]
  rfl

/-- A word that is longer in its quotes than what a message shows. -/
def longWord : String := String.ofList (List.replicate maxShownText 'x')

private theorem message_longWord_ne :
    (IntegerFault.malformed longWord).message ≠ "invalid literal for int() with base 10: " ++ Text.quoted longWord := by
  intro hmessage
  unfold IntegerFault.message at hmessage
  have hshown := congrArg String.toList ((String.append_right_inj _).mp hmessage)
  have hlong := length_lt_quoted longWord
  rw [longWord, String.toList_ofList, List.length_replicate] at hlong
  rw [String.toList_ofList] at hshown
  have hlength := congrArg List.length hshown
  rw [List.length_take] at hlength
  rw [longWord] at hlength
  omega

/-- A literal with blanks of some kind around it, and its digits. -/
def IsLiteral (blank : Char → Bool) (text : String) (digits : List Nat) : Prop :=
  ∃ before sign factor body after, text.toList = before ++ (sign ++ (body ++ after)) ∧
    (∀ c ∈ before ++ after, blank c = true) ∧ Sign sign factor ∧ Digits body digits

/-- A digit behind a separator. -/
def separatedNine : String := "\x1c9"

private theorem isLiteral_separatedNine : IsLiteral Text.isBlank separatedNine [9] := by
  have hnine : Text.digitValue? '9' = some 9 := digitValue?_digitChar (by decide : 9 < 10)
  have hblank : Text.isBlank '\x1c' = true := by decide
  exact ⟨['\x1c'], [], 1, ['9'], [], rfl, by simp [hblank], .missing, .last hnine⟩

private theorem digits_replicate (n : Nat) : Digits (List.replicate (n + 1) '1') (List.replicate (n + 1) 1) := by
  have hone : Text.digitValue? '1' = some 1 := digitValue?_digitChar (by decide : 1 < 10)
  induction n with
  | zero => exact .last hone
  | succ n ih => exact .next hone ih

/-- One digit more than an integer may have. -/
def longNumeral : String := String.ofList (List.replicate (maxDigits + 1) '1')

private theorem isLiteral_longNumeral : IsLiteral isIntegerBlank longNumeral (List.replicate (maxDigits + 1) 1) :=
  ⟨[], [], 1, _, [], by simp [longNumeral], by simp, .missing, digits_replicate maxDigits⟩

private theorem integer_longNumeral : integer longNumeral = .error (.tooManyDigits (maxDigits + 1)) := by
  have hbegins : Begins longNumeral 1 (List.replicate (maxDigits + 1) 1) [] :=
    ⟨[], [], _, by simp [longNumeral], by simp, .missing, digits_replicate maxDigits⟩
  rw [integer_of_begins hbegins (by simp), List.length_replicate, if_pos (Nat.lt_succ_self _)]

/-- A long text is not shown to its end; a literal behind a separator is refused, and so is one with too many
digits. -/
theorem not_quoted_in_full :
    ¬ (∀ (env : Environment) (text : String), env.get? "PORT" = some text → (∀ n, ¬ Denotes text n) →
      ∃ fault, Settings.ofEnvironment env = .error fault ∧
        fault.message = "invalid literal for int() with base 10: " ++ Text.quoted text) ∧
    ¬ (∀ (env : Environment) (text : String) (digits : List Nat), env.get? "PORT" = some text →
      IsLiteral Text.isBlank text digits → digits.length ≤ maxDigits →
      ∃ settings, Settings.ofEnvironment env = .ok settings) ∧
    ¬ ∀ (env : Environment) (text : String) (digits : List Nat), env.get? "PORT" = some text →
      IsLiteral isIntegerBlank text digits → ∃ settings, Settings.ofEnvironment env = .ok settings := by
  have hget (text : String) : (⟨[("PORT", text)]⟩ : Environment).get? "PORT" = some text := by simp [Environment.get?]
  refine ⟨fun hall => ?_, fun hall => ?_, fun hall => ?_⟩
  · have hread : integer longWord = .error (.malformed longWord) := integer_word String.toList_ofList
    have hnone : ∀ n, ¬ Denotes longWord n := by
      intro n hn
      rw [integer_eq_ok_iff.mpr hn] at hread
      cases hread
    obtain ⟨fault, hfault, hmessage⟩ := hall _ longWord (hget _) hnone
    cases (ofEnvironment_of_port hread).symm.trans hfault
    exact message_longWord_ne hmessage
  · have hread : integer separatedNine = .error (.malformed separatedNine) := by decide
    obtain ⟨settings, hsettings⟩ := hall _ separatedNine [9] (hget _) isLiteral_separatedNine (by decide)
    cases (ofEnvironment_of_port hread).symm.trans hsettings
  · obtain ⟨settings, hsettings⟩ := hall _ longNumeral _ (hget _) isLiteral_longNumeral
    cases (ofEnvironment_of_port integer_longNumeral).symm.trans hsettings

end ClassOutline.Config
