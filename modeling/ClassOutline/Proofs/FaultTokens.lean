import ClassOutline.Concrete.Fault
import ClassOutline.Proofs.TextLaws

/-!
# The token that a syntax error shows

An error shows the beginning of the first line of its text, without the blanks around the text. Every line break is
blank, so the text between the blanks does not begin with one: its first line has a character unless the whole text
is blank.
-/
namespace ClassOutline.Text

/-! ### Lines -/

/-- What ends a line: one character, or a carriage return with the line feed behind it. -/
inductive IsBreak : List Char → Prop
  | single {c : Char} (h : isLineBreak c = true) : IsBreak [c]
  | pair : IsBreak ['\r', '\n']

/-- The lines of a text. The end of the text ends the last one, which is not empty. -/
inductive Lines : List Char → List (List Char) → Prop
  | none : Lines [] []
  | last {line : List Char} (hne : line ≠ []) (hline : ∀ c ∈ line, isLineBreak c = false) : Lines line [line]
  | next {line lineBreak rest : List Char} {lines : List (List Char)} (hline : ∀ c ∈ line, isLineBreak c = false)
      (hbreak : IsBreak lineBreak) (hwhole : lineBreak = ['\r'] → rest.head? ≠ some '\n') (hrest : Lines rest lines) :
      Lines (line ++ (lineBreak ++ rest)) (line :: lines)

theorem IsBreak.head? {lineBreak : List Char} (h : IsBreak lineBreak) (rest : List Char) :
    ∃ c, (lineBreak ++ rest).head? = some c ∧ isLineBreak c = true := by
  cases h with
  | single hc => exact ⟨_, rfl, hc⟩
  | pair => exact ⟨'\r', rfl, by decide⟩

private theorem firstLine_append {line rest : List Char} (hline : ∀ c ∈ line, isLineBreak c = false)
    (hrest : ∀ c ∈ rest.head?, isLineBreak c = true) : firstLine (line ++ rest) = line := by
  have hpass : ∀ c ∈ line, (!isLineBreak c) = true := by
    intro c hc
    rw [hline c hc]
    rfl
  have hstop : rest.takeWhile (fun c => !isLineBreak c) = [] := by
    cases rest with
    | nil => rfl
    | cons c rest => simp [hrest c rfl]
  rw [firstLine, List.takeWhile_append_of_pos hpass, hstop, List.append_nil]

private theorem Lines.head_eq_firstLine {cs line : List Char} {rest : List (List Char)} (h : Lines cs (line :: rest)) :
    line = firstLine cs := by
  cases h with
  | last hne hline =>
    have hfirst := @firstLine_append _ [] hline (by simp)
    rw [List.append_nil] at hfirst
    exact hfirst.symm
  | next hline hbreak hwhole hrest =>
    obtain ⟨c, hhead, hc⟩ := hbreak.head? _
    apply Eq.symm
    apply firstLine_append hline
    intro d hd
    obtain rfl : c = d := Option.some.inj (hhead.symm.trans hd)
    exact hc

/-- A text that begins with a break goes on behind the whole of it. -/
theorem exists_break {c : Char} (h : isLineBreak c = true) (cs : List Char) :
    ∃ lineBreak rest, c :: cs = lineBreak ++ rest ∧ IsBreak lineBreak ∧
      (lineBreak = ['\r'] → rest.head? ≠ some '\n') := by
  by_cases hpair : c = '\r' ∧ cs.head? = some '\n'
  · obtain ⟨rfl, hfeed⟩ := hpair
    obtain ⟨rest, rfl⟩ : ∃ rest, cs = '\n' :: rest := by
      cases cs with
      | nil => simp at hfeed
      | cons d rest =>
        obtain rfl : d = '\n' := by simpa using hfeed
        exact ⟨rest, rfl⟩
    exact ⟨['\r', '\n'], rest, rfl, .pair, by simp⟩
  · refine ⟨[c], cs, rfl, .single h, ?_⟩
    intro hreturn hfeed
    exact hpair ⟨by simpa using hreturn, hfeed⟩

private theorem exists_lines (cs : List Char) : ∃ lines, Lines cs lines := by
  -- Each line with its break is shorter than the text, so the induction is on the length.
  induction hlength : cs.length using Nat.strongRecOn generalizing cs with
  | ind length ih =>
    have hparts : cs = firstLine cs ++ cs.dropWhile (fun c => !isLineBreak c) :=
      List.takeWhile_append_dropWhile.symm
    have hline : ∀ c ∈ firstLine cs, isLineBreak c = false := by
      intro c hc
      simpa using List.mem_takeWhile_imp hc
    cases hdrop : cs.dropWhile (fun c => !isLineBreak c) with
    | nil =>
      rw [hdrop, List.append_nil] at hparts
      by_cases hnil : cs = []
      · exact ⟨[], hnil ▸ .none⟩
      · refine ⟨[cs], .last hnil ?_⟩
        rw [hparts]
        exact hline
    | cons c after =>
      have hc : isLineBreak c = true := by
        have hhead := head?_dropWhile (fun c => !isLineBreak c) cs c (by rw [hdrop]; rfl)
        simpa using hhead
      obtain ⟨lineBreak, rest, hafter, hbreak, hwhole⟩ := exists_break hc after
      rw [hdrop, hafter] at hparts
      have hshort : rest.length < length := by
        have hnonempty : 0 < lineBreak.length := by cases hbreak <;> simp
        rw [← hlength, hparts]
        simp only [List.length_append]
        omega
      obtain ⟨lines, hlines⟩ := ih rest.length hshort rest rfl
      refine ⟨firstLine cs :: lines, ?_⟩
      have hnext := Lines.next hline hbreak hwhole hlines
      rwa [← hparts] at hnext

end ClassOutline.Text

namespace ClassOutline.Cst

open Text

/-! ### Tokens -/

/-- The beginning of the first line of what stands between the blanks around a text. -/
structure IsTokenOf (text token : List Char) : Prop where
  ne_nil : token ≠ []
  short : token.length ≤ 40
  solid : ∀ c ∈ token.head?, isBlank c = false
  unbroken : ∀ c ∈ token, isLineBreak c = false
  leading : token <+: text.dropWhile isBlank
  firstLine : ∀ core, IsCore text core → (∃ line rest, Lines core (line :: rest)) ∧
    ∀ line rest, Lines core (line :: rest) → token = line.take 40 ∧ (line.length ≤ 40 → token = line)

private theorem firstLine_ne_nil {core : List Char} (h : Trimmed core) (hne : core ≠ []) :
    Text.firstLine core ≠ [] := by
  cases core with
  | nil => exact absurd rfl hne
  | cons c core =>
    have hblank : isBlank c = false := h.1 c rfl
    have hbreak : isLineBreak c = false := by
      by_contra hc
      rw [isBlank_of_isLineBreak (by simpa using hc)] at hblank
      cases hblank
    simp [Text.firstLine, hbreak]

private theorem faultToken_eq_nil_iff (n : Cst) : n.faultToken = [] ↔ ∀ c ∈ n.chars, isBlank c = true := by
  rw [← trim_eq_nil_iff]
  constructor
  · intro htoken
    by_contra hne
    obtain ⟨_, _, _, _, _, htrimmed⟩ := isCore_trim n.chars
    simp [faultToken, maxTokenLength, firstLine_ne_nil htrimmed hne] at htoken
  · intro hnil
    rw [faultToken, hnil]
    rfl

private theorem trim_isPrefix (cs : List Char) : trim cs <+: cs.dropWhile isBlank := by
  rw [trim, trimStart]
  generalize cs.dropWhile isBlank = start
  refine ⟨(start.reverse.takeWhile isBlank).reverse, ?_⟩
  rw [trimEnd, ← List.reverse_append, List.takeWhile_append_dropWhile, List.reverse_reverse]

private theorem faultToken_isPrefix (n : Cst) : n.faultToken <+: trim n.chars :=
  (List.take_prefix ..).trans (List.takeWhile_prefix _)

private theorem isTokenOf_faultToken {n : Cst} (h : n.faultToken ≠ []) : IsTokenOf n.chars n.faultToken where
  ne_nil := h
  short := List.length_take_le ..
  solid := by
    obtain ⟨_, _, _, _, _, hhead, _⟩ := isCore_trim n.chars
    obtain ⟨rest, hrest⟩ := n.faultToken_isPrefix
    intro c hc
    apply hhead
    rw [← hrest, List.head?_append, Option.mem_def.mp hc]
    rfl
  unbroken := by
    intro c hc
    have hline : c ∈ Text.firstLine (trim n.chars) := List.mem_of_mem_take hc
    simpa using List.mem_takeWhile_imp hline
  leading := n.faultToken_isPrefix.trans (trim_isPrefix n.chars)
  firstLine := by
    intro core hcore
    obtain rfl : core = trim n.chars := isCore_iff.mp hcore
    constructor
    · obtain ⟨lines, hlines⟩ := exists_lines (trim n.chars)
      cases lines with
      | nil =>
        generalize hcs : trim n.chars = cs at hlines
        cases hlines
        rw [faultToken, hcs] at h
        exact absurd rfl h
      | cons line rest => exact ⟨line, rest, hlines⟩
    · intro line rest hlines
      obtain rfl := hlines.head_eq_firstLine
      refine ⟨rfl, ?_⟩
      intro hshort
      exact List.take_of_length_le hshort

/-! ### Messages -/

private theorem describeFault_of_present {n : Cst} (h : n.head.missing = false) :
    n.describeFault = if n.faultToken = [] then .endOfFile n.line
      else .unexpected (String.ofList n.faultToken) n.line := by
  rw [describeFault, h, if_neg Bool.false_ne_true]
  cases n.faultToken <;> rfl

/-- A quoted token is never taken for the end of the file. -/
theorem message_unexpected_ne (token : String) (line line' : Nat) :
    (SyntaxFault.unexpected token line).message ≠ (SyntaxFault.endOfFile line').message := by
  have hquoted : (toString "syntax error, unexpected '").toList = "syntax error, unexpected ".toList ++ ['\''] := by
    decide
  have hend : (toString "syntax error, unexpected end of file on line ").toList =
      "syntax error, unexpected ".toList ++ ['e'] ++ "nd of file on line ".toList := by
    decide
  intro h
  have hchars := congrArg String.toList h
  unfold SyntaxFault.message at hchars
  dsimp only at hchars
  simp only [String.toList_append, hquoted, hend, List.append_assoc] at hchars
  exact absurd (List.head_eq_of_cons_eq (List.append_cancel_left hchars)) (by decide)

/-- An error that is no missing token is the end of the file exactly if its text, in whatever bytes, is all blank. Any
other one is quoted by the beginning of its first line. -/
theorem fault_shows_first_line (n : Cst) (hmissing : n.head.missing = false) :
    (n.describeFault.message = s!"syntax error, unexpected end of file on line {n.line}" ↔
      ∀ c ∈ n.chars, isBlank c = true) ∧
    ((∃ c ∈ n.chars, isBlank c = false) → ∃ token : String,
      n.describeFault = .unexpected token n.line ∧
      n.describeFault.message = s!"syntax error, unexpected '{token}' on line {n.line}" ∧
      IsTokenOf n.chars token.toList) := by
  rw [← faultToken_eq_nil_iff, describeFault_of_present hmissing]
  by_cases htoken : n.faultToken = []
  · rw [if_pos htoken]
    refine ⟨iff_of_true rfl htoken, ?_⟩
    rintro ⟨c, hc, hsolid⟩
    rw [n.faultToken_eq_nil_iff.mp htoken c hc] at hsolid
    cases hsolid
  · rw [if_neg htoken]
    refine ⟨iff_of_false (message_unexpected_ne _ _ _) htoken, ?_⟩
    intro _
    refine ⟨String.ofList n.faultToken, rfl, rfl, ?_⟩
    rw [String.toList_ofList]
    exact isTokenOf_faultToken htoken

/-- An error on the fifth line that covers some bytes. -/
def errorOver (bytes : List UInt8) : Cst :=
  .node ⟨"ERROR", none, 4, ⟨bytes.toArray⟩, true, false, true⟩ []

/-- A line break of two characters, a line separator, a byte that is no character, a letter, a blank and a letter, then
a line that ends with a file separator. -/
def brokenBytes : List UInt8 :=
  [0x0D, 0x0A, 0xE2, 0x80, 0xA8, 0xFF, 0x41, 0x20, 0x42, 0x1C, 0x43]

theorem brokenBytes_shown :
    (errorOver brokenBytes).head.missing = false ∧
    IsTokenOf (errorOver brokenBytes).chars "\ufffdA B".toList ∧
    (errorOver brokenBytes).describeFault.message = "syntax error, unexpected '\ufffdA B' on line 5" ∧
    (errorOver (brokenBytes.take 5)).describeFault.message = "syntax error, unexpected end of file on line 5" := by
  have hchars : (errorOver brokenBytes).chars =
      ['\r', '\n', '\u2028', '\ufffd', 'A', ' ', 'B', '\x1c', 'C'] := by decide
  have hblank : (errorOver (brokenBytes.take 5)).chars = ['\r', '\n', '\u2028'] := by decide
  have hsolid : ∃ c ∈ (errorOver brokenBytes).chars, isBlank c = false := by
    rw [hchars]
    exact ⟨'A', by simp, by decide⟩
  obtain ⟨token, hfault, hmessage, htoken⟩ := (fault_shows_first_line (errorOver brokenBytes) rfl).2 hsolid
  have hshown : (errorOver brokenBytes).describeFault = .unexpected "\ufffdA B" 5 := by
    rw [describeFault, faultToken, hchars]
    rfl
  obtain ⟨rfl, _⟩ := SyntaxFault.unexpected.inj (hfault.symm.trans hshown)
  refine ⟨rfl, htoken, hmessage, ?_⟩
  apply (fault_shows_first_line (errorOver (brokenBytes.take 5)) rfl).1.mpr
  rw [hblank]
  intro c hc
  simp only [List.mem_cons, List.not_mem_nil, or_false] at hc
  rcases hc with rfl | rfl | rfl <;> decide

end ClassOutline.Cst
