import ClassOutline.Proofs.JsonReading
import Mathlib.Algebra.GroupWithZero.Nat
import Mathlib.Algebra.Order.BigOperators.Group.List
import Mathlib.Algebra.Order.Group.Nat

/-!
# Written documents are read back

Every document is read back from its text, in every layout that has blanks at most where JSON allows them. On one line
of ASCII the text consists of printable characters; in other layouts it has the bytes that are no characters which the
names and strings of the document have.
-/
namespace ClassOutline.Json

/-! ### Layouts -/

/-- A layout that has nothing but gaps around commas and behind colons. -/
structure Format.Standard (f : Format) : Prop where
  item : ∃ gap, raw f.itemSeparator = .char ',' :: gap ∧ Gap gap
  name : ∃ gap, raw f.nameSeparator = .char ':' :: gap ∧ Gap gap

theorem Format.standard_asciiLine : Format.asciiLine.Standard :=
  ⟨⟨[.char ' '], rfl, by decide⟩, ⟨[.char ' '], rfl, by decide⟩⟩

theorem Format.standard_indented (indent : Int) : (Format.indented indent).Standard := by
  have hitem : raw "," = [.char ','] := rfl
  have hname : raw ": " = [.char ':', .char ' '] := rfl
  exact ⟨⟨[], hitem, .nil⟩, ⟨[.char ' '], hname, by decide⟩⟩

private theorem Format.gap_newLine (f : Format) (depth : Nat) : Gap (f.newLine depth) := by
  unfold Format.newLine
  split
  · exact .nil
  · intro l hl
    rcases List.mem_cons.mp hl with rfl | hl
    · rfl
    · rw [List.eq_of_mem_replicate hl]
      rfl

/-- What stands between the brackets. -/
def Format.body (f : Format) (depth : Nat) (items : List RawText) : RawText :=
  f.newLine (depth + 1) ++
    ((raw f.itemSeparator ++ f.newLine (depth + 1)).intercalate items ++ f.newLine depth)

private theorem Format.bracket_eq (f : Format) (depth : Nat) (opening closing : RawText) {items : List RawText}
    (h : items ≠ []) :
    f.bracket depth opening closing items = opening ++ (f.body depth items ++ closing) := by
  cases items with
  | nil => exact absurd rfl h
  | cons item items => simp only [Format.bracket, Format.body, List.append_assoc]

private theorem intercalate_eq_append {α : Type} (between text : List α) (texts : List (List α)) :
    ∃ more, between.intercalate (text :: texts) = text ++ more := by
  cases texts with
  | nil => exact ⟨[], by simp⟩
  | cons text' texts =>
    rw [List.intercalate_cons_cons, List.append_assoc]
    exact ⟨_, rfl⟩

private theorem sum_length_le_length_intercalate {α : Type} (between : List α) (texts : List (List α)) :
    (texts.map List.length).sum ≤ (between.intercalate texts).length := by
  induction texts with
  | nil => simp
  | cons text texts ih =>
    cases texts with
    | nil => simp
    | cons text' texts =>
      rw [List.intercalate_cons_cons, List.map_cons, List.sum_cons]
      simp only [List.length_append]
      omega

private theorem readBracket_body {α : Type} {item : RawText → Option (α × RawText)} {f : Format} (hf : f.Standard)
    {closing : Char} (hclosing : Closes closing) (depth : Nat) {items : List RawText} {values : List α}
    (hread : List.Forall₂ (Reads item) items values) (hne : items ≠ [])
    (hsolid : ∀ text ∈ items, Solid closing text) {bound : Nat} (hbound : items.length ≤ bound)
    (rest : RawText) :
    readBracket item closing bound (f.body depth items ++ .char closing :: rest) = some (values, rest) := by
  obtain ⟨gap, hitem, hgap⟩ := hf.item
  have hlead := f.gap_newLine (depth + 1)
  have htrail := f.gap_newLine depth
  have hopen : expect closing (f.body depth items ++ .char closing :: rest) = none := by
    cases items with
    | nil => exact absurd rfl hne
    | cons text texts =>
      obtain ⟨l, t, htext, hl, hother⟩ := hsolid text List.mem_cons_self
      obtain ⟨more, hmore⟩ := intercalate_eq_append (raw f.itemSeparator ++ f.newLine (depth + 1)) text texts
      rw [Format.body, hmore, htext]
      simp only [List.append_assoc, List.cons_append]
      exact expect_eq_none hlead hl hother _
  rw [readBracket, hopen, Format.body, hitem]
  simp only [List.append_assoc, List.cons_append]
  exact readList_intercalate hclosing (hgap.append hlead) htrail rest hread hne hbound hlead

/-! ### Documents -/

/-- The parts of a document are the items of an array and the values of the members of an object. -/
@[elab_as_elim]
theorem parts_induction {P : Json → Prop} (null : P .null) (bool : ∀ b, P (.bool b)) (number : ∀ n, P (.number n))
    (string : ∀ s, P (.string s)) (array : ∀ items, (∀ item ∈ items, P item) → P (.array items))
    (object : ∀ members, (∀ m ∈ members, P m.2) → P (.object members)) : ∀ j, P j
  | .null => null
  | .bool b => bool b
  | .number n => number n
  | .string s => string s
  | .array items => array items fun item _ =>
    parts_induction null bool number string array object item
  | .object members => object members fun m _ =>
    parts_induction null bool number string array object m.2
termination_by j => sizeOf j
decreasing_by
  · rename_i hmem
    have := List.sizeOf_lt_of_mem hmem
    simp only [Json.array.sizeOf_spec]
    omega
  · rename_i hmem
    have := List.sizeOf_lt_of_mem hmem
    have : sizeOf m.2 < sizeOf m := by
      obtain ⟨name, value⟩ := m
      simp only [Prod.mk.sizeOf_spec]
      omega
    simp only [Json.object.sizeOf_spec]
    omega

private theorem printItems_eq_map (f : Format) (depth : Nat) (items : List Json) :
    printItems f depth items = items.map (print f depth) := by
  induction items with
  | nil => rfl
  | cons item rest ih => rw [printItems, ih, List.map_cons]

/-- The text of a member. -/
def memberText (f : Format) (depth : Nat) (m : RawText × Json) : RawText :=
  stringText f.ascii m.1 ++ raw f.nameSeparator ++ m.2.print f depth

private theorem printMembers_eq_map (f : Format) (depth : Nat) (members : List (RawText × Json)) :
    printMembers f depth members = members.map (memberText f depth) := by
  induction members with
  | nil => rfl
  | cons m rest ih => rw [printMembers, ih, List.map_cons, memberText]

private theorem closes_array : Closes ']' :=
  ⟨rfl, by decide, rfl⟩

private theorem closes_object : Closes '\x7d' :=
  ⟨rfl, by decide, rfl⟩

private theorem solid_stringText (ascii : Bool) (s : RawText) {closing : Char} (h : closing ≠ '"') (more : RawText) :
    Solid closing (stringText ascii s ++ more) :=
  ⟨_, _, rfl, rfl, fun hquote => h (Letter.char.inj hquote).symm⟩

/-- How a number starts. -/
theorem solid_of_digit {c : Char} (hc : c.isDigit = true ∨ c = '-') :
    isGap (.char c) = false ∧ c ≠ '"' ∧ c ≠ '[' ∧ c ≠ '\x7b' ∧ c ≠ ']' := by
  refine ⟨?_, ?_, ?_, ?_, ?_⟩
  · rw [← Bool.not_eq_true]
    intro h
    simp only [isGap, Letter.char.injEq, Bool.or_eq_true, decide_eq_true_eq] at h
    rcases h with ((rfl | rfl) | rfl) | rfl <;> exact absurd hc (by decide)
  all_goals
    rintro rfl
    exact absurd hc (by decide)

private theorem Format.bracket_eq_append (f : Format) (depth : Nat) (opening closing : RawText) (items : List RawText) :
    ∃ more, f.bracket depth opening closing items = opening ++ more := by
  cases items with
  | nil => exact ⟨closing, rfl⟩
  | cons item items => exact ⟨_, f.bracket_eq depth opening closing (List.cons_ne_nil _ _)⟩

private theorem print_number (f : Format) (depth : Nat) (n : Int) : (number n).print f depth = raw (toString n) := by
  rw [print]

private theorem print_string (f : Format) (depth : Nat) (s : RawText) :
    (string s).print f depth = stringText f.ascii s := by
  rw [print]

private theorem print_array (f : Format) (depth : Nat) (items : List Json) :
    (array items).print f depth = f.bracket depth "[" "]" (items.map (print f (depth + 1))) := by
  rw [print, printItems_eq_map]

private theorem print_object (f : Format) (depth : Nat) (members : List (RawText × Json)) :
    (object members).print f depth = f.bracket depth "\x7b" "\x7d" (members.map (memberText f (depth + 1))) := by
  rw [print, printMembers_eq_map]

private theorem solid_print (f : Format) (depth : Nat) (j : Json) : Solid ']' (j.print f depth) := by
  cases j with
  | null => exact ⟨.char 'n', _, by rw [print]; rfl, rfl, by decide⟩
  | bool b =>
    cases b with
    | false => exact ⟨.char 'f', _, by rw [print]; rfl, rfl, by decide⟩
    | true => exact ⟨.char 't', _, by rw [print]; rfl, rfl, by decide⟩
  | number n =>
    obtain ⟨c, cs, hnumber, hc⟩ := head_number n
    obtain ⟨hgap, _, _, _, hclosing⟩ := solid_of_digit hc
    rw [print_number, raw, hnumber]
    exact ⟨.char c, _, rfl, hgap, fun h => hclosing (Letter.char.inj h)⟩
  | string s =>
    have h := solid_stringText f.ascii s (by decide : ']' ≠ '"') []
    rwa [List.append_nil] at h
  | array items =>
    obtain ⟨more, hmore⟩ := f.bracket_eq_append depth "[" "]" (items.map (print f (depth + 1)))
    rw [print_array, hmore]
    exact ⟨.char '[', more, rfl, rfl, by decide⟩
  | object members =>
    obtain ⟨more, hmore⟩ := f.bracket_eq_append depth "\x7b" "\x7d" (members.map (memberText f (depth + 1)))
    rw [print_object, hmore]
    exact ⟨.char '\x7b', more, rfl, rfl, by decide⟩

private theorem solid_memberText (f : Format) (depth : Nat) (m : RawText × Json) :
    Solid '\x7d' (memberText f depth m) := by
  rw [memberText, List.append_assoc]
  exact solid_stringText _ _ (by decide) _

theorem Solid.ne_nil {closing : Char} {text : RawText} (h : Solid closing text) : text ≠ [] := by
  obtain ⟨l, t, rfl, _⟩ := h
  exact List.cons_ne_nil l t

/-- Items that stand in brackets are shorter than the whole, and fewer than it has letters. -/
theorem Format.lt_length_bracket (f : Format) (depth : Nat) (opening closing : RawText)
    (hopening : 0 < opening.length) {items : List RawText} (hsolid : ∀ text ∈ items, text ≠ []) :
    (∀ text ∈ items, text.length < (f.bracket depth opening closing items).length) ∧
      items.length < (f.bracket depth opening closing items).length := by
  by_cases hne : items = []
  · subst hne
    refine ⟨fun _ h => absurd h List.not_mem_nil, ?_⟩
    simp only [Format.bracket, List.length_append, List.length_nil]
    omega
  have hlength : (f.bracket depth opening closing items).length =
      opening.length + ((f.body depth items).length + closing.length) := by
    rw [f.bracket_eq depth opening closing hne]
    simp only [List.length_append]
  have hsum := sum_length_le_length_intercalate (raw f.itemSeparator ++ f.newLine (depth + 1)) items
  have hbody : (items.map List.length).sum ≤ (f.body depth items).length := by
    simp only [Format.body, List.length_append] at hsum ⊢
    omega
  constructor
  · intro text htext
    have := List.le_sum_of_mem (List.mem_map_of_mem (f := List.length) htext)
    omega
  · have hpositive : ∀ n ∈ items.map List.length, 1 ≤ n := by
      intro n hn
      obtain ⟨text, htext, rfl⟩ := List.mem_map.mp hn
      exact List.length_pos_iff.mpr (hsolid text htext)
    have := List.length_le_sum_of_one_le _ hpositive
    simp only [List.length_map] at this
    omega

/-- A value that is neither a string nor in brackets is an atom. -/
theorem readValue_atom {c : Char} (hgap : isGap (.char c) = false) (hquote : c ≠ '"') (harray : c ≠ '[')
    (hobject : c ≠ '\x7b') (bound : Nat) {lead : RawText} (hlead : Gap lead) (t : RawText) :
    readValue (bound + 1) (lead ++ .char c :: t) = readAtom (.char c :: t) := by
  rw [readValue, skipGap_append hlead, skipGap_cons hgap]
  simp only [Letter.char.injEq, if_neg hquote, if_neg harray, if_neg hobject]

private theorem readValue_array (bound : Nat) {lead : RawText} (hlead : Gap lead) (t : RawText) :
    readValue (bound + 1) (lead ++ .char '[' :: t) =
      (readBracket (readValue bound) ']' bound t).map fun x => (.array x.1, x.2) := by
  rw [readValue, skipGap_append hlead, skipGap_cons rfl]
  rfl

private theorem readValue_object (bound : Nat) {lead : RawText} (hlead : Gap lead) (t : RawText) :
    readValue (bound + 1) (lead ++ .char '\x7b' :: t) =
      (readBracket (readMember (readValue bound)) '\x7d' bound t).map fun x => (.object x.1, x.2) := by
  rw [readValue, skipGap_append hlead, skipGap_cons rfl]
  rfl

private theorem readValue_string (bound : Nat) {lead : RawText} (hlead : Gap lead) (ascii : Bool) (s rest : RawText) :
    readValue (bound + 1) (lead ++ (stringText ascii s ++ rest)) = some (.string s, rest) := by
  rw [stringText, List.cons_append, List.cons_append, readValue, skipGap_append hlead, skipGap_cons rfl]
  simp only [if_true, List.append_assoc, List.cons_append, List.nil_append, readString_stringText, Option.map_some]

private theorem reads_member {f : Format} (hf : f.Standard) {depth : Nat} {m : RawText × Json}
    {value : RawText → Option (Json × RawText)} (h : Reads value (m.2.print f depth) m.2) :
    Reads (readMember value) (memberText f depth m) m := by
  intro lead rest hlead hrest
  obtain ⟨gap, hname, hgap⟩ := hf.name
  have hquote (t : RawText) : expect '"' (lead ++ .char '"' :: t) = some t := expect_eq_some hlead rfl t
  have hcolon (t : RawText) : expect ':' (.char ':' :: t) = some t := expect_eq_some Gap.nil rfl t
  rw [memberText, stringText, hname]
  simp only [List.append_assoc, List.cons_append, List.nil_append]
  simp only [readMember, hquote, Option.bind_eq_bind, Option.bind_some, readString_stringText, hcolon,
    h gap rest hgap hrest]
  rfl

/-- Brackets with their items, after the opening one, are read back. -/
theorem readBracket_bracket {α : Type} {item : RawText → Option (α × RawText)} {f : Format} (hf : f.Standard)
    {c : Char} (hclosing : Closes c) (opening : RawText) (depth : Nat) {items : List RawText} {values : List α}
    (hread : List.Forall₂ (Reads item) items values) (hsolid : ∀ text ∈ items, Solid c text) {bound : Nat}
    (hbound : items.length ≤ bound) :
    ∃ inner, f.bracket depth opening [.char c] items = opening ++ inner ∧
      ∀ rest, readBracket item c bound (inner ++ rest) = some (values, rest) := by
  by_cases hne : items = []
  · subst hne
    cases hread
    refine ⟨[.char c], rfl, ?_⟩
    intro rest
    have hend : expect c (.char c :: rest) = some rest := expect_eq_some Gap.nil hclosing.solid rest
    rw [List.singleton_append, readBracket, hend]
  · refine ⟨_, f.bracket_eq depth opening [.char c] hne, ?_⟩
    intro rest
    rw [List.append_assoc, List.singleton_append]
    exact readBracket_body hf hclosing depth hread hne hsolid hbound rest

private theorem reads_array {f : Format} (hf : f.Standard) {depth bound : Nat} {items : List Json}
    (hread : ∀ item ∈ items, Reads (readValue bound) (item.print f (depth + 1)) item)
    (hbound : items.length ≤ bound) :
    Reads (readValue (bound + 1)) ((array items).print f depth) (array items) := by
  intro lead rest hlead _
  have hitems : List.Forall₂ (Reads (readValue bound)) (items.map (print f (depth + 1))) items := by
    rw [List.forall₂_map_left_iff, List.forall₂_same]
    exact hread
  have hsolid : ∀ text ∈ items.map (print f (depth + 1)), Solid ']' text := by
    intro text htext
    obtain ⟨item, _, rfl⟩ := List.mem_map.mp htext
    exact solid_print f (depth + 1) item
  obtain ⟨inner, hinner, hbracket⟩ :=
    readBracket_bracket hf closes_array "[" depth hitems hsolid (by simpa using hbound)
  have hclosing : raw "]" = [.char ']'] := rfl
  have hopening : raw "[" = [.char '['] := rfl
  rw [print_array, hclosing, hinner, hopening, List.append_assoc, List.singleton_append, readValue_array bound hlead,
    hbracket, Option.map_some]

private theorem reads_object {f : Format} (hf : f.Standard) {depth bound : Nat} {members : List (RawText × Json)}
    (hread : ∀ m ∈ members, Reads (readValue bound) (m.2.print f (depth + 1)) m.2)
    (hbound : members.length ≤ bound) :
    Reads (readValue (bound + 1)) ((object members).print f depth) (object members) := by
  intro lead rest hlead _
  have hmembers : List.Forall₂ (Reads (readMember (readValue bound))) (members.map (memberText f (depth + 1)))
      members := by
    rw [List.forall₂_map_left_iff, List.forall₂_same]
    exact fun m hm => reads_member hf (hread m hm)
  have hsolid : ∀ text ∈ members.map (memberText f (depth + 1)), Solid '\x7d' text := by
    intro text htext
    obtain ⟨m, _, rfl⟩ := List.mem_map.mp htext
    exact solid_memberText f (depth + 1) m
  obtain ⟨inner, hinner, hbracket⟩ := readBracket_bracket hf closes_object "\x7b" depth hmembers hsolid
    (by simpa using hbound)
  have hclosing : raw "\x7d" = [.char '\x7d'] := rfl
  have hopening : raw "\x7b" = [.char '\x7b'] := rfl
  rw [print_object, hclosing, hinner, hopening, List.append_assoc, List.singleton_append, readValue_object bound hlead,
    hbracket, Option.map_some]

private theorem reads_print {f : Format} (hf : f.Standard) (j : Json) (depth : Nat) {bound : Nat}
    (hbound : (j.print f depth).length < bound) : Reads (readValue bound) (j.print f depth) j := by
  obtain ⟨bound, rfl⟩ : ∃ k, bound = k + 1 := ⟨bound - 1, by omega⟩
  -- The text of a part is shorter than the whole, so one step less is enough for it.
  induction j using parts_induction generalizing depth bound with
  | null =>
    intro lead rest hlead _
    rw [print]
    exact readValue_atom rfl (by decide) (by decide) (by decide) bound hlead _
  | bool b =>
    intro lead rest hlead _
    rw [print]
    cases b with
    | false => exact readValue_atom rfl (by decide) (by decide) (by decide) bound hlead _
    | true => exact readValue_atom rfl (by decide) (by decide) (by decide) bound hlead _
  | number n =>
    intro lead rest hlead hrest
    obtain ⟨c, cs, hnumber, hc⟩ := head_number n
    obtain ⟨hgap, hquote, harray, hobject, _⟩ := solid_of_digit hc
    have hatom := readAtom_number n hrest
    rw [print_number]
    rw [raw, hnumber] at hatom ⊢
    exact (readValue_atom hgap hquote harray hobject bound hlead _).trans hatom
  | string s =>
    intro lead rest hlead _
    rw [print_string]
    exact readValue_string bound hlead f.ascii s rest
  | array items ih =>
    have hnonempty : ∀ text ∈ items.map (print f (depth + 1)), text ≠ [] := by
      intro text htext
      obtain ⟨item, _, rfl⟩ := List.mem_map.mp htext
      exact (solid_print f (depth + 1) item).ne_nil
    obtain ⟨hshorter, hfewer⟩ := f.lt_length_bracket depth (raw "[") (raw "]") (by decide) hnonempty
    rw [print_array] at hbound
    rw [List.length_map] at hfewer
    refine reads_array hf (fun item hitem => ?_) (by omega)
    have hlt := hshorter _ (List.mem_map_of_mem hitem)
    obtain ⟨bound, rfl⟩ : ∃ k, bound = k + 1 := ⟨bound - 1, by omega⟩
    exact ih item hitem (depth + 1) bound (by omega)
  | object members ih =>
    have hnonempty : ∀ text ∈ members.map (memberText f (depth + 1)), text ≠ [] := by
      intro text htext
      obtain ⟨m, _, rfl⟩ := List.mem_map.mp htext
      exact (solid_memberText f (depth + 1) m).ne_nil
    obtain ⟨hshorter, hfewer⟩ := f.lt_length_bracket depth (raw "\x7b") (raw "\x7d") (by decide) hnonempty
    rw [print_object] at hbound
    rw [List.length_map] at hfewer
    refine reads_object hf (fun m hm => ?_) (by omega)
    have hlt := hshorter _ (List.mem_map_of_mem hm)
    rw [memberText, List.length_append] at hlt
    obtain ⟨bound, rfl⟩ : ∃ k, bound = k + 1 := ⟨bound - 1, by omega⟩
    exact ih m hm (depth + 1) bound (by omega)

/-- Every document is read back, whatever blanks are added behind it. -/
theorem read?_render {f : Format} (hf : f.Standard) (j : Json) (trail : RawText) (htrail : Gap trail) :
    read? (j.render f ++ trail) = some j := by
  have hbound : (j.print f 0).length < (j.render f ++ trail).length + 1 := by
    rw [List.length_append, render]
    omega
  have hread := reads_print hf j 0 hbound [] trail Gap.nil htrail.noDigit
  have hskip : skipGap trail = [] := by
    have h := skipGap_append htrail []
    rwa [List.append_nil] at h
  rw [List.nil_append] at hread
  rw [read?]
  simp only [render] at hread ⊢
  rw [hread]
  simp only [hskip, if_true]

/-! ### Text in ASCII -/

/-- Printable characters of ASCII. -/
def isPlain (l : Letter) : Bool :=
  0x20 ≤ l.code && l.code < 0x7F

private theorem isPlain_char (c : Char) : isPlain (.char c) = (decide (0x20 ≤ c.toNat) && decide (c.toNat < 0x7F)) :=
  rfl

def Plain (t : RawText) : Prop :=
  ∀ l ∈ t, isPlain l = true

instance (t : RawText) : Decidable (Plain t) :=
  List.decidableBAll (fun l => isPlain l = true) t

theorem Plain.append {t u : RawText} (ht : Plain t) (hu : Plain u) : Plain (t ++ u) :=
  fun l h => (List.mem_append.mp h).elim (ht l) (hu l)

theorem Plain.intercalate {between : RawText} (hbetween : Plain between) {texts : List RawText}
    (h : ∀ text ∈ texts, Plain text) : Plain (between.intercalate texts) := by
  induction texts with
  | nil => exact fun _ h => absurd h (by simp)
  | cons text texts ih =>
    obtain ⟨hfirst, hlater⟩ := List.forall_mem_cons.mp h
    cases texts with
    | nil => rwa [List.intercalate_singleton]
    | cons text' texts =>
      rw [List.intercalate_cons_cons]
      exact (hfirst.append hbetween).append (ih hlater)

private theorem plain_hex (width n : Nat) : Plain ((Text.hex width n).map .char) := by
  have hdigit : ∀ k < 16, Plain [.char (Text.hexDigit k)] := by decide
  induction width generalizing n with
  | zero => exact fun _ h => absurd h (by simp [Text.hex])
  | succ width ih =>
    rw [Text.hex, List.map_append]
    exact (ih (n / 16)).append (hdigit _ (Nat.mod_lt _ (by decide)))

private theorem plain_unitEscape (n : Nat) : Plain ((unitEscape n).map .char) :=
  Plain.append (by decide : Plain [.char '\\', .char 'u']) (plain_hex 4 n)

private theorem plain_charEscape (c : Char) : Plain ((charEscape c).map .char) := by
  rw [charEscape]
  split
  · exact plain_unitEscape _
  · rw [List.map_append]
    exact (plain_unitEscape _).append (plain_unitEscape _)

private theorem plain_stringChar (c : Char) : Plain ((stringChar true c).map .char) := by
  unfold stringChar
  split_ifs with hself hline hreturn htab hform hback hcontrol hascii
  · rcases hself with rfl | rfl <;> decide
  · decide
  · decide
  · decide
  · decide
  · decide
  · exact plain_charEscape c
  · exact plain_charEscape c
  · intro l hl
    obtain rfl : l = .char c := List.mem_singleton.mp hl
    simp only [true_and] at hascii
    simp only [isPlain_char, Bool.and_eq_true, decide_eq_true_eq]
    omega

private theorem plain_stringText (s : RawText) : Plain (stringText true s) := by
  have hletters : Plain (s.flatMap (stringLetter true)) := by
    intro l hl
    obtain ⟨d, _, hd⟩ := List.mem_flatMap.mp hl
    cases d with
    | char c => exact plain_stringChar c l hd
    | stray b => exact plain_unitEscape _ l hd
  exact (Plain.append (by decide : Plain [.char '"']) hletters).append (by decide)

private theorem plain_number (n : Int) : Plain (raw (toString n)) := by
  have hdigits (k : Nat) : Plain ((Nat.toDigits 10 k).map .char) := by
    intro l hl
    obtain ⟨c, hc, rfl⟩ := List.mem_map.mp hl
    have := Char.isDigit_iff_toNat.mp (Nat.isDigit_of_mem_toDigits (by decide) (by decide) hc)
    simp only [Char.reduceToNat] at this
    simp only [isPlain_char, Bool.and_eq_true, decide_eq_true_eq]
    omega
  rw [raw, toList_number]
  split
  · exact hdigits _
  · exact Plain.append (by decide : Plain [.char '-']) (hdigits _)

private theorem plain_bracket (depth : Nat) {opening closing : RawText} (hopening : Plain opening)
    (hclosing : Plain closing)
    {items : List RawText} (h : ∀ text ∈ items, Plain text) :
    Plain (Format.asciiLine.bracket depth opening closing items) := by
  by_cases hne : items = []
  · subst hne
    exact hopening.append hclosing
  · have hline (k : Nat) : Plain (Format.asciiLine.newLine k) := fun _ h => absurd h List.not_mem_nil
    have hbetween : Plain (raw Format.asciiLine.itemSeparator ++ Format.asciiLine.newLine (depth + 1)) :=
      Plain.append (by decide) (hline _)
    have hitems := hbetween.intercalate h
    rw [Format.asciiLine.bracket_eq depth opening closing hne, Format.body]
    exact hopening.append (((hline _).append (hitems.append (hline _))).append hclosing)

theorem plain_print_asciiLine (j : Json) (depth : Nat) : Plain (j.print .asciiLine depth) := by
  induction j using parts_induction generalizing depth with
  | null =>
    rw [print]
    decide
  | bool b =>
    rw [print]
    cases b <;> decide
  | number n =>
    rw [print_number]
    exact plain_number n
  | string s =>
    rw [print_string]
    exact plain_stringText s
  | array items ih =>
    rw [print_array]
    refine plain_bracket depth (by decide) (by decide) fun text htext => ?_
    obtain ⟨item, hitem, rfl⟩ := List.mem_map.mp htext
    exact ih item hitem (depth + 1)
  | object members ih =>
    rw [print_object]
    refine plain_bracket depth (by decide) (by decide) fun text htext => ?_
    obtain ⟨m, hm, rfl⟩ := List.mem_map.mp htext
    exact ((plain_stringText m.1).append (by decide)).append (ih m hm (depth + 1))

/-! ### Text in UTF-8 -/

mutual

/-- The names and strings of a document. -/
def texts : Json → List RawText
  | null | bool _ | number _ => []
  | string s => [s]
  | array items => textsOfItems items
  | object members => textsOfMembers members

def textsOfItems : List Json → List RawText
  | [] => []
  | item :: rest => item.texts ++ textsOfItems rest

def textsOfMembers : List (RawText × Json) → List RawText
  | [] => []
  | (name, value) :: rest => name :: (value.texts ++ textsOfMembers rest)

end

theorem mem_textsOfItems {t : RawText} {items : List Json} :
    t ∈ textsOfItems items ↔ ∃ item ∈ items, t ∈ item.texts := by
  induction items with
  | nil => simp [textsOfItems]
  | cons item rest ih => simp [textsOfItems, ih]

theorem mem_textsOfMembers {t : RawText} {members : List (RawText × Json)} :
    t ∈ textsOfMembers members ↔ ∃ m ∈ members, t = m.1 ∨ t ∈ m.2.texts := by
  induction members with
  | nil => simp [textsOfMembers]
  | cons m rest ih => simp [textsOfMembers, ih, or_assoc]

private theorem encodable_stringText (s : RawText) : (stringText false s).Encodable ↔ s.Encodable := by
  have hchars (cs : List Char) : RawText.Encodable (cs.map .char) := by
    intro l hl
    obtain ⟨c, _, rfl⟩ := List.mem_map.mp hl
    rfl
  have hletter (l : Letter) : RawText.Encodable (stringLetter false l) ↔ l.isStray = false := by
    cases l with
    | char c => exact iff_of_true (hchars _) rfl
    | stray b => simp [stringLetter, RawText.Encodable]
  have hletters : RawText.Encodable (s.flatMap (stringLetter false)) ↔ s.Encodable := by
    induction s with
    | nil => simp [RawText.Encodable]
    | cons l s ih => rw [List.flatMap_cons, RawText.encodable_append, hletter, ih, RawText.Encodable,
        RawText.Encodable, List.forall_mem_cons]
  have hquote : RawText.Encodable [.char '"'] := by decide
  rw [stringText, ← List.singleton_append, RawText.encodable_append, RawText.encodable_append, hletters]
  simp [hquote]

private theorem encodable_newLine (f : Format) (depth : Nat) : (f.newLine depth).Encodable := by
  intro l hl
  have hgap := f.gap_newLine depth l hl
  simp only [isGap, Bool.or_eq_true, decide_eq_true_eq] at hgap
  rcases hgap with ((rfl | rfl) | rfl) | rfl <;> rfl

private theorem encodable_bracket (f : Format) (depth : Nat) {opening closing : RawText} (hopening : opening.Encodable)
    (hclosing : closing.Encodable) (items : List RawText) :
    (f.bracket depth opening closing items).Encodable ↔ ∀ text ∈ items, text.Encodable := by
  have hline := encodable_newLine f
  have hbetween : RawText.Encodable (raw f.itemSeparator ++ f.newLine (depth + 1)) :=
    RawText.encodable_append.mpr ⟨RawText.encodable_raw _, hline _⟩
  by_cases hne : items = []
  · subst hne
    simp [Format.bracket, hopening, hclosing]
  · rw [f.bracket_eq depth opening closing hne, Format.body]
    simp only [RawText.encodable_append, RawText.encodable_intercalate hbetween]
    simp [hopening, hclosing, hline]

/-- In a layout that is not in ASCII, the text of a document can be sent exactly if its names and strings can be. -/
theorem encodable_print {f : Format} (hf : f.ascii = false) (j : Json) (depth : Nat) :
    (j.print f depth).Encodable ↔ ∀ t ∈ j.texts, t.Encodable := by
  induction j using parts_induction generalizing depth with
  | null =>
    rw [print]
    exact iff_of_true (RawText.encodable_raw _) (by simp [texts])
  | bool b =>
    rw [print]
    refine iff_of_true ?_ (by simp [texts])
    cases b <;> exact RawText.encodable_raw _
  | number n =>
    rw [print_number]
    exact iff_of_true (RawText.encodable_raw _) (by simp [texts])
  | string s =>
    rw [print_string, hf, encodable_stringText]
    simp [texts]
  | array items ih =>
    rw [print_array, encodable_bracket f depth (RawText.encodable_raw _) (RawText.encodable_raw _)]
    simp only [List.forall_mem_map, texts, mem_textsOfItems]
    constructor
    · rintro h t ⟨item, hitem, ht⟩
      exact (ih item hitem _).mp (h item hitem) t ht
    · intro h item hitem
      exact (ih item hitem _).mpr fun t ht => h t ⟨item, hitem, ht⟩
  | object members ih =>
    have hmember (m : RawText × Json) : (memberText f (depth + 1) m).Encodable ↔
        m.1.Encodable ∧ (m.2.print f (depth + 1)).Encodable := by
      rw [memberText, RawText.encodable_append, RawText.encodable_append, hf, encodable_stringText]
      simp [RawText.encodable_raw]
    rw [print_object, encodable_bracket f depth (RawText.encodable_raw _) (RawText.encodable_raw _)]
    simp only [List.forall_mem_map, texts, mem_textsOfMembers, hmember]
    constructor
    · rintro h t ⟨m, hm, rfl | ht⟩
      · exact (h m hm).1
      · exact (ih m hm _).mp (h m hm).2 t ht
    · intro h m hm
      exact ⟨h m.1 ⟨m, hm, .inl rfl⟩, (ih m hm _).mpr fun t ht => h t ⟨m, hm, .inr ht⟩⟩

end ClassOutline.Json
