import ClassOutline.Proofs.ConcurrentCatalog
import ClassOutline.Proofs.PathDispatch

/-!
# Two spellings of one path

A path from the working directory can be written out: the text of the working directory, a slash, and the path. That
text is read as the absolute path, so what becomes of it does not depend on where it is read. Only a path that is too
long as it is given is told apart, for then the system refuses it under its own text.
-/
namespace ClassOutline.RawText

/-- A text in quotes shows its first letter, or a backslash in front of what stands for it. -/
theorem exists_quotedLetter_eq_cons (quote : Char) (l : Letter) :
    ∃ x xs, quotedLetter quote l = x :: xs ∧ (l = .char x ∨ x = '\\') := by
  cases l with
  | stray b => exact ⟨'\\', _, rfl, .inr rfl⟩
  | char c =>
    rw [quotedLetter]
    unfold Text.quotedChar
    split_ifs <;> simp

private theorem quotedLetter_slash (t : RawText) : quotedLetter (quoteFor t) (.char '/') = ['/'] := by
  unfold quoteFor
  split_ifs <;> decide

/-- In quotes a text that starts with a slash differs from one that starts with anything else. -/
theorem quoted_ne_of_slash {t u : RawText} {l : Letter} (hl : l ≠ .char '/') :
    quoted (l :: t) ≠ quoted (.char '/' :: u) := by
  intro h
  obtain ⟨x, xs, hx, hfirst⟩ := exists_quotedLetter_eq_cons (quoteFor (l :: t)) l
  have hlists := String.ofList_inj.mp h
  rw [List.flatMap_cons, List.flatMap_cons, hx, quotedLetter_slash] at hlists
  have hslash : x = '/' := (List.cons.inj (List.cons.inj hlists).2).1
  rcases hfirst with rfl | rfl
  · exact hl (congrArg Letter.char hslash)
  · exact absurd hslash (by decide)

end ClassOutline.RawText

namespace ClassOutline.Files

/-! ### Reading a path that is written out -/

/-- The text of a path behind that of the working directory. -/
def writtenOut (workingDirectory : List RawText) (text : RawText) : RawText :=
  (⟨.root, workingDirectory⟩ : Path).text ++ "/" ++ text

private theorem Path.parts_ofText_append (t u : RawText) :
    (ofText (t ++ raw "/" ++ u)).parts = (ofText t).parts ++ (ofText u).parts := by
  have hslash : t ++ raw "/" ++ u = t ++ .char '/' :: u := by simp [raw]
  simp only [ofText, Text.splitOn_eq_listSplitOn, hslash, List.splitOn_append_cons_self, List.filter_append]

private theorem intercalate_ne_nil {parts : List RawText} (hne : parts ≠ []) (h : ∀ part ∈ parts, IsPart part) :
    [Letter.char '/'].intercalate parts ≠ [] := by
  intro hempty
  have hsplit := List.splitOn_intercalate (.char '/') (fun part hpart => (h part hpart).no_slash) hne
  rw [hempty] at hsplit
  obtain ⟨part, rest, rfl⟩ := List.exists_cons_of_ne_nil hne
  have hpart : part = [] := (List.cons.inj hsplit).1.symm
  exact (h part List.mem_cons_self).ne_empty hpart

private theorem Path.anchor_ofText_writtenOut {workingDirectory : List RawText} (hne : workingDirectory ≠ [])
    (h : ∀ name ∈ workingDirectory, IsPart name) (text : RawText) :
    (ofText (writtenOut workingDirectory text)).anchor = .root := by
  have hhead : ([Letter.char '/'].intercalate workingDirectory ++ (raw "/" ++ text)).head? ≠ some (.char '/') := by
    rw [List.head?_append_of_ne_nil _ (intercalate_ne_nil hne h)]
    exact head?_intercalate h
  have htext : writtenOut workingDirectory text =
      Anchor.root.text ++ ([Letter.char '/'].intercalate workingDirectory ++ (raw "/" ++ text)) := by
    simp [writtenOut, Path.text]
  rw [ofText, htext, anchorOf_append _ hhead]

/-- A path that is written out is read as the absolute path. -/
theorem Path.ofText_writtenOut {workingDirectory : List RawText} (hne : workingDirectory ≠ [])
    (h : ∀ name ∈ workingDirectory, IsPart name) {text : RawText} (hrelative : (ofText text).anchor = .relative) :
    ofText (writtenOut workingDirectory text) = (ofText text).absolute workingDirectory := by
  have hanchor := anchor_ofText_writtenOut hne h text
  have hparts : (ofText (writtenOut workingDirectory text)).parts = workingDirectory ++ (ofText text).parts := by
    rw [writtenOut, parts_ofText_append, ofText_text h]
  rw [absolute, if_pos hrelative, ← hanchor, ← hparts]

private theorem lookup_of_anchor {p : Path} (hp : p.anchor ≠ .relative) (root : Entry)
    (workingDirectory other : List RawText) :
    lookup root other p = lookup root workingDirectory p := by
  simp [lookup, hp]

end ClassOutline.Files

namespace ClassOutline.Catalog

open Files Log Outline

/-! ### The work on an absolute path -/

/-- The same files, seen from another directory. -/
def Site.movedTo (site : Site) (workingDirectory : List RawText) : Site :=
  { site with workingDirectory := workingDirectory }

section Absolute

variable (site : Site) (method : Method) (p : Path) (other : List RawText)

private theorem lookup_movedTo :
    (site.movedTo other).lookup (p.absolute site.workingDirectory) =
      site.lookup (p.absolute site.workingDirectory) :=
  lookup_of_anchor (p.anchor_absolute _) _ _ _

private theorem ofFile_absolute :
    (site.movedTo other).ofFile method (p.absolute site.workingDirectory) = site.ofFile method p := by
  have hself := Path.absolute_eq_self (p.anchor_absolute site.workingDirectory) (site.movedTo other).workingDirectory
  rw [Site.ofFile, Site.ofFile, hself, lookup_movedTo]

private theorem ofDirectory_absolute :
    (site.movedTo other).ofDirectory method (p.absolute site.workingDirectory) = site.ofDirectory method p := by
  have hself := Path.absolute_eq_self (p.anchor_absolute site.workingDirectory) (site.movedTo other).workingDirectory
  rw [Site.ofDirectory, Site.ofDirectory, hself, lookup_movedTo]

end Absolute

section Spelling

variable {site : Site} {p : Path} (method : Method) (other : List RawText)

/-- Where both lookups agree, and neither finds a path too long, so does what is made of them. -/
theorem ofPath_absolute_of_lookup (h : site.lookup (p.absolute site.workingDirectory) = site.lookup p)
    (hlong : site.lookup p ≠ .tooLong) :
    (site.movedTo other).ofPath method (p.absolute site.workingDirectory) = site.ofPath method p := by
  rw [Site.ofPath, Site.ofPath, lookup_movedTo, h, ofFile_absolute, ofDirectory_absolute]
  cases hp : site.lookup p with
  | tooLong => exact absurd hp hlong
  | missing => rfl
  | found e => cases e <;> rfl

/-- If only the absolute path is too long, both spellings are refused for it. -/
theorem ofPath_absolute_of_tooLong (hlong : site.lookup p ≠ .tooLong)
    (h : site.lookup (p.absolute site.workingDirectory) = .tooLong) :
    (site.movedTo other).ofPath method (p.absolute site.workingDirectory) = site.ofPath method p := by
  have hfile : site.ofFile method p = .error (.tooLong (p.absolute site.workingDirectory)) := by
    rw [Site.ofFile, h]
  have hdirectory : site.ofDirectory method p = .error (.tooLong (p.absolute site.workingDirectory)) := by
    rw [Site.ofDirectory, h]
  rw [Site.ofPath, Site.ofPath, lookup_movedTo, h, hfile, hdirectory]
  cases hp : site.lookup p with
  | tooLong => exact absurd hp hlong
  | missing => rfl
  | found e => cases e <;> rfl

variable {e : Entry} (hroot : site.root.WellFormed) (hwd : site.root.get? site.workingDirectory = some e)
  (hp : p.anchor = .relative)

include hroot hwd hp

private theorem ofPath_absolute (hshort : ∀ part ∈ p.parts, part.size ≤ maxNameBytes)
    (hgiven : p.isTooLong = false ∨ .char '\x00' ∈ p.text) :
    (site.movedTo other).ofPath method (p.absolute site.workingDirectory) = site.ofPath method p := by
  obtain ⟨hnull, _⟩ := text_absolute (hroot.of_get? hwd).1 hp
  by_cases hzero : .char '\x00' ∈ p.text
  · have hmissing : site.lookup p = .missing := by simp [Site.lookup, lookup, hzero]
    have habsolute : site.lookup (p.absolute site.workingDirectory) = .missing := by
      simp [Site.lookup, lookup, hnull.mpr hzero]
    exact ofPath_absolute_of_lookup method other (habsolute.trans hmissing.symm) (by simp [hmissing])
  · have hlookup : site.lookup p ≠ .tooLong := lookup_ne_tooLong hshort (hgiven.resolve_right hzero)
    cases hlong : (p.absolute site.workingDirectory).isTooLong with
    | false =>
      exact ofPath_absolute_of_lookup method other (lookup_absolute hroot hwd hlong).2 hlookup
    | true =>
      refine ofPath_absolute_of_tooLong method other hlookup ?_
      simp [Site.lookup, lookup, hnull, hzero, hlong]

/-- A path that is too long as it is given is refused under the text that each spelling has. -/
theorem ofPath_of_given_tooLong (hlong : p.isTooLong = true) (hzero : .char '\x00' ∉ p.text) :
    site.ofPath method p = .error (.tooLong p) ∧
      (site.movedTo other).ofPath method (p.absolute site.workingDirectory) =
        .error (.tooLong (p.absolute site.workingDirectory)) := by
  obtain ⟨hnull, hsize⟩ := text_absolute (hroot.of_get? hwd).1 hp
  have habsolute : (p.absolute site.workingDirectory).isTooLong = true := by
    simp only [Path.isTooLong, decide_eq_true_eq] at hlong ⊢
    omega
  have hgiven : site.lookup p = .tooLong := by simp [Site.lookup, lookup, hzero, hlong]
  have hmoved : (site.movedTo other).lookup (p.absolute site.workingDirectory) = .tooLong := by
    simp [Site.lookup, lookup, hnull, hzero, habsolute]
  exact ⟨by rw [Site.ofPath, hgiven], by rw [Site.ofPath, hmoved]⟩

end Spelling

/-- What a caller is told about a path: its catalog, or the message of the fault. -/
def told : Result → Except RawText Catalog
  | .ok logged => .ok logged.value
  | .error fault => .error fault.message

/-- A relative path and the same path written out, wherever that is read and in whichever order files are finished,
have the same catalog or the same fault. Only if the path is too long as it is given, each is refused under its own
text. -/
theorem outline_independent_of_spelling (site : Site) (hroot : site.root.WellFormed) (entries : List (RawText × Entry))
    (hwd : site.root.get? site.workingDirectory = some (.directory entries)) (hne : site.workingDirectory ≠ [])
    (hnames : ∀ name ∈ site.workingDirectory, IsPart name) (method : Method) (text : RawText)
    (hrelative : (Path.ofText text).anchor = .relative)
    (hshort : ∀ part ∈ (Path.ofText text).parts, part.size ≤ maxNameBytes) (other : List RawText)
    (schedule : List Nat) :
    ((Path.ofText text).isTooLong = false ∨ .char '\x00' ∈ (Path.ofText text).text →
      ((site.movedTo other).ofPath { method with schedule := schedule }
        (.ofText (writtenOut site.workingDirectory text))).map Logged.value =
      (site.ofPath method (.ofText text)).map Logged.value) ∧
    ((Path.ofText text).isTooLong = true → .char '\x00' ∉ (Path.ofText text).text →
      site.ofPath method (.ofText text) = .error (.tooLong (.ofText text)) ∧
      (site.movedTo other).ofPath { method with schedule := schedule }
        (.ofText (writtenOut site.workingDirectory text)) =
        .error (.tooLong ((Path.ofText text).absolute site.workingDirectory))) := by
  rw [Path.ofText_writtenOut hne hnames hrelative]
  constructor
  · intro hgiven
    rw [map_value_ofPath_schedule, ofPath_absolute method other hroot hwd hrelative hshort hgiven]
  · intro hlong hzero
    refine ⟨(ofPath_of_given_tooLong method other hroot hwd hrelative hlong hzero).1, ?_⟩
    exact (ofPath_of_given_tooLong { method with schedule := schedule } other hroot hwd hrelative hlong hzero).2

/-- The path from below the root that goes up a number of times, which leads no further than to the root, and down. -/
def climbing (n : Nat) : Path :=
  ⟨.relative, (upAndDown n).parts⟩

private theorem text_climbing (n : Nat) : (climbing n).text = [Letter.char '/'].intercalate (upAndDown n).parts := by
  simp [Path.text, climbing, upAndDown, Anchor.text, raw]

private theorem ofText_climbing (n : Nat) : Path.ofText (climbing n).text = climbing n := by
  apply Path.ofText_text
  intro part hpart
  rcases mem_parts_upAndDown hpart with rfl | rfl <;> exact ⟨by decide, by decide, by decide⟩

private theorem isTooLong_climbing (n : Nat) : (climbing n).isTooLong = decide (pathLimit ≤ 3 * n + 1) := by
  have hname : RawText.size ([Letter.char '/'].intercalate [raw "d"]) = 1 := rfl
  rw [Path.isTooLong, text_climbing, upAndDown, size_up n (by simp), hname]

private theorem null_not_mem_climbing (n : Nat) : .char '\x00' ∉ (climbing n).text := by
  rw [text_climbing]
  apply null_not_mem_intercalate
  intro part hpart
  rcases mem_parts_upAndDown hpart with rfl | rfl <;> decide

private theorem isPart_innerSite : ∀ name ∈ innerSite.workingDirectory, IsPart name := by
  intro name hname
  obtain rfl : name = raw "d" := List.mem_singleton.mp hname
  exact ⟨by decide, by decide, by decide⟩

theorem innerSite_spellings :
    innerSite.root.WellFormed ∧ innerSite.root.get? innerSite.workingDirectory = some twoFiles ∧
    ((innerSite.movedTo []).ofPath { smallMethod with schedule := [1] } (.ofText "/d/..//d/./b.php/")).map Logged.value =
      (innerSite.ofPath smallMethod (.ofText "..//d/./b.php/")).map Logged.value ∧
    ((innerSite.movedTo []).ofPath { smallMethod with schedule := [1] } (.ofText "/d/")).map Logged.value =
      (innerSite.ofPath smallMethod (.ofText "")).map Logged.value ∧
    innerSite.ofPath smallMethod (climbing 1400) = .error (.tooLong (climbing 1400)) := by
  have hwd : innerSite.root.get? innerSite.workingDirectory = some twoFiles := rfl
  have hspelling (text : RawText) (hrelative : (Path.ofText text).anchor = .relative)
      (hshort : ∀ part ∈ (Path.ofText text).parts, part.size ≤ maxNameBytes) :=
    outline_independent_of_spelling innerSite wellFormed_smallSite _ hwd (by decide) isPart_innerSite smallMethod text
      hrelative hshort [] [1]
  refine ⟨wellFormed_smallSite, hwd, ?_, ?_, ?_⟩
  · exact (hspelling "..//d/./b.php/" (by decide) (by decide)).1 (.inl (by decide))
  · exact (hspelling "" (by decide) (by decide)).1 (.inl (by decide))
  · have hlong := hspelling (climbing 1400).text
    rw [ofText_climbing] at hlong
    exact ((hlong rfl short_upAndDown).2 (by rw [isTooLong_climbing]; decide) (null_not_mem_climbing 1400)).1

private theorem ofPath_climbing {n : Nat} (hn : pathLimit ≤ 3 * n + 1) :
    innerSite.ofPath smallMethod (climbing n) = .error (.tooLong (climbing n)) ∧
      (innerSite.movedTo []).ofPath smallMethod ((climbing n).absolute innerSite.workingDirectory) =
        .error (.tooLong ((climbing n).absolute innerSite.workingDirectory)) := by
  have hroot : innerSite.root.WellFormed := wellFormed_smallSite
  have hwd : innerSite.root.get? innerSite.workingDirectory = some twoFiles := rfl
  have hlong : (climbing n).isTooLong = true := by
    rw [isTooLong_climbing, decide_eq_true_iff]
    exact hn
  exact ofPath_of_given_tooLong smallMethod [] hroot hwd rfl hlong (null_not_mem_climbing n)

private theorem quoted_of_message {p q : Path} (h : (PathFault.tooLong p).message = (PathFault.tooLong q).message) :
    p.text.quoted = q.text.quoted := by
  unfold PathFault.message at h
  exact raw_injective (List.append_cancel_left h)

private theorem message_climbing_ne (n : Nat) :
    (PathFault.tooLong ((climbing (n + 1)).absolute innerSite.workingDirectory)).message ≠
      (PathFault.tooLong (climbing (n + 1))).message := by
  have hgiven : ∃ t, (climbing (n + 1)).text = .char '.' :: t := by
    have hdots : raw ".." = [.char '.', .char '.'] := rfl
    rw [text_climbing, upAndDown, List.replicate_succ, List.cons_append,
      List.intercalate_cons_of_ne_nil (by simp), hdots]
    exact ⟨_, rfl⟩
  have hwritten : ∃ t, ((climbing (n + 1)).absolute innerSite.workingDirectory).text = .char '/' :: t := by
    have habsolute : (climbing (n + 1)).absolute innerSite.workingDirectory =
      ⟨.root, innerSite.workingDirectory ++ (upAndDown (n + 1)).parts⟩ := rfl
    have hslash : Anchor.root.text = [.char '/'] := rfl
    rw [habsolute, Path.text_of_parts (by simp [innerSite]), hslash, List.singleton_append]
    exact ⟨_, rfl⟩
  obtain ⟨t, hgiven⟩ := hgiven
  obtain ⟨u, hwritten⟩ := hwritten
  intro h
  have hquoted := quoted_of_message h.symm
  rw [hgiven, hwritten] at hquoted
  exact RawText.quoted_ne_of_slash (by decide) hquoted

/-- The two spellings of a path can be refused with different messages. -/
theorem not_told_same_if_tooLong :
    ¬ ∀ (site : Site) (method : Method) (text : RawText) (other : List RawText), site.root.WellFormed →
      (∃ entries, site.root.get? site.workingDirectory = some (.directory entries)) → site.workingDirectory ≠ [] →
      (∀ name ∈ site.workingDirectory, IsPart name) → (Path.ofText text).anchor = .relative →
      (∀ part ∈ (Path.ofText text).parts, part.size ≤ maxNameBytes) →
      told ((site.movedTo other).ofPath method (.ofText (writtenOut site.workingDirectory text))) =
        told (site.ofPath method (.ofText text)) := by
  intro h
  have htold := h innerSite smallMethod (climbing 1400).text [] wellFormed_smallSite ⟨_, rfl⟩ (by decide)
    isPart_innerSite
  have hrelative : (Path.ofText (climbing 1400).text).anchor = .relative := by
    rw [ofText_climbing]
    rfl
  obtain ⟨hgiven, hwritten⟩ := ofPath_climbing (n := 1400) (by decide)
  rw [Path.ofText_writtenOut (by decide) isPart_innerSite hrelative, ofText_climbing, hgiven, hwritten] at htold
  exact message_climbing_ne 1399 (Except.error.inj (htold rfl short_upAndDown))

end ClassOutline.Catalog
