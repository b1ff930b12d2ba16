import ClassOutline.Proofs.DirectoryCatalog
import ClassOutline.Proofs.TextLaws

/-!
# Paths and what is made of them

A path is looked up as it is given to see whether it is a directory, and looked up again from the root by what then
works on the file or directory. Both lead to the same place, however the path is written, so the work on it can only
fail because nothing is there, or because the system takes a path for too long.
-/
namespace ClassOutline.Files

/-! ### Following names -/

/-- What names lead to from a place. Only a directory can be left, and two dots lead to the directory above it. -/
inductive Leads (root : Entry) : List RawText → List RawText → Entry → Prop
  | here {place : List RawText} {e : Entry} (h : root.get? place = some e) : Leads root place [] e
  | up {place rest : List RawText} {entries : List (RawText × Entry)} {e : Entry}
      (h : root.get? place = some (.directory entries)) (hrest : Leads root place.dropLast rest e) :
      Leads root place (raw ".." :: rest) e
  | down {place rest : List RawText} {name : RawText} {entries : List (RawText × Entry)} {e : Entry}
      (h : root.get? place = some (.directory entries)) (hname : name ≠ raw "..")
      (hrest : Leads root (place ++ [name]) rest e) : Leads root place (name :: rest) e

private theorem walk_eq_found_iff_leads {root e : Entry} {parts : List RawText}
    (hshort : ∀ part ∈ parts, part.size ≤ maxNameBytes) (place : List RawText) :
    walk root place parts = .found e ↔ Leads root place parts e := by
  induction parts generalizing place with
  | nil =>
    constructor
    · intro h
      exact .here (get?_of_walk h)
    · intro h
      cases h with
      | here h => simp [walk, h]
  | cons name parts ih =>
    obtain ⟨hname, hparts⟩ := List.forall_mem_cons.mp hshort
    constructor
    · intro h
      obtain ⟨entries, hplace, _, hrest⟩ := walk_cons_found h
      have hleads := (ih hparts _).mp hrest
      by_cases hdots : name = raw ".."
      · subst hdots
        exact .up hplace hleads
      · simp only [Path.follow, List.foldl_cons, List.foldl_nil, if_neg hdots] at hleads
        exact .down hplace hdots hleads
    · intro h
      cases h with
      | up hplace hrest =>
        rw [walk_cons hplace (.inl rfl)]
        exact (ih hparts _).mpr hrest
      | down hplace hdots hrest =>
        rw [walk_cons hplace (.inr hname), ih hparts]
        simpa [Path.follow, hdots] using hrest

private theorem walk_ne_tooLong {root : Entry} {parts : List RawText}
    (hshort : ∀ part ∈ parts, part.size ≤ maxNameBytes) (place : List RawText) :
    walk root place parts ≠ .tooLong := by
  induction parts generalizing place with
  | nil =>
    rw [walk]
    split <;> simp
  | cons name parts ih =>
    obtain ⟨hname, hparts⟩ := List.forall_mem_cons.mp hshort
    by_cases hplace : ∃ entries, root.get? place = some (.directory entries)
    · obtain ⟨entries, hplace⟩ := hplace
      rw [walk_cons hplace (.inr hname)]
      exact ih hparts _
    · rw [walk]
      split
      · rename_i entries hentries
        exact absurd ⟨entries, hentries⟩ hplace
      · simp

/-! ### Paths from a working directory -/

theorem lookup_ne_tooLong {root : Entry} {workingDirectory : List RawText} {p : Path}
    (hshort : ∀ part ∈ p.parts, part.size ≤ maxNameBytes) (hlong : p.isTooLong = false) :
    lookup root workingDirectory p ≠ .tooLong := by
  rw [lookup, ← Path.start, hlong]
  split
  · simp
  · simpa using walk_ne_tooLong hshort _

private theorem walk_workingDirectory {root e : Entry} {workingDirectory : List RawText} (hroot : root.WellFormed)
    (hwd : root.get? workingDirectory = some e) (parts : List RawText) :
    walk root [] (workingDirectory ++ parts) = walk root workingDirectory parts := by
  have hnames := (hroot.of_get? hwd).1
  have hwalk : walk root [] workingDirectory = .found e := walk_names (Entry.get?_nil root) hnames hwd
  rw [walk_append hwalk, Path.follow_names hnames, List.nil_append]

/-- The text of an absolute path has no null character that the path did not have, and is not shorter. -/
theorem text_absolute {workingDirectory : List RawText} (hnames : ∀ name ∈ workingDirectory, IsName name) {p : Path}
    (hp : p.anchor = .relative) :
    (.char '\x00' ∈ (p.absolute workingDirectory).text ↔ .char '\x00' ∈ p.text) ∧
      p.text.size ≤ (p.absolute workingDirectory).text.size := by
  have hnull := null_not_mem_intercalate fun name hname => (hnames name hname).no_null
  have hslash : RawText.size [Letter.char '/'] = 1 := rfl
  have habsolute : (p.absolute workingDirectory).text =
      [Letter.char '/'] ++ [Letter.char '/'].intercalate (workingDirectory ++ p.parts) := by
    simp [Path.absolute, hp, Path.text, Anchor.text, raw]
  rw [habsolute]
  by_cases hparts : p.parts = []
  · have htext : p.text = [Letter.char '.'] := by simp [Path.text, hp, hparts, raw]
    have hdot : RawText.size [Letter.char '.'] = 1 := rfl
    rw [htext, hparts, List.append_nil]
    generalize [Letter.char '/'].intercalate workingDirectory = above at hnull
    rw [RawText.size_append, hdot, hslash]
    simp [hnull]
  · have htext : p.text = [Letter.char '/'].intercalate p.parts := by simp [Path.text, hp, hparts, Anchor.text, raw]
    rw [htext]
    by_cases hwd : workingDirectory = []
    · simp [hwd, RawText.size]
    · rw [intercalate_append hwd hparts]
      generalize [Letter.char '/'].intercalate workingDirectory = above at hnull
      generalize [Letter.char '/'].intercalate p.parts = below
      simp only [List.mem_append, hnull, RawText.size_append]
      exact ⟨by simp, by omega⟩

/-- A path and its absolute path lead to the same, unless that is too long. -/
theorem lookup_absolute {root e : Entry} {workingDirectory : List RawText} (hroot : root.WellFormed)
    (hwd : root.get? workingDirectory = some e) {p : Path} (hlong : (p.absolute workingDirectory).isTooLong = false) :
    p.isTooLong = false ∧
      lookup root workingDirectory (p.absolute workingDirectory) = lookup root workingDirectory p := by
  by_cases hp : p.anchor = .relative
  · obtain ⟨hnull, hsize⟩ := text_absolute (hroot.of_get? hwd).1 hp
    have hshort : p.isTooLong = false := by
      simp only [Path.isTooLong, decide_eq_false_iff_not] at hlong ⊢
      omega
    have habsolute : p.absolute workingDirectory = ⟨.root, workingDirectory ++ p.parts⟩ := if_pos hp
    refine ⟨hshort, ?_⟩
    simp only [lookup, List.contains_iff_mem, hnull, hlong, hshort, hp]
    rw [habsolute]
    simp [walk_workingDirectory hroot hwd]
  · rw [Path.absolute_eq_self hp] at hlong ⊢
    exact ⟨hlong, rfl⟩

/-! ### The text of a path -/

/-- A name as it stands between the slashes of a path. -/
structure IsPart (part : RawText) : Prop where
  ne_empty : part ≠ []
  ne_dot : part ≠ raw "."
  no_slash : .char '/' ∉ part

private theorem Path.parts_ofText_slash (t : RawText) : (ofText (.char '/' :: t)).parts = (ofText t).parts := by
  simp [ofText, Text.splitOn]

private theorem Path.parts_ofText_intercalate {parts : List RawText} (h : ∀ part ∈ parts, IsPart part) :
    (ofText ([Letter.char '/'].intercalate parts)).parts = parts := by
  by_cases hparts : parts = []
  · subst hparts
    rfl
  · have hkept : ∀ part ∈ parts, decide (part ≠ [] ∧ part ≠ raw ".") = true := by
      intro part hpart
      exact decide_eq_true ⟨(h part hpart).ne_empty, (h part hpart).ne_dot⟩
    rw [ofText, Text.splitOn_eq_listSplitOn,
      List.splitOn_intercalate _ (fun part hpart => (h part hpart).no_slash) hparts]
    exact List.filter_eq_self.mpr hkept

theorem Path.anchorOf_append (anchor : Anchor) {t : RawText} (h : t.head? ≠ some (.char '/')) :
    anchorOf (anchor.text ++ t) = anchor := by
  have ht : t.takeWhile (· = .char '/') = [] := by
    cases t with
    | nil => rfl
    | cons l t =>
      have hl : l ≠ .char '/' := by simpa using h
      rw [List.takeWhile_cons_of_neg (by simpa using hl)]
  have hanchor : ∀ l ∈ anchor.text, decide (l = .char '/') = true := by
    cases anchor <;> simp [Anchor.text, raw]
  rw [anchorOf, List.takeWhile_append_of_pos hanchor, ht, List.append_nil]
  cases anchor <;> rfl

theorem head?_intercalate {parts : List RawText} (h : ∀ part ∈ parts, IsPart part) :
    ([Letter.char '/'].intercalate parts).head? ≠ some (.char '/') := by
  cases parts with
  | nil => simp
  | cons part parts =>
    have hpart := h part List.mem_cons_self
    obtain ⟨rest, hrest⟩ : ∃ rest, [Letter.char '/'].intercalate (part :: parts) = part ++ rest := by
      by_cases hparts : parts = []
      · subst hparts
        exact ⟨[], by simp⟩
      · rw [List.intercalate_cons_of_ne_nil hparts, List.append_assoc]
        exact ⟨_, rfl⟩
    rw [hrest, List.head?_append_of_ne_nil _ hpart.ne_empty]
    intro hslash
    exact hpart.no_slash (List.mem_of_head? hslash)

/-- A path is read back from its text. -/
theorem Path.ofText_text {p : Path} (h : ∀ part ∈ p.parts, IsPart part) : ofText p.text = p := by
  by_cases hempty : p.anchor = .relative ∧ p.parts = []
  · obtain ⟨anchor, parts⟩ := p
    obtain ⟨rfl, rfl⟩ := hempty
    rfl
  · have htext : p.text = p.anchor.text ++ [Letter.char '/'].intercalate p.parts := if_neg hempty
    have hanchor : (ofText p.text).anchor = p.anchor := by
      rw [ofText, htext, anchorOf_append _ (head?_intercalate h)]
    have hparts : (ofText p.text).parts = p.parts := by
      have hslash : Anchor.root.text = [.char '/'] := rfl
      have hslashes : Anchor.doubleRoot.text = [.char '/', .char '/'] := rfl
      rw [htext]
      cases p.anchor with
      | relative => exact parts_ofText_intercalate h
      | root => rw [hslash, List.singleton_append, parts_ofText_slash, parts_ofText_intercalate h]
      | doubleRoot =>
        rw [hslashes, List.cons_append, List.singleton_append, parts_ofText_slash, parts_ofText_slash,
          parts_ofText_intercalate h]
    cases hp : ofText p.text
    simp_all

end ClassOutline.Files

namespace ClassOutline.Catalog

open Files Log Outline

/-! ### How the work on a path ends -/

/-- A path names what its parts lead to from the root or from the working directory. No path with a null character
names anything. -/
def Site.Names (site : Site) (p : Path) (e : Entry) : Prop :=
  .char '\x00' ∉ p.text ∧ Leads site.root (p.start site.workingDirectory) p.parts e

private theorem names_iff_lookup {site : Site} {p : Path} (hshort : ∀ part ∈ p.parts, part.size ≤ maxNameBytes)
    (hlong : p.isTooLong = false) {e : Entry} : site.Names p e ↔ site.lookup p = .found e := by
  rw [Site.lookup, lookup_eq_found_iff, walk_eq_found_iff_leads hshort, Site.Names]
  simp [hlong]

/-- A directory is there where a file is asked for, or a file in place of a directory. -/
def PathFault.isWrongKind : PathFault → Bool
  | notFile _ | notDirectory _ => true
  | _ => false

/-- The conditions on which work on a path fails because nothing is there, or nothing of the right kind. -/
structure FailsOn (absolute : Path) (missing wrongKind : Prop) (result : Result) : Prop where
  notFound : (∃ q, result = .error (.notFound q)) ↔ missing
  message : missing → ∃ fault, result = .error fault ∧ fault.message = "Path not found: " ++ absolute.text
  wrongKind : (∃ fault, result = .error fault ∧ fault.isWrongKind = true) ↔ wrongKind

section FailsOn

variable {absolute : Path} {missing wrongKind : Prop} {result : Result}

private theorem failsOn_of_notFound (h : result = .error (.notFound absolute)) (hmissing : missing)
    (hkind : ¬ wrongKind) :
    FailsOn absolute missing wrongKind result := by
  subst h
  constructor
  · simpa using hmissing
  · intro _
    exact ⟨_, rfl, rfl⟩
  · simpa [PathFault.isWrongKind] using hkind

private theorem failsOn_of_wrongKind {fault : PathFault} (h : result = .error fault) (hfault : fault.isWrongKind = true)
    (hmissing : ¬ missing) (hkind : wrongKind) : FailsOn absolute missing wrongKind result := by
  subst h
  constructor
  · cases fault <;> simp_all [PathFault.isWrongKind]
  · exact fun h => absurd h hmissing
  · simpa [hfault] using hkind

/-- Work that ends well, or for which a path is too long, fails on none of the conditions. -/
theorem failsOn_of_found (h : ∀ fault, result = .error fault → ∃ q, fault = .tooLong q) (hmissing : ¬ missing)
    (hkind : ¬ wrongKind) : FailsOn absolute missing wrongKind result := by
  constructor
  · refine iff_of_false ?_ hmissing
    rintro ⟨q, hq⟩
    simpa using h _ hq
  · exact fun h => absurd h hmissing
  · refine iff_of_false ?_ hkind
    rintro ⟨fault, hfault, hwrong⟩
    obtain ⟨q, rfl⟩ := h fault hfault
    simp [PathFault.isWrongKind] at hwrong

end FailsOn

private theorem error_ofDirectory_of_found {site : Site} {method : Method} {p : Path} {entries : List (RawText × Entry)}
    (h : site.lookup (p.absolute site.workingDirectory) = .found (.directory entries)) {fault : PathFault}
    (hfault : site.ofDirectory method p = .error fault) : ∃ q, fault = .tooLong q := by
  cases hp : overlong? (p.absolute site.workingDirectory) (.directory entries) with
  | some q =>
    rw [(ofDirectory_of_overlong method h hp).2] at hfault
    exact ⟨q, (Except.error.inj hfault).symm⟩
  | none =>
    obtain ⟨records, hok⟩ := ofDirectory_of_short method h hp
    simp [hok] at hfault

/-- What becomes of a path, by what it names. -/
structure Dispatches (site : Site) (method : Method) (p : Path) : Prop where
  path : FailsOn (p.absolute site.workingDirectory) (∀ e, ¬ site.Names p e) False (site.ofPath method p)
  file : FailsOn (p.absolute site.workingDirectory) (∀ e, ¬ site.Names p e)
    (∃ entries, site.Names p (.directory entries)) (site.ofFile method p)
  directory : FailsOn (p.absolute site.workingDirectory) (∀ e, ¬ site.Names p e)
    (∃ content, site.Names p (.file content)) (site.ofDirectory method p)
  onDirectory : ∀ entries, site.Names p (.directory entries) → site.ofPath method p = site.ofDirectory method p
  onFile : ∀ content, site.Names p (.file content) → site.ofPath method p = site.ofFile method p ∧
    ∃ outline records, site.ofFile method p =
      .ok ⟨⟨[((p.absolute site.workingDirectory).text, outline)]⟩, records⟩
  fails : (∀ entries, site.Names p (.directory entries) →
      ¬ HasOverlong (p.absolute site.workingDirectory) (.directory entries)) →
    ((∃ fault, site.ofPath method p = .error fault) ↔ ∀ e, ¬ site.Names p e)

section Dispatch

variable {site : Site} {method : Method} {p : Path}
  (hnames : ∀ e, site.Names p e ↔ site.lookup p = .found e)
  (habsolute : site.lookup (p.absolute site.workingDirectory) = site.lookup p)

include hnames habsolute

private theorem dispatches_missing (h : site.lookup p = .missing) : Dispatches site method p := by
  have hnothing : ∀ e, ¬ site.Names p e := by simp [hnames, h]
  have hfile : site.ofFile method p = .error (.notFound (p.absolute site.workingDirectory)) := by
    rw [Site.ofFile, habsolute, h]
  have hdirectory : site.ofDirectory method p = .error (.notFound (p.absolute site.workingDirectory)) := by
    rw [Site.ofDirectory, habsolute, h]
  have hpath : site.ofPath method p = site.ofFile method p := by
    rw [Site.ofPath, h]
  constructor
  case path => exact failsOn_of_notFound (hpath.trans hfile) hnothing not_false
  case file => exact failsOn_of_notFound hfile hnothing (by simp [hnothing])
  case directory => exact failsOn_of_notFound hdirectory hnothing (by simp [hnothing])
  case onDirectory => exact fun entries hentries => absurd hentries (hnothing _)
  case onFile => exact fun content hcontent => absurd hcontent (hnothing _)
  case fails =>
    intro _
    simp [hpath, hfile, hnothing]

private theorem dispatches_file {content : ByteArray} (h : site.lookup p = .found (.file content)) :
    Dispatches site method p := by
  have hfound : site.Names p (.file content) := (hnames _).mpr h
  have hsomething : ¬ ∀ e, ¬ site.Names p e := fun hnothing => hnothing _ hfound
  have hpath : site.ofPath method p = site.ofFile method p := by
    rw [Site.ofPath, h]
  have hfile : ∃ outline records, site.ofFile method p =
      .ok ⟨⟨[((p.absolute site.workingDirectory).text, outline)]⟩, records⟩ := by
    rw [Site.ofFile, habsolute, h]
    exact ⟨_, _, rfl⟩
  have hdirectory : site.ofDirectory method p = .error (.notDirectory (p.absolute site.workingDirectory)) := by
    rw [Site.ofDirectory, habsolute, h]
  obtain ⟨outline, records, hok⟩ := hfile
  have hfails (fault : PathFault) (hfault : site.ofFile method p = .error fault) : ∃ q, fault = .tooLong q := by
    simp [hok] at hfault
  constructor
  case path => exact failsOn_of_found (hpath ▸ hfails) hsomething not_false
  case file => exact failsOn_of_found hfails hsomething (by simp [hnames, h])
  case directory => exact failsOn_of_wrongKind hdirectory rfl hsomething ⟨_, hfound⟩
  case onDirectory =>
    intro entries hentries
    simp [hnames, h] at hentries
  case onFile => exact fun _ _ => ⟨hpath, outline, records, hok⟩
  case fails =>
    intro _
    exact iff_of_false (by simp [hpath, hok]) hsomething

private theorem dispatches_directory (hroot : site.root.WellFormed) {entries : List (RawText × Entry)}
    (h : site.lookup p = .found (.directory entries)) : Dispatches site method p := by
  have hfound : site.Names p (.directory entries) := (hnames _).mpr h
  have hsomething : ¬ ∀ e, ¬ site.Names p e := fun hnothing => hnothing _ hfound
  have hpath : site.ofPath method p = site.ofDirectory method p := by
    rw [Site.ofPath, h]
  have hfile : site.ofFile method p = .error (.notFile (p.absolute site.workingDirectory)) := by
    rw [Site.ofFile, habsolute, h]
  have hfails (fault : PathFault) (hfault : site.ofDirectory method p = .error fault) : ∃ q, fault = .tooLong q :=
    error_ofDirectory_of_found (habsolute.trans h) hfault
  constructor
  case path => exact failsOn_of_found (hpath ▸ hfails) hsomething not_false
  case file => exact failsOn_of_wrongKind hfile rfl hsomething ⟨_, hfound⟩
  case directory => exact failsOn_of_found hfails hsomething (by simp [hnames, h])
  case onDirectory => exact fun _ _ => hpath
  case onFile =>
    intro content hcontent
    simp [hnames, h] at hcontent
  case fails =>
    intro hshort
    have hnone := (overlong?_eq_none_iff_not_hasOverlong (hroot.of_lookup h)).mpr (hshort entries hfound)
    obtain ⟨records, hok⟩ := ofDirectory_of_short method (habsolute.trans h) hnone
    exact iff_of_false (by simp [hpath, hok]) hsomething

end Dispatch

/-- All work on a path fails because the system takes a path for too long. -/
structure FailsAsTooLong (site : Site) (method : Method) (p : Path) : Prop where
  path : ∃ q, site.ofPath method p = .error (.tooLong q)
  file : site.ofFile method p = .error (.tooLong (p.absolute site.workingDirectory))
  directory : site.ofDirectory method p = .error (.tooLong (p.absolute site.workingDirectory))

private theorem failsAsTooLong_of_absolute {site : Site} {p : Path} (method : Method)
    (hnull : .char '\x00' ∉ (p.absolute site.workingDirectory).text)
    (hlong : (p.absolute site.workingDirectory).isTooLong = true) : FailsAsTooLong site method p := by
  have habsolute : site.lookup (p.absolute site.workingDirectory) = .tooLong := by
    simp [Site.lookup, lookup, hnull, hlong]
  have hfile : site.ofFile method p = .error (.tooLong (p.absolute site.workingDirectory)) := by
    rw [Site.ofFile, habsolute]
  have hdirectory : site.ofDirectory method p = .error (.tooLong (p.absolute site.workingDirectory)) := by
    rw [Site.ofDirectory, habsolute]
  refine ⟨?_, hfile, hdirectory⟩
  rw [Site.ofPath, hfile, hdirectory]
  split <;> exact ⟨_, rfl⟩

/-- What a path names decides which work is done on it, and the work fails because nothing is there exactly if the path
names nothing. If the absolute path is too long, the work fails for that. -/
theorem outline_dispatches_on_named_entry (site : Site) (hroot : site.root.WellFormed)
    (entries : List (RawText × Entry))
    (hwd : site.root.get? site.workingDirectory = some (.directory entries)) (method : Method) (text : RawText)
    (hshort : ∀ part ∈ (Path.ofText text).parts, part.size ≤ maxNameBytes) :
    (((Path.ofText text).absolute site.workingDirectory).isTooLong = false → Dispatches site method (.ofText text)) ∧
    (((Path.ofText text).absolute site.workingDirectory).isTooLong = true →
      .char '\x00' ∉ ((Path.ofText text).absolute site.workingDirectory).text →
      FailsAsTooLong site method (.ofText text)) := by
  refine ⟨fun hlong => ?_, fun hlong hnull => failsAsTooLong_of_absolute method hnull hlong⟩
  obtain ⟨hgiven, habsolute⟩ := lookup_absolute hroot hwd hlong
  have hnames (e : Entry) : site.Names (.ofText text) e ↔ site.lookup (.ofText text) = .found e :=
    names_iff_lookup hshort hgiven
  cases hlookup : site.lookup (.ofText text) with
  | missing => exact dispatches_missing hnames habsolute hlookup
  | tooLong => exact absurd hlookup (lookup_ne_tooLong hshort hgiven)
  | found e =>
    cases e with
    | file content => exact dispatches_file hnames habsolute hlookup
    | directory entries => exact dispatches_directory hnames habsolute hroot hlookup

/-- The small site, seen from the directory in it. -/
def innerSite : Site :=
  { smallSite with workingDirectory := [raw "d"] }

theorem innerSite_dispatch :
    innerSite.root.WellFormed ∧ innerSite.root.get? innerSite.workingDirectory = some twoFiles ∧
    (∃ outline records, innerSite.ofPath smallMethod (.ofText "..//d/./b.php/") =
      .ok ⟨⟨[(raw "/d/../d/b.php", outline)]⟩, records⟩) ∧
    (∃ fault, innerSite.ofPath smallMethod (.ofText "a.php/..") = .error fault ∧
      fault.message = "Path not found: /d/a.php/..") ∧
    innerSite.ofPath smallMethod (.ofText "") = innerSite.ofDirectory smallMethod (.ofText "") := by
  have hwd : innerSite.root.get? innerSite.workingDirectory = some twoFiles := rfl
  have hdispatch (text : RawText) :=
    outline_dispatches_on_named_entry innerSite wellFormed_smallSite _ hwd smallMethod text
  refine ⟨wellFormed_smallSite, hwd, ?_, ?_, ?_⟩
  · have hpath : Path.ofText "..//d/./b.php/" = ⟨.relative, [raw "..", raw "d", raw "b.php"]⟩ := by decide
    have hnames : innerSite.Names (.ofText "..//d/./b.php/") (.file .empty) := by
      rw [hpath]
      exact ⟨by decide, .up rfl (.down rfl (by decide) (.down rfl (by decide) (.here rfl)))⟩
    obtain ⟨hfile, outline, records, hok⟩ := ((hdispatch _ (by decide)).1 (by decide)).onFile _ hnames
    exact ⟨outline, records, hfile.trans hok⟩
  · have hnothing : ∀ e, ¬ innerSite.Names (.ofText "a.php/..") e := by
      intro e hnames
      have hwalk : walk innerSite.root [raw "d"] [raw "a.php", raw ".."] = .missing := rfl
      have hfound := (walk_eq_found_iff_leads (by decide) _).mpr hnames.2
      exact Lookup.noConfusion (hwalk.symm.trans hfound)
    exact ((hdispatch _ (by decide)).1 (by decide)).path.message hnothing
  · have hnames : innerSite.Names (.ofText "") twoFiles := ⟨by decide, .here rfl⟩
    exact ((hdispatch _ (by decide)).1 (by decide)).onDirectory _ hnames

theorem short_upAndDown {n : Nat} : ∀ part ∈ (upAndDown n).parts, part.size ≤ maxNameBytes := by
  intro part hpart
  rcases mem_parts_upAndDown hpart with rfl | rfl <;> decide

private theorem ofText_upAndDown (n : Nat) : Path.ofText (upAndDown n).text = upAndDown n := by
  apply Path.ofText_text
  intro part hpart
  rcases mem_parts_upAndDown hpart with rfl | rfl <;> exact ⟨by decide, by decide, by decide⟩

private theorem names_upAndDown (n : Nat) : smallSite.Names (upAndDown n) twoFiles :=
  ⟨null_not_mem_upAndDown n, (walk_eq_found_iff_leads short_upAndDown []).mp (walk_up _ n [raw "d"])⟩

private theorem ofPath_upAndDown {n : Nat} (hn : pathLimit ≤ 3 * n + 2) :
    ∃ q, smallSite.ofPath smallMethod (upAndDown n) = .error (.tooLong q) := by
  have habsolute : (upAndDown n).absolute smallSite.workingDirectory = upAndDown n := rfl
  have hlong : (upAndDown n).isTooLong = true := by
    have hname : RawText.size ([Letter.char '/'].intercalate [raw "d"]) = 1 := rfl
    rw [← Path.extend_nil (upAndDown n), isTooLong_upAndDown, hname, decide_eq_true_iff]
    omega
  refine (failsAsTooLong_of_absolute smallMethod ?_ ?_).path
  · rw [habsolute]
    exact null_not_mem_upAndDown n
  · rw [habsolute]
    exact hlong

/-- Work on a path can fail although the path names something. -/
theorem not_fails_only_on_missing :
    ¬ ∀ (site : Site) (method : Method) (text : RawText), site.root.WellFormed →
      (∃ entries, site.root.get? site.workingDirectory = some (.directory entries)) →
      (∀ part ∈ (Path.ofText text).parts, part.size ≤ maxNameBytes) →
      ((∃ fault, site.ofPath method (.ofText text) = .error fault) ↔ ∀ e, ¬ site.Names (.ofText text) e) := by
  intro h
  have hfails := h smallSite smallMethod (upAndDown 1400).text wellFormed_smallSite ⟨_, rfl⟩
  rw [ofText_upAndDown] at hfails
  obtain ⟨q, hq⟩ := ofPath_upAndDown (n := 1400) (by decide)
  exact (hfails short_upAndDown).mp ⟨_, hq⟩ _ (names_upAndDown 1400)

end ClassOutline.Catalog
