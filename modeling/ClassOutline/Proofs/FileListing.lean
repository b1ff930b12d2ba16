import ClassOutline.Proofs.DirectoryCatalog
import Mathlib.Data.List.TakeWhile

/-!
# Listings of directories

A listing has every file below a directory that ends in one of the suffixes, in the order of the texts of the paths.
That is neither the order of a walk nor that of the names, since a dot comes before a slash. The case of the suffixes
does not matter, nor how often they are given. There is no listing if a path below the directory is too long.
-/
namespace ClassOutline.Files

/-! ### Suffixes -/

/-- A name ends in the part from its last dot on, or in nothing if that dot is its first or last letter. -/
inductive EndsIn : RawText → RawText → Prop
  | suffix (stem tail : RawText) (hstem : stem ≠ []) (htail : tail ≠ []) (hdot : .char '.' ∉ tail) :
      EndsIn (stem ++ .char '.' :: tail) (.char '.' :: tail)
  | firstDot (tail : RawText) (hdot : .char '.' ∉ tail) : EndsIn (.char '.' :: tail) []
  | lastDot (stem : RawText) : EndsIn (stem ++ [.char '.']) []
  | noDot (name : RawText) (hdot : .char '.' ∉ name) : EndsIn name []

private theorem suffixOf_of_dot {tail : RawText} (h : .char '.' ∉ tail) (stem : RawText) :
    Path.suffixOf (stem ++ .char '.' :: tail) = if stem = [] ∨ tail = [] then [] else .char '.' :: tail := by
  have hplain : ∀ c ∈ tail.reverse, decide (c ≠ .char '.') = true := by
    intro c hc
    simpa using ne_of_mem_of_not_mem (List.mem_reverse.mp hc) h
  have htail : (stem ++ .char '.' :: tail).reverse.takeWhile (· ≠ .char '.') = tail.reverse := by
    rw [List.reverse_append, List.reverse_cons, List.append_assoc, List.takeWhile_append_of_pos hplain]
    simp
  have hshort : (stem ++ .char '.' :: tail).length ≤ tail.reverse.length + 1 ↔ stem = [] := by
    simp only [List.length_append, List.length_cons, List.length_reverse, ← List.length_eq_zero_iff]
    omega
  unfold Path.suffixOf
  simp only [htail, hshort, List.reverse_eq_nil_iff, List.reverse_reverse, or_comm]

private theorem suffixOf_of_no_dot {name : RawText} (h : .char '.' ∉ name) : Path.suffixOf name = [] := by
  have hplain : name.reverse.takeWhile (· ≠ .char '.') = name.reverse := by
    rw [List.takeWhile_eq_self_iff]
    intro c hc
    simpa using ne_of_mem_of_not_mem (List.mem_reverse.mp hc) h
  unfold Path.suffixOf
  rw [hplain]
  simp

private theorem exists_last_dot {name : RawText} (h : .char '.' ∈ name) :
    ∃ stem tail, name = stem ++ .char '.' :: tail ∧ .char '.' ∉ tail := by
  obtain ⟨before, after, heq, hbefore⟩ := List.eq_append_cons_of_mem (List.mem_reverse.mpr h)
  refine ⟨after.reverse, before.reverse, ?_, by simpa using hbefore⟩
  rw [← List.reverse_reverse name, heq]
  simp

private theorem endsIn_iff {name suffix : RawText} : EndsIn name suffix ↔ Path.suffixOf name = suffix := by
  constructor
  · intro h
    cases h with
    | suffix stem tail hstem htail hdot => simp [suffixOf_of_dot hdot, hstem, htail]
    | firstDot tail hdot => simpa using suffixOf_of_dot hdot []
    | lastDot stem => simpa using suffixOf_of_dot (List.not_mem_nil (a := Letter.char '.')) stem
    | noDot name hdot => exact suffixOf_of_no_dot hdot
  · rintro rfl
    by_cases hname : .char '.' ∈ name
    · obtain ⟨stem, tail, rfl, hdot⟩ := exists_last_dot hname
      rw [suffixOf_of_dot hdot]
      by_cases hstem : stem = []
      · simpa [hstem] using EndsIn.firstDot tail hdot
      · by_cases htail : tail = []
        · simpa [htail] using EndsIn.lastDot stem
        · simpa [hstem, htail] using EndsIn.suffix stem tail hstem htail hdot
    · rw [suffixOf_of_no_dot hname]
      exact .noDot name hname

/-! ### The files of a listing -/

/-- The names that lead to a file with one of the suffixes, whatever their case. -/
def LeadsToFile (extensions : List String) (e : Entry) (names : List RawText) : Prop :=
  ∃ way name content suffix extension, names = way ++ [name] ∧ e.get? names = some (.file content) ∧
    EndsIn name (suffix.map .char) ∧ extension ∈ extensions ∧ Text.lower suffix = Text.lower extension.toList

private theorem hasSuffix_extend_iff {extensions : List String} {directory : Path} {way : List RawText}
    {name : RawText} :
    hasSuffix extensions (directory.extend (way ++ [name])) = true ↔
      ∃ suffix extension, EndsIn name (suffix.map .char) ∧ extension ∈ extensions ∧
        Text.lower suffix = Text.lower extension.toList := by
  have hsuffix : (directory.extend (way ++ [name])).suffix = Path.suffixOf name := by
    simp [Path.suffix]
  rw [hasSuffix, hsuffix]
  constructor
  · intro h
    split at h
    · rename_i suffix hchars
      obtain ⟨extension, hmem, hlower⟩ := List.mem_map.mp (List.contains_iff_mem.mp h)
      exact ⟨suffix, extension, endsIn_iff.mpr (RawText.chars?_eq_some_iff.mp hchars), hmem, hlower.symm⟩
    · contradiction
  · intro ⟨suffix, extension, hends, hmem, hlower⟩
    rw [endsIn_iff.mp hends, RawText.chars?_map_char]
    exact List.contains_iff_mem.mpr (List.mem_map.mpr ⟨extension, hmem, hlower.symm⟩)

private theorem mem_filesBelow_iff_leadsToFile {extensions : List String} {directory f : Path} {e : Entry}
    (h : e.WellFormed) :
    f ∈ (filesBelow extensions directory e).map FoundFile.path ↔
      ∃ names, LeadsToFile extensions e names ∧ f = directory.extend names := by
  rw [List.mem_map]
  constructor
  · rintro ⟨file, hfile, rfl⟩
    obtain ⟨names, hne, hx, hpath, hsuffix⟩ := (mem_filesBelow_iff h).mp hfile
    obtain ⟨way, name, rfl⟩ := (List.eq_nil_or_concat' names).resolve_left hne
    rw [hpath, hasSuffix_extend_iff] at hsuffix
    obtain ⟨suffix, extension, hends, hmem, hlower⟩ := hsuffix
    exact ⟨_, ⟨way, name, _, suffix, extension, rfl, hx, hends, hmem, hlower⟩, hpath⟩
  · rintro ⟨names, ⟨way, name, content, suffix, extension, rfl, hx, hends, hmem, hlower⟩, rfl⟩
    refine ⟨⟨directory.extend (way ++ [name]), content⟩, (mem_filesBelow_iff h).mpr ?_, rfl⟩
    exact ⟨way ++ [name], by simp, hx, rfl, hasSuffix_extend_iff.mpr ⟨suffix, extension, hends, hmem, hlower⟩⟩

theorem LeadsToFile.below {extensions : List String} {names below : List RawText} {e d : Entry}
    (hd : e.get? names = some d) (h : LeadsToFile extensions d below) : LeadsToFile extensions e (names ++ below) := by
  obtain ⟨way, name, content, suffix, extension, rfl, hx, hends⟩ := h
  refine ⟨names ++ way, name, content, suffix, extension, by simp, ?_, hends⟩
  rw [Entry.get?_append, hd, Option.bind_some, hx]

private theorem listing_congr {extensions extensions' : List String}
    (h : ∀ s, s ∈ extensions'.map (fun e => Text.lower e.toList) ↔ s ∈ extensions.map fun e => Text.lower e.toList)
    (directory : Path) (e : Entry) : listing extensions' directory e = listing extensions directory e := by
  have hsuffix : hasSuffix extensions' = hasSuffix extensions := by
    funext p
    rw [hasSuffix, hasSuffix]
    split
    · rw [Bool.eq_iff_iff, List.contains_iff_mem, List.contains_iff_mem, h]
    · rfl
  have hfound : foundFile? extensions' = foundFile? extensions := by
    funext directory x
    rw [foundFile?, foundFile?, hsuffix]
  rw [listing, listing, filesBelow, filesBelow, hfound]

end ClassOutline.Files

namespace ClassOutline.Catalog

open Files

/-- The files that a listing of a directory has. -/
structure ListsFiles (extensions : List String) (directory : Path) (e : Entry) (files : List Path) : Prop where
  increasing : files.Pairwise fun f g => f.text < g.text
  complete : ∀ f, f ∈ files ↔ ∃ names, LeadsToFile extensions e names ∧ f = directory.extend names
  directories : ∀ names entries, e.get? names = some (.directory entries) →
    directory.extend names ∉ files ∧
      ∀ below, LeadsToFile extensions (.directory entries) below → directory.extend (names ++ below) ∈ files

private theorem listsFiles_filesBelow (extensions : List String) (directory : Path) {e : Entry} (h : e.WellFormed) :
    ListsFiles extensions directory e ((filesBelow extensions directory e).map FoundFile.path) := by
  have hcomplete (f : Path) : f ∈ (filesBelow extensions directory e).map FoundFile.path ↔
      ∃ names, LeadsToFile extensions e names ∧ f = directory.extend names :=
    mem_filesBelow_iff_leadsToFile h
  refine ⟨?_, hcomplete, ?_⟩
  · rw [List.pairwise_map]
    exact pairwise_filesBelow h directory extensions
  · intro names entries hd
    refine ⟨?_, fun below hbelow => (hcomplete _).mpr ⟨_, hbelow.below hd, rfl⟩⟩
    intro hmem
    obtain ⟨names', ⟨_, _, content, _, _, _, hx, _⟩, heq⟩ := (hcomplete _).mp hmem
    have hparts := congrArg Path.parts heq
    simp only [Path.parts_extend, List.append_cancel_left_eq] at hparts
    rw [← hparts, hd] at hx
    simp at hx

/-- If no path below a directory is too long, its listing has exactly the files below it with one of the suffixes, in
strictly increasing order. Otherwise there is none. Of the suffixes only the set in lower case counts. -/
theorem listing_complete_unless_overlong (site : Site) (hroot : site.root.WellFormed) (extensions : List String)
    (path : Path) (entries : List (RawText × Entry)) (hfound : site.lookup path = .found (.directory entries)) :
    (HasOverlong path (.directory entries) →
      ∃ p, IsBelow path p ∧ p.isTooLong = true ∧ site.list extensions path = .error (.tooLong p)) ∧
    (¬ HasOverlong path (.directory entries) →
      ∃ files, site.list extensions path = .ok files ∧ ListsFiles extensions path (.directory entries) files) ∧
    ∀ extensions', (∀ s, s ∈ extensions'.map (fun e => Text.lower e.toList) ↔
        s ∈ extensions.map fun e => Text.lower e.toList) →
      site.list extensions' path = site.list extensions path := by
  have hwell : (Entry.directory entries).WellFormed := hroot.of_lookup hfound
  rw [← overlong?_eq_none_iff_not_hasOverlong hwell]
  refine ⟨?_, ?_, ?_⟩
  · intro hlong
    cases hp : overlong? path (.directory entries) with
    | none => exact absurd hlong ((overlong?_eq_none_iff_not_hasOverlong hwell).mp hp)
    | some p =>
      obtain ⟨htoo, names, x, hne, hx, hext⟩ := overlong?_eq_some hwell hp
      refine ⟨p, ⟨names, hne, (hwell.of_get? hx).1, hext⟩, htoo, ?_⟩
      rw [Site.list, hfound]
      simp [listing, hp]
  · intro hshort
    refine ⟨_, ?_, listsFiles_filesBelow extensions path hwell⟩
    rw [Site.list, hfound]
    simp [listing, hshort]
  · intro extensions' hsame
    rw [Site.list, Site.list, hfound]
    simp only [listing_congr hsame]

/-- A directory with a file that has no suffix, with a file and a directory of which the names begin alike, and with a
directory named like a file. -/
def mixedFiles : Entry :=
  .directory [(raw "x", .directory [(raw "b.php", .file .empty)]), (raw ".php", .file .empty),
    (raw "y.php", .directory [(raw "c.Php", .file .empty)]), (raw "x.php", .file .empty)]

def mixedSite : Site :=
  ⟨.directory [(raw "d", mixedFiles)], [raw "d", raw "x"]⟩

private theorem wellFormed_mixedFiles : mixedFiles.WellFormed := by
  have hempty : (Entry.file .empty).WellFormed := .file _
  have hsingle {name : RawText} (hname : IsName name) : (Entry.directory [(name, .file .empty)]).WellFormed :=
    .directory _ (by simpa using hname) (by simp) (by simpa using hempty)
  refine .directory _ (by decide) (by decide) ?_
  simp only [List.mem_cons, List.not_mem_nil, or_false, forall_eq_or_imp, forall_eq]
  exact ⟨hsingle (by decide), hempty, hsingle (by decide), hempty⟩

private theorem wellFormed_mixedSite : mixedSite.root.WellFormed :=
  .directory _ (by decide) (by decide) (by simpa using wellFormed_mixedFiles)

theorem mixedSite_listing :
    mixedSite.lookup ⟨.relative, [raw ".."]⟩ = .found mixedFiles ∧
    (∃ files, mixedSite.list [".PHP"] ⟨.relative, [raw ".."]⟩ = .ok files ∧
      ListsFiles [".PHP"] ⟨.relative, [raw ".."]⟩ mixedFiles files ∧
      ⟨.relative, [raw "..", raw "x.php"]⟩ ∈ files ∧ ⟨.relative, [raw "..", raw "x", raw "b.php"]⟩ ∈ files ∧
      ⟨.relative, [raw "..", raw "y.php"]⟩ ∉ files ∧ ⟨.relative, [raw "..", raw "y.php", raw "c.Php"]⟩ ∈ files) ∧
    mixedSite.list [".pHp", ".php", ".PHP"] ⟨.relative, [raw ".."]⟩ = mixedSite.list [".PHP"] ⟨.relative, [raw ".."]⟩ ∧
    ∃ p, smallSite.list [".php"] (upAndDown 1363) = .error (.tooLong p) := by
  obtain ⟨_, hshort, hsame⟩ := listing_complete_unless_overlong mixedSite wellFormed_mixedSite [".PHP"]
    ⟨.relative, [raw ".."]⟩ _ rfl
  obtain ⟨hlong, _⟩ := listing_complete_unless_overlong smallSite wellFormed_smallSite [".php"] (upAndDown 1363) _
    (lookup_upAndDown (by decide))
  have hnone : overlong? ⟨.relative, [raw ".."]⟩ mixedFiles = none := by decide
  obtain ⟨files, hlist, hfiles⟩ := hshort ((overlong?_eq_none_iff_not_hasOverlong wellFormed_mixedFiles).mp hnone)
  refine ⟨rfl, ⟨files, hlist, hfiles, ?_, ?_, ?_, ?_⟩, ?_, ?_⟩
  · refine (hfiles.complete _).mpr ⟨[raw "x.php"], ⟨[], raw "x.php", _, ".php".toList, ".PHP", rfl, rfl, ?_⟩, rfl⟩
    exact ⟨endsIn_iff.mpr (by decide), by decide, by decide⟩
  · refine (hfiles.complete _).mpr
      ⟨[raw "x", raw "b.php"], ⟨[raw "x"], raw "b.php", _, ".php".toList, ".PHP", rfl, rfl, ?_⟩, rfl⟩
    exact ⟨endsIn_iff.mpr (by decide), by decide, by decide⟩
  · exact (hfiles.directories [raw "y.php"] _ rfl).1
  · refine (hfiles.directories [raw "y.php"] _ rfl).2 [raw "c.Php"]
      ⟨[], raw "c.Php", _, ".Php".toList, ".PHP", rfl, rfl, ?_⟩
    exact ⟨endsIn_iff.mpr (by decide), by decide, by decide⟩
  · apply hsame
    have hthree : [".pHp", ".php", ".PHP"].map (fun e => Text.lower e.toList) =
        List.replicate 3 (Text.lower ".PHP".toList) := by decide
    simp [hthree, -String.reduceToList]
  · have hfile : HasOverlong (upAndDown 1363) twoFiles :=
      ⟨[raw "a.php"], _, by decide, rfl, by rw [isTooLong_upAndDown]; decide⟩
    obtain ⟨p, _, _, hlist⟩ := hlong hfile
    exact ⟨p, hlist⟩

end ClassOutline.Catalog
