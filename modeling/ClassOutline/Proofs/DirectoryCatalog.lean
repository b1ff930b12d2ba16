import ClassOutline.Catalog.Site
import ClassOutline.Proofs.FileTree
import ClassOutline.Proofs.RawTexts

/-!
# Catalogs of directories

The catalog of a directory says of each file what the catalog of the file alone says, so what happens to one file
is not seen in the entries of others. There is no such catalog exactly if a path below the directory is too long.
-/
namespace ClassOutline.Files

/-! ### The files below a directory -/

private theorem foundFile?_eq_some_iff {extensions : List String} {directory : Path} {names : List RawText} {x : Entry}
    {f : FoundFile} :
    foundFile? extensions directory (names, x) = some f ↔
      x = .file f.content ∧ f.path = directory.extend names ∧ hasSuffix extensions f.path = true := by
  obtain ⟨path, content⟩ := f
  cases x with
  | directory entries => simp [foundFile?]
  | file bytes =>
    rw [foundFile?]
    constructor
    · intro hfound
      obtain ⟨hsuffix, rfl, rfl⟩ : hasSuffix extensions (directory.extend names) = true ∧
          directory.extend names = path ∧ bytes = content := by simpa using hfound
      exact ⟨rfl, rfl, hsuffix⟩
    · rintro ⟨hx, rfl, hsuffix⟩
      obtain rfl : bytes = content := by simpa using hx
      exact if_pos hsuffix

theorem mem_filesBelow_iff {extensions : List String} {directory : Path} {e : Entry} (h : e.WellFormed)
    {f : FoundFile} :
    f ∈ filesBelow extensions directory e ↔
      ∃ names, names ≠ [] ∧ e.get? names = some (.file f.content) ∧ f.path = directory.extend names ∧
        hasSuffix extensions f.path = true := by
  rw [filesBelow, List.mem_mergeSort, List.mem_filterMap]
  constructor
  · rintro ⟨⟨names, x⟩, hmem, hfound⟩
    obtain ⟨hne, hx⟩ := h.mem_descendants_iff.mp hmem
    obtain ⟨rfl, hpath, hsuffix⟩ := foundFile?_eq_some_iff.mp hfound
    exact ⟨names, hne, hx, hpath, hsuffix⟩
  · rintro ⟨names, hne, hx, hpath, hsuffix⟩
    exact ⟨(names, .file f.content), h.mem_descendants_iff.mpr ⟨hne, hx⟩,
      foundFile?_eq_some_iff.mpr ⟨rfl, hpath, hsuffix⟩⟩

/-- The files are in strictly increasing order of the texts of their paths. -/
theorem pairwise_filesBelow {e : Entry} (h : e.WellFormed) (directory : Path) (extensions : List String) :
    (filesBelow extensions directory e).Pairwise fun a b => a.path.text < b.path.text := by
  have hsorted : (filesBelow extensions directory e).Pairwise fun a b => a.path.text ≤ b.path.text := by
    refine (List.pairwise_mergeSort ?_ ?_ _).imp of_decide_eq_true
    · intro a b c hab hbc
      exact decide_eq_true (List.le_trans (of_decide_eq_true hab) (of_decide_eq_true hbc))
    · intro a b
      simpa using List.le_total a.path.text b.path.text
  -- Different descendants are reached by different names, and so have paths with different texts.
  have hdistinct : (filesBelow extensions directory e).Pairwise fun a b => a.path.text ≠ b.path.text := by
    refine ((List.mergeSort_perm _ _).pairwise_iff fun hab => Ne.symm hab).mpr ?_
    rw [List.pairwise_filterMap]
    refine (List.pairwise_map.mp h.nodup_descendants).imp_of_mem ?_
    rintro ⟨names, x⟩ ⟨names', x'⟩ hmem hmem' hne a ha b hb htext
    obtain ⟨hempty, hx⟩ := h.mem_descendants_iff.mp hmem
    obtain ⟨hempty', hx'⟩ := h.mem_descendants_iff.mp hmem'
    obtain ⟨_, hpath, _⟩ := foundFile?_eq_some_iff.mp ha
    obtain ⟨_, hpath', _⟩ := foundFile?_eq_some_iff.mp hb
    rw [hpath, hpath'] at htext
    exact hne (Path.text_extend_inj hempty hempty' (h.of_get? hx).1 (h.of_get? hx').1 htext)
  exact (hsorted.and hdistinct).imp fun hab => (List.le_iff_lt_or_eq.mp hab.1).resolve_right hab.2

private theorem overlong?_eq_none_iff {directory : Path} {e : Entry} (h : e.WellFormed) :
    overlong? directory e = none ↔
      ∀ names x, names ≠ [] → e.get? names = some x → (directory.extend names).isTooLong = false := by
  rw [overlong?, List.find?_eq_none]
  constructor
  · intro hnone names x hne hx
    have hmem := List.mem_map_of_mem (f := fun x => directory.extend x.1) (h.mem_descendants_iff.mpr ⟨hne, hx⟩)
    simpa using hnone _ hmem
  · intro hnone p hp
    obtain ⟨⟨names, x⟩, hmem, rfl⟩ := List.mem_map.mp hp
    obtain ⟨hne, hx⟩ := h.mem_descendants_iff.mp hmem
    simp [hnone names x hne hx]

theorem overlong?_eq_some {directory p : Path} {e : Entry} (h : e.WellFormed)
    (hp : overlong? directory e = some p) :
    p.isTooLong = true ∧ ∃ names x, names ≠ [] ∧ e.get? names = some x ∧ p = directory.extend names := by
  rw [overlong?] at hp
  obtain ⟨⟨names, x⟩, hmem, heq⟩ := List.mem_map.mp (List.mem_of_find?_eq_some hp)
  obtain ⟨hne, hx⟩ := h.mem_descendants_iff.mp hmem
  exact ⟨List.find?_some hp, names, x, hne, hx, heq.symm⟩

end ClassOutline.Files

namespace ClassOutline.Catalog

open Files Log Outline

/-! ### Entries -/

/-- What a catalog says of a file that was read with an outcome. -/
def outcomeJson (filter : Filter) : Except ReadFailure Syntax.Node → Json
  | .ok tree => ((Outline.ofTree filter (.node tree)).map ClassSummary.toJson).getD .null
  | .error (.unreadable message) => .object [("error", .string message)]
  | .error (.syntaxError message) => .object [("error", .string message)]
  | .error (.system message) => .object [("error", .string message)]
  | .error (.unexpected kind message) => .object [("error", .string (if message = "" then kind else message : String))]

private theorem toJson_outlineContent (read : Reader) (filter : Filter) (path : Path) (content : ByteArray) :
    (outlineContent read filter path content).value.toJson = outcomeJson filter (read path content) := by
  rw [outlineContent]
  cases read path content with
  | ok tree =>
    cases hsummary : Outline.ofTree filter (.node tree) with
    | none => simp [hsummary, FileOutline.ofSummary?, outcomeJson, FileOutline.toJson]
    | some summary => simp [hsummary, FileOutline.ofSummary?, outcomeJson, FileOutline.toJson]
  | error failure =>
    cases failure with
    | unreadable message => rfl
    | syntaxError message => rfl
    | system message => rfl
    | unexpected kind message => simp [outcomeJson, FileOutline.toJson, ReadFailure.text, String.isEmpty_iff]

/-- A path of something below a directory. -/
def IsBelow (directory f : Path) : Prop :=
  ∃ names, names ≠ [] ∧ (∀ name ∈ names, IsName name) ∧ f = directory.extend names

/-- A catalog of the files of a directory, each with what is said of it alone. -/
structure Pointwise (site : Site) (method : Method) (directory : Path) (files : List Path) (catalog : Catalog) :
    Prop where
  listed : site.list method.settings.extensions directory = .ok files
  complete : ∀ f, f ∈ files ↔ IsBelow directory f ∧ (∃ content, site.lookup f = .found (.file content)) ∧
    hasSuffix method.settings.extensions f = true
  increasing : files.Pairwise fun f g => f.text < g.text
  places : ∀ f ∈ files, ∀ g ∈ files, Path.place f.parts = Path.place g.parts → f = g
  keys : catalog.entries.map Prod.fst = files.map Path.text
  alone : ∀ f ∈ files, ∃ content outline records,
    site.lookup f = .found (.file content) ∧
    catalog.entries.lookup f.text = some outline ∧
    site.ofFile method f = .ok ⟨⟨[(f.text, outline)]⟩, records⟩ ∧
    outline.toJson = outcomeJson method.filter (method.read f content)

/-! ### Directories of a site -/

/-- A directory of a well-formed site at an absolute path. -/
structure Holds (site : Site) (directory : Path) (e : Entry) : Prop where
  wellFormed : site.root.WellFormed
  anchored : directory.anchor ≠ .relative
  found : site.lookup directory = .found e

namespace Holds

variable {site : Site} {directory : Path} {e : Entry}

private theorem get?_place (h : Holds site directory e) : site.root.get? (Path.place directory.parts) = some e :=
  get?_of_walk (lookup_found h.anchored h.found).2.2

private theorem entry_wellFormed (h : Holds site directory e) : e.WellFormed :=
  h.wellFormed.of_lookup h.found

private theorem get?_root (h : Holds site directory e) (names : List RawText) :
    site.root.get? (Path.place directory.parts ++ names) = e.get? names := by
  rw [Entry.get?_append, h.get?_place, Option.bind_some]

/-- What is found at the path of a way from the directory is what that way leads to. -/
theorem lookup_extend_iff (h : Holds site directory e) {names : List RawText} {x : Entry} (hne : names ≠ [])
    (hnames : ∀ name ∈ names, IsName name) :
    site.lookup (directory.extend names) = .found x ↔
      e.get? names = some x ∧ (directory.extend names).isTooLong = false := by
  constructor
  · intro hfound
    have hanchor : (directory.extend names).anchor ≠ .relative := h.anchored
    obtain ⟨_, hlong, hwalk⟩ := lookup_found hanchor hfound
    have hplace : site.root.get? (Path.place (directory.extend names).parts) = some x := get?_of_walk hwalk
    rw [Path.place_extend hnames, h.get?_root] at hplace
    exact ⟨hplace, hlong⟩
  · rintro ⟨hx, hlong⟩
    exact lookup_extend h.anchored h.found hne hnames hx hlong

end Holds

/-! ### The catalog of a directory -/

private theorem ofFile_of_found {site : Site} {f : Path} {content : ByteArray} (hf : f.anchor ≠ .relative)
    (hfound : site.lookup f = .found (.file content)) (method : Method) :
    site.ofFile method f =
      .ok ((outlineContent method.read method.filter f content).map fun o => ⟨[(f.text, o)]⟩) := by
  rw [Site.ofFile, Path.absolute_eq_self hf, hfound]

private theorem keys_outlineAll (method : Method) (files : List FoundFile) :
    (Site.outlineAll method files).value.entries.map Prod.fst = (files.map FoundFile.path).map Path.text := by
  simp [Site.outlineAll, Site.outlineFound, Logged.map]

private theorem mem_outlineAll {method : Method} {files : List FoundFile} {f : Path} {content : ByteArray}
    (h : ⟨f, content⟩ ∈ files) :
    (f.text, (outlineContent method.read method.filter f content).value) ∈
      (Site.outlineAll method files).value.entries :=
  List.mem_map.mpr ⟨_, List.mem_map.mpr ⟨_, h, rfl⟩, rfl⟩

private theorem mem_paths_iff {files : List FoundFile} {f : Path} :
    f ∈ files.map FoundFile.path ↔ ∃ content, ⟨f, content⟩ ∈ files := by
  rw [List.mem_map]
  constructor
  · rintro ⟨⟨path, content⟩, hfile, rfl⟩
    exact ⟨content, hfile⟩
  · rintro ⟨content, hfile⟩
    exact ⟨_, hfile, rfl⟩

namespace Holds

variable {site : Site} {directory : Path} {e : Entry}

theorem mem_filesBelow_iff (h : Holds site directory e) (hlong : overlong? directory e = none)
    {extensions : List String} {f : Path} {content : ByteArray} :
    ⟨f, content⟩ ∈ filesBelow extensions directory e ↔
      IsBelow directory f ∧ site.lookup f = .found (.file content) ∧ hasSuffix extensions f = true := by
  rw [Files.mem_filesBelow_iff h.entry_wellFormed]
  have hshort := (overlong?_eq_none_iff h.entry_wellFormed).mp hlong
  constructor
  · rintro ⟨names, hne, hx, rfl, hsuffix⟩
    have hnames := (h.entry_wellFormed.of_get? hx).1
    have hfound := (h.lookup_extend_iff hne hnames).mpr ⟨hx, hshort names _ hne hx⟩
    exact ⟨⟨names, hne, hnames, rfl⟩, hfound, hsuffix⟩
  · rintro ⟨⟨names, hne, hnames, rfl⟩, hfound, hsuffix⟩
    exact ⟨names, hne, ((h.lookup_extend_iff hne hnames).mp hfound).1, rfl, hsuffix⟩

theorem pointwise (h : Holds site directory e) (hlong : overlong? directory e = none) (method : Method)
    {files : List FoundFile} (hfiles : filesBelow method.settings.extensions directory e = files) :
    Pointwise site method directory (files.map FoundFile.path) (Site.outlineAll method files).value := by
  have hmem {f : Path} {content : ByteArray} : ⟨f, content⟩ ∈ files ↔ IsBelow directory f ∧
      site.lookup f = .found (.file content) ∧ hasSuffix method.settings.extensions f = true := by
    rw [← hfiles, h.mem_filesBelow_iff hlong]
  have hincreasing : (files.map FoundFile.path).Pairwise fun f g => f.text < g.text := by
    rw [← hfiles, List.pairwise_map]
    exact pairwise_filesBelow h.entry_wellFormed directory _
  have hnodup : ((Site.outlineAll method files).value.entries.map Prod.fst).Nodup := by
    rw [keys_outlineAll]
    refine List.pairwise_map.mpr (hincreasing.imp ?_)
    intro f g hlt htext
    exact List.lt_irrefl _ (htext ▸ hlt)
  constructor
  case listed =>
    rw [Site.list, h.found]
    simp [listing, hlong, hfiles]
  case complete =>
    intro f
    simp only [mem_paths_iff, hmem]
    constructor
    · rintro ⟨content, hbelow, hfound, hsuffix⟩
      exact ⟨hbelow, ⟨content, hfound⟩, hsuffix⟩
    · rintro ⟨hbelow, ⟨content, hfound⟩, hsuffix⟩
      exact ⟨content, hbelow, hfound, hsuffix⟩
  case increasing => exact hincreasing
  case places =>
    intro f hf g hg hplace
    obtain ⟨_, hf⟩ := mem_paths_iff.mp hf
    obtain ⟨_, hg⟩ := mem_paths_iff.mp hg
    obtain ⟨⟨names, _, hnames, rfl⟩, _⟩ := hmem.mp hf
    obtain ⟨⟨names', _, hnames', rfl⟩, _⟩ := hmem.mp hg
    rw [Path.place_extend hnames, Path.place_extend hnames', List.append_cancel_left_eq] at hplace
    rw [hplace]
  case keys => exact keys_outlineAll method files
  case alone =>
    intro f hf
    obtain ⟨content, hfile⟩ := mem_paths_iff.mp hf
    obtain ⟨⟨names, _, _, rfl⟩, hfound, _⟩ := hmem.mp hfile
    have hanchor : (directory.extend names).anchor ≠ .relative := h.anchored
    exact ⟨content, _, _, hfound, (lookup_eq_some_iff hnodup).mpr (mem_outlineAll hfile),
      ofFile_of_found hanchor hfound method, toJson_outlineContent ..⟩

end Holds

/-! ### Changing one file -/

private theorem outlineContent_congr {read read' : Reader} {f : Path} (h : read' f = read f) (filter : Filter)
    (content : ByteArray) : outlineContent read' filter f content = outlineContent read filter f content := by
  rw [outlineContent, outlineContent, h]

namespace Holds

variable {site site' : Site} {directory : Path} {e : Entry} {changed : List RawText}

/-- A directory is still there after a file was changed. -/
theorem change {entries : List (RawText × Entry)} {old : ByteArray} (h : Holds site directory (.directory entries))
    (hold : site.root.get? changed = some (.file old)) (new : ByteArray) :
    ∃ entries', Holds { site with root := Entry.put (.file new) changed site.root } directory
      (.directory entries') := by
  obtain ⟨e', hfound, hkind, _⟩ := (SameBut.put hold new).lookup h.anchored h.found
  cases e' with
  | file content => simp [Entry.content?] at hkind
  | directory entries' =>
    exact ⟨entries', Entry.wellFormed_put h.wellFormed hold (.file new), h.anchored, hfound⟩

private theorem overlong?_change {e' : Entry} (h : Holds site directory e) (h' : Holds site' directory e')
    (hsame : SameBut changed site.root site'.root) (hlong : overlong? directory e = none) :
    overlong? directory e' = none := by
  rw [overlong?_eq_none_iff h.entry_wellFormed] at hlong
  rw [overlong?_eq_none_iff h'.entry_wellFormed]
  intro names x' hne hx'
  have hkind := hsame.symm.kinds (Path.place directory.parts ++ names)
  rw [h.get?_root, h'.get?_root, hx', Option.map_some] at hkind
  obtain ⟨x, hx, _⟩ := Option.map_eq_some_iff.mp hkind
  exact hlong names x hne hx

end Holds

private theorem eq_of_increasing {files files' : List Path} (h : files.Pairwise fun f g => f.text < g.text)
    (h' : files'.Pairwise fun f g => f.text < g.text) (hmem : ∀ f, f ∈ files' ↔ f ∈ files) : files' = files := by
  have hne {f g : Path} (hlt : f.text < g.text) : f ≠ g := by
    rintro rfl
    exact List.lt_irrefl _ hlt
  have hperm : files'.Perm files :=
    (List.perm_ext_iff_of_nodup (h'.imp hne) (h.imp hne)).mpr hmem
  exact hperm.eq_of_pairwise (fun f g _ _ hfg hgf => absurd hfg (List.lt_asymm hgf)) h' h

section Change

variable {site : Site} {root' : Entry} {changed : List RawText} {directory : Path}

private theorem lookup_file_change (hsame : SameBut changed site.root root') {f : Path} {content : ByteArray}
    (hf : f.anchor ≠ .relative) (hfound : site.lookup f = .found (.file content)) :
    ∃ content', { site with root := root' }.lookup f = .found (.file content') ∧
      (Path.place f.parts ≠ changed → content' = content) := by
  obtain ⟨e', hfound', hkind, hcontent⟩ := hsame.lookup hf hfound
  cases e' with
  | directory entries => simp [Entry.content?] at hkind
  | file content' => exact ⟨content', hfound', fun hne => by simpa [Entry.content?] using hcontent hne⟩

/-- A change of one file, or of what reading it gives, is seen in the entry of that file only. -/
theorem Pointwise.isolated {method : Method} {read' : Reader} {files files' : List Path} {catalog catalog' : Catalog}
    (hsame : SameBut changed site.root root') (hd : directory.anchor ≠ .relative)
    (hread : ∀ f, Path.place f.parts ≠ changed → read' f = method.read f)
    (p : Pointwise site method directory files catalog)
    (p' : Pointwise { site with root := root' } { method with read := read' } directory files' catalog') :
    files' = files ∧ ∀ f ∈ files, Path.place f.parts ≠ changed →
      catalog'.entries.lookup f.text = catalog.entries.lookup f.text := by
  have hanchor {f : Path} (hbelow : IsBelow directory f) : f.anchor ≠ .relative := by
    obtain ⟨names, _, _, rfl⟩ := hbelow
    exact hd
  have hfiles : files' = files := by
    refine eq_of_increasing p.increasing p'.increasing fun f => ?_
    rw [p.complete, p'.complete]
    constructor
    · rintro ⟨hbelow, ⟨content', hfound'⟩, hsuffix⟩
      obtain ⟨content, hfound, _⟩ := lookup_file_change hsame.symm (hanchor hbelow) hfound'
      exact ⟨hbelow, ⟨content, hfound⟩, hsuffix⟩
    · rintro ⟨hbelow, ⟨content, hfound⟩, hsuffix⟩
      obtain ⟨content', hfound', _⟩ := lookup_file_change hsame (hanchor hbelow) hfound
      exact ⟨hbelow, ⟨content', hfound'⟩, hsuffix⟩
  refine ⟨hfiles, ?_⟩
  intro f hf hne
  obtain ⟨hbelow, _⟩ := (p.complete f).mp hf
  obtain ⟨content, outline, records, hfound, hentry, hfile, _⟩ := p.alone f hf
  obtain ⟨_, outline', records', _, hentry', hfile', _⟩ := p'.alone f (hfiles ▸ hf)
  obtain ⟨content', hfound', hcontent⟩ := lookup_file_change hsame (hanchor hbelow) hfound
  obtain rfl := hcontent hne
  rw [ofFile_of_found (hanchor hbelow) hfound] at hfile
  rw [ofFile_of_found (hanchor hbelow) hfound', outlineContent_congr (hread f hne), hfile] at hfile'
  have houtline : outline = outline' := by
    simp only [Except.ok.injEq, Logged.mk.injEq, Catalog.mk.injEq, List.cons.injEq, Prod.mk.injEq] at hfile'
    exact hfile'.1.1.2
  rw [hentry, hentry', houtline]

end Change

/-! ### The result -/

/-- Something below a directory has a path that is too long. -/
def HasOverlong (directory : Path) (e : Entry) : Prop :=
  ∃ names x, names ≠ [] ∧ e.get? names = some x ∧ (directory.extend names).isTooLong = true

theorem overlong?_eq_none_iff_not_hasOverlong {directory : Path} {e : Entry} (h : e.WellFormed) :
    overlong? directory e = none ↔ ¬ HasOverlong directory e := by
  rw [overlong?_eq_none_iff h]
  constructor
  · rintro hshort ⟨names, x, hne, hx, hlong⟩
    rw [hshort names x hne hx] at hlong
    contradiction
  · intro hshort names x hne hx
    rw [← Bool.not_eq_true]
    exact fun hlong => hshort ⟨names, x, hne, hx, hlong⟩

section Result

variable {site : Site} {path : Path} {entries : List (RawText × Entry)}

theorem ofDirectory_of_overlong {p : Path} (method : Method)
    (hfound : site.lookup (path.absolute site.workingDirectory) = .found (.directory entries))
    (hp : overlong? (path.absolute site.workingDirectory) (.directory entries) = some p) :
    site.list method.settings.extensions (path.absolute site.workingDirectory) = .error (.tooLong p) ∧
      site.ofDirectory method path = .error (.tooLong p) := by
  rw [Site.list, Site.ofDirectory, hfound]
  simp [listing, hp]

theorem ofDirectory_of_short (method : Method)
    (hfound : site.lookup (path.absolute site.workingDirectory) = .found (.directory entries))
    (hshort : overlong? (path.absolute site.workingDirectory) (.directory entries) = none) :
    ∃ records, site.ofDirectory method path = .ok ⟨(Site.outlineAll method (filesBelow method.settings.extensions
      (path.absolute site.workingDirectory) (.directory entries))).value, records⟩ := by
  rw [Site.ofDirectory, hfound]
  simp [listing, hshort]

/-- If no path below a directory is too long, it has a catalog, which says of each file what the catalog of the file
alone says, and of which a change of one file changes no other entry. Otherwise it has none. -/
theorem catalog_pointwise_unless_overlong (site : Site) (hroot : site.root.WellFormed) (method : Method) (path : Path)
    (entries : List (RawText × Entry))
    (hfound : site.lookup (path.absolute site.workingDirectory) = .found (.directory entries)) :
    (HasOverlong (path.absolute site.workingDirectory) (.directory entries) →
      ∃ p, IsBelow (path.absolute site.workingDirectory) p ∧ p.isTooLong = true ∧
        site.list method.settings.extensions (path.absolute site.workingDirectory) = .error (.tooLong p) ∧
        site.ofDirectory method path = .error (.tooLong p)) ∧
    (¬ HasOverlong (path.absolute site.workingDirectory) (.directory entries) →
      ∃ files catalog records, site.ofDirectory method path = .ok ⟨catalog, records⟩ ∧
        Pointwise site method (path.absolute site.workingDirectory) files catalog ∧
        ∀ changed old new read', site.root.get? changed = some (.file old) →
          (∀ f, Path.place f.parts ≠ changed → read' f = method.read f) →
          ∃ catalog' records',
            { site with root := Entry.put (.file new) changed site.root }.ofDirectory
              { method with read := read' } path = .ok ⟨catalog', records'⟩ ∧
            catalog'.entries.map Prod.fst = catalog.entries.map Prod.fst ∧
            ∀ f ∈ files, Path.place f.parts ≠ changed →
              catalog'.entries.lookup f.text = catalog.entries.lookup f.text) := by
  have h : Holds site (path.absolute site.workingDirectory) (.directory entries) :=
    ⟨hroot, Path.anchor_absolute _ _, hfound⟩
  rw [← overlong?_eq_none_iff_not_hasOverlong h.entry_wellFormed]
  constructor
  · intro hlong
    cases hp : overlong? (path.absolute site.workingDirectory) (.directory entries) with
    | none => exact absurd hlong ((overlong?_eq_none_iff_not_hasOverlong h.entry_wellFormed).mp hp)
    | some p =>
      obtain ⟨htoo, names, x, hne, hx, hext⟩ := overlong?_eq_some h.entry_wellFormed hp
      exact ⟨p, ⟨names, hne, (h.entry_wellFormed.of_get? hx).1, hext⟩, htoo,
        ofDirectory_of_overlong method hfound hp⟩
  · intro hshort
    obtain ⟨records, hcatalog⟩ := ofDirectory_of_short method hfound hshort
    have hpointwise := h.pointwise hshort method rfl
    refine ⟨_, _, records, hcatalog, hpointwise, ?_⟩
    intro changed old new read' hold hread
    have hsame := SameBut.put hold new
    obtain ⟨entries', h'⟩ := h.change hold new
    have hshort' := h.overlong?_change h' hsame hshort
    obtain ⟨records', hcatalog'⟩ := ofDirectory_of_short { method with read := read' } h'.found hshort'
    have hpointwise' := h'.pointwise hshort' { method with read := read' } rfl
    obtain ⟨hfiles, hothers⟩ := Pointwise.isolated hsame h.anchored hread hpointwise hpointwise'
    refine ⟨_, records', hcatalog', ?_, hothers⟩
    rw [hpointwise.keys, hpointwise'.keys, hfiles]

end Result

/-- A directory of two files. -/
def twoFiles : Entry :=
  .directory [(raw "a.php", .file .empty), (raw "b.php", .file .empty)]

def smallSite : Site :=
  ⟨.directory [(raw "d", twoFiles)], []⟩

/-- Reading one of the two files fails. -/
def smallMethod : Method where
  read f _ := if f.parts.getLast? = some (raw "b.php") then .error (.unexpected "KeyError" "") else .ok default
  settings := ⟨"INFO", "127.0.0.1", 8000, [".php"], 1, 2⟩
  filter := .all
  schedule := []

/-- The path of the directory that first goes up from the root, which leads nowhere else, a number of times. -/
def upAndDown (n : Nat) : Path :=
  ⟨.root, List.replicate n (raw "..") ++ [raw "d"]⟩

private theorem wellFormed_twoFiles : twoFiles.WellFormed := by
  refine .directory _ (by decide) (by decide) ?_
  simp only [List.mem_cons, List.not_mem_nil, or_false, forall_eq_or_imp, forall_eq]
  exact ⟨.file _, .file _⟩

theorem wellFormed_smallSite : smallSite.root.WellFormed := by
  refine .directory _ (by decide) (by decide) ?_
  simpa using wellFormed_twoFiles

theorem walk_up (entries : List (RawText × Entry)) (n : Nat) (rest : List RawText) :
    walk (.directory entries) [] (List.replicate n (raw "..") ++ rest) = walk (.directory entries) [] rest := by
  induction n with
  | zero => rfl
  | succ n ih =>
    rw [List.replicate_succ, List.cons_append, walk_cons rfl (.inl rfl)]
    exact ih

theorem size_up (n : Nat) {names : List RawText} (h : names ≠ []) :
    RawText.size ([Letter.char '/'].intercalate (List.replicate n (raw "..") ++ names)) =
      3 * n + RawText.size ([Letter.char '/'].intercalate names) := by
  induction n with
  | zero => simp
  | succ n ih =>
    have hdots : RawText.size (raw "..") = 2 := rfl
    have hslash : RawText.size [Letter.char '/'] = 1 := rfl
    rw [List.replicate_succ, List.cons_append, List.intercalate_cons_of_ne_nil (by simp [h])]
    simp only [RawText.size_append, ih, hdots, hslash]
    omega

theorem isTooLong_upAndDown (n : Nat) (names : List RawText) :
    ((upAndDown n).extend names).isTooLong =
      decide (pathLimit ≤ 1 + (3 * n + RawText.size ([Letter.char '/'].intercalate (raw "d" :: names)))) := by
  have htext : ((upAndDown n).extend names).text =
      raw "/" ++ [Letter.char '/'].intercalate (List.replicate n (raw "..") ++ raw "d" :: names) := by
    simp [Path.text, upAndDown, Anchor.text]
  have hslash : RawText.size (raw "/") = 1 := rfl
  rw [Path.isTooLong, htext, RawText.size_append, size_up n (by simp), hslash]

theorem mem_parts_upAndDown {n : Nat} {part : RawText} (h : part ∈ (upAndDown n).parts) :
    part = raw ".." ∨ part = raw "d" := by
  rcases List.mem_append.mp h with h | h
  · exact .inl (List.eq_of_mem_replicate h)
  · exact .inr (List.mem_singleton.mp h)

theorem null_not_mem_upAndDown (n : Nat) : .char '\x00' ∉ (upAndDown n).text := by
  have hparts : ∀ part ∈ (upAndDown n).parts, .char '\x00' ∉ part := by
    intro part hpart
    rcases mem_parts_upAndDown hpart with rfl | rfl <;> decide
  have htext : (upAndDown n).text = raw "/" ++ [Letter.char '/'].intercalate (upAndDown n).parts := by
    simp [Path.text, upAndDown, Anchor.text]
  have hrest := null_not_mem_intercalate hparts
  rw [htext]
  simp only [List.mem_append, not_or]
  exact ⟨by decide, hrest⟩

theorem lookup_upAndDown {n : Nat} (hn : 3 * n + 2 < pathLimit) :
    smallSite.lookup (upAndDown n) = .found twoFiles := by
  have hlong : (upAndDown n).isTooLong = false := by
    have hname : RawText.size ([Letter.char '/'].intercalate [raw "d"]) = 1 := rfl
    rw [← Path.extend_nil (upAndDown n), isTooLong_upAndDown, hname]
    simp only [decide_eq_false_iff_not]
    omega
  exact lookup_of_walk (by simp [upAndDown]) (null_not_mem_upAndDown n) hlong (walk_up _ n [raw "d"]) []

theorem smallSite_catalogs :
    smallSite.root.WellFormed ∧
    (∃ files catalog records, smallSite.ofDirectory smallMethod (upAndDown 0) = .ok ⟨catalog, records⟩ ∧
      Pointwise smallSite smallMethod (upAndDown 0) files catalog ∧
      ⟨.root, [raw "d", raw "a.php"]⟩ ∈ files ∧ ⟨.root, [raw "d", raw "b.php"]⟩ ∈ files) ∧
    ∃ p, smallSite.ofDirectory smallMethod (upAndDown 1363) = .error (.tooLong p) := by
  refine ⟨wellFormed_smallSite, ?_, ?_⟩
  · have hnone : overlong? (upAndDown 0) twoFiles = none := by decide
    obtain ⟨_, hshort⟩ := catalog_pointwise_unless_overlong smallSite wellFormed_smallSite smallMethod
      (upAndDown 0) _ (lookup_upAndDown (by decide))
    obtain ⟨files, catalog, records, hcatalog, hpointwise, _⟩ :=
      hshort ((overlong?_eq_none_iff_not_hasOverlong wellFormed_twoFiles).mp hnone)
    refine ⟨files, catalog, records, hcatalog, hpointwise, ?_, ?_⟩
    · exact (hpointwise.complete _).mpr ⟨⟨[raw "a.php"], by decide, by decide, rfl⟩, ⟨_, rfl⟩, by decide⟩
    · exact (hpointwise.complete _).mpr ⟨⟨[raw "b.php"], by decide, by decide, rfl⟩, ⟨_, rfl⟩, by decide⟩
  · have hlong : HasOverlong (upAndDown 1363) twoFiles :=
      ⟨[raw "a.php"], _, by decide, rfl, by rw [isTooLong_upAndDown]; decide⟩
    obtain ⟨hnone, _⟩ := catalog_pointwise_unless_overlong smallSite wellFormed_smallSite smallMethod
      (upAndDown 1363) _ (lookup_upAndDown (by decide))
    obtain ⟨p, _, _, _, hcatalog⟩ := hnone hlong
    exact ⟨p, hcatalog⟩

end ClassOutline.Catalog
