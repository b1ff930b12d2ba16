import ClassOutline.Files.Listing
import Mathlib.Data.List.Nodup

/-!
# Trees of files

What a path leads to, what is below a directory, and what a change of one file leaves as it was.
-/
namespace ClassOutline.Files

/-! ### Well-formed trees -/

/-- What a file system asks of the name of a file or directory. -/
structure IsName (name : RawText) : Prop where
  no_slash : .char '/' ∉ name
  no_null : .char '\x00' ∉ name
  ne_dots : name ≠ raw ".."
  short : name.size ≤ maxNameBytes

instance (name : RawText) : Decidable (IsName name) :=
  decidable_of_iff (.char '/' ∉ name ∧ .char '\x00' ∉ name ∧ name ≠ raw ".." ∧ name.size ≤ maxNameBytes)
    ⟨fun ⟨hslash, hnull, hdots, hshort⟩ => ⟨hslash, hnull, hdots, hshort⟩,
      fun h => ⟨h.no_slash, h.no_null, h.ne_dots, h.short⟩⟩

/-- The trees that a file system can hold: in each directory the entries have names, and different ones. -/
inductive Entry.WellFormed : Entry → Prop
  | file (content : ByteArray) : Entry.WellFormed (.file content)
  | directory (entries : List (RawText × Entry)) (names : ∀ x ∈ entries, IsName x.1)
      (distinct : (entries.map Prod.fst).Nodup) (below : ∀ x ∈ entries, Entry.WellFormed x.2) :
      Entry.WellFormed (.directory entries)

theorem lookup_eq_some_iff {α : Type} {entries : List (RawText × α)} (h : (entries.map Prod.fst).Nodup)
    {name : RawText} {e : α} : entries.lookup name = some e ↔ (name, e) ∈ entries := by
  induction entries with
  | nil => simp
  | cons x entries ih =>
    obtain ⟨key, value⟩ := x
    rw [List.map_cons, List.nodup_cons] at h
    by_cases hname : name = key
    · subst hname
      have hnew : (name, e) ∉ entries := fun hmem => h.1 (List.mem_map.mpr ⟨_, hmem, rfl⟩)
      simp [hnew, eq_comm]
    · have hne : (name == key) = false := beq_false_of_ne hname
      simp [List.lookup_cons, hne, hname, ih h.2]

namespace Entry

@[simp]
theorem get?_nil (e : Entry) : e.get? [] = some e :=
  rfl

private theorem get?_cons (e : Entry) (name : RawText) (rest : List RawText) :
    e.get? (name :: rest) = (e.child? name).bind fun c => c.get? rest := by
  rw [get?]
  cases e.child? name <;> rfl

theorem get?_append (e : Entry) (names rest : List RawText) :
    e.get? (names ++ rest) = (e.get? names).bind fun c => c.get? rest := by
  induction names generalizing e with
  | nil => rfl
  | cons name names ih =>
    rw [List.cons_append, get?_cons, get?_cons, Option.bind_assoc]
    exact Option.bind_congr fun c _ => ih c

private theorem WellFormed.mem_of_child? {e c : Entry} {name : RawText} (h : e.WellFormed)
    (hc : e.child? name = some c) :
    IsName name ∧ c.WellFormed := by
  cases h with
  | file content => simp [child?] at hc
  | directory entries names distinct below =>
    have hmem := (lookup_eq_some_iff distinct).mp hc
    exact ⟨names _ hmem, below _ hmem⟩

/-- Whatever a place leads to is well formed, and the way there is made of names. -/
theorem WellFormed.of_get? {e x : Entry} {names : List RawText} (h : e.WellFormed) (hx : e.get? names = some x) :
    (∀ name ∈ names, IsName name) ∧ x.WellFormed := by
  induction names generalizing e with
  | nil =>
    rw [get?_nil, Option.some.injEq] at hx
    subst hx
    simpa using h
  | cons name names ih =>
    rw [get?_cons] at hx
    obtain ⟨c, hc, hx⟩ := Option.bind_eq_some_iff.mp hx
    obtain ⟨hname, hwell⟩ := h.mem_of_child? hc
    obtain ⟨hnames, hx⟩ := ih hwell hx
    exact ⟨List.forall_mem_cons.mpr ⟨hname, hnames⟩, hx⟩

/-! ### What is below a directory -/

private theorem mem_descendantsAll_iff {entries : List (RawText × Entry)} {names : List RawText} {x : Entry} :
    (names, x) ∈ descendantsAll entries ↔
      ∃ name c rest, (name, c) ∈ entries ∧ names = name :: rest ∧ (rest, x) ∈ c.descendants := by
  induction entries with
  | nil => simp [descendantsAll]
  | cons entry entries ih =>
    obtain ⟨key, value⟩ := entry
    rw [descendantsAll, List.mem_append, ih]
    constructor
    · rintro (h | ⟨name, c, rest, hmem, hnames, hrest⟩)
      · obtain ⟨⟨rest, y⟩, hrest, heq⟩ := List.mem_map.mp h
        obtain ⟨rfl, rfl⟩ := Prod.mk.inj heq
        exact ⟨key, value, rest, List.mem_cons_self, rfl, hrest⟩
      · exact ⟨name, c, rest, List.mem_cons_of_mem _ hmem, hnames, hrest⟩
    · rintro ⟨name, c, rest, hmem, rfl, hrest⟩
      rcases List.mem_cons.mp hmem with heq | hmem
      · obtain ⟨rfl, rfl⟩ := Prod.mk.inj heq
        exact .inl (List.mem_map.mpr ⟨_, hrest, rfl⟩)
      · exact .inr ⟨name, c, rest, hmem, rfl, hrest⟩

/-- What is below an entry is what a way from it leads to. -/
theorem WellFormed.mem_descendants_iff {e : Entry} (h : e.WellFormed) {names : List RawText} {x : Entry} :
    (names, x) ∈ e.descendants ↔ names ≠ [] ∧ e.get? names = some x := by
  induction h generalizing names with
  | file content =>
    cases names with
    | nil => simp [descendants]
    | cons name rest => simp [descendants, get?_cons, child?]
  | directory entries hnames distinct below ih =>
    rw [descendants, List.mem_append, mem_descendantsAll_iff]
    cases names with
    | nil => simp
    | cons name rest =>
      simp only [get?_cons, child?, Option.bind_eq_some_iff, lookup_eq_some_iff distinct, ne_eq,
        reduceCtorEq, not_false_eq_true, true_and, List.cons.injEq]
      constructor
      · rintro (h | ⟨name', c, rest', hmem, ⟨rfl, rfl⟩, hrest⟩)
        · obtain ⟨⟨key, value⟩, hmem, heq⟩ := List.mem_map.mp h
          obtain ⟨hkey, rfl⟩ := Prod.mk.inj heq
          obtain ⟨rfl, rfl⟩ := List.cons.inj hkey
          exact ⟨value, hmem, rfl⟩
        · exact ⟨c, hmem, ((ih _ hmem).mp hrest).2⟩
      · rintro ⟨c, hmem, hx⟩
        cases rest with
        | nil =>
          rw [get?_nil, Option.some.injEq] at hx
          subst hx
          exact .inl (List.mem_map.mpr ⟨_, hmem, rfl⟩)
        | cons next rest =>
          exact .inr ⟨name, c, _, hmem, ⟨rfl, rfl⟩, (ih _ hmem).mpr ⟨List.cons_ne_nil _ _, hx⟩⟩

private theorem nodup_descendantsAll {entries : List (RawText × Entry)} (distinct : (entries.map Prod.fst).Nodup)
    (hbelow : ∀ x ∈ entries, (x.2.descendants.map Prod.fst).Nodup) :
    ((descendantsAll entries).map Prod.fst).Nodup := by
  induction entries with
  | nil => simp [descendantsAll]
  | cons entry entries ih =>
    obtain ⟨key, value⟩ := entry
    rw [List.map_cons, List.nodup_cons] at distinct
    obtain ⟨hvalue, hrest⟩ := List.forall_mem_cons.mp hbelow
    have hhead : ((value.descendants.map fun x => (key :: x.1, x.2)).map Prod.fst) =
        (value.descendants.map Prod.fst).map (key :: ·) := by
      rw [List.map_map, List.map_map]
      rfl
    rw [descendantsAll, List.map_append, hhead, List.nodup_append]
    refine ⟨hvalue.map List.cons_injective, ih distinct.2 hrest, ?_⟩
    rintro _ hleft names hright rfl
    obtain ⟨rest, _, rfl⟩ := List.mem_map.mp hleft
    obtain ⟨⟨_, x⟩, hmem, hnames⟩ := List.mem_map.mp hright
    obtain ⟨name, c, _, hname, heq, _⟩ := mem_descendantsAll_iff.mp hmem
    obtain ⟨rfl, _⟩ := List.cons.inj (hnames.symm.trans heq)
    exact distinct.1 (List.mem_map.mpr ⟨_, hname, rfl⟩)

/-- No way leads to two of the entries below. -/
theorem WellFormed.nodup_descendants {e : Entry} (h : e.WellFormed) : (e.descendants.map Prod.fst).Nodup := by
  induction h with
  | file content => simp [descendants]
  | directory entries hnames distinct below ih =>
    have hheld : ((entries.map fun x => ([x.1], x.2)).map Prod.fst) = (entries.map Prod.fst).map ([·]) := by
      rw [List.map_map, List.map_map]
      rfl
    rw [descendants, List.map_append, hheld, List.nodup_append]
    refine ⟨distinct.map List.singleton_injective, nodup_descendantsAll distinct ih, ?_⟩
    rintro _ hleft names hright rfl
    obtain ⟨name, _, rfl⟩ := List.mem_map.mp hleft
    obtain ⟨⟨_, x⟩, hmem, heq⟩ := List.mem_map.mp hright
    obtain ⟨_, c, rest, hc, hnames, hrest⟩ := mem_descendantsAll_iff.mp hmem
    have hempty : rest = [] := (List.cons.inj (heq.symm.trans hnames)).2.symm
    exact (((below _ hc).mem_descendants_iff).mp hrest).1 hempty

end Entry

/-! ### Following a path -/

private theorem Path.follow_append (place parts rest : List RawText) :
    follow place (parts ++ rest) = follow (follow place parts) rest :=
  List.foldl_append ..

theorem Path.follow_names {names : List RawText} (h : ∀ name ∈ names, IsName name) (place : List RawText) :
    follow place names = place ++ names := by
  induction names generalizing place with
  | nil => simp [follow]
  | cons name names ih =>
    obtain ⟨hname, hnames⟩ := List.forall_mem_cons.mp h
    have hstep : follow place (name :: names) = follow (place ++ [name]) names := by
      simp [follow, hname.ne_dots]
    rw [hstep, ih hnames, List.append_assoc, List.singleton_append]

theorem Path.place_extend {names : List RawText} (hnames : ∀ name ∈ names, IsName name) (p : Path) :
    place (p.extend names).parts = place p.parts ++ names := by
  rw [place, extend, follow_append, follow_names hnames]
  rfl

/-- A step of a walk is made from a directory, up or along a name that is short enough. -/
theorem walk_cons {root : Entry} {place : List RawText} {name : RawText} {entries : List (RawText × Entry)}
    (hplace : root.get? place = some (.directory entries)) (hname : name = raw ".." ∨ name.size ≤ maxNameBytes)
    (rest : List RawText) : walk root place (name :: rest) = walk root (Path.follow place [name]) rest := by
  have hfollow : Path.follow place [name] = if name = raw ".." then place.dropLast else place ++ [name] := rfl
  rw [walk, hplace, hfollow]
  by_cases hdots : name = raw ".."
  · simp [hdots]
  · simp [hdots, Nat.not_lt.mpr (hname.resolve_left hdots)]

theorem walk_cons_found {root e : Entry} {place rest : List RawText} {name : RawText}
    (h : walk root place (name :: rest) = .found e) :
    ∃ entries, root.get? place = some (.directory entries) ∧
      (name = raw ".." ∨ name.size ≤ maxNameBytes) ∧ walk root (Path.follow place [name]) rest = .found e := by
  have hstep := h
  rw [walk] at h
  split at h
  · rename_i entries hplace
    have hname : name = raw ".." ∨ name.size ≤ maxNameBytes := by
      by_contra hlong
      rw [not_or, Nat.not_le] at hlong
      simp [hlong] at h
    rw [walk_cons hplace hname] at hstep
    exact ⟨entries, hplace, hname, hstep⟩
  · simp at h

theorem get?_of_walk {root e : Entry} {place parts : List RawText} (h : walk root place parts = .found e) :
    root.get? (Path.follow place parts) = some e := by
  induction parts generalizing place with
  | nil =>
    rw [walk] at h
    split at h
    · rename_i x hx
      rw [Lookup.found.injEq] at h
      rw [← h]
      exact hx
    · simp at h
  | cons name parts ih =>
    obtain ⟨_, _, _, hrest⟩ := walk_cons_found h
    exact ih hrest

theorem walk_append {root e : Entry} {place parts : List RawText} (h : walk root place parts = .found e)
    (names : List RawText) : walk root place (parts ++ names) = walk root (Path.follow place parts) names := by
  induction parts generalizing place with
  | nil => rfl
  | cons name parts ih =>
    obtain ⟨_, hplace, hname, hrest⟩ := walk_cons_found h
    rw [List.cons_append, walk_cons hplace hname, ih hrest]
    rfl

/-- A walk along names leads to what is below its start. -/
theorem walk_names {root e x : Entry} {place names : List RawText} (hplace : root.get? place = some e)
    (hnames : ∀ name ∈ names, IsName name) (hx : e.get? names = some x) : walk root place names = .found x := by
  induction names generalizing e place with
  | nil =>
    rw [Entry.get?_nil, Option.some.injEq] at hx
    subst hx
    simp [walk, hplace]
  | cons name names ih =>
    obtain ⟨hname, hnames⟩ := List.forall_mem_cons.mp hnames
    obtain ⟨c, hc, hrest⟩ := Option.bind_eq_some_iff.mp (Entry.get?_cons .. ▸ hx)
    cases e with
    | file content => simp [Entry.child?] at hc
    | directory entries =>
      have hbelow : root.get? (Path.follow place [name]) = some c := by
        rw [Path.follow_names (by simpa using hname), Entry.get?_append, hplace, Option.bind_some, Entry.get?_cons, hc]
        rfl
      rw [walk_cons hplace (.inr hname.short)]
      exact ih hbelow hnames hrest

/-! ### The texts of paths -/

@[simp]
theorem Path.anchor_extend (p : Path) (names : List RawText) : (p.extend names).anchor = p.anchor :=
  rfl

@[simp]
theorem Path.parts_extend (p : Path) (names : List RawText) : (p.extend names).parts = p.parts ++ names :=
  rfl

theorem Path.extend_nil (p : Path) : p.extend [] = p := by
  rw [extend, List.append_nil]

theorem Path.anchor_absolute (workingDirectory : List RawText) (p : Path) :
    (p.absolute workingDirectory).anchor ≠ .relative := by
  rw [absolute]
  split
  · simp
  · assumption

theorem Path.absolute_eq_self {p : Path} (h : p.anchor ≠ .relative) (workingDirectory : List RawText) :
    p.absolute workingDirectory = p :=
  if_neg h

theorem intercalate_append {α : Type} {sep : List α} {ls ms : List (List α)} (hls : ls ≠ []) (hms : ms ≠ []) :
    sep.intercalate (ls ++ ms) = sep.intercalate ls ++ sep ++ sep.intercalate ms := by
  induction ls with
  | nil => exact absurd rfl hls
  | cons l ls ih =>
    by_cases hrest : ls = []
    · subst hrest
      rw [List.singleton_append, List.intercalate_cons_of_ne_nil hms, List.intercalate_singleton]
    · rw [List.cons_append, List.intercalate_cons_of_ne_nil (by simp [hrest]), ih hrest,
        List.intercalate_cons_of_ne_nil hrest]
      simp only [List.append_assoc]

private theorem Path.text_extend {p : Path} {names : List RawText} (h : p.anchor ≠ .relative) (hnames : names ≠ []) :
    (p.extend names).text =
      p.text ++ (if p.parts = [] then [] else [Letter.char '/']) ++ [Letter.char '/'].intercalate names := by
  have hext : (p.extend names).text = p.anchor.text ++ [Letter.char '/'].intercalate (p.parts ++ names) := by
    simp [text, extend, h]
  have hself : p.text = p.anchor.text ++ [Letter.char '/'].intercalate p.parts := by simp [text, h]
  rw [hext, hself]
  by_cases hparts : p.parts = []
  · simp [hparts]
  · rw [intercalate_append hparts hnames, if_neg hparts]
    simp only [List.append_assoc]

private theorem intercalate_inj {names names' : List RawText} (hne : names ≠ []) (hne' : names' ≠ [])
    (hslash : ∀ name ∈ names, .char '/' ∉ name) (hslash' : ∀ name ∈ names', .char '/' ∉ name)
    (h : [Letter.char '/'].intercalate names = [Letter.char '/'].intercalate names') : names = names' := by
  rw [← List.splitOn_intercalate _ hslash hne, ← List.splitOn_intercalate _ hslash' hne', h]

theorem Path.text_of_parts {p : Path} (h : p.parts ≠ []) :
    p.text = p.anchor.text ++ [Letter.char '/'].intercalate p.parts := by
  simp [text, h]

/-- Different ways from a directory have paths with different texts. -/
theorem Path.text_extend_inj {p : Path} {names names' : List RawText} (hne : names ≠ []) (hne' : names' ≠ [])
    (hnames : ∀ name ∈ names, IsName name) (hnames' : ∀ name ∈ names', IsName name)
    (htext : (p.extend names).text = (p.extend names').text) : names = names' := by
  have hinj := intercalate_inj hne hne' (fun n hn => (hnames n hn).no_slash) (fun n hn => (hnames' n hn).no_slash)
  rw [text_of_parts (by simp [hne]), text_of_parts (by simp [hne'])] at htext
  simp only [anchor_extend, parts_extend, List.append_cancel_left_eq] at htext
  by_cases hparts : p.parts = []
  · simp only [hparts, List.nil_append] at htext
    exact hinj htext
  · rw [intercalate_append hparts hne, intercalate_append hparts hne', List.append_cancel_left_eq] at htext
    exact hinj htext

theorem null_not_mem_intercalate {names : List RawText} (h : ∀ name ∈ names, .char '\x00' ∉ name) :
    .char '\x00' ∉ [Letter.char '/'].intercalate names := by
  induction names with
  | nil => simp
  | cons name names ih =>
    obtain ⟨hname, hnames⟩ := List.forall_mem_cons.mp h
    by_cases hempty : names = []
    · subst hempty
      simpa using hname
    · have hrest := ih hnames
      rw [List.intercalate_cons_of_ne_nil hempty]
      simp only [List.mem_append, not_or]
      exact ⟨⟨hname, by decide⟩, hrest⟩

/-! ### Looking up a path -/

/-- The place from which a path is followed. -/
def Path.start (workingDirectory : List RawText) (p : Path) : List RawText :=
  if p.anchor = .relative then workingDirectory else []

theorem lookup_eq_found_iff {root e : Entry} {workingDirectory : List RawText} {p : Path} :
    lookup root workingDirectory p = .found e ↔
      .char '\x00' ∉ p.text ∧ p.isTooLong = false ∧ walk root (p.start workingDirectory) p.parts = .found e := by
  rw [lookup, ← Path.start]
  by_cases hnull : .char '\x00' ∈ p.text
  · simp [hnull]
  · by_cases hlong : p.isTooLong = true <;> simp [hnull, hlong]

theorem Entry.WellFormed.of_lookup {root e : Entry} {workingDirectory : List RawText} {p : Path}
    (hroot : root.WellFormed) (h : lookup root workingDirectory p = .found e) : e.WellFormed :=
  (hroot.of_get? (get?_of_walk (lookup_eq_found_iff.mp h).2.2)).2

theorem lookup_found {root e : Entry} {workingDirectory : List RawText} {p : Path} (hp : p.anchor ≠ .relative)
    (h : lookup root workingDirectory p = .found e) :
    .char '\x00' ∉ p.text ∧ p.isTooLong = false ∧ walk root [] p.parts = .found e := by
  simpa [Path.start, hp] using lookup_eq_found_iff.mp h

theorem lookup_of_walk {root e : Entry} {p : Path} (hp : p.anchor ≠ .relative) (hnull : .char '\x00' ∉ p.text)
    (hlong : p.isTooLong = false) (hwalk : walk root [] p.parts = .found e) (workingDirectory : List RawText) :
    lookup root workingDirectory p = .found e :=
  lookup_eq_found_iff.mpr ⟨hnull, hlong, by simpa [Path.start, hp] using hwalk⟩

/-- Whatever is below a directory is found at its path, unless that is too long. -/
theorem lookup_extend {root e x : Entry} {workingDirectory names : List RawText} {p : Path}
    (hp : p.anchor ≠ .relative) (h : lookup root workingDirectory p = .found e) (hne : names ≠ [])
    (hnames : ∀ name ∈ names, IsName name) (hx : e.get? names = some x)
    (hlong : (p.extend names).isTooLong = false) : lookup root workingDirectory (p.extend names) = .found x := by
  obtain ⟨hnull, _, hwalk⟩ := lookup_found hp h
  have hbelow : walk root [] (p.parts ++ names) = .found x := by
    rw [walk_append hwalk]
    exact walk_names (get?_of_walk hwalk) hnames hx
  have hrest := null_not_mem_intercalate fun name hname => (hnames name hname).no_null
  have hnull' : .char '\x00' ∉ (p.extend names).text := by
    rw [Path.text_extend hp hne]
    simp only [List.mem_append, not_or]
    exact ⟨⟨hnull, by split <;> decide⟩, hrest⟩
  have hanchor : (p.extend names).anchor ≠ .relative := hp
  exact lookup_of_walk hanchor hnull' hlong hbelow workingDirectory

/-! ### Changing one file -/

namespace Entry

/-- The content of a file. -/
def content? : Entry → Option ByteArray
  | file content => some content
  | directory _ => none

private theorem lookup_setChild (name key : RawText) (new : Entry) (entries : List (RawText × Entry)) :
    (setChild name (some new) entries).lookup key = if key = name then some new else entries.lookup key := by
  have hrest : key ≠ name → (entries.filter fun x => x.1 != name).lookup key = entries.lookup key := by
    intro hne
    induction entries with
    | nil => rfl
    | cons x entries ih =>
      obtain ⟨other, value⟩ := x
      by_cases hkey : key = other
      · subst hkey
        simp [hne]
      · have hbeq : (key == other) = false := beq_false_of_ne hkey
        rw [List.filter_cons, List.lookup_cons, hbeq]
        split
        · rw [List.lookup_cons, hbeq]
          exact ih
        · exact ih
  by_cases hkey : key = name
  · subst hkey
    simp [setChild]
  · have hbeq : (key == name) = false := beq_false_of_ne hkey
    simp [setChild, List.lookup_cons, hbeq, hkey, hrest hkey]

/-- The way to a file starts in a directory, and the file is put below the entry that is there. -/
theorem put_cons {root old : Entry} {name : RawText} {rest : List RawText}
    (h : root.get? (name :: rest) = some old) (new : Entry) :
    ∃ entries c, root = .directory entries ∧ entries.lookup name = some c ∧ c.get? rest = some old ∧
      put new (name :: rest) root = .directory (setChild name (some (put new rest c)) entries) := by
  obtain ⟨c, hc, hrest⟩ := Option.bind_eq_some_iff.mp (get?_cons .. ▸ h)
  cases root with
  | file content => simp [child?] at hc
  | directory entries =>
    rw [child?] at hc
    exact ⟨entries, c, rfl, hc, hrest, by rw [put, hc, Option.getD_some]⟩

theorem wellFormed_put {root old new : Entry} {place : List RawText} (h : root.WellFormed)
    (hold : root.get? place = some old) (hnew : new.WellFormed) : (put new place root).WellFormed := by
  induction place generalizing root with
  | nil => exact hnew
  | cons name rest ih =>
    have hname : IsName name := (h.of_get? hold).1 name List.mem_cons_self
    obtain ⟨entries, c, rfl, hc, hrest, hput⟩ := put_cons hold new
    obtain ⟨_, hwell⟩ := h.mem_of_child? hc
    cases h with
    | directory _ hnames distinct hbelow =>
      have hset : setChild name (some (put new rest c)) entries =
          (name, put new rest c) :: entries.filter fun x => x.1 != name := rfl
      rw [hput, hset]
      refine .directory _ ?_ ?_ ?_
      · exact List.forall_mem_cons.mpr ⟨hname, fun x hx => hnames x (List.mem_of_mem_filter hx)⟩
      · rw [List.map_cons, List.nodup_cons]
        refine ⟨by simp, ?_⟩
        exact distinct.sublist (List.filter_sublist.map Prod.fst)
      · exact List.forall_mem_cons.mpr ⟨ih hwell hrest, fun x hx => hbelow x (List.mem_of_mem_filter hx)⟩

/-- What is at the places of a tree after one of its files was changed. -/
theorem content?_get?_put {root : Entry} {place : List RawText} {old : ByteArray}
    (h : root.get? place = some (.file old)) (new : ByteArray) (names : List RawText) :
    ((put (.file new) place root).get? names).map content? =
      if names = place then some (some new) else (root.get? names).map content? := by
  induction place generalizing root names with
  | nil =>
    rw [get?_nil, Option.some.injEq] at h
    subst h
    cases names with
    | nil => rfl
    | cons name names => rfl
  | cons name rest ih =>
    obtain ⟨entries, c, rfl, hc, hrest, hput⟩ := put_cons h (.file new)
    rw [hput]
    cases names with
    | nil => rfl
    | cons key names =>
      rw [get?_cons, get?_cons, child?, child?, lookup_setChild]
      by_cases hkey : key = name
      · subst hkey
        rw [if_pos rfl, hc, Option.bind_some, Option.bind_some, ih hrest]
        simp
      · simp [hkey]

end Entry

/-- Two trees with the same places, which are files or directories in both, and the same contents but for one
file. -/
structure SameBut (changed : List RawText) (root root' : Entry) : Prop where
  kinds : ∀ names, (root'.get? names).map (fun x => x.content?.isSome) =
    (root.get? names).map fun x => x.content?.isSome
  contents : ∀ names, names ≠ changed → (root'.get? names).map Entry.content? = (root.get? names).map Entry.content?

namespace SameBut

theorem put {root : Entry} {changed : List RawText} {old : ByteArray} (h : root.get? changed = some (.file old))
    (new : ByteArray) : SameBut changed root (Entry.put (.file new) changed root) where
  kinds names := by
    have hcontent := congrArg (Option.map Option.isSome) (Entry.content?_get?_put h new names)
    rw [Option.map_map] at hcontent
    refine hcontent.trans ?_
    split
    · rename_i hplace
      rw [hplace, h]
      rfl
    · rw [Option.map_map]
      rfl
  contents names hne := by rw [Entry.content?_get?_put h new names, if_neg hne]

theorem symm {root root' : Entry} {changed : List RawText} (h : SameBut changed root root') :
    SameBut changed root' root where
  kinds names := (h.kinds names).symm
  contents names hne := (h.contents names hne).symm

/-- Which paths lead somewhere depends only on which places are files and which are directories. -/
theorem walk {root root' e : Entry} {changed place parts : List RawText} (h : SameBut changed root root')
    (hwalk : Files.walk root place parts = .found e) : ∃ e', Files.walk root' place parts = .found e' := by
  induction parts generalizing place with
  | nil =>
    have hplace : root.get? place = some e := get?_of_walk hwalk
    have hkind := h.kinds place
    rw [hplace, Option.map_some] at hkind
    obtain ⟨e', hafter, _⟩ := Option.map_eq_some_iff.mp hkind
    exact ⟨e', by rw [Files.walk, hafter]⟩
  | cons name parts ih =>
    obtain ⟨entries, hplace, hname, hrest⟩ := walk_cons_found hwalk
    have hkind := h.kinds place
    rw [hplace, Option.map_some] at hkind
    obtain ⟨e', hafter, hdirectory⟩ := Option.map_eq_some_iff.mp hkind
    cases e' with
    | file content => simp [Entry.content?] at hdirectory
    | directory entries' =>
      rw [walk_cons hafter hname]
      exact ih hrest

theorem lookup {root root' e : Entry} {changed workingDirectory : List RawText} {p : Path}
    (h : SameBut changed root root') (hp : p.anchor ≠ .relative)
    (hfound : Files.lookup root workingDirectory p = .found e) :
    ∃ e', Files.lookup root' workingDirectory p = .found e' ∧ e'.content?.isSome = e.content?.isSome ∧
      (Path.place p.parts ≠ changed → e'.content? = e.content?) := by
  obtain ⟨hnull, hlong, hwalk⟩ := lookup_found hp hfound
  obtain ⟨e', hwalk'⟩ := h.walk hwalk
  have hplace : root.get? (Path.place p.parts) = some e := get?_of_walk hwalk
  have hplace' : root'.get? (Path.place p.parts) = some e' := get?_of_walk hwalk'
  refine ⟨e', lookup_of_walk hp hnull hlong hwalk' workingDirectory, ?_, ?_⟩
  · simpa [hplace, hplace'] using h.kinds (Path.place p.parts)
  · intro hne
    simpa [hplace, hplace'] using h.contents (Path.place p.parts) hne

end SameBut

end ClassOutline.Files
