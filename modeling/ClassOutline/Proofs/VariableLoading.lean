import ClassOutline.Proofs.VariableBindings
import ClassOutline.Service.Workspace

/-!
# Where variables get their values

A variable that is set stays as it is. Any other one gets the value that the nearest file of variables gives it, or
else that of the file of the program, unless the nearest file turns the loading of files off. To load the files again
changes nothing. All this needs files that can be read and values that the system takes.
-/
namespace ClassOutline.Service.Workspace

open Config

/-! ### The nearest file -/

/-- The directory of a file of variables is the working directory or above it, and no directory in between has one. -/
def IsNearest (w : Workspace) (content : ByteArray) : Prop :=
  ∃ place below, w.workingDirectory = place ++ below ∧ w.variablesAt? place = some content ∧
    ∀ between rest, below = between ++ rest → between ≠ [] → w.variablesAt? (place ++ between) = none

private theorem findSome?_upwards_eq_none_iff {α : Type} {f : List RawText → Option α} {names : List RawText} :
    (upwards names).findSome? f = none ↔ ∀ place below, names = place ++ below → f place = none := by
  induction names generalizing f with
  | nil => simp [upwards]
  | cons name names ih =>
    rw [upwards, List.findSome?_append, List.findSome?_map, Option.or_eq_none_iff, ih]
    constructor
    · rintro ⟨hbelow, hroot⟩ place below hnames
      cases place with
      | nil => simpa using hroot
      | cons first place =>
        obtain ⟨rfl, hrest⟩ := List.cons.inj hnames
        exact hbelow place below hrest
    · intro h
      refine ⟨fun place below hnames => h (name :: place) below (by rw [hnames, List.cons_append]), ?_⟩
      simpa using h [] _ rfl

private theorem findSome?_upwards_eq_some_iff {α : Type} {f : List RawText → Option α} {names : List RawText} {x : α} :
    (upwards names).findSome? f = some x ↔ ∃ place below, names = place ++ below ∧ f place = some x ∧
      ∀ between rest, below = between ++ rest → between ≠ [] → f (place ++ between) = none := by
  induction names generalizing f with
  | nil =>
    constructor
    · intro h
      refine ⟨[], [], rfl, by simpa [upwards] using h, fun between rest hempty hne => absurd ?_ hne⟩
      exact (List.append_eq_nil_iff.mp hempty.symm).1
    · rintro ⟨place, below, hempty, hx, _⟩
      obtain ⟨rfl, rfl⟩ := List.append_eq_nil_iff.mp hempty.symm
      simpa [upwards] using hx
  | cons name names ih =>
    have hroot : [[]].findSome? f = f [] := by simp
    rw [upwards, List.findSome?_append, List.findSome?_map, hroot, Option.or_eq_some_iff, ih,
      findSome?_upwards_eq_none_iff]
    constructor
    · rintro (⟨place, below, rfl, hx, hnone⟩ | ⟨hnone, hx⟩)
      · exact ⟨name :: place, below, rfl, hx, hnone⟩
      · refine ⟨[], name :: names, rfl, hx, fun between rest hnames hne => ?_⟩
        cases between with
        | nil => exact absurd rfl hne
        | cons first between =>
          obtain ⟨rfl, hrest⟩ := List.cons.inj hnames
          exact hnone between rest hrest
    · rintro ⟨place, below, hnames, hx, hnone⟩
      cases place with
      | nil =>
        refine .inr ⟨fun between rest hrest => hnone (name :: between) rest ?_ (by simp), hx⟩
        rw [← hnames.trans (List.nil_append below), hrest, List.cons_append]
      | cons first place =>
        obtain ⟨rfl, hrest⟩ := List.cons.inj hnames
        exact .inl ⟨place, below, hrest, hx, hnone⟩

/-- The nearest file of variables, or none if there is none in the working directory or above it. -/
def NearestFile (w : Workspace) : Option ByteArray → Prop
  | some content => w.IsNearest content
  | none => ∀ place below, w.workingDirectory = place ++ below → w.variablesAt? place = none

private theorem nearestFile_iff {w : Workspace} {file : Option ByteArray} :
    w.NearestFile file ↔ w.nearestVariables? = file := by
  cases file with
  | none => exact findSome?_upwards_eq_none_iff.symm
  | some content => exact findSome?_upwards_eq_some_iff.symm

/-! ### Loading both files -/

/-- A file turns the loading of files off. -/
def TurnsOff (bs : List Binding) : Prop :=
  ∃ value, Gives bs switch value ∧ IsOff value

/-- A variable gets a value from one of two files, the nearest and that of the program. -/
def GetsFrom (near package : List Binding) (name value : String) : Prop :=
  Gives near name value ∨
    (∀ other, ¬ Gives near name other) ∧ ¬ TurnsOff near ∧ Gives package name value

/-- The system takes all values that variables get. -/
def Settable (before : Environment) (near package : List Binding) : Prop :=
  ∀ name value, before.get? name = none → GetsFrom near package name value →
    Environment.refusal? name value = none

section Precedence

variable {reader : VariableReader} (hreader : reader.Documented) {w : Workspace}

private theorem loadBoth_of_fault {fault : LoadingFault} (h : (w.loadNearest reader).2 = some fault) :
    w.loadBoth reader = ((w.loadNearest reader).1, some fault) := by
  unfold loadBoth
  rcases hload : w.loadNearest reader with ⟨env, outcome⟩
  rw [hload] at h
  cases h
  rfl

private theorem loadBoth_of_loaded (h : (w.loadNearest reader).2 = none) :
    w.loadBoth reader = (w.loadNearest reader).1.load reader (w.variablesAt? w.packageRoot) := by
  unfold loadBoth
  rcases hload : w.loadNearest reader with ⟨env, outcome⟩
  rw [hload] at h
  cases h
  rfl

private theorem get?_loadBoth_of_isSet {name value : String} (h : w.environment.get? name = some value) :
    (w.loadBoth reader).1.get? name = some value := by
  have hnearest : (w.loadNearest reader).1.get? name = some value := Environment.get?_load_of_isSet reader _ h
  cases hload : (w.loadNearest reader).2 with
  | some fault => rwa [loadBoth_of_fault hload]
  | none =>
    rw [loadBoth_of_loaded hload]
    exact Environment.get?_load_of_isSet reader _ hnearest

variable (hunset : w.environment.get? switch = none) {near package : List Binding}
  (hnear : reader.Finds w.nearestVariables? near) (hpackage : reader.Finds (w.variablesAt? w.packageRoot) package)

include hunset

private theorem not_turnedOff_of_unset : ¬ w.environment.TurnedOff := by
  rintro ⟨value, hvalue, _⟩
  rw [hunset] at hvalue
  cases hvalue

include hnear

private theorem get?_loadNearest_iff (hload : (w.loadNearest reader).2 = none) (name value : String) :
    (w.loadNearest reader).1.get? name = some value ↔
      w.environment.get? name = some value ∨ w.environment.get? name = none ∧ Gives near name value :=
  Environment.get?_load_iff (not_turnedOff_of_unset hunset) hnear hload name value

private theorem turnedOff_loadNearest_iff (hload : (w.loadNearest reader).2 = none) :
    (w.loadNearest reader).1.TurnedOff ↔ TurnsOff near := by
  rw [Environment.TurnedOff, TurnsOff]
  simp [get?_loadNearest_iff hunset hnear hload, hunset]

private theorem loadNearest_eq_none_iff : (w.loadNearest reader).2 = none ↔
    ∀ name value, w.environment.get? name = none → Gives near name value →
      Environment.refusal? name value = none :=
  Environment.load_eq_none_iff (not_turnedOff_of_unset hunset) hnear

include hreader hpackage

/-- What a variable has after both files are loaded, as far as that goes, is from before or from a file. -/
theorem getsFrom_of_get?_loadBoth {name value : String} (h : (w.loadBoth reader).1.get? name = some value) :
    w.environment.get? name = some value ∨
      w.environment.get? name = none ∧ GetsFrom near package name value := by
  have hnearest {name value : String} (h : (w.loadNearest reader).1.get? name = some value) :
      w.environment.get? name = some value ∨ w.environment.get? name = none ∧ GetsFrom near package name value :=
    (Environment.gives_of_get?_load (not_turnedOff_of_unset hunset) hnear h).imp_right fun hnew =>
      ⟨hnew.1, .inl hnew.2⟩
  cases hload : (w.loadNearest reader).2 with
  | some fault =>
    rw [loadBoth_of_fault hload] at h
    exact hnearest h
  | none =>
    rw [loadBoth_of_loaded hload] at h
    by_cases hoff : (w.loadNearest reader).1.TurnedOff
    · rw [Environment.load_of_turnedOff hreader hoff] at h
      exact hnearest h
    · rcases Environment.gives_of_get?_load hoff hpackage h with hold | ⟨hnone, hgives⟩
      · exact hnearest hold
      · have hkept := mt (turnedOff_loadNearest_iff hunset hnear hload).mpr hoff
        obtain ⟨hunsetName, hother⟩ :=
          (Environment.get?_load_eq_none_iff (not_turnedOff_of_unset hunset) hnear hload name).mp hnone
        exact .inr ⟨hunsetName, .inr ⟨hother, hkept, hgives⟩⟩

/-- Loading succeeds exactly if the system takes all values that variables get. -/
theorem loadBoth_eq_none_iff : (w.loadBoth reader).2 = none ↔ Settable w.environment near package := by
  have hnearest := loadNearest_eq_none_iff hunset hnear
  cases hload : (w.loadNearest reader).2 with
  | some fault =>
    rw [loadBoth_of_fault hload]
    refine iff_of_false (Option.some_ne_none fault) fun hsettable => ?_
    rw [hnearest.mpr fun name value hnone hgives => hsettable name value hnone (.inl hgives)] at hload
    cases hload
  | none =>
    rw [loadBoth_of_loaded hload]
    have hoffIff := turnedOff_loadNearest_iff hunset hnear hload
    by_cases hoff : (w.loadNearest reader).1.TurnedOff
    · rw [Environment.load_of_turnedOff hreader hoff]
      refine iff_of_true rfl fun name value hnone hgets => ?_
      rcases hgets with hgives | ⟨_, hkept, _⟩
      · exact hnearest.mp hload name value hnone hgives
      · exact absurd (hoffIff.mp hoff) hkept
    · rw [Environment.load_eq_none_iff hoff hpackage]
      have hnoneIff := Environment.get?_load_eq_none_iff (not_turnedOff_of_unset hunset) hnear hload
      constructor
      · rintro hpackageTakes name value hnone (hgives | ⟨hother, _, hgives⟩)
        · exact hnearest.mp hload name value hnone hgives
        · exact hpackageTakes name value ((hnoneIff name).mpr ⟨hnone, hother⟩) hgives
      · intro hsettable name value hnone hgives
        obtain ⟨hunsetName, hother⟩ := (hnoneIff name).mp hnone
        exact hsettable name value hunsetName (.inr ⟨hother, mt hoffIff.mpr hoff, hgives⟩)

/-- The value of a variable after both files are loaded. -/
theorem get?_loadBoth_iff (hdone : (w.loadBoth reader).2 = none) (name value : String) :
    (w.loadBoth reader).1.get? name = some value ↔
      w.environment.get? name = some value ∨
        w.environment.get? name = none ∧ GetsFrom near package name value := by
  refine ⟨getsFrom_of_get?_loadBoth hreader hunset hnear hpackage, ?_⟩
  have hload : (w.loadNearest reader).2 = none := by
    cases hload : (w.loadNearest reader).2 with
    | none => rfl
    | some fault =>
      rw [loadBoth_of_fault hload] at hdone
      cases hdone
  rw [loadBoth_of_loaded hload] at hdone ⊢
  have hnearest := get?_loadNearest_iff hunset hnear hload name value
  rintro (hset | ⟨hnone, hgives | ⟨hother, hkept, hgives⟩⟩)
  · exact Environment.get?_load_of_isSet reader _ (hnearest.mpr (.inl hset))
  · exact Environment.get?_load_of_isSet reader _ (hnearest.mpr (.inr ⟨hnone, hgives⟩))
  · have hon := mt (turnedOff_loadNearest_iff hunset hnear hload).mp hkept
    have hstill := (Environment.get?_load_eq_none_iff (not_turnedOff_of_unset hunset) hnear hload name).mpr
      ⟨hnone, hother⟩
    exact (Environment.get?_load_iff hon hpackage hdone name value).mpr (.inr ⟨hstill, hgives⟩)

/-- To load the files again changes nothing. -/
theorem loadBoth_loadVariables (hdone : (w.loadBoth reader).2 = none) :
    (w.loadVariables reader).loadBoth reader = ((w.loadBoth reader).1, none) := by
  have hvalue := get?_loadBoth_iff hreader hunset hnear hpackage hdone
  have hset {name value : String} (h : GetsFrom near package name value) : (w.loadBoth reader).1.get? name ≠ none := by
    cases hbefore : w.environment.get? name with
    | some old => simp [(hvalue name old).mpr (.inl hbefore)]
    | none => simp [(hvalue name value).mpr (.inr ⟨hbefore, h⟩)]
  have hfirst : (w.loadVariables reader).loadNearest reader = ((w.loadBoth reader).1, none) :=
    Environment.load_eq_self hreader hnear fun _ name value hgives => hset (.inl hgives)
  have hsecond : (w.loadBoth reader).1.load reader (w.variablesAt? w.packageRoot) = ((w.loadBoth reader).1, none) := by
    refine Environment.load_eq_self hreader hpackage fun hon name value hgives => ?_
    have hkept : ¬ TurnsOff near := by
      rintro ⟨off, hoff, hword⟩
      exact hon ⟨off, (hvalue _ off).mpr (.inr ⟨hunset, .inl hoff⟩), hword⟩
    by_cases hnearest : ∃ other, Gives near name other
    · obtain ⟨other, hother⟩ := hnearest
      exact hset (.inl hother)
    · exact hset (.inr ⟨not_exists.mp hnearest, hkept, hgives⟩)
  rw [loadBoth_of_loaded (by rw [hfirst]), hfirst]
  exact hsecond

end Precedence

/-- Where the variables after loading have their values from. -/
structure TakesValues (before after : Environment) (near package : List Binding) : Prop where
  /-- What was set stays, be it empty. -/
  kept : ∀ name value, before.get? name = some value → after.get? name = some value
  nearest : ∀ name value, before.get? name = none → Gives near name value → after.get? name = some value
  fallback : ∀ name value, before.get? name = none → (∀ other, ¬ Gives near name other) → ¬ TurnsOff near →
    Gives package name value → after.get? name = some value
  unset : ∀ name, before.get? name = none → (∀ value, ¬ Gives near name value) →
    (TurnsOff near ∨ ∀ value, ¬ Gives package name value) → after.get? name = none

private theorem takesValues_of_iff {before after : Environment} {near package : List Binding}
    (h : ∀ name value, after.get? name = some value ↔
      before.get? name = some value ∨ before.get? name = none ∧ GetsFrom near package name value) :
    TakesValues before after near package where
  kept name value hset := (h name value).mpr (.inl hset)
  nearest name value hnew hgives := (h name value).mpr (.inr ⟨hnew, .inl hgives⟩)
  fallback name value hnew hnone hkept hgives := (h name value).mpr (.inr ⟨hnew, .inr ⟨hnone, hkept, hgives⟩⟩)
  unset name hnew hnone hneither := by
    rw [Option.eq_none_iff_forall_ne_some]
    intro value hset
    rcases (h name value).mp hset with hold | ⟨_, hgives | ⟨_, hkept, hgives⟩⟩
    · simp [hnew] at hold
    · exact hnone value hgives
    · exact hneither.elim hkept fun hno => hno value hgives

/-- Files of variables in the root, in a directory and in that of the program; the program works below the directory. -/
def layered (near package : String) : Workspace where
  root := .directory [(raw ".env", .file "HOST=far".toUTF8),
    (raw "a", .directory [(raw ".env", .file near.toUTF8), (raw "b", .empty)]),
    (raw "p", .directory [(raw ".env", .file package.toUTF8)])]
  workingDirectory := [raw "a", raw "b"]
  packageRoot := [raw "p"]
  environment := ⟨[("PORT", "")]⟩
  memo := none
  logging := ⟨Log.Level.info.number, []⟩

private theorem allVerbatim_of_no_dollar {bs : List Binding}
    (h : bs.all fun b => (b.2.getD "").toList.all (· != '$')) : VariableFile.AllVerbatim bs := by
  rintro b hb value hvalue tail htail ⟨name, rest, _, _, hreference⟩
  have hmem : '$' ∈ value.toList := by
    apply htail.subset
    rcases hreference with rfl | ⟨_, _, rfl⟩ <;> exact List.mem_cons_self
  have hplain := List.all_eq_true.mp h b hb
  simp only [hvalue, Option.getD_some] at hplain
  simpa using List.all_eq_true.mp hplain '$' hmem

/-- The nearest file binds one name twice and another without a value. -/
def fourNames : Workspace :=
  layered "JSON_INDENT=1\nJSON_INDENT=2\nLOG_LEVEL" "HOST=own\nJSON_INDENT=3\nPORT=4"

/-- What its nearest file binds. -/
def fourNear : List Binding :=
  [("JSON_INDENT", some "1"), ("JSON_INDENT", some "2"), ("LOG_LEVEL", none)]

/-- What the file of the program binds. -/
def fourPackage : List Binding :=
  [("HOST", some "own"), ("JSON_INDENT", some "3"), ("PORT", some "4")]

/-- What is found in a text without a dollar sign. -/
theorem finds_of_text {file : Option ByteArray} {text : List Char} {bs : List Binding} {content : ByteArray}
    (hfile : file = some content) (hdecode : Text.decodeUtf8? content = .ok text)
    (hbindings : VariableFile.bindings text = bs)
    (hplain : bs.all fun b => (b.2.getD "").toList.all (· != '$')) : VariableFile.reader.Finds file bs := by
  subst hfile hbindings
  exact VariableFile.reader_finds hdecode (allVerbatim_of_no_dollar hplain)

private theorem finds_fourNear : VariableFile.reader.Finds fourNames.nearestVariables? fourNear :=
  finds_of_text rfl rfl rfl rfl

private theorem finds_fourPackage :
    VariableFile.reader.Finds (fourNames.variablesAt? fourNames.packageRoot) fourPackage :=
  finds_of_text rfl rfl rfl rfl

private theorem not_gives_of_collected {bs : List Binding} {name : String}
    (h : ∀ b ∈ collected bs, b.1 = name → b.2 = none) (value : String) : ¬ Gives bs name value := by
  intro hgives
  cases h _ (mem_collected_some_iff.mpr hgives) rfl

private theorem settable_fourNames : Settable fourNames.environment fourNear fourPackage := by
  have hnear : ∀ b ∈ collected fourNear, ∀ value, b.2 = some value → Environment.refusal? b.1 value = none := by
    decide
  have hpackage : ∀ b ∈ collected fourPackage, ∀ value, b.2 = some value → Environment.refusal? b.1 value = none := by
    decide
  rintro name value _ (hgives | ⟨_, _, hgives⟩)
  · exact hnear _ (mem_collected_some_iff.mpr hgives) value rfl
  · exact hpackage _ (mem_collected_some_iff.mpr hgives) value rfl

/-- The last value that a file has for a name, with bindings without a value left out of account. -/
def HasLast (bs : List Binding) (name value : String) : Prop :=
  ∃ before after, bs = before ++ (name, some value) :: after ∧ ∀ b ∈ after, b.1 = name → b.2 = none

/-- The nearest file takes a value back and turns files off. -/
def switchedOff : Workspace :=
  layered "LOG_LEVEL=1\nLOG_LEVEL\nPYTHON_DOTENV_DISABLED=1" "HOST=own"

/-- What its nearest file binds. -/
def switchedNear : List Binding :=
  [("LOG_LEVEL", some "1"), ("LOG_LEVEL", none), ("PYTHON_DOTENV_DISABLED", some "1")]

end ClassOutline.Service.Workspace
