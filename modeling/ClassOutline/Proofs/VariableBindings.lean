import ClassOutline.Config.VariableFile
import Mathlib.Data.List.Induction
import Mathlib.Data.List.Nodup
import Mathlib.Data.List.TakeWhile

/-!
# The bindings of a file of variables

How a file is read is left to a reader, of which little is assumed. Inside a file the last binding of a name counts, and
one without a value gives none. A variable that is set stays as it is. The first value that the system does not take
ends the loading.
-/
namespace ClassOutline.Config

/-- The variable that turns the loading of files off, if its value is one of the words for that. -/
def switch : String := "PYTHON_DOTENV_DISABLED"

/-- A value turns the loading of files off. -/
def IsOff (value : String) : Prop :=
  ∃ word ∈ ["1", "true", "t", "yes", "y"], Text.foldIs word value = true

/-- The loading of files is turned off. -/
def Environment.TurnedOff (env : Environment) : Prop :=
  ∃ value, env.get? switch = some value ∧ IsOff value

/-- What is assumed of a reader of files of variables: it finds nothing where there is no file, or while files are
turned off. -/
structure VariableReader.Documented (reader : VariableReader) : Prop where
  missing : ∀ env, (reader env none).bindings = .ok []
  off : ∀ env file, env.TurnedOff → (reader env file).bindings = .ok []

/-- A reader finds the same bindings in a file whatever variables are set, unless files are turned off. So it is with
files in which no value refers to a variable. -/
def VariableReader.Finds (reader : VariableReader) (file : Option ByteArray) (bs : List Binding) : Prop :=
  ∀ env : Environment, ¬ env.TurnedOff → (reader env file).bindings = .ok bs

namespace VariableFile

/-! ### Values without references -/

/-- A text that begins with a reference: a name in braces behind a dollar sign, perhaps with a text for the case that
it has no value. -/
def IsReference (cs : List Char) : Prop :=
  ∃ name rest, '\x7d' ∉ name ∧ ':' ∉ name ∧
    (cs = '$' :: '\x7b' :: (name ++ '\x7d' :: rest) ∨
      ∃ default, '\x7d' ∉ default ∧ cs = '$' :: '\x7b' :: (name ++ ':' :: '-' :: (default ++ '\x7d' :: rest)))

/-- No reference begins anywhere in a value. -/
def Verbatim (cs : List Char) : Prop :=
  ∀ tail, tail <:+ cs → ¬ IsReference tail

private theorem drop_length_takeWhile (p : Char → Bool) (cs : List Char) :
    cs.drop (cs.takeWhile p).length = cs.dropWhile p := by
  have hdrop : (cs.takeWhile p ++ cs.dropWhile p).drop (cs.takeWhile p).length = cs.dropWhile p := List.drop_left
  rwa [List.takeWhile_append_dropWhile] at hdrop

private theorem not_mem_takeWhile {p : Char → Bool} {c : Char} (h : p c = false) (cs : List Char) :
    c ∉ cs.takeWhile p := by
  intro hc
  simp [List.mem_takeWhile_imp hc] at h

private theorem isReference_of_reference? {cs : List Char} {r : String × String × List Char}
    (h : reference? cs = some r) :
    IsReference ('$' :: '\x7b' :: cs) := by
  unfold reference? at h
  dsimp only at h
  generalize hp : (fun c : Char => c != '\x7d' && c != ':') = p at h
  have hcs := List.takeWhile_append_dropWhile (p := p) (l := cs)
  have hbrace : '\x7d' ∉ cs.takeWhile p := not_mem_takeWhile (by simp [← hp]) cs
  have hcolon : ':' ∉ cs.takeWhile p := not_mem_takeWhile (by simp [← hp]) cs
  rw [drop_length_takeWhile] at h
  split at h
  · rename_i rest hrest
    rw [hrest] at hcs
    exact ⟨_, rest, hbrace, hcolon, .inl (by rw [hcs])⟩
  · rename_i rest hrest
    rw [hrest] at hcs
    rw [drop_length_takeWhile] at h
    have hdefault := List.takeWhile_append_dropWhile (p := (· != '\x7d')) (l := rest)
    have hend := List.head?_dropWhile_not (· != '\x7d') rest
    split at h
    · rename_i c after hafter
      rw [hafter] at hdefault hend
      obtain rfl : c = '\x7d' := by simpa using hend
      have hclosed : '\x7d' ∉ rest.takeWhile (· != '\x7d') := not_mem_takeWhile (by decide) rest
      exact ⟨_, after, hbrace, hcolon, .inr ⟨_, hclosed, by rw [hdefault, hcs]⟩⟩
    · cases h
  · cases h

/-- A value without references is taken as it stands, whatever names have a value. -/
theorem interpolate_of_verbatim (value : String → String → String) (fuel : Nat) {cs : List Char} (h : Verbatim cs) :
    interpolate value fuel cs = cs := by
  induction fuel generalizing cs with
  | zero => rfl
  | succ fuel ih =>
    cases cs with
    | nil => rfl
    | cons c cs =>
      have hrest : interpolate value fuel cs = cs := ih fun tail htail => h tail (htail.trans (List.suffix_cons c cs))
      have hplain : c :: interpolate value fuel cs = c :: cs := by rw [hrest]
      unfold interpolate
      dsimp only
      split
      · rename_i rest
        split
        · rename_i hreference
          exact absurd (isReference_of_reference? hreference) (h _ List.suffix_rfl)
        · exact hplain
      · exact hplain

/-- No binding has a value with a reference. -/
def AllVerbatim (bs : List Binding) : Prop :=
  ∀ b ∈ bs, ∀ value, b.2 = some value → Verbatim value.toList

/-- Without references the bindings do not depend on the variables that are set. -/
theorem resolve_of_allVerbatim (env : Environment) (earlier : List Binding) {bs : List Binding} (h : AllVerbatim bs) :
    resolve env earlier bs = bs := by
  induction bs generalizing earlier with
  | nil => rfl
  | cons b bs ih =>
    obtain ⟨name, value⟩ := b
    have hb := h (name, value) List.mem_cons_self
    have hbs : AllVerbatim bs := fun c hc => h c (List.mem_cons_of_mem _ hc)
    rw [resolve, ih _ hbs]
    cases value with
    | none => rfl
    | some value => rw [Option.map_some, interpolate_of_verbatim _ _ (hb value rfl), String.ofList_toList]

private theorem isOff_iff {env : Environment} : isOff env = true ↔ env.TurnedOff := by
  rw [isOff, Environment.TurnedOff, ← switch]
  cases env.get? switch <;> simp [IsOff, offWords]

theorem documented_reader : reader.Documented where
  missing env := by
    unfold reader
    cases isOff env <;> rfl
  off env file hoff := by
    unfold reader
    rw [isOff_iff.mpr hoff]

theorem reader_finds {content : ByteArray} {text : List Char} (hdecode : Text.decodeUtf8? content = .ok text)
    (h : AllVerbatim (bindings text)) : reader.Finds (some content) (bindings text) := by
  intro env hon
  have hoff : isOff env = false := by
    rw [← Bool.not_eq_true, isOff_iff]
    exact hon
  simp only [reader, hoff, hdecode, resolve_of_allVerbatim env [] h]

end VariableFile

/-! ### What a file says about a name -/

/-- A file gives a name a value: the last of its bindings of the name has that value. -/
def Gives (bs : List Binding) (name value : String) : Prop :=
  ∃ before after, bs = before ++ (name, some value) :: after ∧ ∀ b ∈ after, b.1 ≠ name

private theorem mem_rebind {bs : List Binding} {b e : Binding} : e ∈ rebind bs b ↔ e = b ∨ e ∈ bs ∧ e.1 ≠ b.1 := by
  rw [rebind]
  split
  · rename_i hany
    obtain ⟨old, hold, hname⟩ := List.any_eq_true.mp hany
    have hsame : old.1 = b.1 := by simpa using hname
    rw [List.mem_map]
    constructor
    · rintro ⟨a, ha, rfl⟩
      split
      · exact .inl rfl
      · rename_i hne
        exact .inr ⟨ha, hne⟩
    · rintro (rfl | ⟨he, hne⟩)
      · exact ⟨old, hold, if_pos hsame⟩
      · exact ⟨e, he, if_neg hne⟩
  · rename_i hnone
    have hother : e ∈ bs → e.1 ≠ b.1 := fun he hname => hnone (List.any_eq_true.mpr ⟨e, he, by simpa using hname⟩)
    rw [List.mem_append, List.mem_singleton]
    constructor
    · rintro (he | he)
      · exact .inr ⟨he, hother he⟩
      · exact .inl he
    · rintro (he | ⟨he, _⟩)
      · exact .inr he
      · exact .inl he

private theorem nodup_rebind {bs : List Binding} (h : (bs.map Prod.fst).Nodup) (b : Binding) :
    ((rebind bs b).map Prod.fst).Nodup := by
  rw [rebind]
  split
  · have hnames : (bs.map fun e => if e.1 = b.1 then b else e).map Prod.fst = bs.map Prod.fst := by
      rw [List.map_map]
      apply List.map_congr_left
      intro e _
      by_cases he : e.1 = b.1 <;> simp [he]
    rwa [hnames]
  · rename_i hnone
    rw [List.map_append, List.map_singleton, List.nodup_append]
    refine ⟨h, List.nodup_singleton _, ?_⟩
    rintro name hname other hother rfl
    obtain ⟨e, he, rfl⟩ := List.mem_map.mp hname
    exact hnone (List.any_eq_true.mpr ⟨e, he, by simpa using hother⟩)

private theorem collected_concat (bs : List Binding) (b : Binding) :
    collected (bs ++ [b]) = rebind (collected bs) b := by
  rw [collected, List.foldl_append]
  rfl

private theorem nodup_collected (bs : List Binding) : ((collected bs).map Prod.fst).Nodup := by
  induction bs using List.reverseRecOn with
  | nil => exact List.nodup_nil
  | append_singleton bs b ih =>
    rw [collected_concat]
    exact nodup_rebind ih b

/-- A binding counts if it is the last one of its name. -/
theorem mem_collected_iff {bs : List Binding} {b : Binding} :
    b ∈ collected bs ↔ ∃ before after, bs = before ++ b :: after ∧ ∀ c ∈ after, c.1 ≠ b.1 := by
  induction bs using List.reverseRecOn with
  | nil => simp [collected]
  | append_singleton bs last ih =>
    rw [collected_concat, mem_rebind, ih]
    constructor
    · rintro (rfl | ⟨⟨before, after, rfl, hafter⟩, hne⟩)
      · exact ⟨bs, [], rfl, by simp⟩
      · refine ⟨before, after ++ [last], by simp, ?_⟩
        intro c hc
        rcases List.mem_append.mp hc with hc | hc
        · exact hafter c hc
        · rw [List.mem_singleton.mp hc]
          exact hne.symm
    · rintro ⟨before, after, hbs, hafter⟩
      rcases List.eq_nil_or_concat after with rfl | ⟨behind, c, rfl⟩
      · exact .inl (List.singleton_inj.mp (List.append_inj' hbs rfl).2.symm)
      · rw [List.concat_eq_append] at hbs hafter
        rw [← List.cons_append, ← List.append_assoc] at hbs
        obtain ⟨rfl, hlast⟩ := List.append_inj' hbs rfl
        obtain rfl : last = c := List.singleton_inj.mp hlast
        exact .inr ⟨⟨before, behind, rfl, fun x hx => hafter x (by simp [hx])⟩, (hafter last (by simp)).symm⟩

theorem mem_collected_some_iff {bs : List Binding} {name value : String} :
    (name, some value) ∈ collected bs ↔ Gives bs name value :=
  mem_collected_iff

namespace Environment

/-! ### Setting what is not set -/

private theorem isSet_iff {env : Environment} {name : String} : env.isSet name = true ↔ env.get? name ≠ none :=
  Option.isSome_iff_ne_none

/-- The system takes all values for variables that are not set. -/
def Takes (env : Environment) (bs : List Binding) : Prop :=
  ∀ name value, (name, some value) ∈ bs → env.get? name = none → refusal? name value = none

/-- What one binding does: nothing, or the name gets its value, or the system refuses. -/
theorem insertAll_cons_cases (env : Environment) (name : String) (given : Option String) (bs : List Binding) :
    ((given = none ∨ env.get? name ≠ none) ∧ env.insertAll ((name, given) :: bs) = env.insertAll bs) ∨
    ∃ value, given = some value ∧ env.get? name = none ∧
      ((∃ fault, refusal? name value = some fault ∧ env.insertAll ((name, given) :: bs) = (env, some fault)) ∨
        refusal? name value = none ∧
          env.insertAll ((name, given) :: bs) = (env.insert name value).insertAll bs) := by
  cases given with
  | none => exact .inl ⟨.inl rfl, rfl⟩
  | some value =>
    by_cases hset : env.isSet name = true
    · exact .inl ⟨.inr (isSet_iff.mp hset), by rw [insertAll, if_pos hset]⟩
    · have hunset : env.get? name = none := by
        by_contra h
        exact hset (isSet_iff.mpr h)
      refine .inr ⟨value, rfl, hunset, ?_⟩
      cases hrefusal : refusal? name value with
      | some fault => exact .inl ⟨fault, rfl, by rw [insertAll, if_neg hset, hrefusal]⟩
      | none => exact .inr ⟨rfl, by rw [insertAll, if_neg hset, hrefusal]⟩

/-- Setting one name is nothing to bindings of other names. -/
theorem get?_insert_of_mem {bs : List Binding} {env : Environment} {name value : String}
    (h : name ∉ bs.map Prod.fst) {other : String} {given : Option String} (hmem : (other, given) ∈ bs) :
    (env.insert name value).get? other = env.get? other := by
  rw [get?_insert, if_neg]
  rintro rfl
  exact h (List.mem_map.mpr ⟨_, hmem, rfl⟩)

/-- Bindings with different names are all set exactly if the system takes them. -/
theorem insertAll_eq_none_iff {bs : List Binding} (h : (bs.map Prod.fst).Nodup) (env : Environment) :
    (env.insertAll bs).2 = none ↔ env.Takes bs := by
  induction bs generalizing env with
  | nil => simp [insertAll, Takes]
  | cons b bs ih =>
    obtain ⟨name, given⟩ := b
    rw [List.map_cons, List.nodup_cons] at h
    rcases insertAll_cons_cases env name given bs with
      ⟨hskip, hrun⟩ | ⟨value, rfl, hunset, ⟨fault, hrefusal, hrun⟩ | ⟨htaken, hrun⟩⟩
    · rw [hrun, ih h.2]
      constructor
      · intro htakes other value hmem hnone
        rcases List.mem_cons.mp hmem with heq | hmem
        · cases heq
          exact absurd hnone (hskip.resolve_left (Option.some_ne_none value))
        · exact htakes other value hmem hnone
      · exact fun htakes other value hmem => htakes other value (List.mem_cons_of_mem _ hmem)
    · rw [hrun]
      refine iff_of_false (Option.some_ne_none fault) fun htakes => ?_
      rw [htakes name value List.mem_cons_self hunset] at hrefusal
      cases hrefusal
    · rw [hrun, ih h.2]
      constructor
      · intro htakes other given hmem hnone
        rcases List.mem_cons.mp hmem with heq | hmem
        · cases heq
          exact htaken
        · exact htakes other given hmem ((get?_insert_of_mem h.1 hmem).trans hnone)
      · intro htakes other given hmem hnone
        rw [get?_insert_of_mem h.1 hmem] at hnone
        exact htakes other given (List.mem_cons_of_mem _ hmem) hnone

/-- A variable that is set stays as it is. -/
theorem get?_insertAll_of_isSet (bs : List Binding) {env : Environment} {name value : String}
    (h : env.get? name = some value) : (env.insertAll bs).1.get? name = some value := by
  induction bs generalizing env with
  | nil => exact h
  | cons b bs ih =>
    obtain ⟨key, given⟩ := b
    rcases insertAll_cons_cases env key given bs with
      ⟨_, hrun⟩ | ⟨new, rfl, hunset, ⟨fault, _, hrun⟩ | ⟨_, hrun⟩⟩ <;> rw [hrun]
    · exact ih h
    · exact h
    · have hne : name ≠ key := by
        rintro rfl
        rw [hunset] at h
        cases h
      exact ih (by rw [get?_insert, if_neg hne, h])

/-- A variable that was not set has a value that a binding gives it. -/
theorem mem_of_get?_insertAll {bs : List Binding} {env : Environment} {name value : String}
    (h : (env.insertAll bs).1.get? name = some value) :
    env.get? name = some value ∨ env.get? name = none ∧ (name, some value) ∈ bs := by
  induction bs generalizing env with
  | nil => exact .inl h
  | cons b bs ih =>
    obtain ⟨key, given⟩ := b
    rcases insertAll_cons_cases env key given bs with
      ⟨_, hrun⟩ | ⟨new, rfl, hunset, ⟨fault, _, hrun⟩ | ⟨_, hrun⟩⟩ <;> rw [hrun] at h
    · exact (ih h).imp_right fun hnew => ⟨hnew.1, List.mem_cons_of_mem _ hnew.2⟩
    · exact .inl h
    · have hrest := ih h
      rw [get?_insert] at hrest
      by_cases hname : name = key
      · subst hname
        rcases hrest with hvalue | ⟨hnone, _⟩
        · cases (if_pos rfl).symm.trans hvalue
          exact .inr ⟨hunset, List.mem_cons_self⟩
        · cases (if_pos rfl).symm.trans hnone
      · rw [if_neg hname] at hrest
        exact hrest.imp_right fun hnew => ⟨hnew.1, List.mem_cons_of_mem _ hnew.2⟩

/-- If all is set, a variable that was not set has the value of its binding. -/
theorem get?_insertAll_of_mem {bs : List Binding} (h : (bs.map Prod.fst).Nodup) {env : Environment}
    (hdone : (env.insertAll bs).2 = none) {name value : String} (hunset : env.get? name = none)
    (hmem : (name, some value) ∈ bs) : (env.insertAll bs).1.get? name = some value := by
  induction bs generalizing env with
  | nil => cases hmem
  | cons b bs ih =>
    obtain ⟨key, given⟩ := b
    rw [List.map_cons, List.nodup_cons] at h
    rcases insertAll_cons_cases env key given bs with
      ⟨hskip, hrun⟩ | ⟨new, rfl, hkey, ⟨fault, _, hrun⟩ | ⟨_, hrun⟩⟩ <;> rw [hrun] at hdone ⊢
    · rcases List.mem_cons.mp hmem with heq | hmem
      · cases heq
        exact absurd hunset (hskip.resolve_left (Option.some_ne_none value))
      · exact ih h.2 hdone hunset hmem
    · cases hdone
    · rcases List.mem_cons.mp hmem with heq | hmem
      · cases heq
        exact get?_insertAll_of_isSet bs (by rw [get?_insert, if_pos rfl])
      · exact ih h.2 hdone ((get?_insert_of_mem h.1 hmem).trans hunset) hmem

private theorem get?_insertAll_iff {bs : List Binding} (h : (bs.map Prod.fst).Nodup) {env : Environment}
    (hdone : (env.insertAll bs).2 = none) (name value : String) :
    (env.insertAll bs).1.get? name = some value ↔
      env.get? name = some value ∨ env.get? name = none ∧ (name, some value) ∈ bs := by
  constructor
  · exact mem_of_get?_insertAll
  · rintro (hset | ⟨hunset, hmem⟩)
    · exact get?_insertAll_of_isSet bs hset
    · exact get?_insertAll_of_mem h hdone hunset hmem

/-- Nothing changes if all names that get a value are set. -/
theorem insertAll_of_isSet {env : Environment} {bs : List Binding}
    (h : ∀ name value, (name, some value) ∈ bs → env.get? name ≠ none) : env.insertAll bs = (env, none) := by
  induction bs with
  | nil => rfl
  | cons b bs ih =>
    obtain ⟨key, given⟩ := b
    have hrest := ih fun name value hmem => h name value (List.mem_cons_of_mem _ hmem)
    rcases insertAll_cons_cases env key given bs with ⟨_, hrun⟩ | ⟨new, rfl, hunset, _⟩
    · rw [hrun, hrest]
    · exact absurd hunset (h key new List.mem_cons_self)

/-! ### Loading one file -/

section Load

variable {reader : VariableReader} {env : Environment} {file : Option ByteArray}

theorem load_of_turnedOff (hreader : reader.Documented) (h : env.TurnedOff) : env.load reader file = (env, none) := by
  rw [load, hreader.off env file h]
  rfl

theorem load_of_unreadable {message : String} (h : (reader env file).bindings = .error message) :
    env.load reader file = (env, some (.unreadable message)) := by
  rw [load, h]

variable {bs : List Binding} (hon : ¬ env.TurnedOff) (hfinds : reader.Finds file bs)

include hon hfinds

private theorem load_of_finds : env.load reader file = env.insertAll (collected bs) := by
  rw [load, hfinds env hon]

theorem load_eq_none_iff : (env.load reader file).2 = none ↔
    ∀ name value, env.get? name = none → Gives bs name value → refusal? name value = none := by
  rw [load_of_finds hon hfinds, insertAll_eq_none_iff (nodup_collected bs)]
  simp only [Takes, mem_collected_some_iff]
  exact ⟨fun h name value hunset hgives => h name value hgives hunset,
    fun h name value hgives hunset => h name value hunset hgives⟩

theorem get?_load_iff (hdone : (env.load reader file).2 = none) (name value : String) :
    (env.load reader file).1.get? name = some value ↔
      env.get? name = some value ∨ env.get? name = none ∧ Gives bs name value := by
  rw [load_of_finds hon hfinds] at hdone ⊢
  rw [get?_insertAll_iff (nodup_collected bs) hdone, mem_collected_some_iff]

theorem gives_of_get?_load {name value : String} (h : (env.load reader file).1.get? name = some value) :
    env.get? name = some value ∨ env.get? name = none ∧ Gives bs name value := by
  rw [load_of_finds hon hfinds] at h
  exact (mem_of_get?_insertAll h).imp_right fun hnew => ⟨hnew.1, mem_collected_some_iff.mp hnew.2⟩

theorem get?_load_eq_none_iff (hdone : (env.load reader file).2 = none) (name : String) :
    (env.load reader file).1.get? name = none ↔ env.get? name = none ∧ ∀ value, ¬ Gives bs name value := by
  simp only [Option.eq_none_iff_forall_ne_some, ne_eq, get?_load_iff hon hfinds hdone]
  grind

end Load

theorem get?_load_of_isSet (reader : VariableReader) {env : Environment} (file : Option ByteArray) {name value : String}
    (h : env.get? name = some value) : (env.load reader file).1.get? name = some value := by
  rw [load]
  split
  · exact h
  · exact get?_insertAll_of_isSet _ h

/-- A file changes nothing if all variables that it gives a value are set, or if files are turned off. -/
theorem load_eq_self {reader : VariableReader} (hreader : reader.Documented) {env : Environment}
    {file : Option ByteArray} {bs : List Binding} (hfinds : reader.Finds file bs)
    (hset : ¬ env.TurnedOff → ∀ name value, Gives bs name value → env.get? name ≠ none) :
    env.load reader file = (env, none) := by
  by_cases hoff : env.TurnedOff
  · exact load_of_turnedOff hreader hoff
  · rw [load_of_finds hoff hfinds]
    exact insertAll_of_isSet fun name value hmem => hset hoff name value (mem_collected_some_iff.mp hmem)

end Environment

end ClassOutline.Config
