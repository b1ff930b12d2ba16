/-!
Environment variables.
-/
namespace ClassOutline.Config

structure Environment where
  bindings : List (String × String)
  deriving DecidableEq, Repr

namespace Environment

def empty : Environment := ⟨[]⟩

def get? (env : Environment) (name : String) : Option String :=
  env.bindings.lookup name

def isSet (env : Environment) (name : String) : Bool :=
  (env.get? name).isSome

def erase (env : Environment) (name : String) : Environment :=
  ⟨env.bindings.filter fun b => b.1 != name⟩

def insert (env : Environment) (name value : String) : Environment :=
  ⟨(name, value) :: (env.erase name).bindings⟩

/-- Set a variable, or unset it if there is no value. -/
def assign (env : Environment) (name : String) : Option String → Environment
  | some value => env.insert name value
  | none => env.erase name

@[simp] theorem get?_empty (name : String) : empty.get? name = none := rfl

theorem get?_erase (env : Environment) (name other : String) :
    (env.erase name).get? other = if other = name then none else env.get? other := by
  obtain ⟨bs⟩ := env
  simp only [erase, get?]
  induction bs with
  | nil => simp
  | cons b bs ih =>
    obtain ⟨n, v⟩ := b
    by_cases hn : n = name
    · subst hn
      by_cases ho : other = n
      · simpa [ho] using ih
      · have hb : (other == n) = false := by simpa using ho
        simpa [ho, List.lookup_cons, hb] using ih
    · by_cases ho : other = n
      · subst ho
        simp [hn]
      · have hb : (other == n) = false := by simpa using ho
        simpa [hn, List.lookup_cons, hb] using ih

theorem get?_insert (env : Environment) (name value other : String) :
    (env.insert name value).get? other = if other = name then some value else env.get? other := by
  by_cases h : other = name
  · simp [insert, get?, h]
  · have := get?_erase env name other
    simp only [get?, h, if_false] at this
    have hb : (other == name) = false := by simpa using h
    simp [insert, get?, h, List.lookup_cons, hb, this]

end Environment

end ClassOutline.Config
