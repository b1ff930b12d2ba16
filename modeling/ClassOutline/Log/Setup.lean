import ClassOutline.Log.Record
import ClassOutline.Text.Case

/-!
Where records go.

A record reaches every handler whose level it has, if its own level is positive and not below the general one. If
there is no handler at all, the message of a warning is shown by itself. Setting up logging takes away all handlers,
one after the other, and adds a new one. If the wanted level is no level, the handlers are gone and the general level
stays.
-/
namespace ClassOutline.Log

/-- A receiver of records. -/
structure Handler (σ : Type) where
  stream : σ
  level : Int
  style : Style
  deriving DecidableEq, Repr

/-- The general level and the handlers, those added first in front. -/
structure Setup (σ : Type) where
  level : Int
  handlers : List (Handler σ)
  deriving DecidableEq, Repr

/-- What a text names that is no level. -/
inductive UnknownLevel where
  /-- The layout of log lines. -/
  | layout
  /-- The styles in which a layout is written. -/
  | layoutStyles
  deriving DecidableEq, Repr

def UnknownLevel.message : UnknownLevel → String
  | layout => "Unknown level: '%(levelname)s:%(name)s:%(message)s'"
  | layoutStyles =>
    "Level not an integer or a valid string: \x7b" ++
      "'%': (<class 'logging.PercentStyle'>, '%(levelname)s:%(name)s:%(message)s'), " ++
      "'\x7b': (<class 'logging.StrFormatStyle'>, '\x7blevelname\x7d:\x7bname\x7d:\x7bmessage\x7d'), " ++
      "'$': (<class 'logging.StringTemplateStyle'>, '$\x7blevelname\x7d:$\x7bname\x7d:$\x7bmessage\x7d')" ++
      "\x7d"

def levelNames : List (String × Int) :=
  [("DEBUG", 10), ("INFO", 20), ("WARNING", 30), ("WARN", 30), ("ERROR", 40), ("CRITICAL", 50), ("FATAL", 50),
    ("NOTSET", 0)]

/-- The level that a text asks for, without regard to case: the one of that name, or `INFO`. -/
def wantedLevel (text : Option String) : Except UnknownLevel Int :=
  let wanted := text.getD ""
  if Text.upperIs "BASIC_FORMAT" wanted then .error .layout
  else if Text.upperIs "_STYLES" wanted then .error .layoutStyles
  else match levelNames.find? fun l => Text.upperIs l.1 wanted with
    | some l => .ok l.2
    | none => .ok Level.info.number

/-- A stream gets colors if it is known to be a terminal and nobody opts out. -/
def styleFor (terminal : Option Bool) (noColor : Option String) : Style :=
  if terminal == some true && (noColor.getD "").isEmpty then .colored else .plain

namespace Setup

variable {σ : Type}

section Handlers

variable [DecidableEq σ]

/-- Take a handler away, if it is there. -/
def removeHandler (setup : Setup σ) (h : Handler σ) : Setup σ :=
  { setup with handlers := setup.handlers.erase h }

/-- Put a handler behind the others, unless it is there. -/
def addHandler (setup : Setup σ) (h : Handler σ) : Setup σ :=
  if h ∈ setup.handlers then setup else { setup with handlers := setup.handlers ++ [h] }

/-- Take the handlers away one after the other, as they were listed at the start. -/
def withoutHandlers (setup : Setup σ) : Setup σ :=
  setup.handlers.foldl removeHandler setup

/-- The setup after logging is set up for a stream, and whether that failed. -/
def configure (setup : Setup σ) (level : Option String) (stream : σ) (style : Style) :
    Except UnknownLevel Unit × Setup σ :=
  match wantedLevel level with
  | .ok n => (.ok (), { setup.withoutHandlers with level := n }.addHandler ⟨stream, n, style⟩)
  | .error e => (.error e, setup.withoutHandlers)

theorem withoutHandlers_eq (setup : Setup σ) : setup.withoutHandlers = ⟨setup.level, []⟩ := by
  obtain ⟨level, handlers⟩ := setup
  rw [withoutHandlers]
  induction handlers with
  | nil => rfl
  | cons h rest ih =>
    -- The list that is gone through is a copy, so the next handler to go is always the first that is left.
    have hfirst : removeHandler ⟨level, h :: rest⟩ h = ⟨level, rest⟩ := by simp [removeHandler]
    rw [List.foldl_cons, hfirst]
    exact ih

theorem configure_of_ok {level : Option String} {n : Int} (h : wantedLevel level = .ok n) (setup : Setup σ)
    (stream : σ) (style : Style) :
    setup.configure level stream style = (.ok (), ⟨n, [⟨stream, n, style⟩]⟩) := by
  simp [configure, h, withoutHandlers_eq, addHandler]

theorem configure_of_error {level : Option String} {fault : UnknownLevel} (h : wantedLevel level = .error fault)
    (setup : Setup σ) (stream : σ) (style : Style) :
    setup.configure level stream style = (.error fault, ⟨setup.level, []⟩) := by
  simp [configure, h, withoutHandlers_eq]

end Handlers

def isEnabled (setup : Setup σ) (r : Record) : Bool :=
  0 < r.level && setup.level ≤ r.level

/-- What a record writes, and where. -/
def writes (setup : Setup σ) (time : String) (r : Record) : List (σ × String) :=
  if setup.isEnabled r then
    (setup.handlers.filter fun h => h.level ≤ r.level).map fun h => (h.stream, h.style.line time r)
  else []

/-- What becomes of a record if there is no handler: its message is shown if it is a warning at least. -/
def lastResort (setup : Setup σ) (r : Record) : List String :=
  if setup.handlers.isEmpty && setup.isEnabled r && Level.warning.number ≤ r.level then [r.message ++ "\n"] else []

def received [DecidableEq σ] (stream : σ) (written : List (σ × String)) : String :=
  String.join ((written.filter fun w => w.1 = stream).map Prod.snd)

end Setup

end ClassOutline.Log
