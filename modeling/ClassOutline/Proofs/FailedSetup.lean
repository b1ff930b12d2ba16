import ClassOutline.Proofs.LogRouting
import Mathlib.Data.List.Induction

/-!
# Logging after a setup that fails

The handlers are taken away before the wanted level is looked at. A setup that fails for its level leaves no handler,
so the stream of the last one that worked gets nothing more. The general level stays, and the next setup that works
makes up for everything.
-/
namespace ClassOutline.Log

variable {σ : Type}

/-- A text that names something else than a level. Any other one is taken for `INFO` if it is no level. -/
def NamesNoLevel (level : Option String) : Prop :=
  Text.upperIs "BASIC_FORMAT" (level.getD "") = true ∨ Text.upperIs "_STYLES" (level.getD "") = true

private theorem wantedLevel_cases (level : Option String) :
    (NamesNoLevel level ∧ ∃ fault, wantedLevel level = .error fault) ∨
      (¬NamesNoLevel level ∧ ∃ n, wantedLevel level = .ok n) := by
  unfold wantedLevel NamesNoLevel
  by_cases hlayout : Text.upperIs "BASIC_FORMAT" (level.getD "") = true
  · exact .inl ⟨.inl hlayout, .layout, by simp [hlayout]⟩
  by_cases hstyles : Text.upperIs "_STYLES" (level.getD "") = true
  · exact .inl ⟨.inr hstyles, .layoutStyles, by simp [hlayout, hstyles]⟩
  · refine .inr ⟨by simp [hlayout, hstyles], ?_⟩
    simp only [hlayout, hstyles, Bool.false_eq_true, if_false]
    split
    · exact ⟨_, rfl⟩
    · exact ⟨_, rfl⟩

section Attempts

variable [DecidableEq σ]

/-- Set up logging for a target. -/
def Setup.attempt (setup : Setup σ) (t : Target σ) : Except UnknownLevel Unit × Setup σ :=
  setup.configure t.level t.stream t.style

/-- The setup after logging was set up for one target after the other, whether or not that worked. -/
def Setup.reached (start : Setup σ) (history : List (Target σ)) : Setup σ :=
  history.foldl (fun setup t => (setup.attempt t).2) start

private theorem Setup.attempt_cases (setup : Setup σ) (t : Target σ) :
    (NamesNoLevel t.level ∧ ∃ fault, setup.attempt t = (.error fault, ⟨setup.level, []⟩)) ∨
      (¬NamesNoLevel t.level ∧ ∃ n, wantedLevel t.level = .ok n ∧
        setup.attempt t = (.ok (), ⟨n, [⟨t.stream, n, t.style⟩]⟩)) := by
  rcases wantedLevel_cases t.level with ⟨hnone, fault, hlevel⟩ | ⟨hsome, n, hlevel⟩
  · exact .inl ⟨hnone, fault, configure_of_error hlevel setup t.stream t.style⟩
  · exact .inr ⟨hsome, n, hlevel, configure_of_ok hlevel setup t.stream t.style⟩

private theorem Setup.attempt_of_none {t : Target σ} (h : NamesNoLevel t.level) (setup : Setup σ) :
    ∃ fault, setup.attempt t = (.error fault, ⟨setup.level, []⟩) := by
  rcases setup.attempt_cases t with ⟨_, hfault⟩ | ⟨hsome, _⟩
  · exact hfault
  · exact absurd h hsome

theorem Setup.exists_error_iff (setup : Setup σ) (t : Target σ) :
    (∃ fault, (setup.attempt t).1 = .error fault) ↔ NamesNoLevel t.level := by
  rcases setup.attempt_cases t with ⟨hnone, fault, hattempt⟩ | ⟨hsome, n, _, hattempt⟩
  · rw [hattempt]
    exact iff_of_true ⟨fault, rfl⟩ hnone
  · rw [hattempt]
    apply iff_of_false _ hsome
    rintro ⟨fault, hfault⟩
    cases hfault

private theorem Setup.reached_concat (start : Setup σ) (history : List (Target σ)) (t : Target σ) :
    start.reached (history ++ [t]) = ((start.reached history).attempt t).2 := by
  simp [reached]

/-! ### Before it fails -/

/-- Only the last target decides about the handlers. -/
theorem Setup.handlers_reached_eq_nil_iff (start : Setup σ) (history : List (Target σ)) :
    (start.reached history).handlers = [] ↔
      match history.getLast? with
      | none => start.handlers = []
      | some last => NamesNoLevel last.level := by
  induction history using List.reverseRecOn with
  | nil => exact Iff.rfl
  | append_singleton history t =>
    rw [reached_concat, List.getLast?_concat]
    rcases (start.reached history).attempt_cases t with ⟨hnone, fault, hattempt⟩ | ⟨hsome, n, _, hattempt⟩
    · rw [hattempt]
      exact iff_of_true rfl hnone
    · rw [hattempt]
      exact iff_of_false (List.cons_ne_nil _ _) hsome

/-- After a target that worked, its stream gets what counts for it. -/
theorem Setup.writes_reached (start : Setup σ) {history : List (Target σ)} {last : Target σ}
    (hlast : history.getLast? = some last) (hlevel : ¬NamesNoLevel last.level) (time : String) (r : Record) :
    (start.reached history).writes time r =
      if last.admits r then [(last.stream, last.style.line time r)] else [] := by
  obtain ⟨earlier, rfl⟩ := List.getLast?_eq_some_iff.mp hlast
  rw [reached_concat]
  rcases (start.reached earlier).attempt_cases last with ⟨hnone, _⟩ | ⟨_, n, hwanted, hattempt⟩
  · exact absurd hnone hlevel
  · have hreflects : Reflects start ((start.reached earlier).attempt last).2 (some last) :=
      ⟨n, hwanted, by rw [hattempt]⟩
    exact hreflects.writes_eq_due time r

/-! ### After it failed -/

/-- What a setup that fails does to the one before. -/
structure Silences (before after : Setup σ) : Prop where
  level : after.level = before.level
  handlers : after.handlers = []
  kept_iff : after = before ↔ before.handlers = []
  writes : ∀ time r, after.writes time r = []
  lastResort : ∀ r, after.lastResort r =
    if before.isEnabled r = true ∧ Level.warning.number ≤ r.level then [r.message ++ "\n"] else []
  next : ∀ t, after.attempt t = before.attempt t

private theorem Setup.silences_attempt {t : Target σ} (h : NamesNoLevel t.level) (before : Setup σ) :
    Silences before (before.attempt t).2 := by
  obtain ⟨fault, hattempt⟩ := before.attempt_of_none h
  rw [hattempt]
  obtain ⟨level, handlers⟩ := before
  refine ⟨rfl, rfl, ?_, ?_, ?_, ?_⟩
  · simp [eq_comm]
  · intro time r
    simp [Setup.writes]
  · intro r
    simp [Setup.lastResort, Setup.isEnabled]
  · intro t'
    -- A setup that fails keeps the level, which is all that another one takes from it.
    simp [attempt, configure, withoutHandlers_eq]

/-- After any setups, that worked or not, another one fails exactly if its text names no level but something else. Then
there are no handlers any more, so everything is as before only if there was no handler: none at the start, or the last
setup before failed too. If that one worked, its stream got what counts before, and gets nothing after. -/
theorem failed_setup_leaves_no_handler (start : Setup σ) (history : List (Target σ)) (t : Target σ) :
    ((∃ fault, ((start.reached history).attempt t).1 = .error fault) ↔ NamesNoLevel t.level) ∧
    (NamesNoLevel t.level → Silences (start.reached history) ((start.reached history).attempt t).2) ∧
    ((start.reached history).handlers = [] ↔
      match history.getLast? with
      | none => start.handlers = []
      | some last => NamesNoLevel last.level) ∧
    ∀ last, history.getLast? = some last → ¬NamesNoLevel last.level → ∀ time r,
      (start.reached history).writes time r = if last.admits r then [(last.stream, last.style.line time r)] else [] :=
  ⟨Setup.exists_error_iff _ t, fun h => Setup.silences_attempt h _, Setup.handlers_reached_eq_nil_iff start history,
    fun _ hlast hlevel => Setup.writes_reached start hlast hlevel⟩

end Attempts

/-- No handlers, then a setup for one stream. -/
def firstStream : List (Target Nat) :=
  [⟨some "info", 1, none, none⟩]

/-- A setup for another stream, for a text that is no level. -/
def noLevel : Target Nat :=
  ⟨some "basic_format", 2, some true, none⟩

theorem firstStream_silenced :
    let before := (⟨30, []⟩ : Setup Nat).reached firstStream
    let after := (before.attempt noLevel).2
    (∃ fault, (before.attempt noLevel).1 = .error fault) ∧ after.level = before.level ∧ after ≠ before ∧
      before.writes "t" ⟨30, "a", "late"⟩ = [(1, "[t] | WARNING | a | late\n")] ∧
      after.writes "t" ⟨30, "a", "late"⟩ = [] ∧ after.lastResort ⟨30, "a", "late"⟩ = ["late\n"] := by
  have hnone : NamesNoLevel noLevel.level := .inl rfl
  have hsome : ¬NamesNoLevel (some "info") := by simp [NamesNoLevel, Text.upperIs, Text.upperAscii]
  obtain ⟨hfails, hsilences, hhandlers, hwrites⟩ :=
    failed_setup_leaves_no_handler (⟨30, []⟩ : Setup Nat) firstStream noLevel
  have hsilent := hsilences hnone
  refine ⟨hfails.mpr hnone, hsilent.level, ?_, ?_, hsilent.writes _ _, ?_⟩
  · intro hkept
    exact hsome (hhandlers.mp (hsilent.kept_iff.mp hkept))
  · rw [hwrites _ rfl hsome]
    rfl
  · rw [hsilent.lastResort]
    rfl

end ClassOutline.Log
