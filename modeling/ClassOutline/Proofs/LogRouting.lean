import ClassOutline.Log.Setup

/-!
# Where records go

Logging may be set up any number of times, for other streams and at other levels. Whatever handlers there were, each
time leaves the new one alone, so a record that counts goes to the stream of the last time, once and in order.
-/
namespace ClassOutline.Log

variable {σ : Type}

/-- What logging is set up for. -/
structure Target (σ : Type) where
  level : Option String
  stream : σ
  terminal : Option Bool
  noColor : Option String

def Target.style (t : Target σ) : Style :=
  styleFor t.terminal t.noColor

/-- Logging is set up, or a record is logged at a time. -/
inductive Use (σ : Type) where
  | setUp (t : Target σ)
  | log (time : String) (r : Record)

section Runs

variable [DecidableEq σ]

/-- One use: the setup after it and what it writes, unless it fails. -/
def Setup.use (setup : Setup σ) : Use σ → Except UnknownLevel (Setup σ × List (σ × String))
  | .setUp t =>
    let configured := setup.configure t.level t.stream t.style
    configured.1.map fun _ => (configured.2, [])
  | .log time r => .ok (setup, setup.writes time r)

/-- Uses one after the other: the setup after them and all that they write, unless one of them fails. -/
def Setup.run (setup : Setup σ) : List (Use σ) → Except UnknownLevel (Setup σ × List (σ × String))
  | [] => .ok (setup, [])
  | u :: rest =>
    match setup.use u with
    | .error fault => .error fault
    | .ok (next, written) => (next.run rest).map fun x => (x.1, written ++ x.2)

private theorem Setup.run_cons_of_ok {setup last : Setup σ} {u : Use σ} {rest : List (Use σ)}
    {written : List (σ × String)}
    (h : setup.run (u :: rest) = .ok (last, written)) :
    ∃ next first later, setup.use u = .ok (next, first) ∧ next.run rest = .ok (last, later) ∧
      written = first ++ later := by
  rw [Setup.run] at h
  cases hu : setup.use u with
  | error fault => simp [hu] at h
  | ok result =>
    obtain ⟨next, first⟩ := result
    cases hrest : next.run rest with
    | error fault => simp [hu, hrest, Except.map] at h
    | ok result =>
      obtain ⟨last', later⟩ := result
      simp only [hu, hrest, Except.map, Except.ok.injEq, Prod.mk.injEq] at h
      obtain ⟨rfl, rfl⟩ := h
      exact ⟨next, first, later, rfl, hrest, rfl⟩

end Runs

/-! ### The last target -/

def Use.target? : Use σ → Option (Target σ)
  | setUp t => some t
  | log _ _ => none

/-- What logging was last set up for. -/
def latest? (history : List (Use σ)) : Option (Target σ) :=
  history.reverse.findSome? Use.target?

private theorem latest?_append_setUp (history : List (Use σ)) (t : Target σ) :
    latest? (history ++ [.setUp t]) = some t := by
  rw [latest?, List.reverse_append]
  rfl

private theorem latest?_append_log (history : List (Use σ)) (time : String) (r : Record) :
    latest? (history ++ [.log time r]) = latest? history := by
  rw [latest?, List.reverse_append]
  rfl

/-- Whether a record counts for a target: its level is positive and at least that of the target. -/
def Target.admits (t : Target σ) (r : Record) : Bool :=
  match wantedLevel t.level with
  | .ok n => 0 < r.level && n ≤ r.level
  | .error _ => false

/-- The records that are logged after a history, each with its time and with the last target before it. -/
def routed (history : List (Use σ)) : List (Use σ) → List (Option (Target σ) × String × Record)
  | [] => []
  | .setUp t :: rest => routed (history ++ [.setUp t]) rest
  | .log time r :: rest => (latest? history, time, r) :: routed (history ++ [.log time r]) rest

/-- What a record writes: one line for the last target if the record counts. Before there is a target, the first setup
decides. -/
def due (start : Setup σ) : Option (Target σ) × String × Record → List (σ × String)
  | (some t, time, r) => if t.admits r then [(t.stream, t.style.line time r)] else []
  | (none, time, r) => start.writes time r

private theorem routed_cons (history : List (Use σ)) (u : Use σ) (rest : List (Use σ)) :
    routed history (u :: rest) = routed history [u] ++ routed (history ++ [u]) rest := by
  cases u with
  | setUp t => rfl
  | log time r => rfl

/-! ### What every use keeps -/

/-- The setup that the last target leaves; without a target it is the first one. -/
def Reflects (start setup : Setup σ) : Option (Target σ) → Prop
  | some t => ∃ n, wantedLevel t.level = .ok n ∧ setup = ⟨n, [⟨t.stream, n, t.style⟩]⟩
  | none => setup = start

theorem Reflects.writes_eq_due {start setup : Setup σ} {latest : Option (Target σ)} (h : Reflects start setup latest)
    (time : String) (r : Record) : setup.writes time r = due start (latest, time, r) := by
  cases latest with
  | none =>
    have hstart : setup = start := h
    rw [hstart, due]
  | some t =>
    obtain ⟨n, hlevel, rfl⟩ := h
    -- The general level and that of the one handler are the same, so the second test lets everything through.
    by_cases hcounts : 0 < r.level ∧ n ≤ r.level
    · simp [Setup.writes, Setup.isEnabled, due, Target.admits, hlevel, hcounts]
    · have hnot : (decide (0 < r.level) && decide (n ≤ r.level)) = false := by simpa using hcounts
      simp only [Setup.writes, Setup.isEnabled, due, Target.admits, hlevel, hnot, Bool.false_eq_true, if_false]

variable [DecidableEq σ]

theorem Reflects.use {start setup next : Setup σ} {history : List (Use σ)}
    (h : Reflects start setup (latest? history)) {u : Use σ} {written : List (σ × String)}
    (hu : setup.use u = .ok (next, written)) :
    Reflects start next (latest? (history ++ [u])) ∧ written = (routed history [u]).flatMap (due start) := by
  cases u with
  | setUp t =>
    cases hlevel : wantedLevel t.level with
    | error fault => simp [Setup.use, Setup.configure_of_error hlevel, Except.map] at hu
    | ok n =>
      simp only [Setup.use, Setup.configure_of_ok hlevel, Except.map, Except.ok.injEq, Prod.mk.injEq] at hu
      obtain ⟨rfl, rfl⟩ := hu
      rw [latest?_append_setUp]
      exact ⟨⟨n, hlevel, rfl⟩, rfl⟩
  | log time r =>
    simp only [Setup.use, Except.ok.injEq, Prod.mk.injEq] at hu
    obtain ⟨rfl, rfl⟩ := hu
    rw [latest?_append_log]
    refine ⟨h, ?_⟩
    simp only [routed, List.flatMap_singleton]
    exact h.writes_eq_due time r

theorem Reflects.run {start setup last : Setup σ} {history uses : List (Use σ)} {written : List (σ × String)}
    (h : Reflects start setup (latest? history)) (hrun : setup.run uses = .ok (last, written)) :
    Reflects start last (latest? (history ++ uses)) ∧ written = (routed history uses).flatMap (due start) := by
  induction uses generalizing setup history written with
  | nil =>
    simp only [Setup.run, Except.ok.injEq, Prod.mk.injEq] at hrun
    obtain ⟨rfl, rfl⟩ := hrun
    rw [List.append_nil]
    exact ⟨h, rfl⟩
  | cons u rest ih =>
    obtain ⟨next, first, later, hu, hrest, rfl⟩ := Setup.run_cons_of_ok hrun
    obtain ⟨hnext, hfirst⟩ := h.use hu
    obtain ⟨hlast, hlater⟩ := ih hnext hrest
    refine ⟨?_, ?_⟩
    · rwa [List.append_assoc] at hlast
    · rw [routed_cons, List.flatMap_append, hfirst, hlater]

/-- Start with any handlers, set up logging and log records in any order, as long as no use fails. Once logging was set
up there is one handler, for the stream of the last target and at its level, which is the general level too. What the
uses write is, for each record in turn, one line on the stream of the last target before it if the record counts there,
and nothing if it does not. -/
theorem records_reach_latest_stream (start : Setup σ) (uses : List (Use σ)) (last : Setup σ)
    (written : List (σ × String)) (hrun : start.run uses = .ok (last, written)) :
    (∀ t, latest? uses = some t → ∃ h, last.handlers = [h] ∧ h.stream = t.stream ∧ h.level = last.level ∧
      wantedLevel t.level = .ok last.level) ∧
    written = (routed [] uses).flatMap (due start) := by
  have hstart : Reflects start start (latest? ([] : List (Use σ))) := rfl
  obtain ⟨hlast, hwritten⟩ := hstart.run hrun
  refine ⟨?_, hwritten⟩
  intro t ht
  rw [List.nil_append, ht] at hlast
  obtain ⟨n, hlevel, rfl⟩ := hlast
  exact ⟨⟨t.stream, n, t.style⟩, rfl, rfl, rfl, hlevel⟩

/-- Two handlers for one stream. -/
def doubled : Setup Nat :=
  ⟨30, [⟨0, 0, .plain⟩, ⟨0, 0, .plain⟩]⟩

/-- A record that both handlers write, then two targets with records of several levels for each. -/
def redirected : List (Use Nat) :=
  [.log "t" ⟨40, "a", "first"⟩, .setUp ⟨some "notset", 1, some true, none⟩, .log "t" ⟨0, "a", "zero"⟩,
    .log "t" ⟨1, "", "one"⟩, .setUp ⟨some "warn", 2, none, none⟩, .log "t" ⟨20, "b", "info"⟩,
    .log "t" ⟨30, "b", "warning"⟩]

theorem redirected_written :
    ∃ last written, doubled.run redirected = .ok (last, written) ∧
      (∃ h, last.handlers = [h] ∧ h.stream = 2 ∧ h.level = last.level ∧ wantedLevel (some "warn") = .ok last.level) ∧
      written = (routed [] redirected).flatMap (due doubled) ∧
      written = [(0, "[t] | ERROR | a | first\n"), (0, "[t] | ERROR | a | first\n"),
        (1, "\x1b[2m[t]\x1b[0m | \x1b[36mLevel 1\x1b[0m | \x1b[2mroot\x1b[0m | one\n"),
        (2, "[t] | WARNING | b | warning\n")] := by
  have hrun : doubled.run redirected = .ok (⟨30, [⟨2, 30, .plain⟩]⟩,
      [(0, "[t] | ERROR | a | first\n"), (0, "[t] | ERROR | a | first\n"),
        (1, "\x1b[2m[t]\x1b[0m | \x1b[36mLevel 1\x1b[0m | \x1b[2mroot\x1b[0m | one\n"),
        (2, "[t] | WARNING | b | warning\n")]) := by
    rfl
  obtain ⟨hhandler, hwritten⟩ := records_reach_latest_stream doubled redirected _ _ hrun
  exact ⟨_, _, hrun, hhandler ⟨some "warn", 2, none, none⟩ rfl, hwritten, rfl⟩

end ClassOutline.Log
