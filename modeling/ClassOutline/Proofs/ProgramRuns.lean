import ClassOutline.Proofs.RawTexts
import ClassOutline.Service.Action

/-!
# Runs of programs

What a run of one program after another consists of, and what the parts of the services do to a workspace.
-/
namespace ClassOutline.Service

open Catalog Config Log Outline

theorem exists_of_map_eq_ok {ε α β : Type} {x : Except ε α} {f : α → β} {b : β} (h : x.map f = .ok b) :
    ∃ a, x = .ok a ∧ f a = b := by
  cases x with
  | error fault => cases h
  | ok a => exact ⟨a, rfl, Except.ok.inj h⟩

namespace Program

variable {α β : Type}

theorem bind_of_ok {p : Program α} {w : Workspace} {a : α} (h : (p w).value = .ok a) (f : α → Program β) :
    (p >>= f) w = ⟨(f a (p w).workspace).value, (f a (p w).workspace).workspace,
      (p w).events ++ (f a (p w).workspace).events⟩ := by
  change Program.bind p f w = _
  simp only [Program.bind, h]

theorem bind_of_error {p : Program α} {w : Workspace} {fault : Fault} (h : (p w).value = .error fault)
    (f : α → Program β) : (p >>= f) w = ⟨.error fault, (p w).workspace, (p w).events⟩ := by
  change Program.bind p f w = _
  simp only [Program.bind, h]

/-- A program either ends with a fault, and so does everything that starts with it, or goes on with its value. -/
theorem bind_cases (p : Program α) (f : α → Program β) (w : Workspace) :
    (∃ fault, (p w).value = .error fault ∧ (p >>= f) w = ⟨.error fault, (p w).workspace, (p w).events⟩) ∨
    ∃ a, (p w).value = .ok a ∧ (p >>= f) w = ⟨(f a (p w).workspace).value, (f a (p w).workspace).workspace,
      (p w).events ++ (f a (p w).workspace).events⟩ := by
  cases h : (p w).value with
  | error fault => exact .inl ⟨fault, rfl, bind_of_error h f⟩
  | ok a => exact .inr ⟨a, rfl, bind_of_ok h f⟩

/-- What happens before a program still comes first if another one follows. -/
theorem bind_of_before {p q : Program α} {w v : Workspace} {before : List Event}
    (h : p w = ⟨(q v).value, (q v).workspace, before ++ (q v).events⟩) (f : α → Program β) :
    (p >>= f) w = ⟨((q >>= f) v).value, ((q >>= f) v).workspace, before ++ ((q >>= f) v).events⟩ := by
  rcases bind_cases q f v with ⟨fault, hvalue, hrun⟩ | ⟨a, hvalue, hrun⟩
  · have hfault : (p w).value = .error fault := by rw [h, hvalue]
    rw [bind_of_error hfault, h, hrun]
  · have hok : (p w).value = .ok a := by rw [h, hvalue]
    rw [bind_of_ok hok, h, hrun, List.append_assoc]

theorem value_map (p : Program α) (f : α → β) (w : Workspace) :
    ((do return f (← p) : Program β) w).value = (p w).value.map f := by
  rcases bind_cases p (fun a => Pure.pure (f a)) w with ⟨fault, hvalue, hrun⟩ | ⟨a, hvalue, hrun⟩
  · rw [hrun, hvalue]
    rfl
  · rw [hrun, hvalue]
    rfl

end Program

theorem Run.consulted_append {α β : Type} (value : Except Fault α) (w : Workspace) (events : List Event)
    (r : Run β) : (Run.mk value w (events ++ r.events)).consulted =
      (Run.mk value w events).consulted ++ r.consulted :=
  List.filterMap_append ..

theorem Run.records_append {α β : Type} (value : Except Fault α) (w : Workspace) (events : List Event) (r : Run β) :
    (Run.mk value w (events ++ r.events)).records = (Run.mk value w events).records ++ r.records :=
  List.filterMap_append ..

theorem Run.text_append {α β : Type} (value : Except Fault α) (w : Workspace) (events : List Event) (r : Run β)
    (channel : Channel) : (Run.mk value w (events ++ r.events)).text channel =
      (Run.mk value w events).text channel ++ r.text channel := by
  simp only [Run.text, List.filterMap_append, List.flatten_append]

theorem Run.consulted_eq_nil {α : Type} {r : Run α}
    (h : ∀ event ∈ r.events, ∀ outcome, event ≠ .consulted outcome) : r.consulted = [] := by
  unfold Run.consulted
  rw [List.filterMap_eq_nil_iff]
  intro event hevent
  split
  · rename_i outcome
    exact absurd rfl (h _ hevent outcome)
  · rfl

/-- Logging a record does nothing but to keep it and to write it. -/
theorem Program.mem_events_log {host : Host} {r : Record} {w : Workspace} {event : Event}
    (h : event ∈ (Program.log host r w).events) :
    event = .recorded r ∨ ∃ x ∈ Program.lines host w r, event = .written x.1 (raw x.2) := by
  rcases List.mem_append.mp h with h | h
  · split at h
    · exact .inl (List.mem_singleton.mp h)
    · exact absurd h List.not_mem_nil
  · obtain ⟨x, hx, rfl⟩ := List.mem_map.mp h
    exact .inr ⟨x, hx, rfl⟩

theorem Program.records_log (host : Host) (r : Record) (w : Workspace) :
    (Program.log host r w).records = if w.logging.isEnabled r then [r] else [] := by
  let written : Run Unit := ⟨.ok (), w, (Program.lines host w r).map fun x => .written x.1 (raw x.2)⟩
  have hwritten : written.records = [] := by
    refine List.filterMap_eq_nil_iff.mpr fun event hevent => ?_
    obtain ⟨x, _, rfl⟩ := List.mem_map.mp hevent
    rfl
  change (Run.mk (.ok ()) w (_ ++ written.events) : Run Unit).records = _
  rw [Run.records_append, hwritten, List.append_nil]
  split <;> rfl

theorem Program.records_log_bind {α : Type} (host : Host) (r : Record) (f : Unit → Program α) {w : Workspace}
    (h : w.logging.isEnabled r = true) : ((Program.log host r >>= f) w).records = r :: (f () w).records := by
  have hvalue : (Program.log host r w).value = .ok () := rfl
  rw [bind_of_ok hvalue, Run.records_append]
  change (Program.log host r w).records ++ _ = _
  rw [records_log, if_pos h]
  rfl

/-! ### The settings in use -/

/-- What somebody who asks for the settings gets. -/
def Workspace.inUse (w : Workspace) : Except IntegerFault Settings :=
  match w.memo with
  | some s => .ok s
  | none => Settings.ofEnvironment w.environment

theorem Workspace.inUse_of_memo {w : Workspace} {s : Settings} (h : w.memo = some s) : w.inUse = .ok s := by
  rw [inUse, h]

theorem Workspace.inUse_of_empty {w : Workspace} (h : w.memo = none) :
    w.inUse = Settings.ofEnvironment w.environment := by
  rw [inUse, h]

theorem Workspace.memo_of_inUse_error {w : Workspace} {fault : IntegerFault} (h : w.inUse = .error fault) :
    w.memo = none := by
  cases hmemo : w.memo with
  | none => rfl
  | some s =>
    rw [inUse_of_memo hmemo] at h
    cases h

theorem Program.settings_apply (w : Workspace) :
    Program.settings w =
      ⟨w.inUse.mapError .badInteger, { w with memo := w.inUse.toOption }, [.consulted w.inUse]⟩ := by
  obtain ⟨root, workingDirectory, packageRoot, environment, memo, logging⟩ := w
  cases memo with
  | some s => rfl
  | none =>
    simp only [Program.settings, Workspace.inUse]
    cases Settings.ofEnvironment environment <;> rfl

/-! ### Programs that log -/

/-- What a stream receives of some lines. -/
def received (channel : Channel) (lines : List (Channel × String)) : RawText :=
  raw (Setup.received channel lines)

private theorem received_append (channel : Channel) (lines lines' : List (Channel × String)) :
    received channel (lines ++ lines') = received channel lines ++ received channel lines' := by
  simp only [received, Setup.received, List.filter_append, List.map_append, String.join_append, raw_append]

private theorem received_eq_nil {channel : Channel} {lines : List (Channel × String)} (h : ∀ x ∈ lines, x.1 ≠ channel) :
    received channel lines = [] := by
  have hnone : lines.filter (fun x => decide (x.1 = channel)) = [] := by
    rw [List.filter_eq_nil_iff]
    exact fun x hx => by simpa using h x hx
  rw [received, Setup.received, hnone]
  rfl

/-- No record goes to the output of the host. -/
def Workspace.SparesOutput (w : Workspace) (host : Host) : Prop :=
  ∀ h ∈ w.logging.handlers, h.stream ≠ host.output

theorem Host.errors_ne_output (host : Host) : host.errors ≠ host.output := by
  simp [Host.errors, Host.output]

namespace Program

theorem text_log (host : Host) (r : Record) (w : Workspace) (channel : Channel) :
    (Program.log host r w).text channel = received channel (Program.lines host w r) := by
  have hlines (lines : List (Channel × String)) (value : Except Fault Unit) :
      (Run.mk value w (lines.map fun x => .written x.1 (raw x.2))).text channel = received channel lines := by
    induction lines with
    | nil => rfl
    | cons x rest ih =>
      have hcons := received_append channel [x] rest
      rw [List.singleton_append] at hcons
      rw [hcons, ← ih]
      by_cases hx : x.1 = channel <;> simp [Run.text, received, Setup.received, hx, String.join, raw]
  have hevents : (Program.log host r w).text channel =
      (Run.mk (.ok ()) w (if w.logging.isEnabled r then [Event.recorded r] else []) : Run Unit).text channel ++
        (Run.mk (.ok ()) w ((Program.lines host w r).map fun x => .written x.1 (raw x.2)) : Run Unit).text channel :=
    Run.text_append _ _ _ ⟨.ok (), w, _⟩ channel
  have hrecorded : (Run.mk (.ok ()) w (if w.logging.isEnabled r then [Event.recorded r] else []) : Run Unit).text
      channel = [] := by
    split <;> rfl
  rw [hevents, hrecorded, List.nil_append, hlines]

/-- A program that does nothing to a workspace but to log, and ends with a value. -/
structure Logs {α : Type} (host : Host) (p : Program α) (w : Workspace) (a : α) : Prop where
  value : (p w).value = .ok a
  workspace : (p w).workspace = w
  output : w.SparesOutput host → (p w).text host.output = []

variable {α β : Type} {host : Host}

theorem Logs.bind_value {p : Program α} {w : Workspace} {a : α} (h : Logs host p w a) (f : α → Program β) :
    ((p >>= f) w).value = (f a w).value := by
  rw [bind_of_ok h.value, h.workspace]

theorem Logs.bind_text {p : Program α} {w : Workspace} {a : α} (h : Logs host p w a) (f : α → Program β)
    (channel : Channel) : ((p >>= f) w).text channel = (p w).text channel ++ (f a w).text channel := by
  rw [bind_of_ok h.value, Run.text_append, h.workspace]
  rfl

theorem Logs.bind_output {p : Program α} {w : Workspace} {a : α} (h : Logs host p w a) (f : α → Program β)
    (hspares : w.SparesOutput host) : ((p >>= f) w).text host.output = (f a w).text host.output := by
  rw [h.bind_text, h.output hspares, List.nil_append]

theorem Logs.bind {p : Program α} {f : α → Program β} {w : Workspace} {a : α} {b : β} (hp : Logs host p w a)
    (hf : Logs host (f a) w b) : Logs host (p >>= f) w b where
  value := (hp.bind_value f).trans hf.value
  workspace := by
    rw [bind_of_ok hp.value, hp.workspace]
    exact hf.workspace
  output hspares := (hp.bind_output f hspares).trans (hf.output hspares)

theorem Logs.pure (a : α) (w : Workspace) : Logs host (Pure.pure a : Program α) w a :=
  ⟨rfl, rfl, fun _ => rfl⟩

/-- Without a handler for the output, a record goes elsewhere. -/
theorem lines_of_sparesOutput {r : Record} {w : Workspace} (h : w.SparesOutput host) :
    ∀ x ∈ lines host w r, x.1 ≠ host.output := by
  intro x hx
  rcases List.mem_append.mp hx with hx | hx
  · rw [Setup.writes] at hx
    split at hx
    · obtain ⟨handler, hmem, rfl⟩ := List.mem_map.mp hx
      exact h handler (List.mem_filter.mp hmem).1
    · exact absurd hx List.not_mem_nil
  · obtain ⟨text, _, rfl⟩ := List.mem_map.mp hx
    exact host.errors_ne_output

theorem Logs.log (r : Record) (w : Workspace) : Logs host (Program.log host r) w () := by
  refine ⟨rfl, rfl, ?_⟩
  intro hspares
  rw [text_log, received_eq_nil (lines_of_sparesOutput hspares)]

theorem Logs.logAll (rs : List Record) (w : Workspace) : Logs host (Program.logAll host rs) w () := by
  induction rs with
  | nil => exact .pure () w
  | cons r rest ih => exact .bind (.log r w) ih

theorem text_logAll (rs : List Record) (w : Workspace) (channel : Channel) :
    (Program.logAll host rs w).text channel = received channel (rs.flatMap (lines host w)) := by
  induction rs with
  | nil => rfl
  | cons r rest ih =>
    change ((Program.log host r >>= fun _ => Program.logAll host rest) w).text channel = _
    rw [(Logs.log r w).bind_text, ih, text_log, List.flatMap_cons, received_append]

theorem records_log_eq_filter (host : Host) (r : Record) (w : Workspace) :
    (Program.log host r w).records = [r].filter w.logging.isEnabled := by
  rw [records_log, List.filter_cons, List.filter_nil]

theorem records_logAll (host : Host) (rs : List Record) (w : Workspace) :
    (Program.logAll host rs w).records = rs.filter w.logging.isEnabled := by
  induction rs with
  | nil => rfl
  | cons r rest ih =>
    have hlog : Logs host (Program.log host r) w () := .log r w
    change ((Program.log host r >>= fun _ => Program.logAll host rest) w).records = _
    rw [bind_of_ok hlog.value, Run.records_append, hlog.workspace, ih]
    change (Program.log host r w).records ++ _ = _
    rw [records_log_eq_filter, ← List.filter_append]
    rfl

theorem Logs.catalog (result : Catalog.Result) (w : Workspace) :
    Logs host (Program.catalog host result) w (result.map Logged.value) := by
  cases result with
  | error fault => exact .pure _ w
  | ok logged => exact .bind (.logAll logged.records w) (.pure _ w)

theorem Logs.outlinePath (settings : Settings) (filter : Filter) (path : RawText) (w : Workspace) :
    Logs host (Program.outlinePath host settings filter path) w
      ((w.site.ofPath (host.method settings filter) (.ofText path)).map Logged.value) := by
  have hlogs : Logs host (Program.catalog host (w.site.ofPath (host.method settings filter) (.ofText path))) w _ :=
    .catalog _ w
  obtain ⟨hvalue, hworkspace, houtput⟩ := hlogs
  refine ⟨?_, ?_, fun hspares => ?_⟩ <;> rw [Program.outlinePath]
  · exact hvalue
  · exact hworkspace
  · exact houtput hspares

end Program

/-! ### Files of variables -/

/-- What handlers from before write on the output while files of variables are loaded. -/
def Workspace.heard (host : Host) (w : Workspace) : RawText :=
  received host.output ((w.complaints host.variableReader).flatMap (w.logging.writes host.time))

theorem Workspace.heard_eq_nil {host : Host} {w : Workspace}
    (h : w.SparesOutput host ∨ w.complaints host.variableReader = []) : w.heard host = [] := by
  rcases h with hspares | hsilent
  · refine received_eq_nil fun x hx => ?_
    obtain ⟨r, _, hx⟩ := List.mem_flatMap.mp hx
    exact Program.lines_of_sparesOutput hspares x (List.mem_append_left _ hx)
  · rw [heard, hsilent]
    rfl

theorem Program.output_complaints (host : Host) (w : Workspace) :
    (Program.logAll host (w.complaints host.variableReader) w).text host.output = w.heard host := by
  have hlast (r : Record) : ∀ x ∈ (w.logging.lastResort r).map fun text => (host.errors, text), x.1 ≠ host.output := by
    intro x hx
    obtain ⟨text, _, rfl⟩ := List.mem_map.mp hx
    exact host.errors_ne_output
  have hlines (r : Record) :
      received host.output (lines host w r) = received host.output (w.logging.writes host.time r) := by
    rw [lines, received_append, received_eq_nil (hlast r), List.append_nil]
  rw [text_logAll, Workspace.heard]
  induction w.complaints host.variableReader with
  | nil => rfl
  | cons r rest ih => rw [List.flatMap_cons, List.flatMap_cons, received_append, received_append, hlines, ih]

/-- How the loading of the files of variables ends. -/
def Workspace.loadingOutcome (host : Host) (w : Workspace) : Except Fault Unit :=
  match (w.loadBoth host.variableReader).2 with
  | none => .ok ()
  | some fault => .error (.loading fault)

theorem Program.loadVariables_apply (host : Host) (w : Workspace) :
    Program.loadVariables host w = ⟨w.loadingOutcome host, w.loadVariables host.variableReader,
      (Program.logAll host (w.complaints host.variableReader) w).events⟩ := by
  have hlogs : Logs host (Program.logAll host (w.complaints host.variableReader)) w () := .logAll _ w
  rw [Program.loadVariables, bind_of_ok (a := w) rfl]
  dsimp only [Program.get]
  rw [bind_of_ok hlogs.value, hlogs.workspace, bind_of_ok (a := ()) rfl, Workspace.loadingOutcome]
  cases (w.loadBoth host.variableReader).2 <;> simp [Program.modify, Program.fail, Program.pure]

namespace CommandLine

variable {host : Host} (args : List RawText) {w : Workspace}

theorem run_of_fault {fault : Fault} (h : w.loadingOutcome host = .error fault) :
    CommandLine.run host args w = ⟨.error fault, w.loadVariables host.variableReader,
      (Program.logAll host (w.complaints host.variableReader) w).events⟩ := by
  have hload := Program.loadVariables_apply host w
  have hvalue : (Program.loadVariables host w).value = .error fault := by rw [hload, h]
  rw [run, Program.bind_of_error hvalue, hload]

theorem run_of_loaded (h : w.loadingOutcome host = .ok ()) :
    CommandLine.run host args w = ⟨(afterLoading host args (w.loadVariables host.variableReader)).value,
      (afterLoading host args (w.loadVariables host.variableReader)).workspace,
      (Program.logAll host (w.complaints host.variableReader) w).events ++
        (afterLoading host args (w.loadVariables host.variableReader)).events⟩ := by
  have hload := Program.loadVariables_apply host w
  rw [run, Program.bind_of_ok (a := ()) (by rw [hload, h]), hload]

theorem text_run_of_loaded (h : w.loadingOutcome host = .ok ()) (channel : Channel) :
    (CommandLine.run host args w).text channel =
      (Program.logAll host (w.complaints host.variableReader) w).text channel ++
        (afterLoading host args (w.loadVariables host.variableReader)).text channel := by
  rw [run_of_loaded args h, Run.text_append]
  rfl

theorem output_run_of_loaded (h : w.loadingOutcome host = .ok ()) :
    (CommandLine.run host args w).text host.output =
      w.heard host ++ (afterLoading host args (w.loadVariables host.variableReader)).text host.output := by
  rw [text_run_of_loaded args h, Program.output_complaints]

theorem output_run_of_fault {fault : Fault} (h : w.loadingOutcome host = .error fault) :
    (CommandLine.run host args w).text host.output = w.heard host := by
  rw [run_of_fault args h, ← Program.output_complaints]
  rfl

end CommandLine

end ClassOutline.Service
