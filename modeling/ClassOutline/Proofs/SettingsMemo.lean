import ClassOutline.Proofs.ProgramRuns

/-!
# The settings in use

The settings are read when they are asked for, until that succeeds. From then on everybody gets the settings of that
moment, until they are forgotten.
-/
namespace ClassOutline.Service

open Catalog Config Files Log Outline

/-! ### Programs that ask -/

/-- Whoever asked during a run got what a workspace had in use, and was the last to ask if that was a fault. If
anybody asked, the settings are in use after the run. -/
structure Run.Asks {α : Type} (r : Run α) (w : Workspace) : Prop where
  consulted : ∀ outcome ∈ r.consulted, outcome = w.inUse
  memo : r.workspace.memo = if r.consulted = [] then w.memo else w.inUse.toOption
  stops : ∀ fault, .error fault ∈ r.consulted → r.value = .error (.badInteger fault)

namespace Run.Asks

variable {α : Type} {r : Run α} {w : Workspace}

private theorem of_silent (hconsulted : r.consulted = []) (hmemo : r.workspace.memo = w.memo) : r.Asks w where
  consulted := by simp [hconsulted]
  memo := by simp [hconsulted, hmemo]
  stops := by simp [hconsulted]

private theorem memo_of_some (h : r.Asks w) {s : Settings} (hmemo : w.memo = some s) : r.workspace.memo = some s := by
  rw [h.memo, hmemo, Workspace.inUse_of_memo hmemo]
  exact ite_self _

private theorem memo_of_ok (h : r.Asks w) {s : Settings} (hs : .ok s ∈ r.consulted) : r.workspace.memo = some s := by
  have hne : r.consulted ≠ [] := List.ne_nil_of_mem hs
  rw [h.memo, if_neg hne, ← h.consulted _ hs]
  rfl

private theorem memo_of_failed (h : r.Asks w) (hempty : w.memo = none)
    (hfailed : ∀ outcome ∈ r.consulted, ∃ fault, outcome = .error fault) : r.workspace.memo = none := by
  rw [h.memo]
  split
  · exact hempty
  · rename_i hne
    obtain ⟨outcome, hmem⟩ := List.exists_mem_of_ne_nil _ hne
    obtain ⟨fault, rfl⟩ := hfailed _ hmem
    rw [← h.consulted _ hmem]
    rfl

/-- Events that ask nothing may come before. -/
theorem prepend (h : r.Asks w) {before : List Event} (hsilent : (Run.mk r.value r.workspace before).consulted = []) :
    (Run.mk r.value r.workspace (before ++ r.events)).Asks w := by
  have hconsulted : (Run.mk r.value r.workspace (before ++ r.events)).consulted = r.consulted := by
    rw [Run.consulted_append, hsilent, List.nil_append]
  refine ⟨?_, ?_, ?_⟩ <;> rw [hconsulted]
  · exact h.consulted
  · exact h.memo
  · exact h.stops

end Run.Asks

/-- A program that keeps the environment, and gets the settings only by asking for them. -/
structure Program.Steady {α : Type} (p : Program α) : Prop where
  environment : ∀ w, (p w).workspace.environment = w.environment
  asks : ∀ w, (p w).Asks w

/-- A program that never asks for the settings. -/
structure Program.Quiet {α : Type} (p : Program α) : Prop where
  environment : ∀ w, (p w).workspace.environment = w.environment
  memo : ∀ w, (p w).workspace.memo = w.memo
  consulted : ∀ w, (p w).consulted = []

/-- A program that asks for the settings at least once. -/
def Program.Asking {α : Type} (p : Program α) : Prop :=
  ∀ w, (p w).consulted ≠ []

namespace Program

variable {α β : Type}

private theorem consulted_map (p : Program α) (f : α → β) (w : Workspace) :
    ((do return f (← p) : Program β) w).consulted = (p w).consulted := by
  rcases bind_cases p (fun a => Pure.pure (f a)) w with ⟨fault, _, hrun⟩ | ⟨a, _, hrun⟩ <;> rw [hrun]
  · rfl
  · rw [Run.consulted_append]
    exact List.append_nil _

theorem Asking.settings : Asking Program.settings := by
  intro w
  rw [settings_apply]
  exact List.cons_ne_nil _ _

theorem Asking.bind {p : Program α} (h : Asking p) (f : α → Program β) : Asking (p >>= f) := by
  intro w
  rcases bind_cases p f w with ⟨fault, _, hrun⟩ | ⟨a, _, hrun⟩ <;> rw [hrun]
  · exact h w
  · rw [Run.consulted_append]
    exact List.append_ne_nil_of_left_ne_nil (h w) _

private theorem Asking.log_bind (host : Host) (r : Record) {f : Unit → Program β} (h : Asking (f ())) :
    Asking (Program.log host r >>= f) := by
  intro w
  rw [bind_of_ok (a := ()) rfl, Run.consulted_append]
  exact List.append_ne_nil_of_right_ne_nil _ (h _)

private theorem Quiet.steady {p : Program α} (h : Quiet p) : Steady p :=
  ⟨h.environment, fun w => .of_silent (h.consulted w) (h.memo w)⟩

theorem Steady.settings : Steady Program.settings where
  environment w := by rw [settings_apply]
  asks w := by
    rw [settings_apply]
    refine ⟨?_, rfl, ?_⟩
    · intro outcome h
      exact List.mem_singleton.mp h
    · intro fault h
      have hfault : .error fault = w.inUse := List.mem_singleton.mp h
      simp only [← hfault]
      rfl

/-- After a steady program the same settings are in use. -/
theorem Steady.inUse {p : Program α} (h : Steady p) (w : Workspace) : (p w).workspace.inUse = w.inUse := by
  have hmemo := (h.asks w).memo
  by_cases hsilent : (p w).consulted = []
  · rw [if_pos hsilent] at hmemo
    rw [Workspace.inUse, Workspace.inUse, hmemo, h.environment]
  · rw [if_neg hsilent] at hmemo
    cases hfound : w.inUse with
    | ok s => exact Workspace.inUse_of_memo (by rw [hmemo, hfound]; rfl)
    | error fault =>
      have hempty : (p w).workspace.memo = none := by rw [hmemo, hfound]; rfl
      rw [Workspace.inUse_of_empty hempty, h.environment, ← hfound,
        Workspace.inUse_of_empty (Workspace.memo_of_inUse_error hfound)]

theorem Steady.bind {p : Program α} {f : α → Program β} (hp : Steady p) (hf : ∀ a, Steady (f a)) :
    Steady (p >>= f) where
  environment w := by
    rcases bind_cases p f w with ⟨fault, _, hrun⟩ | ⟨a, _, hrun⟩
    · rw [hrun]
      exact hp.environment w
    · rw [hrun]
      exact ((hf a).environment _).trans (hp.environment w)
  asks w := by
    have first := hp.asks w
    rcases bind_cases p f w with ⟨fault, hfault, hrun⟩ | ⟨a, hok, hrun⟩
    · rw [hrun]
      refine ⟨first.consulted, first.memo, ?_⟩
      intro fault' h
      obtain rfl : fault = .badInteger fault' := Except.error.inj (hfault.symm.trans (first.stops fault' h))
      rfl
    · have second := (hf a).asks (p w).workspace
      -- A fault of the settings would have ended the first program.
      have hnofault : ∀ fault, .error fault ∉ (p w).consulted := by
        intro fault h
        rw [first.stops fault h] at hok
        cases hok
      rw [hrun]
      refine ⟨?_, ?_, ?_⟩
      · intro outcome h
        rw [Run.consulted_append] at h
        rcases List.mem_append.mp h with h | h
        · exact first.consulted outcome h
        · rw [second.consulted outcome h, hp.inUse]
      · rw [Run.consulted_append]
        change (f a (p w).workspace).workspace.memo =
          if (p w).consulted ++ (f a (p w).workspace).consulted = [] then w.memo else w.inUse.toOption
        rw [second.memo, first.memo, hp.inUse]
        by_cases h1 : (p w).consulted = [] <;> by_cases h2 : (f a (p w).workspace).consulted = [] <;> simp [h1, h2]
      · intro fault h
        rw [Run.consulted_append] at h
        rcases List.mem_append.mp h with h | h
        · exact absurd h (hnofault fault)
        · exact second.stops fault h

theorem Quiet.bind {p : Program α} {f : α → Program β} (hp : Quiet p) (hf : ∀ a, Quiet (f a)) : Quiet (p >>= f) := by
  refine ⟨fun w => ?_, fun w => ?_, fun w => ?_⟩ <;>
    rcases bind_cases p f w with ⟨fault, _, hrun⟩ | ⟨a, _, hrun⟩ <;> rw [hrun]
  · exact hp.environment w
  · exact ((hf a).environment _).trans (hp.environment w)
  · exact hp.memo w
  · exact ((hf a).memo _).trans (hp.memo w)
  · exact hp.consulted w
  · rw [Run.consulted_append, (hf a).consulted, List.append_nil]
    exact hp.consulted w

theorem Quiet.pure (a : α) : Quiet (Pure.pure a : Program α) :=
  ⟨fun _ => rfl, fun _ => rfl, fun _ => rfl⟩

theorem Steady.map {p : Program α} (h : Steady p) (f : α → β) : Steady (do return f (← p)) :=
  .bind h fun _ => (Quiet.pure _).steady

theorem Quiet.fail (fault : Fault) : Quiet (Program.fail fault : Program α) :=
  ⟨fun _ => rfl, fun _ => rfl, fun _ => rfl⟩

theorem Quiet.get : Quiet Program.get :=
  ⟨fun _ => rfl, fun _ => rfl, fun _ => rfl⟩

theorem Quiet.write (channel : Channel) (text : RawText) : Quiet (Program.write channel text) :=
  ⟨fun _ => rfl, fun _ => rfl, fun _ => rfl⟩

theorem Quiet.print (host : Host) (text : RawText) : Quiet (Program.print host text) := by
  unfold Program.print
  split
  · exact .write _ _
  · exact .fail _

theorem Quiet.log (host : Host) (r : Record) : Quiet (Program.log host r) := by
  refine ⟨fun _ => rfl, fun _ => rfl, fun w => ?_⟩
  refine Run.consulted_eq_nil fun event hevent outcome => ?_
  rcases mem_events_log hevent with rfl | ⟨x, _, rfl⟩ <;> exact Event.noConfusion

theorem Quiet.logAll (host : Host) (rs : List Record) : Quiet (Program.logAll host rs) := by
  induction rs with
  | nil => exact .pure ()
  | cons r rest ih => exact .bind (.log host r) fun _ => ih

theorem Quiet.setUpLogging (host : Host) (level : String) (stream : Stream) :
    Quiet (Program.setUpLogging host level stream) :=
  ⟨fun _ => rfl, fun _ => rfl, fun _ => rfl⟩

theorem Quiet.layOut (host : Host) (settings : Settings) (document : Json) :
    Quiet (Program.layOut host settings document) := by
  unfold Program.layOut
  split
  · exact .pure _
  · exact .fail _

theorem Quiet.catalog (host : Host) (result : Catalog.Result) : Quiet (Program.catalog host result) := by
  unfold Program.catalog
  split
  · exact .pure _
  · exact .bind (.logAll host _) fun _ => .pure _

theorem Quiet.outlinePath (host : Host) (settings : Settings) (filter : Filter) (path : RawText) :
    Quiet (Program.outlinePath host settings filter path) := by
  refine ⟨fun w => ?_, fun w => ?_, fun w => ?_⟩ <;> rw [Program.outlinePath]
  · exact (Quiet.catalog host _).environment w
  · exact (Quiet.catalog host _).memo w
  · exact (Quiet.catalog host _).consulted w

end Program

/-! ### The services -/

open Program

private theorem Http.quiet_encode (text : RawText) : Quiet (Http.encode text) := by
  rw [Http.encode]
  split
  · exact .pure _
  · exact .fail _

private theorem Http.steady_bodyText (host : Host) (document : Json) : Steady (Http.bodyText host document) :=
  .bind .settings fun s => .bind (Quiet.layOut host s document).steady fun text => (quiet_encode text).steady

private theorem Http.steady_errorAnswer (host : Host) (status : Nat) (allow : Option String) (message : RawText) :
    Steady (Http.errorAnswer host status allow message) :=
  .bind (steady_bodyText host _) fun _ => (Quiet.pure _).steady

private theorem Http.steady_catalogAnswer (host : Host) (request : Http.Request) :
    Steady (Http.catalogAnswer host request) := by
  unfold Http.catalogAnswer
  split
  · exact steady_errorAnswer host 400 none missingPath
  · refine .bind .settings fun s => .bind (Quiet.outlinePath host s _ _).steady fun result => ?_
    cases result with
    | error fault => exact steady_errorAnswer host 400 none fault.message
    | ok catalog => exact .bind (steady_bodyText host _) fun _ => (Quiet.pure _).steady

private theorem Http.asking_errorAnswer (host : Host) (status : Nat) (allow : Option String) (message : RawText) :
    Asking (Http.errorAnswer host status allow message) :=
  .bind (.bind .settings _) _

private theorem Http.asking_catalogAnswer (host : Host) (request : Http.Request) :
    Asking (Http.catalogAnswer host request) := by
  unfold Http.catalogAnswer
  split
  · exact asking_errorAnswer host 400 none missingPath
  · exact .bind .settings _

/-- Whether the answer to a request depends on the settings. -/
def Http.Request.asks (host : Host) (r : Http.Request) : Bool :=
  host.framework r = .route .catalog || host.framework r = .route .refusal

/-- An answer that depends on the settings asks for them and nothing but them; any other is fixed. -/
theorem Http.answer_cases (host : Host) (request : Http.Request) :
    (request.asks host = true ∧ Steady (Http.answer host request) ∧ Asking (Http.answer host request)) ∨
    (request.asks host = false ∧ ∃ a, Http.answer host request = Pure.pure a) := by
  unfold Http.answer Http.Request.asks
  cases hdispatch : host.framework request with
  | own response length => exact .inr ⟨by simp, _, rfl⟩
  | route route =>
    cases route with
    | health => exact .inr ⟨by simp, _, rfl⟩
    | catalog => exact .inl ⟨by simp, steady_catalogAnswer host request, asking_catalogAnswer host request⟩
    | refusal =>
      exact .inl ⟨by simp, steady_errorAnswer host 405 (some "GET") getOnly,
        asking_errorAnswer host 405 (some "GET") getOnly⟩

private theorem Http.quiet_handle {host : Host} {request : Http.Request} {a : Http.Answer}
    (h : Http.answer host request = Pure.pure a) : Quiet (Http.handle host request) := by
  refine .bind (.log host _) fun _ => .bind ?_ fun _ => .bind (.log host _) fun _ => .pure _
  rw [h]
  exact .pure a

private theorem Http.steady_handle (host : Host) (request : Http.Request) : Steady (Http.handle host request) := by
  rcases answer_cases host request with ⟨_, hsteady, _⟩ | ⟨_, a, hfixed⟩
  · exact .bind (Quiet.log host _).steady fun _ => .bind hsteady fun a =>
      .bind (Quiet.log host _).steady fun _ => (Quiet.pure _).steady
  · exact (quiet_handle hfixed).steady

private theorem Http.consulted_handle_ne_nil_iff (host : Host) (request : Http.Request) (w : Workspace) :
    (Http.handle host request w).consulted ≠ [] ↔ request.asks host = true := by
  rcases answer_cases host request with ⟨hasks, _, hasking⟩ | ⟨hasks, a, hfixed⟩
  · exact ⟨fun _ => hasks, fun _ => Asking.log_bind host _ (.bind hasking _) w⟩
  · simp [hasks, (quiet_handle hfixed).consulted w]

private theorem Http.steady_start (host : Host) : Steady (Http.start host) :=
  .bind .settings fun _ => .bind (Quiet.setUpLogging host _ _).steady fun _ => (Quiet.log host _).steady

private theorem Tool.steady_run (host : Host) (path : RawText) (isPublic : Bool) :
    Steady (Tool.run host path isPublic) :=
  .bind .settings fun s => .bind (Quiet.outlinePath host s _ path).steady fun _ => (Quiet.pure _).steady

private theorem Program.consulted_complaints (host : Host) (w : Workspace) :
    (Program.logAll host (w.complaints host.variableReader) w).consulted = [] :=
  (Quiet.logAll host _).consulted w

private theorem CommandLine.quiet_answer (host : Host) (settings : Settings) (request : Request) :
    Quiet (answer host settings request) := by
  refine .bind (.log host _) fun _ => .bind (.outlinePath host settings _ _) fun result => ?_
  cases result with
  | error fault => exact .bind (.write _ _) fun _ => .bind (.log host _) fun _ => .pure 1
  | ok catalog =>
    exact .bind (.layOut host settings _) fun _ => .bind (.print host _) fun _ => .bind (.log host _) fun _ => .pure 0

private theorem CommandLine.steady_afterLoading (host : Host) (args : List RawText) :
    Steady (afterLoading host args) := by
  refine .bind .settings fun s => .bind (Quiet.setUpLogging host _ _).steady fun _ => ?_
  split
  · exact .bind (Quiet.print host _).steady fun _ => (Quiet.pure 1).steady
  · exact (quiet_answer host s _).steady

/-! ### Actions -/

namespace Action

private theorem quiet_filterFor (label : String) : Quiet (filterFor label) := by
  unfold filterFor
  split
  · exact .pure _
  · exact .fail _

private theorem quiet_settingsFor (given : GivenSettings) : Quiet (settingsFor (some given)) :=
  ⟨fun _ => rfl, fun _ => rfl, fun _ => rfl⟩

private theorem quiet_outlineWith (host : Host) (scope : Scope) (path : RawText) (label : String)
    (settings : Settings) :
    Quiet (outlineWith host scope path label settings) := by
  refine .bind (quiet_filterFor label) fun filter => .bind .get fun w => .bind (.catalog host _) fun result => ?_
  cases result with
  | error fault => exact .fail _
  | ok catalog => exact .pure _

private theorem quiet_listIn (path : RawText) (extensions : List String) : Quiet (listIn path extensions) := by
  refine .bind .get fun w => ?_
  split
  · exact .pure _
  · exact .fail _

/-- The workspace in which an action asks for the settings. -/
def entered (host : Host) (w : Workspace) : Action → Workspace
  | commandLine _ => w.loadVariables host.variableReader
  | _ => w

/-- Whether an action asks for the settings. The command line does unless its files of variables are not loaded. -/
def asks (host : Host) (w : Workspace) : Action → Bool
  | readSettings | tool .. | start => true
  | commandLine _ => (w.loadBoth host.variableReader).2.isNone
  | outline _ _ _ given => given.isNone
  | request r => r.asks host
  | _ => false

private theorem memo_entered (host : Host) (w : Workspace) (action : Action) :
    (action.entered host w).memo = w.memo := by
  cases action <;> rfl

private theorem asks_change {f : Workspace → Workspace} {w : Workspace} (h : (f w).memo = w.memo) :
    (change f w).Asks w :=
  .of_silent rfl h

private theorem loadVariables_run (host : Host) (w : Workspace) :
    loadVariables.run host w =
      ⟨(w.loadingOutcome host).map fun _ => .environment (w.loadVariables host.variableReader).environment,
        w.loadVariables host.variableReader, (Program.logAll host (w.complaints host.variableReader) w).events⟩ := by
  have hload := loadVariables_apply host w
  cases houtcome : w.loadingOutcome host with
  | error fault =>
    have hvalue : (Program.loadVariables host w).value = .error fault := by rw [hload, houtcome]
    rw [run, bind_of_error hvalue, hload]
    rfl
  | ok _ =>
    rw [run, bind_of_ok (a := ()) (by rw [hload, houtcome]), hload]
    simp only [List.append_nil, Bind.bind, Program.bind, Program.get, Pure.pure, Program.pure, Except.map]

private theorem loadingOutcome_of_isNone {host : Host} {w : Workspace}
    (h : (w.loadBoth host.variableReader).2.isNone = true) :
    w.loadingOutcome host = .ok () := by
  rw [Workspace.loadingOutcome, Option.isNone_iff_eq_none.mp h]

private theorem loadingOutcome_of_not_isNone {host : Host} {w : Workspace}
    (h : (w.loadBoth host.variableReader).2.isNone = false) :
    ∃ fault, w.loadingOutcome host = .error (.loading fault) := by
  rw [Workspace.loadingOutcome]
  cases hfault : (w.loadBoth host.variableReader).2 with
  | none => simp [hfault] at h
  | some fault => exact ⟨fault, rfl⟩

private theorem commandLine_of_fault {host : Host} (args : List RawText) {w : Workspace} {fault : Fault}
    (h : w.loadingOutcome host = .error fault) :
    (commandLine args).run host w = ⟨.error fault, w.loadVariables host.variableReader,
      (Program.logAll host (w.complaints host.variableReader) w).events⟩ := by
  have hrun := CommandLine.run_of_fault args h
  exact (bind_of_error (by rw [hrun]) _).trans (by rw [hrun])

private theorem commandLine_of_loaded {host : Host} (args : List RawText) {w : Workspace}
    (h : w.loadingOutcome host = .ok ()) :
    let later := (do return Answer.exit (← CommandLine.afterLoading host args) : Program Answer)
      (w.loadVariables host.variableReader)
    (commandLine args).run host w = ⟨later.value, later.workspace,
      (Program.logAll host (w.complaints host.variableReader) w).events ++ later.events⟩ :=
  bind_of_before (CommandLine.run_of_loaded args h) fun code => Pure.pure (Answer.exit code)

/-- Every action but the one that forgets the settings gets them only by asking for them. -/
theorem run_asks (host : Host) {action : Action} (hkept : action ≠ .forgetSettings) (w : Workspace) :
    (action.run host w).Asks (entered host w action) := by
  cases action with
  | write | makeDirectory | remove | changeDirectory | setPackageRoot | assign => exact asks_change rfl
  | forgetSettings => exact absurd rfl hkept
  | loadVariables =>
    rw [loadVariables_run]
    exact .of_silent (consulted_complaints host w) rfl
  | readSettings => exact (Steady.map .settings _).asks w
  | listFiles path extensions => exact (quiet_listIn path extensions).steady.asks w
  | outline scope path filter given =>
    refine Steady.asks (.bind ?_ fun s => (quiet_outlineWith host scope path filter s).steady) w
    cases given with
    | none => exact .settings
    | some given => exact (quiet_settingsFor given).steady
  | tool path isPublic => exact (Steady.map (Tool.steady_run host path isPublic) _).asks w
  | commandLine args =>
    cases hloaded : (w.loadBoth host.variableReader).2.isNone with
    | false =>
      obtain ⟨fault, hfault⟩ := loadingOutcome_of_not_isNone hloaded
      rw [commandLine_of_fault args hfault]
      exact .of_silent (consulted_complaints host w) rfl
    | true =>
      rw [commandLine_of_loaded args (loadingOutcome_of_isNone hloaded)]
      have hsteady := Steady.map (CommandLine.steady_afterLoading host args) Answer.exit
      exact (hsteady.asks (w.loadVariables host.variableReader)).prepend (consulted_complaints host w)
  | start => exact (Steady.map (Http.steady_start host) _).asks w
  | request r => exact (Steady.map (Http.steady_handle host r) _).asks w

theorem consulted (host : Host) (action : Action) (w : Workspace) :
    ∀ outcome ∈ (action.run host w).consulted, outcome = (action.entered host w).inUse := by
  by_cases hforget : action = .forgetSettings
  · subst hforget
    exact fun _ h => absurd h List.not_mem_nil
  · exact (run_asks host hforget w).consulted

theorem stops (host : Host) (action : Action) (w : Workspace) (fault : IntegerFault)
    (h : .error fault ∈ (action.run host w).consulted) : (action.run host w).value = .error (.badInteger fault) := by
  by_cases hforget : action = .forgetSettings
  · subst hforget
    exact absurd h List.not_mem_nil
  · exact (run_asks host hforget w).stops fault h

private theorem readSettings_apply (host : Host) (w : Workspace) :
    ∃ outcome, (readSettings.run host w).consulted = [outcome] ∧
      (readSettings.run host w).value = (outcome.mapError .badInteger).map .settings := by
  refine ⟨w.inUse, ?_, ?_⟩
  · exact (consulted_map Program.settings Answer.settings w).trans (by rw [settings_apply]; rfl)
  · exact (value_map Program.settings Answer.settings w).trans (by rw [settings_apply])

private theorem consulted_ne_nil_iff (host : Host) (action : Action) (w : Workspace) :
    (action.run host w).consulted ≠ [] ↔ action.asks host w = true := by
  cases action with
  | write | makeDirectory | remove | changeDirectory | setPackageRoot | assign | forgetSettings =>
    exact ⟨fun h => absurd rfl h, fun h => Bool.noConfusion h⟩
  | loadVariables =>
    rw [loadVariables_run]
    exact ⟨fun h => absurd (consulted_complaints host w) h, fun h => Bool.noConfusion h⟩
  | listFiles path extensions =>
    exact ⟨fun h => absurd ((quiet_listIn path extensions).consulted w) h, fun h => Bool.noConfusion h⟩
  | readSettings => exact iff_of_true (Asking.bind .settings _ w) rfl
  | tool path isPublic => exact iff_of_true (Asking.bind (.bind .settings _) _ w) rfl
  | commandLine args =>
    rw [asks]
    cases hloaded : (w.loadBoth host.variableReader).2.isNone with
    | false =>
      obtain ⟨fault, hfault⟩ := loadingOutcome_of_not_isNone hloaded
      rw [commandLine_of_fault args hfault]
      exact ⟨fun h => absurd (consulted_complaints host w) h, fun h => Bool.noConfusion h⟩
    | true =>
      rw [commandLine_of_loaded args (loadingOutcome_of_isNone hloaded), Run.consulted_append]
      exact iff_of_true (List.append_ne_nil_of_right_ne_nil _ (Asking.bind (.bind .settings _) _ _)) rfl
  | start => exact iff_of_true (Asking.bind (.bind .settings _) _ w) rfl
  | outline scope path filter given =>
    cases given with
    | none => exact iff_of_true (Asking.bind .settings _ w) rfl
    | some given =>
      have hquiet : Quiet (outlineIn host scope path filter (some given)) :=
        .bind (quiet_settingsFor given) fun s => quiet_outlineWith host scope path filter s
      exact ⟨fun h => absurd (hquiet.consulted w) h, fun h => Bool.noConfusion h⟩
  | request r =>
    have hmap : ((request r).run host w).consulted = (Http.handle host r w).consulted := consulted_map _ _ w
    rw [hmap]
    exact Http.consulted_handle_ne_nil_iff host r w

end Action

/-! ### Actions one after the other -/

/-- The workspace after actions. -/
def after : List (Host × Action) → Workspace → Workspace
  | [], w => w
  | (host, action) :: rest, w => after rest (action.run host w).workspace

/-- What everybody got who asked for the settings during actions. -/
def asked (steps : List (Host × Action)) (w : Workspace) : List (Except IntegerFault Settings) :=
  (runAll steps w).flatMap Run.consulted

private theorem asked_cons (host : Host) (action : Action) (rest : List (Host × Action)) (w : Workspace) :
    asked ((host, action) :: rest) w = (action.run host w).consulted ++ asked rest (action.run host w).workspace := by
  simp only [asked, runAll, List.flatMap_cons]

private theorem asked_append (xs ys : List (Host × Action)) (w : Workspace) :
    asked (xs ++ ys) w = asked xs w ++ asked ys (after xs w) := by
  induction xs generalizing w with
  | nil => rfl
  | cons x xs ih => rw [List.cons_append, asked_cons, asked_cons, ih, after, List.append_assoc]

/-- Settings that are in use stay in use. -/
theorem after_of_memo {steps : List (Host × Action)} {w : Workspace} {s : Settings}
    (hkept : ∀ x ∈ steps, x.2 ≠ .forgetSettings) (hmemo : w.memo = some s) :
    (after steps w).memo = some s ∧ ∀ outcome ∈ asked steps w, outcome = .ok s := by
  induction steps generalizing w with
  | nil => exact ⟨hmemo, fun _ h => absurd h List.not_mem_nil⟩
  | cons x rest ih =>
    obtain ⟨host, action⟩ := x
    have hentered : (action.entered host w).memo = some s := by rw [Action.memo_entered, hmemo]
    have hasks := Action.run_asks host (hkept (host, action) List.mem_cons_self) w
    obtain ⟨hafter, hlater⟩ := ih (fun x hx => hkept x (List.mem_cons_of_mem _ hx)) (hasks.memo_of_some hentered)
    refine ⟨hafter, ?_⟩
    intro outcome h
    rw [asked_cons] at h
    rcases List.mem_append.mp h with h | h
    · rw [hasks.consulted outcome h, Workspace.inUse_of_memo hentered]
    · exact hlater outcome h

/-- Nobody who asked during actions got settings. -/
def AllFailed (steps : List (Host × Action)) (w : Workspace) : Prop :=
  ∀ outcome ∈ asked steps w, ∃ fault, outcome = .error fault

/-- One of the actions was the first to get settings, and read them from the environment that it found. -/
def FirstRead (steps : List (Host × Action)) (w : Workspace) (s : Settings) : Prop :=
  ∃ first x rest, steps = first ++ x :: rest ∧ AllFailed first w ∧
    .ok s ∈ (x.2.run x.1 (after first w)).consulted ∧
    Settings.ofEnvironment (x.2.entered x.1 (after first w)).environment = .ok s

theorem FirstRead.cons {host : Host} {action : Action} {rest : List (Host × Action)} {w : Workspace} {s : Settings}
    (hfailed : ∀ outcome ∈ (action.run host w).consulted, ∃ fault, outcome = .error fault)
    (h : FirstRead rest (action.run host w).workspace s) : FirstRead ((host, action) :: rest) w s := by
  obtain ⟨first, x, later, rfl, hfirst, hread⟩ := h
  refine ⟨(host, action) :: first, x, later, rfl, ?_, hread⟩
  intro outcome h
  rw [asked_cons] at h
  exact (List.mem_append.mp h).elim (hfailed outcome) (hfirst outcome)

private theorem FirstRead.mem_asked {steps : List (Host × Action)} {w : Workspace} {s : Settings}
    (h : FirstRead steps w s) :
    .ok s ∈ asked steps w := by
  obtain ⟨first, x, later, rfl, _, hread, _⟩ := h
  rw [asked_append, asked_cons]
  exact List.mem_append_right _ (List.mem_append_left _ hread)

/-- Nothing is in use until the settings are read for the first time; then those are. -/
theorem after_of_empty {steps : List (Host × Action)} {w : Workspace}
    (hkept : ∀ x ∈ steps, x.2 ≠ .forgetSettings) (hempty : w.memo = none) :
    (AllFailed steps w ∧ (after steps w).memo = none) ∨
    ∃ s, FirstRead steps w s ∧ (after steps w).memo = some s := by
  induction steps generalizing w with
  | nil => exact .inl ⟨fun _ h => absurd h List.not_mem_nil, hempty⟩
  | cons x rest ih =>
    obtain ⟨host, action⟩ := x
    have hlater : ∀ x ∈ rest, x.2 ≠ .forgetSettings := fun x hx => hkept x (List.mem_cons_of_mem _ hx)
    have hentered : (action.entered host w).memo = none := by rw [Action.memo_entered, hempty]
    have hasks := Action.run_asks host (hkept (host, action) List.mem_cons_self) w
    by_cases hok : ∃ s, .ok s ∈ (action.run host w).consulted
    · obtain ⟨s, hmem⟩ := hok
      have hread : Settings.ofEnvironment (action.entered host w).environment = .ok s := by
        rw [← Workspace.inUse_of_empty hentered, hasks.consulted _ hmem]
      exact .inr ⟨s, ⟨[], (host, action), rest, rfl, fun _ h => absurd h List.not_mem_nil, hmem, hread⟩,
        (after_of_memo hlater (hasks.memo_of_ok hmem)).1⟩
    · have hfailed : ∀ outcome ∈ (action.run host w).consulted, ∃ fault, outcome = .error fault := by
        intro outcome h
        cases outcome with
        | error fault => exact ⟨fault, rfl⟩
        | ok s => exact absurd ⟨s, h⟩ hok
      -- Nothing is in use after this action, so the rest starts as the whole did.
      rcases ih hlater (hasks.memo_of_failed hentered hfailed) with ⟨hall, hnone⟩ | ⟨s, hread, hsome⟩
      · refine .inl ⟨?_, hnone⟩
        intro outcome h
        rw [asked_cons] at h
        exact (List.mem_append.mp h).elim (hfailed outcome) (hall outcome)
      · exact .inr ⟨s, hread.cons hfailed, hsome⟩

private theorem memo_of_mem_asked {steps : List (Host × Action)} {w : Workspace} {s : Settings}
    (hkept : ∀ x ∈ steps, x.2 ≠ .forgetSettings) (h : .ok s ∈ asked steps w) : (after steps w).memo = some s := by
  induction steps generalizing w with
  | nil => exact absurd h List.not_mem_nil
  | cons x rest ih =>
    obtain ⟨host, action⟩ := x
    have hlater : ∀ x ∈ rest, x.2 ≠ .forgetSettings := fun x hx => hkept x (List.mem_cons_of_mem _ hx)
    rw [asked_cons] at h
    rcases List.mem_append.mp h with h | h
    · have hasks := Action.run_asks host (hkept (host, action) List.mem_cons_self) w
      exact (after_of_memo hlater (hasks.memo_of_ok h)).1
    · exact ih hlater h

/-- Start with no settings in use, and do any actions but the one that forgets the settings. As long as all who asked
for the settings got a fault, nothing is in use, and an action that asks next gets what the environment says at that
moment. Once somebody got settings, these are in use, they are those of the environment that the first successful
action found, and an action that asks next gets them. A fault of the settings is the fault of the action. -/
theorem settings_fixed_by_first_read (w : Workspace) (hempty : w.memo = none) (before : List (Host × Action))
    (hkept : ∀ x ∈ before, x.2 ≠ .forgetSettings) (host : Host) (action : Action) :
    let now := after before w
    let run := action.run host now
    (AllFailed before w → now.memo = none ∧
      ∀ outcome ∈ run.consulted, outcome = Settings.ofEnvironment (action.entered host now).environment) ∧
    (∀ s, .ok s ∈ asked before w → now.memo = some s ∧ FirstRead before w s ∧
      ∀ outcome ∈ run.consulted, outcome = .ok s) ∧
    (run.consulted ≠ [] ↔ action.asks host now = true) ∧
    (∀ fault, .error fault ∈ run.consulted → run.value = .error (.badInteger fault)) ∧
    ∃ outcome, (Action.readSettings.run host now).consulted = [outcome] ∧
      (Action.readSettings.run host now).value = (outcome.mapError .badInteger).map .settings := by
  intro now run
  have hcases := after_of_empty hkept hempty
  refine ⟨?_, ?_, Action.consulted_ne_nil_iff host action now, Action.stops host action now,
    Action.readSettings_apply host now⟩
  · intro hfailed
    rcases hcases with ⟨_, hnone⟩ | ⟨s, hread, _⟩
    · refine ⟨hnone, ?_⟩
      intro outcome h
      rw [Action.consulted host action now outcome h, Workspace.inUse_of_empty]
      rw [Action.memo_entered, hnone]
    · obtain ⟨fault, hfault⟩ := hfailed _ hread.mem_asked
      cases hfault
  · intro s hs
    have hmemo : now.memo = some s := memo_of_mem_asked hkept hs
    refine ⟨hmemo, ?_, ?_⟩
    · rcases hcases with ⟨hfailed, _⟩ | ⟨s', hread, hsome⟩
      · obtain ⟨fault, hfault⟩ := hfailed _ hs
        cases hfault
      · obtain rfl : s' = s := Option.some.inj (hsome.symm.trans hmemo)
        exact hread
    · intro outcome h
      rw [Action.consulted host action now outcome h, Workspace.inUse_of_memo]
      rw [Action.memo_entered, hmemo]

/-- A host of which nothing is asked: every file is refused, no file of variables binds anything, and every request is
answered before it comes to a route. -/
def idleHost : Host where
  read _ _ := .error (.syntaxError "")
  variableReader _ _ := ⟨[], .ok []⟩
  framework _ := .own ⟨404, none, none, ""⟩ "0"
  schedule := []
  process := 0
  terminal _ := none
  refusal _ := none
  room := 0
  time := ""
  memory := ""
  duration := ""

/-- A workspace without files, whose indentation is no number. -/
def misconfigured : Workspace :=
  ⟨.directory [], [], [], ⟨[("JSON_INDENT", "wide")]⟩, none, ⟨Level.warning.number, []⟩⟩

/-- The indentation is put right after a first attempt, and changed again after the second one. -/
def reconfigured : List (Host × Action) :=
  [(idleHost, .readSettings), (idleHost, .assign [("JSON_INDENT", some "2")]), (idleHost, .readSettings),
    (idleHost, .assign [("JSON_INDENT", some "8")])]

theorem misconfigured_settings :
    misconfigured.memo = none ∧ (∀ x ∈ reconfigured, x.2 ≠ .forgetSettings) ∧
    ∃ s, s.jsonIndent = 2 ∧ .ok s ∈ asked reconfigured misconfigured ∧ FirstRead reconfigured misconfigured s ∧
      ((Action.commandLine []).run idleHost (after reconfigured misconfigured)).consulted ≠ [] ∧
      ∀ outcome ∈ ((Action.commandLine []).run idleHost (after reconfigured misconfigured)).consulted,
        outcome = .ok s := by
  have hkept : ∀ x ∈ reconfigured, x.2 ≠ .forgetSettings := by simp [reconfigured]
  have hasked : asked reconfigured misconfigured =
      [.error (.malformed "wide"), .ok ⟨"INFO", "0.0.0.0", 8000, [".php"], 1, 2⟩] := rfl
  have hmem : .ok ⟨"INFO", "0.0.0.0", 8000, [".php"], 1, 2⟩ ∈ asked reconfigured misconfigured := by
    simp [hasked]
  obtain ⟨_, hok, hasks, _⟩ :=
    settings_fixed_by_first_read misconfigured rfl reconfigured hkept idleHost (.commandLine [])
  obtain ⟨_, hfirst, hlater⟩ := hok _ hmem
  exact ⟨rfl, hkept, _, rfl, hmem, hfirst, hasks.mpr rfl, hlater⟩

end ClassOutline.Service
