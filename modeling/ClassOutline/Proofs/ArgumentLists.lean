import ClassOutline.Proofs.TransportAgreement
import ClassOutline.Proofs.UntouchedFiles

/-!
# Argument lists

The command line takes one path and no option but the public one, in any order and as often as somebody likes. With
other arguments it shows its usage and looks at no file. Once logging is set up all records are on the errors, so that
the output has the usage, or nothing, or one document, after what handlers from before have to say about the files of
variables.
-/
namespace ClassOutline.Service

open Catalog Config Log Outline

namespace CommandLine

/-! ### What arguments ask for -/

/-- An argument that is no path. -/
def Dashed (arg : RawText) : Prop :=
  raw "--" <+: arg

instance (arg : RawText) : Decidable (Dashed arg) :=
  inferInstanceAs (Decidable (raw "--" <+: arg))

private theorem isOption_eq (arg : RawText) : isOption arg = decide (Dashed arg) := by
  rw [Bool.eq_iff_iff, decide_eq_true_iff]
  exact List.isPrefixOf_iff_prefix

def paths (args : List RawText) : List RawText :=
  args.filter fun a => ¬Dashed a

private theorem paths_append (args args' : List RawText) : paths (args ++ args') = paths args ++ paths args' :=
  List.filter_append ..

private theorem filter_isOption (args : List RawText) : args.filter (fun a => !isOption a) = paths args := by
  apply List.filter_congr
  intro a _
  rw [isOption_eq, decide_not]

/-- There is not one path, or there is an option that is unknown. -/
def Misused (args : List RawText) : Prop :=
  (paths args).length ≠ 1 ∨ ∃ a ∈ args, Dashed a ∧ a ≠ raw "--public"

instance (args : List RawText) : Decidable (Misused args) :=
  inferInstanceAs (Decidable (_ ∨ _))

private theorem any_unknown_iff (args : List RawText) :
    (args.any fun a => isOption a && a != publicOption) = true ↔ ∃ a ∈ args, Dashed a ∧ a ≠ raw "--public" := by
  simp [isOption_eq, publicOption]

private theorem parse?_cases (args : List RawText) :
    (Misused args ∧ parse? args = none) ∨
      (¬Misused args ∧ ∃ path, paths args = [path] ∧
        parse? args = some ⟨path, .ofPublic (decide (raw "--public" ∈ args))⟩) := by
  unfold parse?
  rw [filter_isOption]
  by_cases hunknown : ∃ a ∈ args, Dashed a ∧ a ≠ raw "--public"
  · refine .inl ⟨.inr hunknown, ?_⟩
    split
    · exact if_pos ((any_unknown_iff args).mpr hunknown)
    · rfl
  by_cases hlength : (paths args).length = 1
  · obtain ⟨path, hpath⟩ := List.length_eq_one_iff.mp hlength
    refine .inr ⟨?_, path, hpath, ?_⟩
    · rintro (hmany | hoption)
      · exact hmany hlength
      · exact hunknown hoption
    · rw [hpath, List.contains_eq_mem]
      exact if_neg (mt (any_unknown_iff args).mp hunknown)
  · refine .inl ⟨.inl hlength, ?_⟩
    split
    · rename_i path hpath
      exact absurd (congrArg List.length hpath) hlength
    · rfl

/-- The same arguments in another order, and perhaps the public option more often. -/
theorem parse?_eq_of_perm {args args' : List RawText} {k : Nat} (hk : k = 0 ∨ raw "--public" ∈ args)
    (hperm : args'.Perm (args ++ List.replicate k (raw "--public"))) : parse? args' = parse? args := by
  have hmem (a : RawText) : a ∈ args' ↔ a ∈ args := by
    rw [hperm.mem_iff, List.mem_append, List.mem_replicate]
    constructor
    · rintro (h | ⟨hne, rfl⟩)
      · exact h
      · exact hk.resolve_left hne
    · exact .inl
  have hpaths : (paths args').Perm (paths args) := by
    have hnone : paths (List.replicate k (raw "--public")) = [] := by
      apply List.filter_eq_nil_iff.mpr
      intro a ha
      rw [List.eq_of_mem_replicate ha]
      decide
    have hfilter : (paths args').Perm (paths (args ++ List.replicate k (raw "--public"))) := hperm.filter _
    rwa [paths_append, hnone, List.append_nil] at hfilter
  have hmisused : Misused args' ↔ Misused args := by
    simp only [Misused, hpaths.length_eq, hmem]
  rcases parse?_cases args with ⟨hargs, hnone⟩ | ⟨hargs, path, hpath, hsome⟩ <;>
    rcases parse?_cases args' with ⟨hargs', hnone'⟩ | ⟨hargs', path', hpath', hsome'⟩
  · rw [hnone, hnone']
  · exact absurd (hmisused.mpr hargs) hargs'
  · exact absurd (hmisused.mp hargs') hargs
  · rw [hpath, hpath'] at hpaths
    cases List.singleton_perm_singleton.mp hpaths
    rw [hsome, hsome']
    simp only [hmem]

end CommandLine

/-! ### Lines of records -/

namespace Program

variable {α β : Type} {host : Host} {line : Record → String} {w : Workspace}

/-- The errors get the lines of all records in order, and a notice somewhere among them. -/
def Transcribes (host : Host) (line : Record → String) (notice : RawText) (p : Program α) (w : Workspace) : Prop :=
  ∃ before after, (p w).records = before ++ after ∧
    (p w).text host.errors = raw (String.join (before.map line)) ++ notice ++ raw (String.join (after.map line))

private theorem transcribes_plain_iff {p : Program α} :
    Transcribes host line [] p w ↔ (p w).text host.errors = raw (String.join ((p w).records.map line)) := by
  constructor
  · rintro ⟨before, after, hrecords, htext⟩
    rw [htext, hrecords, List.map_append, String.join_append, List.append_nil, raw_append]
  · intro h
    exact ⟨(p w).records, [], (List.append_nil _).symm, by rw [h]; simp [raw]⟩

theorem Transcribes.pure (a : α) : Transcribes host line [] (Pure.pure a : Program α) w :=
  ⟨[], [], rfl, rfl⟩

theorem Transcribes.fail (fault : Fault) : Transcribes host line [] (Program.fail fault : Program α) w :=
  ⟨[], [], rfl, rfl⟩

theorem Transcribes.bind {p : Program α} {f : α → Program β} {a : α} {notice : RawText} (hlogs : Logs host p w a)
    (hp : Transcribes host line [] p w) (hf : Transcribes host line notice (f a) w) :
    Transcribes host line notice (p >>= f) w := by
  obtain ⟨before, after, hrecords, htext⟩ := hf
  have hfirst := transcribes_plain_iff.mp hp
  refine ⟨(p w).records ++ before, after, ?_, ?_⟩
  · rw [bind_of_ok hlogs.value, Run.records_append, hlogs.workspace, hrecords, List.append_assoc]
    rfl
  · rw [hlogs.bind_text, hfirst, htext, List.map_append, String.join_append, raw_append]
    simp only [List.append_assoc]

private theorem Transcribes.bind_of_fault {p : Program α} {f : α → Program β} {fault : Fault} {notice : RawText}
    (hvalue : (p w).value = .error fault) (hp : Transcribes host line notice p w) :
    Transcribes host line notice (p >>= f) w := by
  unfold Transcribes
  rw [bind_of_error hvalue]
  exact hp

private theorem Transcribes.write_errors {f : Unit → Program β} (text : RawText)
    (hf : Transcribes host line [] (f ()) w) :
    Transcribes host line text (Program.write host.errors text >>= f) w := by
  have hrest := transcribes_plain_iff.mp hf
  refine ⟨[], (f () w).records, ?_, ?_⟩
  · rw [bind_of_ok (a := ()) rfl, Run.records_append]
    rfl
  · rw [CommandLine.text_write_bind, if_pos rfl, hrest]
    simp [raw]

private theorem Transcribes.write_output {f : Unit → Program β} {notice : RawText} (text : RawText)
    (hf : Transcribes host line notice (f ()) w) :
    Transcribes host line notice (Program.write host.output text >>= f) w := by
  obtain ⟨before, after, hrecords, htext⟩ := hf
  refine ⟨before, after, ?_, ?_⟩
  · rw [bind_of_ok (a := ()) rfl, Run.records_append]
    exact hrecords
  · rw [CommandLine.text_write_bind, if_neg host.errors_ne_output.symm, htext, List.nil_append]

/-- A line on the output, if it is taken, makes no difference to the errors. -/
theorem Transcribes.print {f : Unit → Program β} (text : RawText) (hf : Transcribes host line [] (f ()) w) :
    Transcribes host line [] (Program.print host text >>= f) w := by
  cases hrefusal : host.refusal text with
  | none =>
    rw [CommandLine.print_of_taken hrefusal]
    exact .write_output _ hf
  | some message =>
    rw [CommandLine.print_of_refused hrefusal]
    exact .bind_of_fault rfl (.fail _)

theorem Transcribes.layOut (s : Settings) (document : Json) :
    Transcribes host line [] (Program.layOut host s document) w := by
  refine ⟨[], [], ?_, ?_⟩ <;> rw [layOut_apply] <;> rfl

/-- One line on the errors, if the record counts. -/
def WritesLine (host : Host) (w : Workspace) (line : Record → String) (r : Record) : Prop :=
  Program.lines host w r = if w.logging.isEnabled r then [(host.errors, line r)] else []

theorem Transcribes.log {r : Record} (h : WritesLine host w line r) :
    Transcribes host line [] (Program.log host r) w := by
  rw [transcribes_plain_iff, records_log, text_log, h]
  split <;> simp [received, Setup.received]

theorem Transcribes.logAll {rs : List Record} (h : ∀ r ∈ rs, WritesLine host w line r) :
    Transcribes host line [] (Program.logAll host rs) w := by
  induction rs with
  | nil => exact .pure ()
  | cons r rest ih =>
    have hfirst := h r List.mem_cons_self
    have hrest := fun x hx => h x (List.mem_cons_of_mem r hx)
    exact .bind (.log r w) (.log hfirst) (ih hrest)

theorem Transcribes.outlinePath (h : ∀ r, WritesLine host w line r) (s : Settings) (filter : Filter)
    (path : RawText) : Transcribes host line [] (Program.outlinePath host s filter path) w := by
  unfold Transcribes
  rw [Program.outlinePath]
  cases w.site.ofPath (host.method s filter) (.ofText path) with
  | error fault => exact Transcribes.pure (Except.error fault)
  | ok logged =>
    exact Transcribes.bind (.logAll logged.records w) (.logAll fun r _ => h r) (.pure (Except.ok logged.value))

end Program

namespace CommandLine

/-! ### From arguments to streams -/

private theorem writesLine_ready (host : Host) (s : Settings) (level : Int) (w : Workspace) (r : Record) :
    Program.WritesLine host (ready host s level w) ((lineStyle host w).line host.time) r := by
  unfold Program.WritesLine Program.lines Setup.writes Setup.lastResort
  by_cases henabled : (ready host s level w).logging.isEnabled r = true
  · have hlevel : level ≤ r.level := of_decide_eq_true (Bool.and_eq_true_iff.mp henabled).2
    rw [if_pos henabled, if_pos henabled]
    simp [ready, hlevel]
  · simp [henabled]

/-- What is said about an outcome besides the records. -/
def noticeOf : Except PathFault Catalog → RawText
  | .error fault => errorLine fault
  | .ok _ => []

private theorem transcribes_answer {host : Host} {w : Workspace} {line : Record → String}
    (h : ∀ r, Program.WritesLine host w line r) {s : Settings} {request : Request} {result : Except PathFault Catalog}
    (hresult : outcome host s request w = result) :
    Program.Transcribes host line (noticeOf result) (answer host s request) w := by
  have houtline : Program.Logs host (Program.outlinePath host s request.filter request.path) w result := by
    rw [← hresult]
    exact .outlinePath ..
  apply Program.Transcribes.bind (.log _ w) (.log (h _))
  apply Program.Transcribes.bind houtline (.outlinePath h _ _ _)
  cases result with
  | error fault => exact .write_errors _ (.bind (.log _ w) (.log (h _)) (.pure 1))
  | ok catalog =>
    cases hlayout : layout host s catalog.toJson with
    | error fault =>
      have hvalue : (Program.layOut host s catalog.toJson w).value = .error fault := by rw [layOut_apply, hlayout]
      exact .bind_of_fault hvalue (.layOut s _)
    | ok text =>
      apply Program.Transcribes.bind (logs_layOut hlayout w) (.layOut s _)
      exact .print _ (.bind (.log _ w) (.log (h _)) (.pure 0))

/-! ### The streams of a run -/

/-- The exit code and the output for an outcome, unless its indentation cannot be written or the output does not take
it. -/
def shown (host : Host) (s : Settings) : Except PathFault Catalog → Except Fault Nat × RawText
  | .error _ => (.ok 1, [])
  | .ok catalog =>
    match layout host s catalog.toJson with
    | .error fault => (.error fault, [])
    | .ok text =>
      match host.refusal text with
      | none => (.ok 0, text ++ raw "\n")
      | some message => (.error (.unwritable message), [])

/-- All records have their lines on the errors once logging is set up. Those about the files of variables come first, as
far as handlers from before send them there. A notice stands among the others. -/
def LinesOnErrors (host : Host) (w : Workspace) (notice : RawText) (r : Run Nat) : Prop :=
  let complaints := w.complaints host.variableReader
  let line := (lineStyle host (w.loadVariables host.variableReader)).line host.time
  ∃ before after, r.records = complaints.filter w.logging.isEnabled ++ before ++ after ∧
    r.text host.errors = received host.errors (complaints.flatMap (Program.lines host w)) ++
      raw (String.join (before.map line)) ++ notice ++ raw (String.join (after.map line))

private theorem answer_eq_shown {host : Host} {s : Settings} {request : Request} {w : Workspace}
    (hspares : w.SparesOutput host) {result : Except PathFault Catalog} (houtcome : outcome host s request w = result) :
    (answer host s request w).value = (shown host s result).1 ∧
      (answer host s request w).text host.output = (shown host s result).2 := by
  cases result with
  | error fault =>
    obtain ⟨hvalue, houtput, _⟩ := answer_of_error hspares houtcome
    exact ⟨hvalue, houtput⟩
  | ok catalog =>
    rw [shown]
    cases hlayout : layout host s catalog.toJson with
    | error fault => exact answer_of_unprintable hspares houtcome hlayout
    | ok text =>
      dsimp only
      cases hrefusal : host.refusal text with
      | none => exact answer_of_taken hspares houtcome hlayout hrefusal
      | some message => exact answer_of_refused hspares houtcome hlayout hrefusal

section Runs

variable {host : Host} {w : Workspace} {s : Settings} (hstarts : Starts host w s) {level : Int}
  (hlevel : wantedLevel (some s.logLevel) = .ok level) {args : List RawText}

include hstarts hlevel

private theorem records_run_of_level :
    (run host args w).records = (w.complaints host.variableReader).filter w.logging.isEnabled ++
      (respond host s (parse? args) (ready host s level (w.loadVariables host.variableReader))).records := by
  rw [run_of_loaded args hstarts.loaded, afterLoading_of_level hstarts.inUse hlevel, Run.records_append,
    ← Program.records_logAll host]
  rfl

private theorem linesOnErrors_run {notice : RawText}
    (htranscribes : Program.Transcribes host ((lineStyle host (w.loadVariables host.variableReader)).line host.time)
      notice (respond host s (parse? args)) (ready host s level (w.loadVariables host.variableReader))) :
    LinesOnErrors host w notice (run host args w) := by
  obtain ⟨before, after, hrecords, htext⟩ := htranscribes
  refine ⟨before, after, ?_, ?_⟩
  · rw [records_run_of_level hstarts hlevel, hrecords, List.append_assoc]
  · rw [text_run_of_level hstarts args hlevel, htext, Program.text_logAll]
    simp only [List.append_assoc]

private theorem run_of_misused (husage : host.refusal usage = none) (hnone : parse? args = none) :
    (run host args w).value = .ok 1 ∧
      (run host args w).text host.output = w.heard host ++ raw (usage ++ "\n") ∧
      LinesOnErrors host w [] (run host args w) := by
  refine ⟨?_, ?_, ?_⟩
  · rw [value_run_of_level hstarts args hlevel, hnone, respond, print_of_taken husage]
    rfl
  · rw [output_run_of_level hstarts args hlevel, hnone, respond, print_of_taken husage, text_write_bind, if_pos rfl,
      raw_append]
    congr 1
  · apply linesOnErrors_run hstarts hlevel
    rw [hnone]
    exact .print _ (.pure 1)

private theorem run_of_request {path : RawText} {isPublic : Bool}
    (hsome : parse? args = some ⟨path, .ofPublic isPublic⟩)
    {result : Except PathFault Catalog} (hresult : w.outcome host.read s host.schedule isPublic path = result) :
    (run host args w).value = (shown host s result).1 ∧
      (run host args w).text host.output = w.heard host ++ (shown host s result).2 ∧
      LinesOnErrors host w (noticeOf result) (run host args w) := by
  -- Neither loading variables nor setting up logging touches a file.
  have houtcome : outcome host s ⟨path, .ofPublic isPublic⟩
      (ready host s level (w.loadVariables host.variableReader)) = result := hresult
  have hanswer := answer_eq_shown (sparesOutput_ready host s level (w.loadVariables host.variableReader)) houtcome
  refine ⟨?_, ?_, ?_⟩
  · rw [value_run_of_level hstarts args hlevel, hsome]
    exact hanswer.1
  · rw [output_run_of_level hstarts args hlevel, hsome]
    exact congrArg _ hanswer.2
  · apply linesOnErrors_run hstarts hlevel
    rw [hsome]
    exact transcribes_answer (writesLine_ready host s level _) houtcome

end Runs

/-! ### Arguments and output -/

private theorem ignoresFiles_afterLoading (host : Host) {args : List RawText} (h : parse? args = none) :
    Program.IgnoresFiles (afterLoading host args) := by
  rw [afterLoading_eq, h]
  exact .bind .settings fun _ => .bind (.setUpLogging host _ _) fun _ => .bind (.print host _) fun _ => .pure 1

private theorem afterLoading_congr {host : Host} {args : List RawText} (h : parse? args = none) (read : Reader)
    (schedule : List Nat) :
    afterLoading { host with read := read, schedule := schedule } args = afterLoading host args := by
  rw [afterLoading_eq, afterLoading_eq, h]
  rfl

private theorem run_congr {args args' : List RawText} (h : parse? args' = parse? args) (host : Host) :
    run host args' = run host args := by
  rw [run, run, afterLoading_eq, afterLoading_eq, h]

/-- What the output may have, with the exit code that goes with it. Only a fault ends a run without a code. -/
inductive Ends (host : Host) (s : Settings) : Except Fault Nat → RawText → Prop
  | usage : Ends host s (.ok 1) (raw (usage ++ "\n"))
  | nothing : Ends host s (.ok 1) []
  | document {catalog : Catalog} {text : RawText} (h : Json.read? text = some catalog.toJson) : Ends host s (.ok 0) text
  | badLevel {fault : UnknownLevel} (h : wantedLevel (some s.logLevel) = .error fault) :
      Ends host s (.error (.unknownLevel fault)) []
  | unprintable {fault : Json.IndentFault} (h : Json.Format.indented? host.room s.jsonIndent = .error fault) :
      Ends host s (.error (.layout fault)) []
  | refused {catalog : Catalog} {format : Json.Format} {message : String}
      (hformat : Json.Format.indented? host.room s.jsonIndent = .ok format)
      (h : host.refusal (catalog.toJson.render format) = some message) : Ends host s (.error (.unwritable message)) []

private theorem shown_ne_usage (host : Host) (s : Settings) (result : Except PathFault Catalog) :
    (shown host s result).1 = .ok 1 → (shown host s result).2 ≠ raw (usage ++ "\n") := by
  intro h htext
  cases result with
  | error fault =>
    have hempty : [] = raw (usage ++ "\n") := htext
    exact absurd hempty (by decide)
  | ok catalog =>
    rw [shown] at h
    split at h
    · cases h
    · split at h <;> cases h

private theorem ends_shown (host : Host) (s : Settings) (result : Except PathFault Catalog) :
    Ends host s (shown host s result).1 (shown host s result).2 := by
  cases result with
  | error fault => exact .nothing
  | ok catalog =>
    cases hformat : Json.Format.indented? host.room s.jsonIndent with
    | error fault =>
      rw [shown, layout_of_error hformat]
      exact .unprintable hformat
    | ok format =>
      have hlayout := layout_of_ok hformat catalog.toJson
      rw [shown, hlayout]
      dsimp only
      cases hrefusal : host.refusal (catalog.toJson.render format) with
      | none => exact .document (read?_layout hlayout (raw "\n") (by decide))
      | some message => exact .refused hformat hrefusal

private theorem exists_ends {host : Host} (husage : host.refusal usage = none) {w : Workspace} {s : Settings}
    (hstarts : Starts host w s) (args : List RawText) :
    ∃ printed, (run host args w).text host.output = w.heard host ++ printed ∧
      Ends host s (run host args w).value printed := by
  cases hlevel : wantedLevel (some s.logLevel) with
  | error fault =>
    obtain ⟨hvalue, houtput⟩ := run_of_unknownLevel hstarts args hlevel
    rw [hvalue, houtput]
    exact ⟨[], (List.append_nil _).symm, .badLevel hlevel⟩
  | ok level =>
    rcases parse?_cases args with ⟨_, hnone⟩ | ⟨_, path, _, hsome⟩
    · obtain ⟨hvalue, houtput, _⟩ := run_of_misused hstarts hlevel husage hnone
      rw [hvalue, houtput]
      exact ⟨_, rfl, .usage⟩
    · obtain ⟨hvalue, houtput, _⟩ := run_of_request hstarts hlevel hsome rfl
      rw [hvalue, houtput]
      exact ⟨_, rfl, ends_shown host s _⟩

end CommandLine

end ClassOutline.Service
