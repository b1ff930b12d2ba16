import ClassOutline.Proofs.ConcurrentCatalog
import ClassOutline.Proofs.JsonRoundTrip
import ClassOutline.Proofs.ProgramRuns

/-!
# The three ways to a catalog

The command line, the service over HTTP and the tool for other programs give the same document for the same path and
filter, as far as they give one. The tool always does. The others do not if there is no room for the indentation of
the settings, or if the document has bytes that are no characters and its receiver cannot take them; and the command
line does not if the level of the settings is no level. What handlers from before have to say about the files of
variables stands in front of the document that the command line prints.
-/
namespace ClassOutline.Catalog

open Files Log Outline

/-! ### Catalogs and their keys -/

/-- The text of an absolute path starts with a slash. -/
theorem text_ne_error {p : Path} (h : p.anchor ≠ .relative) : p.text ≠ raw "error" := by
  have htext : p.text = p.anchor.text ++ [Letter.char '/'].intercalate p.parts := by simp [Path.text, h]
  intro heq
  rw [htext] at heq
  have hhead := congrArg List.head? heq
  cases hanchor : p.anchor with
  | relative => exact h hanchor
  | root => simp [hanchor, Anchor.text, raw] at hhead
  | doubleRoot => simp [hanchor, Anchor.text, raw] at hhead

/-- One entry for each key, and none for a key that could be taken for that of a fault. -/
def HasPathKeys (catalog : Catalog) : Prop :=
  (catalog.entries.map Prod.fst).Nodup ∧ raw "error" ∉ catalog.entries.map Prod.fst

private theorem hasPathKeys_ofFile {site : Site} {method : Method} {path : Path} {catalog : Catalog}
    (h : (site.ofFile method path).map Logged.value = .ok catalog) : catalog.HasPathKeys := by
  have hanchor : (path.absolute site.workingDirectory).anchor ≠ .relative := Path.anchor_absolute _ _
  rw [Site.ofFile] at h
  cases hfound : site.lookup (path.absolute site.workingDirectory) with
  | missing => simp [hfound, Except.map] at h
  | tooLong => simp [hfound, Except.map] at h
  | found e =>
    cases e with
    | directory entries => simp [hfound, Except.map] at h
    | file content =>
      simp only [hfound, Except.map, Logged.map, Except.ok.injEq] at h
      subst h
      exact ⟨List.nodup_singleton _, by simpa using (text_ne_error hanchor).symm⟩

private theorem Pointwise.hasPathKeys {site : Site} {method : Method} {directory : Path} {files : List Path}
    {catalog : Catalog} (h : Pointwise site method directory files catalog) (hd : directory.anchor ≠ .relative) :
    catalog.HasPathKeys := by
  rw [HasPathKeys, h.keys]
  refine ⟨List.pairwise_map.mpr (h.increasing.imp ?_), ?_⟩
  · intro f g hlt htext
    exact List.lt_irrefl _ (htext ▸ hlt)
  intro herror
  obtain ⟨f, hf, htext⟩ := List.mem_map.mp herror
  obtain ⟨⟨names, _, _, rfl⟩, _⟩ := (h.complete f).mp hf
  have hanchor : (directory.extend names).anchor ≠ .relative := hd
  exact text_ne_error hanchor htext

private theorem hasPathKeys_ofDirectory {site : Site} (hroot : site.root.WellFormed) {method : Method} {path : Path}
    {catalog : Catalog} (h : (site.ofDirectory method path).map Logged.value = .ok catalog) :
    catalog.HasPathKeys := by
  have hanchor : (path.absolute site.workingDirectory).anchor ≠ .relative := Path.anchor_absolute _ _
  cases hfound : site.lookup (path.absolute site.workingDirectory) with
  | missing => simp [Site.ofDirectory, hfound, Except.map] at h
  | tooLong => simp [Site.ofDirectory, hfound, Except.map] at h
  | found e =>
    cases e with
    | file content => simp [Site.ofDirectory, hfound, Except.map] at h
    | directory entries =>
      have hholds : Holds site (path.absolute site.workingDirectory) (.directory entries) := ⟨hroot, hanchor, hfound⟩
      cases hlong : overlong? (path.absolute site.workingDirectory) (.directory entries) with
      | some p =>
        rw [(ofDirectory_of_overlong method hfound hlong).2] at h
        cases h
      | none =>
        obtain ⟨records, hcatalog⟩ := ofDirectory_of_short method hfound hlong
        rw [hcatalog] at h
        cases h
        exact (hholds.pointwise hlong method rfl).hasPathKeys hanchor

private theorem hasPathKeys_ofPath {site : Site} (hroot : site.root.WellFormed) {method : Method} {path : Path}
    {catalog : Catalog} (h : (site.ofPath method path).map Logged.value = .ok catalog) : catalog.HasPathKeys := by
  rw [Site.ofPath] at h
  split at h
  · cases h
  · exact hasPathKeys_ofDirectory hroot h
  · exact hasPathKeys_ofFile h

/-! ### Documents that can be sent -/

private theorem encodable_textsOfItems {α : Type} {f : α → Json} (h : ∀ x, ∀ t ∈ (f x).texts, t.Encodable)
    (xs : List α) : ∀ t ∈ Json.textsOfItems (xs.map f), t.Encodable := by
  intro t ht
  obtain ⟨item, hitem, ht⟩ := Json.mem_textsOfItems.mp ht
  obtain ⟨x, _, rfl⟩ := List.mem_map.mp hitem
  exact h x t ht

private theorem encodable_texts_name (name : String) : ∀ t ∈ (Json.string (raw name)).texts, t.Encodable := by
  intro t ht
  obtain rfl : t = raw name := by simpa [Json.texts] using ht
  exact RawText.encodable_raw name

private theorem encodable_texts_property (p : PropertyEntry) : ∀ t ∈ p.toJson.texts, t.Encodable := by
  intro t ht
  simp only [PropertyEntry.toJson, Json.texts, Json.textsOfMembers, List.append_nil, List.cons_append,
    List.nil_append, List.mem_cons, List.not_mem_nil, or_false] at ht
  rcases ht with rfl | rfl | rfl | rfl <;> exact RawText.encodable_raw _

private theorem encodable_texts_method (m : MethodEntry) : ∀ t ∈ m.toJson.texts, t.Encodable := by
  intro t ht
  simp only [MethodEntry.toJson, Json.texts, Json.textsOfMembers, List.append_nil, List.cons_append,
    List.nil_append, List.mem_cons, List.not_mem_nil, or_false] at ht
  rcases ht with rfl | rfl | rfl | rfl | rfl | rfl | rfl <;> exact RawText.encodable_raw _

/-- Names and types of a class are characters. -/
theorem encodable_texts_summary (summary : ClassSummary) : ∀ t ∈ summary.toJson.texts, t.Encodable := by
  have hfixed (s : String) : (raw s).Encodable := RawText.encodable_raw s
  have hinterfaces := encodable_textsOfItems encodable_texts_name summary.interfaces
  have hproperties := encodable_textsOfItems encodable_texts_property summary.properties
  have hmethods := encodable_textsOfItems encodable_texts_method summary.methods
  simp only [ClassSummary.toJson, Json.texts, Json.textsOfMembers, List.append_nil, List.cons_append, List.nil_append,
    List.forall_mem_cons, List.forall_mem_append]
  exact ⟨hfixed _, hfixed _, hfixed _, hfixed _, hfixed _, hinterfaces, hfixed _, hproperties, hfixed _, hmethods⟩

private theorem encodable_texts_outline (outline : FileOutline) : ∀ t ∈ outline.toJson.texts, t.Encodable := by
  cases outline with
  | outlined summary => exact encodable_texts_summary summary
  | noClass => simp [FileOutline.toJson, Json.texts]
  | failed message =>
    intro t ht
    simp only [FileOutline.toJson, Json.texts, Json.textsOfMembers, List.append_nil, List.mem_cons, List.not_mem_nil,
      or_false] at ht
    rcases ht with rfl | rfl <;> exact RawText.encodable_raw _

/-- Of a catalog only the keys can have bytes that are no characters. -/
theorem encodable_texts_iff (catalog : Catalog) :
    (∀ t ∈ catalog.toJson.texts, t.Encodable) ↔ ∀ key ∈ catalog.entries.map Prod.fst, key.Encodable := by
  simp only [Catalog.toJson, Json.texts, Json.mem_textsOfMembers, List.mem_map]
  constructor
  · rintro h key ⟨entry, hentry, rfl⟩
    exact h _ ⟨_, ⟨entry, hentry, rfl⟩, .inl rfl⟩
  · rintro h t ⟨_, ⟨entry, hentry, rfl⟩, rfl | ht⟩
    · exact h _ ⟨entry, hentry, rfl⟩
    · exact encodable_texts_outline entry.2 t ht

end ClassOutline.Catalog

namespace ClassOutline.Service

open Catalog Config Files Log Outline

/-! ### The result of a path -/

/-- The catalog of a path, or the fault in its place, for somebody who asks for it in a workspace. -/
def Workspace.outcome (w : Workspace) (read : Reader) (s : Settings) (schedule : List Nat) (isPublic : Bool)
    (path : RawText) : Except PathFault Catalog :=
  (w.site.ofPath ⟨read, s, .ofPublic isPublic, schedule⟩ (.ofText path)).map Logged.value

theorem Workspace.outcome_schedule (w : Workspace) (read : Reader) (s : Settings) (schedule schedule' : List Nat)
    (isPublic : Bool) (path : RawText) :
    w.outcome read s schedule' isPublic path = w.outcome read s schedule isPublic path :=
  map_value_ofPath_schedule w.site ⟨read, s, .ofPublic isPublic, schedule⟩ schedule' (.ofText path)

/-- No key of a catalog, or no letter of a message, is a byte that is no character. -/
def Sendable : Except PathFault Catalog → Prop
  | .ok catalog => ∀ key ∈ catalog.entries.map Prod.fst, key.Encodable
  | .error fault => fault.message.Encodable

private theorem encodable_texts_errorJson (message : RawText) :
    (∀ t ∈ (errorJson message).texts, t.Encodable) ↔ message.Encodable := by
  have herror : (raw "error").Encodable := RawText.encodable_raw _
  simp [errorJson, Json.texts, Json.textsOfMembers, herror]

private theorem encodable_render_iff {f : Json.Format} (hf : f.ascii = false) (outcome : Except PathFault Catalog) :
    ((catalogJson outcome).render f).Encodable ↔ Sendable outcome := by
  rw [Json.render, Json.encodable_print hf]
  cases outcome with
  | ok catalog => exact encodable_texts_iff catalog
  | error fault => exact encodable_texts_errorJson fault.message

theorem encodable_errorJson {f : Json.Format} (hf : f.ascii = false) {message : RawText} (h : message.Encodable) :
    ((errorJson message).render f).Encodable := by
  rw [Json.render, Json.encodable_print hf]
  exact (encodable_texts_errorJson message).mpr h

private theorem settings_ok {w : Workspace} {s : Settings} (h : w.inUse = .ok s) :
    Program.settings w = ⟨.ok s, { w with memo := some s }, [.consulted (.ok s)]⟩ := by
  rw [Program.settings_apply, h]
  rfl

private theorem settings_bind_value {α : Type} {w : Workspace} {s : Settings} (h : w.inUse = .ok s)
    (f : Settings → Program α) : ((Program.settings >>= f) w).value = (f s { w with memo := some s }).value := by
  have hvalue : (Program.settings w).value = .ok s := by rw [settings_ok h]
  rw [Program.bind_of_ok hvalue, settings_ok h]

private theorem settings_bind_text {α : Type} {w : Workspace} {s : Settings} (h : w.inUse = .ok s)
    (f : Settings → Program α)
    (channel : Channel) : ((Program.settings >>= f) w).text channel = (f s { w with memo := some s }).text channel := by
  have hvalue : (Program.settings w).value = .ok s := by rw [settings_ok h]
  rw [Program.bind_of_ok hvalue, Run.text_append, settings_ok h]
  rfl

/-! ### Layouts -/

section Layout

variable (host : Host) (s : Settings)

/-- The text of a document in the layout of settings. -/
def layout (document : Json) : Except Fault RawText :=
  ((Json.Format.indented? host.room s.jsonIndent).mapError Fault.layout).map fun format => document.render format

/-- The text of a document in the layout of settings, to be sent in UTF-8. -/
def sent (document : Json) : Except Fault String :=
  (layout host s document).bind fun text => text.utf8?.mapError Fault.unwritable

theorem layOut_apply (document : Json) (w : Workspace) :
    Program.layOut host s document w = ⟨layout host s document, w, []⟩ := by
  unfold Program.layOut layout
  cases Json.Format.indented? host.room s.jsonIndent <;> rfl

variable {host s}

theorem indented_of_ok {room : Nat} {n : Int} {f : Json.Format} (h : Json.Format.indented? room n = .ok f) :
    f = .indented n := by
  unfold Json.Format.indented? at h
  split_ifs at h
  exact (Except.ok.inj h).symm

theorem layout_of_ok {format : Json.Format} (h : Json.Format.indented? host.room s.jsonIndent = .ok format)
    (document : Json) : layout host s document = .ok (document.render format) := by
  rw [layout, h]
  rfl

theorem layout_of_error {fault : Json.IndentFault} (h : Json.Format.indented? host.room s.jsonIndent = .error fault)
    (document : Json) : layout host s document = .error (.layout fault) := by
  rw [layout, h]
  rfl

theorem read?_layout {document : Json} {text : RawText} (h : layout host s document = .ok text) (trail : RawText)
    (htrail : Json.Gap trail) : Json.read? (text ++ trail) = some document := by
  cases hformat : Json.Format.indented? host.room s.jsonIndent with
  | error fault =>
    rw [layout_of_error hformat] at h
    cases h
  | ok format =>
    rw [layout_of_ok hformat] at h
    cases h
    rw [indented_of_ok hformat]
    exact Json.read?_render (Json.Format.standard_indented _) document trail htrail

theorem sent_of_error {document : Json} {fault : Fault} (h : layout host s document = .error fault) :
    sent host s document = .error fault := by
  rw [sent, h]
  rfl

theorem sent_of_encodable {document : Json} {text : RawText} (h : layout host s document = .ok text)
    (hencodable : text.Encodable) : ∃ body, sent host s document = .ok body ∧ Json.read? body = some document := by
  obtain ⟨body, rfl⟩ := RawText.encodable_iff.mp hencodable
  have hread := read?_layout h [] Json.Gap.nil
  rw [List.append_nil] at hread
  refine ⟨body, ?_, hread⟩
  rw [sent, h]
  change (raw body).utf8?.mapError Fault.unwritable = _
  rw [RawText.utf8?_raw]
  rfl

private theorem sent_of_not_encodable {document : Json} {text : RawText} (h : layout host s document = .ok text)
    (hencodable : ¬ text.Encodable) : sent host s document = .error (.unwritable text.encodingMessage) := by
  rw [sent, h]
  change text.utf8?.mapError Fault.unwritable = _
  rw [RawText.utf8?_eq_error_iff.mpr ⟨hencodable, rfl⟩]
  rfl

/-- What is sent is read back. -/
theorem read?_sent {document : Json} {body : String} (h : sent host s document = .ok body) :
    Json.read? body = some document := by
  cases hlayout : layout host s document with
  | error fault =>
    rw [sent_of_error hlayout] at h
    cases h
  | ok text =>
    by_cases hencodable : text.Encodable
    · obtain ⟨_, hsent, hread⟩ := sent_of_encodable hlayout hencodable
      cases h.symm.trans hsent
      exact hread
    · rw [sent_of_not_encodable hlayout hencodable] at h
      cases h

end Layout

/-! ### The tool -/

private theorem Tool.value_run {w : Workspace} {s : Settings} (h : w.inUse = .ok s) (host : Host) (path : RawText)
    (isPublic : Bool) :
    (Tool.run host path isPublic w).value =
      .ok ((catalogJson (w.outcome host.read s host.schedule isPublic path)).render .asciiLine) := by
  have houtline : Program.Logs host (Program.outlinePath host s (.ofPublic isPublic) path) { w with memo := some s }
      (w.outcome host.read s host.schedule isPublic path) := .outlinePath ..
  rw [Tool.run, settings_bind_value h, houtline.bind_value]
  rfl

/-! ### The service over HTTP -/

namespace Http

/-- The path of the root, which the framework also takes with a line feed behind it. -/
def Request.AtRoot (r : Request) : Prop :=
  r.path = "/" ∨ r.path = "/\n"

/-- What the framework is known to do with requests at the root path: it calls the routes of the service for their
methods, and answers other methods by itself. -/
structure Framework.Documented (framework : Framework) : Prop where
  catalog : ∀ r : Request, r.AtRoot → r.method = "GET" → framework r = .route .catalog
  refusal : ∀ r : Request, r.AtRoot → r.method ∈ refusedMethods → framework r = .route .refusal
  unlisted : ∀ r : Request, r.AtRoot → r.method ≠ "GET" → r.method ∉ refusedMethods →
    ∃ body length, framework r = .own (json 405 (some "GET") body) length ∧
      Json.read? body = some (.object [("detail", .string "Method Not Allowed")])

/-- A request for the catalog of a path. -/
structure Request.AsksFor (r : Request) (path : RawText) (isPublic : Bool) : Prop where
  isGet : r.method = "GET"
  atRoot : r.path = "/"
  target : (r.parameter? "path").map raw = some path
  flag : flagValue (r.parameter? "public") = isPublic

/-- The status of the answer to a request for a catalog. -/
def statusOf : Except PathFault Catalog → Nat
  | .ok _ => 200
  | .error _ => 400

theorem encode_apply (text : RawText) (w : Workspace) :
    encode text w = ⟨text.utf8?.mapError Fault.unwritable, w, []⟩ := by
  rw [encode]
  cases text.utf8? <;> rfl

private theorem value_bodyText {w : Workspace} {s : Settings} (h : w.inUse = .ok s) (host : Host) (document : Json) :
    (bodyText host document w).value = sent host s document := by
  rw [bodyText, settings_bind_value h]
  cases hlayout : layout host s document with
  | error fault =>
    have hvalue : (Program.layOut host s document { w with memo := some s }).value = .error fault := by
      rw [layOut_apply, hlayout]
    rw [Program.bind_of_error hvalue, sent_of_error hlayout]
  | ok text =>
    have hvalue : (Program.layOut host s document { w with memo := some s }).value = .ok text := by
      rw [layOut_apply, hlayout]
    rw [Program.bind_of_ok hvalue, encode_apply, sent, hlayout]
    rfl

theorem value_errorAnswer {w : Workspace} {s : Settings} (h : w.inUse = .ok s) (host : Host) (status : Nat)
    (allow : Option String) (message : RawText) :
    (errorAnswer host status allow message w).value =
      (sent host s (errorJson message)).map fun body => .of (json status allow body) (some message) := by
  rw [errorAnswer, Program.value_map, value_bodyText h]

/-- The message that the answer to a request for a catalog reports. -/
def errorOf : Except PathFault Catalog → Option RawText
  | .ok _ => none
  | .error fault => some fault.message

theorem value_catalogAnswer {w : Workspace} {s : Settings} (h : w.inUse = .ok s) (host : Host) {request : Request}
    {path : String} (htarget : request.target? = some path) {isPublic : Bool}
    (hfilter : request.filter = .ofPublic isPublic) :
    (catalogAnswer host request w).value =
      (sent host s (catalogJson (w.outcome host.read s host.schedule isPublic path))).map fun body =>
        .of (json (statusOf (w.outcome host.read s host.schedule isPublic path)) none body)
          (errorOf (w.outcome host.read s host.schedule isPublic path)) := by
  have hmemo : { w with memo := some s }.inUse = .ok s := rfl
  have houtline : Program.Logs host (Program.outlinePath host s (.ofPublic isPublic) path) { w with memo := some s }
      (w.outcome host.read s host.schedule isPublic path) := .outlinePath ..
  rw [catalogAnswer, htarget, hfilter]
  dsimp only
  rw [settings_bind_value h, houtline.bind_value]
  cases w.outcome host.read s host.schedule isPublic path with
  | error fault => exact value_errorAnswer hmemo host 400 none fault.message
  | ok catalog =>
    simp only [Program.value_map, value_bodyText hmemo]
    rfl

/-- Logging makes no difference to the response. -/
theorem value_handle_eq_answer (host : Host) (request : Request) (w : Workspace) :
    (handle host request w).value = (answer host request w).value.map Answer.response := by
  have hlog (r : Record) (v : Workspace) : Program.Logs host (Program.log host r) v () := .log r v
  rw [handle, (hlog _ w).bind_value]
  rcases Program.bind_cases (answer host request)
    (fun a => do Program.log host (responseRecord host a); return a.response) w with
    ⟨_, hvalue, hrun⟩ | ⟨a, hvalue, hrun⟩
  · rw [hrun, hvalue]
    rfl
  · rw [hrun, hvalue]
    exact (hlog (responseRecord host a) (answer host request w).workspace).bind_value fun _ => pure a.response

theorem answer_of_route {host : Host} {request : Request} {route : Route}
    (h : host.framework request = .route route) : answer host request = route.answer host request := by
  rw [answer, h]

theorem answer_of_own {host : Host} {request : Request} {response : Response} {length : String}
    (h : host.framework request = .own response length) :
    answer host request = return ⟨response, length, none⟩ := by
  rw [answer, h]

theorem value_handle {w : Workspace} {s : Settings} (h : w.inUse = .ok s) {host : Host}
    (hframework : host.framework.Documented) {request : Request} {path : RawText} (hpath : path ≠ [])
    {isPublic : Bool} (hrequest : request.AsksFor path isPublic) :
    (handle host request w).value =
      (sent host s (catalogJson (w.outcome host.read s host.schedule isPublic path))).map
        fun body => json (statusOf (w.outcome host.read s host.schedule isPublic path)) none body := by
  obtain ⟨target, hparameter, rfl⟩ := Option.map_eq_some_iff.mp hrequest.target
  have htarget : request.target? = some target := by
    have hne : target ≠ "" := by
      rintro rfl
      exact hpath rfl
    simp [Request.target?, hparameter, Option.filter, hne]
  have hfilter : request.filter = .ofPublic isPublic := by
    rw [Request.filter, filterOfFlag, hrequest.flag]
  have hroute := hframework.catalog request (.inl hrequest.atRoot) hrequest.isGet
  rw [value_handle_eq_answer, answer_of_route hroute, Route.answer, value_catalogAnswer h host htarget hfilter]
  cases sent host s (catalogJson (w.outcome host.read s host.schedule isPublic (raw target))) <;> rfl

end Http

/-! ### The command line -/

namespace CommandLine

/-- The arguments for the catalog of a path. -/
def argsFor (path : RawText) (isPublic : Bool) : List RawText :=
  path :: if isPublic then [publicOption] else []

private theorem parse?_argsFor {path : RawText} (h : isOption path = false) (isPublic : Bool) :
    parse? (argsFor path isPublic) = some ⟨path, .ofPublic isPublic⟩ := by
  have hpublic : isOption publicOption = true := by decide
  have hne : path ≠ publicOption := by
    rintro rfl
    rw [hpublic] at h
    cases h
  cases isPublic <;> simp [parse?, argsFor, h, hpublic, hne.symm]

theorem text_write_bind {α : Type} (channel channel' : Channel) (text : RawText) (f : Unit → Program α)
    (w : Workspace) : ((Program.write channel text >>= f) w).text channel' =
      (if channel = channel' then text else []) ++ (f () w).text channel' := by
  rw [Program.bind_of_ok (a := ()) rfl, Run.text_append]
  congr 1
  simp only [Program.write, Run.text]
  split <;> simp_all

private theorem logs_printError (host : Host) (text : RawText) (w : Workspace) :
    Program.Logs host (Program.printError host text) w () := by
  refine ⟨rfl, rfl, fun _ => ?_⟩
  have hne := host.errors_ne_output
  simp [Program.printError, Program.write, Run.text, hne]

theorem logs_layOut {host : Host} {s : Settings} {document : Json} {text : RawText}
    (h : layout host s document = .ok text) (w : Workspace) :
    Program.Logs host (Program.layOut host s document) w text := by
  refine ⟨?_, ?_, fun _ => ?_⟩ <;> rw [layOut_apply]
  · exact h
  · rfl

theorem print_of_refused {host : Host} {text : RawText} {message : String} (h : host.refusal text = some message) :
    Program.print host text = Program.fail (.unwritable message) := by
  rw [Program.print, h]

theorem print_of_taken {host : Host} {text : RawText} (h : host.refusal text = none) :
    Program.print host text = Program.write host.output (text ++ raw "\n") := by
  rw [Program.print, h]

/-- What the request of a command line comes to. -/
def outcome (host : Host) (s : Settings) (request : Request) (w : Workspace) : Except PathFault Catalog :=
  (w.site.ofPath (host.method s request.filter) (.ofText request.path)).map Logged.value

/-- The line that tells a fault. -/
def errorLine (fault : PathFault) : RawText :=
  raw ((raw "Error: " ++ fault.message).shown ++ "\n")

section Answers

variable {host : Host} {s : Settings} {request : Request} {w : Workspace}

theorem answer_of_error (hspares : w.SparesOutput host) {fault : PathFault}
    (h : outcome host s request w = .error fault) :
    (answer host s request w).value = .ok 1 ∧ (answer host s request w).text host.output = [] ∧
      ∃ before after, (answer host s request w).text host.errors = before ++ errorLine fault ++ after := by
  have hrequest : Program.Logs host _ w () := .log (requestRecord request) w
  have houtline : Program.Logs host (Program.outlinePath host s request.filter request.path) w (.error fault) := by
    rw [← h]
    exact .outlinePath ..
  have hprint := logs_printError host (raw "Error: " ++ fault.message) w
  have hlog : Program.Logs host _ w () := .log (errorRecord host fault.message) w
  have hall : Program.Logs host (answer host s request) w 1 :=
    .bind hrequest (.bind houtline (.bind hprint (.bind hlog (.pure 1 w))))
  refine ⟨hall.value, hall.output hspares, ?_⟩
  rw [answer, hrequest.bind_text, houtline.bind_text]
  dsimp only
  rw [Program.printError, text_write_bind, if_pos rfl, ← List.append_assoc, ← List.append_assoc]
  exact ⟨_, _, rfl⟩

variable {catalog : Catalog} (hspares : w.SparesOutput host) (h : outcome host s request w = .ok catalog)

include hspares h

private theorem answer_of_ok :
    let print := Program.layOut host s catalog.toJson >>= fun response => do
      Program.print host response
      Program.log host (responseRecord host response)
      return 0
    (answer host s request w).value = (print w).value ∧
      (answer host s request w).text host.output = (print w).text host.output := by
  have hrequest : Program.Logs host _ w () := .log (requestRecord request) w
  have houtline : Program.Logs host (Program.outlinePath host s request.filter request.path) w (.ok catalog) := by
    rw [← h]
    exact .outlinePath ..
  rw [answer, hrequest.bind_value, hrequest.bind_output _ hspares, houtline.bind_value,
    houtline.bind_output _ hspares]
  exact ⟨rfl, rfl⟩

theorem answer_of_unprintable {fault : Fault} (hlayout : layout host s catalog.toJson = .error fault) :
    (answer host s request w).value = .error fault ∧ (answer host s request w).text host.output = [] := by
  obtain ⟨hvalue, houtput⟩ := answer_of_ok hspares h
  have hlaid : (Program.layOut host s catalog.toJson w).value = .error fault := by rw [layOut_apply, hlayout]
  rw [hvalue, houtput, Program.bind_of_error hlaid, layOut_apply]
  exact ⟨rfl, rfl⟩

theorem answer_of_refused {text : RawText} (hlayout : layout host s catalog.toJson = .ok text) {message : String}
    (hrefused : host.refusal text = some message) :
    (answer host s request w).value = .error (.unwritable message) ∧
      (answer host s request w).text host.output = [] := by
  obtain ⟨hvalue, houtput⟩ := answer_of_ok hspares h
  have hlayOut := logs_layOut hlayout w
  rw [hvalue, houtput, hlayOut.bind_value, hlayOut.bind_output _ hspares, print_of_refused hrefused]
  exact ⟨rfl, rfl⟩

theorem answer_of_taken {text : RawText} (hlayout : layout host s catalog.toJson = .ok text)
    (htaken : host.refusal text = none) :
    (answer host s request w).value = .ok 0 ∧
      (answer host s request w).text host.output = text ++ raw "\n" := by
  obtain ⟨hvalue, houtput⟩ := answer_of_ok hspares h
  have hlayOut := logs_layOut hlayout w
  have hlog : Program.Logs host _ w () := .log (responseRecord host text) w
  rw [hvalue, houtput, hlayOut.bind_value, hlayOut.bind_output _ hspares, print_of_taken htaken, text_write_bind,
    if_pos rfl, hlog.bind_output _ hspares]
  exact ⟨rfl, List.append_nil _⟩

end Answers

/-- How the lines of records look. -/
def lineStyle (host : Host) (w : Workspace) : Style :=
  styleFor (host.terminal .errors) (w.environment.get? "NO_COLOR")

/-- The workspace with settings in use and with logging set up. -/
def ready (host : Host) (s : Settings) (level : Int) (w : Workspace) : Workspace :=
  { w with memo := some s, logging := ⟨level, [⟨host.errors, level, lineStyle host w⟩]⟩ }

theorem sparesOutput_ready (host : Host) (s : Settings) (level : Int) (w : Workspace) :
    (ready host s level w).SparesOutput host := by
  intro handler hhandler
  rw [List.mem_singleton.mp hhandler]
  exact host.errors_ne_output

/-- What is done about a request, or about none. -/
def respond (host : Host) (s : Settings) : Option Request → Program Nat
  | none => do
    Program.print host usage
    return 1
  | some request => answer host s request

theorem afterLoading_eq (host : Host) (args : List RawText) :
    afterLoading host args = (do
      let s ← Program.settings
      Program.setUpLogging host s.logLevel .errors
      respond host s (parse? args)) := by
  rw [afterLoading]
  cases parse? args <;> rfl

theorem afterLoading_of_level {w : Workspace} {s : Settings} (h : w.inUse = .ok s) {level : Int}
    (hlevel : wantedLevel (some s.logLevel) = .ok level) (host : Host) (args : List RawText) :
    afterLoading host args w =
      let r := respond host s (parse? args) (ready host s level w)
      ⟨r.value, r.workspace, .consulted (.ok s) :: r.events⟩ := by
  have hsettings := settings_ok h
  have hsetUp : Program.setUpLogging host s.logLevel .errors { w with memo := some s } =
      ⟨.ok (), ready host s level w, []⟩ := by
    simp only [Program.setUpLogging, Setup.configure_of_ok hlevel]
    rfl
  rw [afterLoading_eq, Program.bind_of_ok (a := s) (by rw [hsettings]), hsettings]
  simp only
  rw [Program.bind_of_ok (a := ()) (by rw [hsetUp]), hsetUp]
  simp only [List.nil_append, List.cons_append]

/-- The files of variables are loaded, and then settings are in use. -/
structure Starts (host : Host) (w : Workspace) (s : Settings) : Prop where
  loaded : w.loadingOutcome host = .ok ()
  inUse : (w.loadVariables host.variableReader).inUse = .ok s

section Runs

variable {host : Host} {w : Workspace} {s : Settings} (hstarts : Starts host w s) (args : List RawText)

include hstarts

theorem run_of_unknownLevel {fault : UnknownLevel} (hlevel : wantedLevel (some s.logLevel) = .error fault) :
    (run host args w).value = .error (.unknownLevel fault) ∧ (run host args w).text host.output = w.heard host := by
  have hvalue : (Program.setUpLogging host s.logLevel .errors
      { w.loadVariables host.variableReader with memo := some s }).value = .error (.unknownLevel fault) := by
    simp only [Program.setUpLogging, Setup.configure_of_error hlevel]
    rfl
  rw [output_run_of_loaded args hstarts.loaded, run_of_loaded args hstarts.loaded, afterLoading,
    settings_bind_value hstarts.inUse, settings_bind_text hstarts.inUse, Program.bind_of_error hvalue]
  exact ⟨rfl, List.append_nil _⟩

variable {level : Int} (hlevel : wantedLevel (some s.logLevel) = .ok level)

include hlevel

theorem value_run_of_level : (run host args w).value =
    (respond host s (parse? args) (ready host s level (w.loadVariables host.variableReader))).value := by
  rw [run_of_loaded args hstarts.loaded, afterLoading_of_level hstarts.inUse hlevel]

theorem text_run_of_level (channel : Channel) : (run host args w).text channel =
    (Program.logAll host (w.complaints host.variableReader) w).text channel ++
      (respond host s (parse? args) (ready host s level (w.loadVariables host.variableReader))).text channel := by
  rw [text_run_of_loaded args hstarts.loaded, afterLoading_of_level hstarts.inUse hlevel]
  rfl

theorem output_run_of_level : (run host args w).text host.output = w.heard host ++
    (respond host s (parse? args) (ready host s level (w.loadVariables host.variableReader))).text host.output := by
  rw [text_run_of_level hstarts args hlevel, Program.output_complaints]

private theorem run_of_level {request : Request} (hargs : parse? args = some request) :
    ∃ v : Workspace, v.site = w.site ∧ v.SparesOutput host ∧
      (run host args w).value = (answer host s request v).value ∧
      (run host args w).text host.output = w.heard host ++ (answer host s request v).text host.output ∧
      ∃ before, (run host args w).text host.errors = before ++ (answer host s request v).text host.errors := by
  refine ⟨ready host s level (w.loadVariables host.variableReader), rfl, sparesOutput_ready _ _ _ _, ?_, ?_, ?_⟩
  · rw [value_run_of_level hstarts args hlevel, hargs, respond]
  · rw [output_run_of_level hstarts args hlevel, hargs, respond]
  · rw [text_run_of_level hstarts args hlevel, hargs, respond]
    exact ⟨_, rfl⟩

end Runs

end CommandLine

/-! ### Agreement -/

/-- The tool answers with one line of ASCII that is the document of an outcome. -/
def Tool.Tells (r : Run RawText) (outcome : Except PathFault Catalog) : Prop :=
  ∃ text, r.value = .ok text ∧ Json.Plain text ∧ Json.read? text = some (catalogJson outcome)

/-- The service answers with the document of an outcome, unless its indentation cannot be written or it has bytes that
are no characters. -/
structure Http.Tells (host : Host) (s : Settings) (r : Run Http.Response) (outcome : Except PathFault Catalog) :
    Prop where
  printable : ∀ format, Json.Format.indented? host.room s.jsonIndent = .ok format → Sendable outcome →
    ∃ body, r.value = .ok (Http.json (Http.statusOf outcome) none body) ∧ Json.read? body = some (catalogJson outcome)
  unsendable : ∀ format, Json.Format.indented? host.room s.jsonIndent = .ok format → ¬ Sendable outcome →
    r.value = .error (.unwritable ((catalogJson outcome).render format).encodingMessage)
  unprintable : ∀ fault, Json.Format.indented? host.room s.jsonIndent = .error fault →
    r.value = .error (.layout fault)

/-- The command line prints the document of a catalog, unless its indentation cannot be written or the output does not
take it, and a fault on the other stream. It does neither if the level is none. The output starts with what is heard
about the files of variables. -/
structure CommandLine.Tells (host : Host) (s : Settings) (heard : RawText) (r : Run Nat)
    (outcome : Except PathFault Catalog) : Prop where
  printable : ∀ level catalog format, wantedLevel (some s.logLevel) = .ok level → outcome = .ok catalog →
    Json.Format.indented? host.room s.jsonIndent = .ok format → host.refusal (catalog.toJson.render format) = none →
    r.value = .ok 0 ∧ ∃ printed, r.text host.output = heard ++ printed ∧ Json.read? printed = some (catalogJson outcome)
  refused : ∀ level catalog format message, wantedLevel (some s.logLevel) = .ok level → outcome = .ok catalog →
    Json.Format.indented? host.room s.jsonIndent = .ok format →
    host.refusal (catalog.toJson.render format) = some message →
    r.value = .error (.unwritable message) ∧ r.text host.output = heard
  unprintable : ∀ level catalog fault, wantedLevel (some s.logLevel) = .ok level → outcome = .ok catalog →
    Json.Format.indented? host.room s.jsonIndent = .error fault →
    r.value = .error (.layout fault) ∧ r.text host.output = heard
  failed : ∀ level fault, wantedLevel (some s.logLevel) = .ok level → outcome = .error fault →
    r.value = .ok 1 ∧ r.text host.output = heard ∧
      ∃ before after, r.text host.errors = before ++ CommandLine.errorLine fault ++ after
  badLevel : ∀ fault, wantedLevel (some s.logLevel) = .error fault →
    r.value = .error (.unknownLevel fault) ∧ r.text host.output = heard

theorem Tool.tells {w : Workspace} {s : Settings} (h : w.inUse = .ok s) (host : Host) (path : RawText)
    (isPublic : Bool) :
    Tool.Tells (Tool.run host path isPublic w) (w.outcome host.read s host.schedule isPublic path) := by
  refine ⟨_, Tool.value_run h host path isPublic, Json.plain_print_asciiLine _ 0, ?_⟩
  have hread := Json.read?_render Json.Format.standard_asciiLine
    (catalogJson (w.outcome host.read s host.schedule isPublic path)) [] Json.Gap.nil
  rwa [List.append_nil] at hread

theorem Http.tells {w : Workspace} {s : Settings} (h : w.inUse = .ok s) {host : Host}
    (hframework : host.framework.Documented) {request : Http.Request} {path : RawText} (hpath : path ≠ [])
    {isPublic : Bool} (hrequest : request.AsksFor path isPublic) :
    Http.Tells host s (Http.handle host request w) (w.outcome host.read s host.schedule isPublic path) := by
  have hvalue := Http.value_handle h hframework hpath hrequest
  have hencodable {format : Json.Format} (hformat : Json.Format.indented? host.room s.jsonIndent = .ok format) :=
    encodable_render_iff (f := format) (by rw [indented_of_ok hformat]; rfl)
      (w.outcome host.read s host.schedule isPublic path)
  constructor
  case printable =>
    intro format hformat hsendable
    obtain ⟨body, hsent, hread⟩ := sent_of_encodable (layout_of_ok hformat _) ((hencodable hformat).mpr hsendable)
    rw [hsent] at hvalue
    exact ⟨body, hvalue, hread⟩
  case unsendable =>
    intro format hformat hsendable
    rw [sent_of_not_encodable (layout_of_ok hformat _) fun h => hsendable ((hencodable hformat).mp h)] at hvalue
    exact hvalue
  case unprintable =>
    intro fault hfault
    rw [sent_of_error (layout_of_error hfault _)] at hvalue
    exact hvalue

theorem CommandLine.tells {host : Host} {w : Workspace} {s : Settings} (hstarts : Starts host w s)
    {path : RawText} (hoption : isOption path = false) (isPublic : Bool) :
    CommandLine.Tells host s (w.heard host) (run host (argsFor path isPublic) w)
      (w.outcome host.read s host.schedule isPublic path) := by
  have hargs := parse?_argsFor hoption isPublic
  -- Loading variables and setting up logging leave the files alone, so the outcome is that of the first workspace.
  have hanswer {n : Int} (hlevel : wantedLevel (some s.logLevel) = .ok n) :
      ∃ v : Workspace, outcome host s ⟨path, .ofPublic isPublic⟩ v = w.outcome host.read s host.schedule isPublic path ∧
        v.SparesOutput host ∧
        (run host (argsFor path isPublic) w).value = (answer host s ⟨path, .ofPublic isPublic⟩ v).value ∧
        (run host (argsFor path isPublic) w).text host.output =
          w.heard host ++ (answer host s ⟨path, .ofPublic isPublic⟩ v).text host.output ∧
        ∃ before, (run host (argsFor path isPublic) w).text host.errors =
          before ++ (answer host s ⟨path, .ofPublic isPublic⟩ v).text host.errors := by
    obtain ⟨v, hsite, hrest⟩ := run_of_level hstarts _ hlevel hargs
    refine ⟨v, ?_, hrest⟩
    rw [outcome, hsite]
    rfl
  constructor
  case printable =>
    intro level catalog format hlevel hok hformat htaken
    obtain ⟨v, houtcome, hspares, hvalue, houtput, _⟩ := hanswer hlevel
    obtain ⟨hanswered, hprinted⟩ := answer_of_taken hspares (houtcome.trans hok) (layout_of_ok hformat _) htaken
    rw [hvalue, houtput, hprinted, hok]
    exact ⟨hanswered, _, rfl, read?_layout (layout_of_ok hformat _) (raw "\n") (by decide)⟩
  case refused =>
    intro level catalog format message hlevel hok hformat hrefused
    obtain ⟨v, houtcome, hspares, hvalue, houtput, _⟩ := hanswer hlevel
    obtain ⟨hanswered, hprinted⟩ := answer_of_refused hspares (houtcome.trans hok) (layout_of_ok hformat _) hrefused
    rw [hvalue, houtput, hprinted]
    exact ⟨hanswered, List.append_nil _⟩
  case unprintable =>
    intro level catalog fault hlevel hok hfault
    obtain ⟨v, houtcome, hspares, hvalue, houtput, _⟩ := hanswer hlevel
    obtain ⟨hanswered, hprinted⟩ := answer_of_unprintable hspares (houtcome.trans hok) (layout_of_error hfault _)
    rw [hvalue, houtput, hprinted]
    exact ⟨hanswered, List.append_nil _⟩
  case failed =>
    intro level fault hlevel herror
    obtain ⟨v, houtcome, hspares, hvalue, houtput, first, herrors⟩ := hanswer hlevel
    obtain ⟨hcode, hsilent, before, after, htold⟩ := answer_of_error hspares (houtcome.trans herror)
    rw [hvalue, houtput, herrors, htold, hsilent]
    refine ⟨hcode, List.append_nil _, first ++ before, after, ?_⟩
    simp only [List.append_assoc]
  case badLevel =>
    intro fault hlevel
    exact run_of_unknownLevel hstarts _ hlevel

/-- The body of the framework for methods that no route takes. -/
def notAllowed : String := "\x7b\"detail\":\"Method Not Allowed\"\x7d"

private theorem read?_notAllowed :
    Json.read? notAllowed = some (.object [("detail", .string "Method Not Allowed")]) := by
  have hstandard : Json.Format.Standard ⟨false, none, ",", ":"⟩ := ⟨⟨[], rfl, .nil⟩, ⟨[], rfl, .nil⟩⟩
  have hread := Json.read?_render hstandard (.object [("detail", .string "Method Not Allowed")]) [] .nil
  rwa [List.append_nil] at hread

/-- A framework that knows the root path only. -/
def rootOnly : Http.Framework := fun r =>
  if r.path = "/" ∨ r.path = "/\n" then
    if r.method = "GET" then .route .catalog
    else if r.method ∈ Http.refusedMethods then .route .refusal
    else .own (Http.json 405 (some "GET") notAllowed) "31"
  else .own ⟨404, none, none, ""⟩ "0"

private theorem documented_rootOnly : rootOnly.Documented where
  catalog r hroot hget := by
    simp only [Http.Request.AtRoot] at hroot
    simp [rootOnly, hroot, hget]
  refusal r hroot hrefused := by
    have hget : r.method ≠ "GET" := by
      intro hget
      rw [hget] at hrefused
      exact absurd hrefused (by decide)
    simp only [Http.Request.AtRoot] at hroot
    simp [rootOnly, hroot, hget, hrefused]
  unlisted r hroot hget hlisted := by
    simp only [Http.Request.AtRoot] at hroot
    refine ⟨notAllowed, "31", ?_, read?_notAllowed⟩
    simp [rootOnly, hroot, hget, hlisted]

/-- A host that finds every file malformed, and whose output takes characters. -/
def plainHost : Host where
  read _ _ := .error (.syntaxError "é")
  variableReader _ _ := ⟨[], .ok []⟩
  framework := rootOnly
  schedule := []
  process := 0
  terminal _ := none
  refusal t := if t.Encodable then none else some t.encodingMessage
  room := 0x10000
  time := ""
  memory := ""
  duration := ""

theorem documented_plainHost : plainHost.framework.Documented :=
  documented_rootOnly

theorem plainHost_takes {text : RawText} (h : text.Encodable) : plainHost.refusal text = none :=
  if_pos h

private theorem plainHost_refuses {text : RawText} (h : ¬ text.Encodable) :
    plainHost.refusal text = some text.encodingMessage :=
  if_neg h

/-- Settings with some indentation. -/
def withIndent (indent : Int) : Settings :=
  ⟨"INFO", "0.0.0.0", 8000, [".php"], 1, indent⟩

/-- One file with some name. -/
def oneFile (name : RawText) (indent : Int) : Workspace :=
  ⟨.directory [(name, .file .empty)], [], [], .empty, some (withIndent indent), ⟨Level.warning.number, []⟩⟩

/-- A name with a byte that is no character. -/
def strayName : RawText := .stray ⟨127, by decide⟩ :: raw ".php"

private theorem wellFormed_oneFile (indent : Int) : (oneFile "a.php" indent).root.WellFormed := by
  refine .directory _ (by decide) (by decide) ?_
  simp only [List.mem_singleton, forall_eq]
  exact .file _

private theorem wellFormed_strayName (indent : Int) : (oneFile strayName indent).root.WellFormed := by
  refine .directory _ (by decide) (by decide) ?_
  simp only [List.mem_singleton, forall_eq]
  exact .file _

/-- The document of the one file. -/
def oneFileJson : Json :=
  .object [("/a.php", .object [("error", .string "é")])]

theorem catalogJson_oneFile : catalogJson (.ok ⟨[("/a.php", .failed "é")]⟩) = oneFileJson :=
  rfl

private theorem sendable_oneFile : Sendable (.ok ⟨[("/a.php", .failed "é")]⟩) := by
  intro key hkey
  rw [List.mem_singleton.mp hkey]
  exact RawText.encodable_raw _

theorem encodable_oneFileJson {indent : Int} : (oneFileJson.render (.indented indent)).Encodable :=
  (encodable_render_iff rfl (.ok ⟨[("/a.php", .failed "é")]⟩)).mpr sendable_oneFile

private theorem outcome_oneFile_of_lookup {name : RawText} {indent : Int}
    (hpath : Path.ofText name = ⟨.relative, [name]⟩)
    (hgiven : (oneFile name indent).site.lookup ⟨.relative, [name]⟩ = .found (.file .empty))
    (hfound : (oneFile name indent).site.lookup ⟨.root, [name]⟩ = .found (.file .empty)) :
    (oneFile name indent).outcome plainHost.read (withIndent indent) [] false name =
      .ok ⟨[(Path.text ⟨.root, [name]⟩, .failed "é")]⟩ := by
  have hstart : Path.absolute (oneFile name indent).site.workingDirectory ⟨.relative, [name]⟩ = ⟨.root, [name]⟩ := rfl
  rw [Workspace.outcome, hpath, Site.ofPath, hgiven]
  simp only [Site.ofFile, hstart, hfound, Logged.map]
  rfl

theorem outcome_oneFile (indent : Int) :
    (oneFile "a.php" indent).outcome plainHost.read (withIndent indent) [] false "a.php" =
      .ok ⟨[("/a.php", .failed "é")]⟩ := by
  have htext : Path.text ⟨.root, ["a.php"]⟩ = "/a.php" := rfl
  rw [outcome_oneFile_of_lookup rfl rfl rfl, htext]

private theorem outcome_strayName (indent : Int) :
    (oneFile strayName indent).outcome plainHost.read (withIndent indent) [] false strayName =
      .ok ⟨[(raw "/" ++ strayName, .failed "é")]⟩ := by
  have htext : Path.text ⟨.root, [strayName]⟩ = raw "/" ++ strayName := rfl
  rw [outcome_oneFile_of_lookup rfl rfl rfl, htext]

theorem starts_oneFile (name : RawText) (indent : Int) :
    CommandLine.Starts plainHost (oneFile name indent) (withIndent indent) :=
  ⟨rfl, rfl⟩

end ClassOutline.Service
