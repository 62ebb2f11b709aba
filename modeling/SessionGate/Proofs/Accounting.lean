import SessionGate.Proofs.Traces

/-!
# What is counted while a request is answered

A request that is given a session or a code to work on is counted as an operation, whichever way it
ends: `Service.counted` counts errors under a word of their own and lets defects through.
`Service.asked?` is the operation of a request, which has one exactly if its body has passed the
checks, and `Tallies` and `Tallied` say what is counted before and after errors became answers.

Nothing is counted twice, because what comes after an operation either answers with status 200 or
escapes. Something is not counted where a defect escapes from the operation itself.
-/

namespace SessionGate

/-- The operation that a call records, with its outcome. -/
def RecordCall.operation? : RecordCall → Option (Text × Text)
  | operation name outcome => some (name, outcome)
  | _ => none

def RecordCall.isRequest : RecordCall → Bool
  | request .. => true
  | _ => false

def RecordCall.operations (calls : List RecordCall) : List (Text × Text) :=
  calls.filterMap operation?

/-- The record in the body of a request, if it has passed its checks. -/
def Http.Request.record? {α : Type} (r : Request) (read : Members → Checked α) : Option α :=
  match r.content with
  | .error _ => none
  | .ok content => (content.record read).toExcept.toOption

/-- What is asked of an endpoint, if the body of the request has passed its checks. -/
def Endpoint.asked? (e : Endpoint) (r : Http.Request) : Option Text :=
  match e with
  | .redeem => (r.record? CodePayload.ofMembers).map fun _ ↦ "redeem"
  | .refresh => (r.record? SessionPayload.ofBody).map fun _ ↦ "refresh"
  | .validate => (r.record? SessionPayload.ofBody).map fun _ ↦ "validate"
  | .authorize => (r.record? SessionPayload.ofBody).map fun _ ↦ "authorize"
  | .userinfo => (r.record? SessionPayload.ofBody).map fun _ ↦ "userinfo"
  | _ => none

namespace Service

variable (s : Service)

def asked? (r : Http.Request) : Option Text :=
  match s.destination r.method r.path, s.provider with
  | .endpoint e, some _ => e.asked? r
  | _, _ => none

/-- A path of the service for sessions leads to its endpoint, whether or not there are pages about
the service. -/
theorem destination_of_sessionRoute (h : s.provider.isSome = true) {route : Route}
    (hroute : route ∈ sessionRoutes) {method : String} (hmethod : method ∈ route.methods) :
    s.destination method route.path = .endpoint route.endpoint := by
  have hfound : ∀ docs ∈ [[], docsRoutes "/docs"], ∀ route ∈ sessionRoutes,
      (docs ++ ([⟨"/health", ["GET"], .health⟩, ⟨"/metrics", ["GET"], .metrics⟩] : List Route) ++
        sessionRoutes).find? (·.isAt route.path) = some route := by decide +kernel
  have hroutes : ∃ docs ∈ [[], docsRoutes "/docs"], s.routes = docs ++
      [⟨"/health", ["GET"], .health⟩, ⟨"/metrics", ["GET"], .metrics⟩] ++ sessionRoutes := by
    rw [routes, if_pos h, docsPath?]
    by_cases hlocal : s.isLocal = true
    · rw [if_pos hlocal]
      exact ⟨docsRoutes "/docs", by simp, rfl⟩
    · rw [if_neg hlocal]
      exact ⟨[], by simp, rfl⟩
  -- no page about the service has the path of a session route
  obtain ⟨docs, hdocs, hroutes⟩ := hroutes
  rw [destination, hroutes, hfound docs hdocs route hroute]
  simp only
  rw [if_pos (List.contains_iff_mem.mpr hmethod)]

/-- What is posted to an endpoint for sessions asks for its operation. -/
theorem asked?_of_sessionRoute (h : s.provider.isSome = true) {route : Route}
    (hroute : route ∈ sessionRoutes) {r : Http.Request} (hmethod : r.method ∈ route.methods)
    (hpath : r.path = route.path) : s.asked? r = route.endpoint.asked? r := by
  obtain ⟨p, hp⟩ := Option.isSome_iff_exists.mp h
  rw [asked?, hpath, s.destination_of_sessionRoute h hroute hmethod, hp]

/-- A response says nothing about the identifier of its request. -/
def IsAnonymous (response : Http.Response) : Prop :=
  ∀ header ∈ response.headers, header.1 ≠ requestIdHeader

/-- What is counted of a request: nothing about the request itself, and one operation if one was
asked for, unless a defect escapes from it. -/
structure Tallies (asked : Option Text) (result : Except Failure Http.Response)
    (calls : List RecordCall) : Prop where
  no_request : ∀ call ∈ calls, call.isRequest = false
  of_ok : ∀ response, result = .ok response → IsAnonymous response ∧
    match asked with
    | none => RecordCall.operations calls = []
    | some name => ∃ outcome, RecordCall.operations calls = [(name, outcome)] ∧
        (outcome = "error" ↔ response.status ≠ 200)
  of_refused : ∀ error, result = .error (.refused error) →
    ∃ name, asked = some name ∧ RecordCall.operations calls = [(name, .plain "error")]
  of_defect : ∀ defect, result = .error (.defect defect) →
    RecordCall.operations calls = [] ∨
      ∃ name outcome, asked = some name ∧ RecordCall.operations calls = [(name, outcome)]

/-! ## Answers without operations -/

theorem isAnonymous_of (status : Nat) (body : Http.Body) :
    IsAnonymous (Http.Response.of status body) := by
  intro header hheader
  cases body <;> simp [Http.Response.of, Http.Body.contentType?] at hheader <;> rw [hheader] <;>
    decide

theorem IsAnonymous.withHeaders {response : Http.Response} (h : IsAnonymous response)
    {headers : Http.Headers} (hheaders : ∀ header ∈ headers, header.1 ≠ requestIdHeader) :
    IsAnonymous (response.withHeaders headers) := by
  intro header hheader
  rcases List.mem_append.mp hheader with hheader | hheader
  · exact h header hheader
  · exact hheaders header hheader

theorem tallies_none_ok {response : Http.Response} {calls : List RecordCall}
    (hresponse : IsAnonymous response) (hcalls : ∀ call ∈ calls, call.isRequest = false)
    (hoperations : RecordCall.operations calls = []) : Tallies none (.ok response) calls where
  no_request := hcalls
  of_ok := by
    intro answer hanswer
    cases hanswer
    exact ⟨hresponse, hoperations⟩
  of_refused := fun _ h ↦ (nomatch h)
  of_defect := fun _ h ↦ (nomatch h)

theorem tallies_defect {asked : Option Text} {defect : Defect} {calls : List RecordCall}
    (hcalls : ∀ call ∈ calls, call.isRequest = false)
    (hoperations : RecordCall.operations calls = []) :
    Tallies asked (.error (.defect defect)) calls where
  no_request := hcalls
  of_ok := fun _ h ↦ (nomatch h)
  of_refused := fun _ h ↦ (nomatch h)
  of_defect := fun _ _ ↦ .inl hoperations

/-! ## Answers after operations -/

/-- The action makes no calls and refuses nothing: if it fails, it fails with a defect. -/
def IsSteady {α : Type} (key : CollectorKey) (x : Action α) : Prop :=
  x.Does key fun result calls ↦ calls = [] ∧ ∀ error, result ≠ .error (.refused error)

/-- The action is steady and answers with status 200 or not at all. -/
def Concludes (key : CollectorKey) (x : Action Http.Response) : Prop :=
  x.Does key fun result calls ↦ calls = [] ∧ (∀ error, result ≠ .error (.refused error)) ∧
    ∀ response, result = .ok response → response.status = 200 ∧ IsAnonymous response

section Steady

open SessionGate.Action

variable {α β : Type} {key : CollectorKey} {x : Action α}

/-- What follows on a steady action is followed by the same, unless a defect escapes first. -/
theorem IsSteady.does_bind {f : α → Action β} {post : Except Failure β → List RecordCall → Prop}
    (hx : IsSteady key x) (hdefect : ∀ defect, post (.error (.defect defect)) [])
    (hf : ∀ a, (f a).Does key post) : (x >>= f).Does key post := by
  refine Does.bind (Does.mono hx fun result calls h ↦ ?_)
  obtain ⟨rfl, hresult⟩ := h
  cases result with
  | ok a => exact hf a
  | error failure =>
    cases failure with
    | refused error => exact absurd rfl (hresult error)
    | defect defect => exact hdefect defect

theorem IsSteady.bind {f : α → Action β} (hx : IsSteady key x) (hf : ∀ a, IsSteady key (f a)) :
    IsSteady key (x >>= f) :=
  hx.does_bind (fun _ ↦ ⟨rfl, fun _ h ↦ (nomatch h)⟩) hf

theorem Concludes.bind {f : α → Action Http.Response} (hx : IsSteady key x)
    (hf : ∀ a, Concludes key (f a)) : Concludes key (x >>= f) :=
  hx.does_bind (fun _ ↦ ⟨rfl, fun _ h ↦ (nomatch h), fun _ h ↦ (nomatch h)⟩) hf

/-- A call comes before those of what follows. -/
theorem does_count_bind {call : RecordCall} {y : Action β}
    {post : Except Failure β → List RecordCall → Prop}
    (hy : y.Does key fun result calls ↦ post result (call :: calls)) :
    (Action.count key (fun c ↦ c.record call) >>= fun _ ↦ y).Does key post :=
  Does.bind (does_count hy)

theorem isSteady_pure (a : α) : IsSteady key (pure a : Action α) :=
  does_pure ⟨rfl, fun _ h ↦ (nomatch h)⟩

theorem isSteady_liftDefect (y : Except Defect α) : IsSteady key (liftDefect y) := by
  cases y with
  | ok a => exact isSteady_pure a
  | error defect => exact does_escape ⟨rfl, fun _ h ↦ (nomatch h)⟩

theorem isSteady_get : IsSteady key (get : Action World) :=
  does_of_kept fun _ ↦ ⟨rfl, rfl, rfl, fun _ h ↦ (nomatch h)⟩

theorem isSteady_session (name : String) : IsSteady key (session name) :=
  does_of_kept fun w ↦ by
    rw [perform_session]
    cases w.sessions.get? name <;> exact ⟨rfl, rfl, rfl, fun _ h ↦ (nomatch h)⟩

theorem isSteady_log {entry : LogEntry} (h : entry.IsQuiet) : IsSteady key (log entry) :=
  fun _ ↦ ⟨[], ⟨rfl, fun _ h ↦ (nomatch h)⟩, World.leaves_write h⟩

theorem isSteady_setUser (email : Json) : IsSteady key (setUser email) := by
  intro w
  have hkept (j : Journal) : (j.setUser email).lines = j.lines ∧
      (j.setUser email).threshold = j.threshold ∧ (j.setUser email).hasOutput = j.hasOutput := by
    rw [Journal.setUser]
    split <;> exact ⟨rfl, rfl, rfl⟩
  obtain ⟨hlines, hthreshold, houtput⟩ := hkept w.journal
  refine ⟨[], ⟨rfl, fun _ h ↦ (nomatch h)⟩, (Collectors.update_id _ _).symm, ⟨[], ?_, ?_⟩,
    hthreshold, houtput⟩
  · exact hlines.trans (List.append_nil _).symm
  · exact fun _ h ↦ (nomatch h)

theorem isSteady_sessionMember (session : Session) : IsSteady key (sessionMember session) :=
  (isSteady_liftDefect _).bind fun _ ↦ isSteady_pure _

theorem concludes_reply (v : Json) : Concludes key (reply 200 v) := by
  rw [reply]
  split
  · refine does_pure ⟨rfl, fun _ h ↦ (nomatch h), fun response h ↦ ?_⟩
    cases h
    exact ⟨rfl, isAnonymous_of _ _⟩
  · exact does_escape ⟨rfl, fun _ h ↦ (nomatch h), fun _ h ↦ (nomatch h)⟩

end Steady

section Counted

open SessionGate.Action

variable {α : Type} {name : String} {outcome : α → String} {x : Action α}

/-- The calls that count an operation: none if it ends with a defect. -/
def countingCalls (name : String) (outcome : α → String) : Except Failure α → List RecordCall
  | .ok a => [.operation name (outcome a)]
  | .error (.refused _) => [.operation name "error"]
  | .error (.defect _) => []

/-- An operation is counted once, whether it succeeds or is refused. -/
theorem does_counted (hx : x.IsSilent (.shared s.name)) :
    (s.counted name outcome x).Does (.shared s.name) fun result calls ↦
      calls = countingCalls name outcome result := by
  intro w
  obtain ⟨calls, rfl, hleaves⟩ := hx w
  have hcount (call : RecordCall) (v : World) :
      v.Leaves (.shared s.name) [call] ((s.count (·.record call)).perform v).2 :=
    World.leaves_count call
  rw [counted, perform_bind, perform_tryCatch]
  rcases hperform : x.perform w with ⟨failure | a, after⟩
  · rw [hperform] at hleaves
    cases failure with
    | refused error => exact ⟨_, rfl, hleaves.trans (hcount (.operation name "error") after)⟩
    | defect defect => exact ⟨_, rfl, hleaves⟩
  · rw [hperform] at hleaves
    exact ⟨_, rfl, hleaves.trans (hcount (.operation name (outcome a)) after)⟩

theorem tallies_counted {f : α → Action Http.Response} (hx : x.IsSilent (.shared s.name))
    (houtcome : ∀ a, (outcome a : Text) ≠ "error") (hf : ∀ a, Concludes (.shared s.name) (f a)) :
    (s.counted name outcome x >>= f).Does (.shared s.name) (Tallies (some name)) := by
  have hcalls (word : String) : ∀ call ∈ [RecordCall.operation name word],
      call.isRequest = false := List.forall_mem_singleton.mpr rfl
  refine Does.bind (Does.mono (s.does_counted hx) fun result calls h ↦ ?_)
  rw [h]
  cases result with
  | ok a =>
    refine Does.mono (hf a) fun result more hrest ↦ ?_
    obtain ⟨rfl, hsteady, hstatus⟩ := hrest
    rw [List.append_nil]
    refine ⟨hcalls _, fun response hresponse ↦ ?_, fun error herror ↦ ?_, fun defect _ ↦ ?_⟩
    · obtain ⟨hok, hanonymous⟩ := hstatus response hresponse
      refine ⟨hanonymous, outcome a, rfl, ?_⟩
      exact iff_of_false (houtcome a) fun hne ↦ hne hok
    · exact absurd herror (hsteady error)
    · exact .inr ⟨name, outcome a, rfl, rfl⟩
  | error failure =>
    cases failure with
    | refused error =>
      refine ⟨hcalls _, fun _ h ↦ (nomatch h), fun _ _ ↦ ⟨name, rfl, rfl⟩, fun _ h ↦ (nomatch h)⟩
    | defect defect => exact tallies_defect (fun _ h ↦ (nomatch h)) rfl

end Counted

/-! ## Endpoints -/

section Endpoints

open SessionGate.Action

variable {α : Type} {r : Http.Request}

theorem does_pure_anonymous {key : CollectorKey} {response : Http.Response}
    (h : IsAnonymous response) :
    (pure response : Action Http.Response).Does key (Tallies none) :=
  does_pure (tallies_none_ok h (fun _ h ↦ (nomatch h)) rfl)

/-- A body without the record it should hold is answered, and nothing is counted. -/
theorem does_withPayload {read : Members → Checked α} {name : String}
    {x : α → Action Http.Response}
    (hx : ∀ a, (x a).Does (.shared s.name) (Tallies (some name))) :
    (withPayload r read x).Does (.shared s.name)
      (Tallies ((r.record? read).map fun _ ↦ name)) := by
  rw [withPayload, Http.Request.record?]
  cases r.content with
  | error fault =>
    cases fault with
    | unreadable => exact does_pure_anonymous (isAnonymous_of _ _)
    | malformed position => exact does_pure_anonymous (isAnonymous_of _ _)
  | ok content =>
    simp only
    cases content.record read with
    | valid a => exact hx a
    | invalid faults =>
      simp only
      split
      · exact does_pure_anonymous (isAnonymous_of _ _)
      · exact does_escape (tallies_defect (fun _ h ↦ (nomatch h)) rfl)

/-- Steady steps may come before what is counted. -/
theorem does_steady_bind {β : Type} {asked : Option Text} {y : Action β}
    {f : β → Action Http.Response} (hy : IsSteady (.shared s.name) y)
    (hf : ∀ b, (f b).Does (.shared s.name) (Tallies asked)) :
    (y >>= f).Does (.shared s.name) (Tallies asked) :=
  hy.does_bind (fun _ ↦ tallies_defect (fun _ h ↦ (nomatch h)) rfl) hf

theorem does_withSession {name : String} {x : Session → Action Http.Response}
    (hx : ∀ session, (x session).Does (.shared s.name) (Tallies (some name))) :
    (withSession r x).Does (.shared s.name)
      (Tallies ((r.record? SessionPayload.ofBody).map fun _ ↦ name)) := by
  refine s.does_withPayload fun payload ↦ ?_
  refine s.does_steady_bind (isSteady_liftDefect _) fun session ↦ ?_
  have hput : IsSteady (.shared s.name)
      (modify fun w ↦ { w with sessions := [(sessionName, session)] } : Action Unit) :=
    does_of_kept fun _ ↦ ⟨rfl, rfl, rfl, fun _ h ↦ (nomatch h)⟩
  refine s.does_steady_bind hput fun _ ↦ ?_
  exact s.does_steady_bind (isSteady_setUser _) fun _ ↦ hx session

theorem does_redeem (p : Provider) (r : Http.Request) :
    (s.redeem p r).Does (.shared s.name) (Tallies (Endpoint.redeem.asked? r)) := by
  refine s.does_withPayload fun payload ↦ ?_
  refine s.tallies_counted (p.isSilent_redeem _ _) (fun _ ↦ by decide) fun session ↦ ?_
  refine Concludes.bind (isSteady_setUser _) fun _ ↦ ?_
  refine Concludes.bind (isSteady_log ⟨_, rfl, by decide⟩) fun _ ↦ ?_
  exact Concludes.bind (isSteady_sessionMember _) fun _ ↦ concludes_reply _

theorem does_refresh (p : Provider) (r : Http.Request) :
    (s.refresh p r).Does (.shared s.name) (Tallies (Endpoint.refresh.asked? r)) := by
  refine s.does_withSession fun session ↦ ?_
  refine s.tallies_counted (p.isSilent_refreshIfNeeded _) (fun done ↦ ?_) fun refreshed ↦ ?_
  · cases done <;> decide
  · refine Concludes.bind (isSteady_session _) fun session ↦ ?_
    exact Concludes.bind (isSteady_sessionMember _) fun _ ↦ concludes_reply _

theorem does_validate (p : Provider) (r : Http.Request) :
    (s.validate p r).Does (.shared s.name) (Tallies (Endpoint.validate.asked? r)) := by
  refine s.does_withSession fun session ↦ ?_
  refine s.tallies_counted (p.isSilent_validateSession _) (fun valid ↦ ?_) fun _ ↦
    concludes_reply _
  cases valid <;> decide

theorem does_authorize (p : Provider) (r : Http.Request) :
    (s.authorize p r).Does (.shared s.name) (Tallies (Endpoint.authorize.asked? r)) := by
  refine s.does_withSession fun session ↦ ?_
  refine s.tallies_counted (p.isSilent_validateGroup _) (fun allowed ↦ ?_) fun _ ↦
    concludes_reply _
  cases allowed <;> decide

theorem does_userinfo (p : Provider) (r : Http.Request) :
    (s.userinfo p r).Does (.shared s.name) (Tallies (Endpoint.userinfo.asked? r)) := by
  refine s.does_withSession fun session ↦ ?_
  exact s.tallies_counted (p.isSilent_emailAddress _) (fun _ ↦ by decide) fun _ ↦
    concludes_reply _

/-- A value that is sent as the answer, after calls that are about neither request nor operation. -/
theorem does_reply {status : Nat} {v : Json} {calls : List RecordCall}
    (hcalls : ∀ call ∈ calls, call.isRequest = false)
    (hoperations : RecordCall.operations calls = []) :
    (reply status v).Does (.shared s.name)
      fun result more ↦ Tallies none result (calls ++ more) := by
  rw [reply]
  split
  · refine does_pure ?_
    rw [List.append_nil]
    exact tallies_none_ok (isAnonymous_of _ _) hcalls hoperations
  · refine does_escape ?_
    rw [List.append_nil]
    exact tallies_defect hcalls hoperations

theorem does_health : s.health.Does (.shared s.name) (Tallies none) := by
  have hcalls (status : String) : ∀ call ∈ [RecordCall.health status], call.isRequest = false :=
    List.forall_mem_singleton.mpr rfl
  refine s.does_steady_bind isSteady_get fun w ↦ ?_
  cases s.dependencyFault with
  | some error =>
    refine s.does_steady_bind (isSteady_log ⟨_, rfl, by decide⟩) fun _ ↦ ?_
    exact @does_count_bind _ _ (.health "error") _ _ (s.does_reply (hcalls _) rfl)
  | none => exact @does_count_bind _ _ (.health "ok") _ _ (s.does_reply (hcalls _) rfl)

theorem does_answerAt (e : Endpoint) (r : Http.Request) :
    (s.answerAt e r).Does (.shared s.name)
      (Tallies (s.provider.bind fun _ ↦ e.asked? r)) := by
  have hmetrics : metrics.Does (.shared s.name) (Tallies none) :=
    s.does_steady_bind isSteady_get fun _ ↦ does_pure_anonymous (isAnonymous_of _ _)
  cases hp : s.provider with
  | none => cases e <;> simp only [answerAt, hp] <;> first
      | exact s.does_health
      | exact hmetrics
      | exact does_pure_anonymous (isAnonymous_of _ _)
  | some p =>
    cases e <;> simp only [answerAt, hp, Option.bind_some]
    case root => exact @does_reply s _ _ [] (fun _ h ↦ (nomatch h)) rfl
    case health => exact s.does_health
    case metrics => exact hmetrics
    case docs => exact does_pure_anonymous (isAnonymous_of _ _)
    case redeem => exact s.does_redeem p r
    case refresh => exact s.does_refresh p r
    case validate => exact s.does_validate p r
    case authorize => exact s.does_authorize p r
    case userinfo => exact s.does_userinfo p r

theorem does_dispatch (r : Http.Request) :
    (s.dispatch r).Does (.shared s.name) (Tallies (s.asked? r)) := by
  rw [dispatch, asked?]
  cases s.destination r.method r.path with
  | endpoint e =>
    have h := s.does_answerAt e r
    cases hp : s.provider <;> rw [hp] at h <;> exact h
  | wrongMethod methods =>
    have hallow : "allow" ≠ requestIdHeader := by decide
    exact does_pure_anonymous
      ((isAnonymous_of _ _).withHeaders (List.forall_mem_singleton.mpr hallow))
  | elsewhere path =>
    have hlocation : "location" ≠ requestIdHeader := by decide
    exact does_pure_anonymous
      ((isAnonymous_of _ _).withHeaders (List.forall_mem_singleton.mpr hlocation))
  | unknown => exact does_pure_anonymous (isAnonymous_of _ _)

end Endpoints

/-! ## Errors as answers -/

section Errors

open SessionGate.Action

theorem status_ne_ok (kind : ErrorKind) : kind.status ≠ 200 := by
  cases kind <;> exact fun h ↦ (nomatch h)

/-- What is counted when an error is answered: the error, and no operation. -/
structure TalliesError (result : Except Failure Http.Response) (calls : List RecordCall) :
    Prop where
  no_request : ∀ call ∈ calls, call.isRequest = false
  no_operation : RecordCall.operations calls = []
  of_ok : ∀ response, result = .ok response → IsAnonymous response ∧ response.status ≠ 200
  not_refused : ∀ error, result ≠ .error (.refused error)

theorem does_answerError (error : AccessError) :
    (s.answerError error).Does (.shared s.name) TalliesError := by
  have hcalls : ∀ call ∈ [RecordCall.error error.kind.code.display ""], call.isRequest = false :=
    List.forall_mem_singleton.mpr rfl
  have hescape (defect : Defect) :
      TalliesError (.error (.defect defect)) [.error error.kind.code.display ""] :=
    ⟨hcalls, rfl, fun _ h ↦ (nomatch h), fun _ h ↦ (nomatch h)⟩
  refine (isSteady_log ⟨_, rfl, by decide⟩).does_bind (fun _ ↦ ?_) fun _ ↦ ?_
  · exact ⟨fun _ h ↦ (nomatch h), rfl, fun _ h ↦ (nomatch h), fun _ h ↦ (nomatch h)⟩
  refine @does_count_bind _ _ (.error error.kind.code.display "") _ _ ?_
  cases error.response with
  | invalid faults => exact does_escape (hescape _)
  | valid body =>
    simp only [reply]
    split
    · refine does_pure ⟨hcalls, rfl, fun response h ↦ ?_, fun _ h ↦ (nomatch h)⟩
      cases h
      exact ⟨isAnonymous_of _ _, status_ne_ok error.kind⟩
    · exact does_escape (hescape _)

theorem does_answerOrError (r : Http.Request) :
    (s.answerOrError r).Does (.shared s.name) fun result calls ↦
      Tallies (s.asked? r) result calls ∧ ∀ error, result ≠ .error (.refused error) := by
  refine Does.tryCatch (Does.mono (s.does_dispatch r) fun result calls h ↦ ?_)
  cases result with
  | ok response => exact ⟨h, fun _ h ↦ (nomatch h)⟩
  | error failure =>
    cases failure with
    | defect defect =>
      refine does_escape ?_
      rw [List.append_nil]
      exact ⟨h, fun _ h ↦ (nomatch h)⟩
    | refused error =>
      -- what was refused was counted as an error already, and its answer counts no operation
      obtain ⟨name, hasked, hcounted⟩ := h.of_refused error rfl
      refine Does.mono (s.does_answerError error) fun result more hmore ↦ ?_
      have hoperations : RecordCall.operations (calls ++ more) = [(name, .plain "error")] := by
        rw [RecordCall.operations, List.filterMap_append]
        rw [RecordCall.operations] at hcounted
        have hnone := hmore.no_operation
        rw [RecordCall.operations] at hnone
        rw [hcounted, hnone]
        rfl
      refine ⟨⟨fun call hcall ↦ ?_, fun response hresponse ↦ ?_, fun error herror ↦ ?_,
        fun _ _ ↦ ?_⟩, hmore.not_refused⟩
      · rcases List.mem_append.mp hcall with hcall | hcall
        · exact h.no_request call hcall
        · exact hmore.no_request call hcall
      · obtain ⟨hanonymous, hstatus⟩ := hmore.of_ok response hresponse
        rw [hasked]
        exact ⟨hanonymous, "error", hoperations, iff_of_true rfl hstatus⟩
      · exact absurd herror (hmore.not_refused error)
      · exact .inr ⟨name, "error", hasked, hoperations⟩

/-! ## What browsers are told -/

/-- Operations are asked for with one method only. -/
theorem methods_of_asked {r : Http.Request} {route : Route} (hroute : route ∈ s.routes)
    (hasked : route.endpoint.asked? r ≠ none) : route.methods = ["POST"] := by
  rw [routes, List.append_assoc, List.mem_append, List.mem_append] at hroute
  rcases hroute with hdocs | hbase | hsessions
  · refine absurd ?_ hasked
    have hendpoint : route.endpoint = .docs := by
      have hpages (path : String) : ∀ route ∈ docsRoutes path, route.endpoint = .docs :=
        List.forall_mem_cons.mpr ⟨rfl, List.forall_mem_singleton.mpr rfl⟩
      cases hpath : s.docsPath? with
      | none =>
        rw [hpath] at hdocs
        cases hdocs
      | some path =>
        rw [hpath] at hdocs
        exact hpages path route hdocs
    rw [hendpoint]
    rfl
  · refine absurd ?_ hasked
    rcases List.mem_cons.mp hbase with rfl | hbase
    · rfl
    · rw [List.mem_singleton.mp hbase]
      rfl
  · have hposts : ∀ route ∈ sessionRoutes, route.endpoint = .root ∨ route.methods = ["POST"] := by
      decide
    split at hsessions
    · rcases hposts route hsessions with hroot | hpost
      · rw [hroot] at hasked
        exact absurd rfl hasked
      · exact hpost
    · cases hsessions

/-- A request comes to an endpoint by a route that has its method. -/
theorem route_of_destination {method path : String} {e : Endpoint}
    (h : s.destination method path = .endpoint e) :
    ∃ route ∈ s.routes, route.endpoint = e ∧ method ∈ route.methods := by
  rw [destination] at h
  split at h
  · next route hfind =>
    split at h
    · next hmethod =>
      cases h
      exact ⟨route, List.mem_of_find?_eq_some hfind, rfl, List.contains_iff_mem.mp hmethod⟩
    · cases h
  · simp only at h
    split at h <;> cases h

/-- What is asked for is posted. -/
theorem method_of_asked {r : Http.Request} {name : Text} (h : s.asked? r = some name) :
    r.method = "POST" := by
  rw [asked?] at h
  split at h
  · next e p hdestination _ =>
    obtain ⟨route, hroute, rfl, hmethod⟩ := s.route_of_destination hdestination
    rw [s.methods_of_asked hroute (by rw [h]; exact nofun)] at hmethod
    exact List.mem_singleton.mp hmethod
  · cases h

/-- The headers that tell browsers who may see an answer. -/
theorem isAnonymous_originHeaders (c : Http.Cors) (origin : String) :
    ∀ header ∈ c.originHeaders origin, header.1 ≠ requestIdHeader := by
  intro header hheader
  rw [Http.Cors.originHeaders] at hheader
  rcases List.mem_cons.mp hheader with rfl | hheader
  · exact (by decide : "access-control-allow-credentials" ≠ requestIdHeader)
  · split at hheader
    · rw [List.mem_singleton.mp hheader]
      exact (by decide : "access-control-allow-origin" ≠ requestIdHeader)
    · cases hheader

theorem isAnonymous_answerHeaders (c : Http.Cors) (r : Http.Request) :
    ∀ header ∈ c.answerHeaders r, header.1 ≠ requestIdHeader := by
  intro header hheader
  rw [Http.Cors.answerHeaders] at hheader
  rcases List.mem_cons.mp hheader with rfl | hheader
  · exact (by decide : "vary" ≠ requestIdHeader)
  · cases horigin : r.header? "origin" with
    | none =>
      rw [horigin] at hheader
      cases hheader
    | some origin =>
      rw [horigin] at hheader
      exact isAnonymous_originHeaders c origin header hheader

/-- The answer to a preflight is one to another method than those that are counted. -/
theorem preflight_kept {c : Http.Cors} {r : Http.Request} {response : Http.Response}
    (h : c.preflight? r = some response) : r.method = "OPTIONS" ∧ IsAnonymous response := by
  have hheaders (origin : String) :
      ∀ header ∈ c.preflightHeaders r origin, header.1 ≠ requestIdHeader := by
    intro header hheader
    rw [Http.Cors.preflightHeaders, List.mem_append, List.mem_append] at hheader
    rcases hheader with (hfixed | horigin) | hasked
    · simp only [List.mem_cons, List.not_mem_nil, or_false] at hfixed
      rcases hfixed with rfl | rfl | rfl
      · exact (by decide : "vary" ≠ requestIdHeader)
      · exact (by decide : "access-control-allow-methods" ≠ requestIdHeader)
      · exact (by decide : "access-control-max-age" ≠ requestIdHeader)
    · exact isAnonymous_originHeaders c origin header horigin
    · rw [Option.mem_toList, Option.map_eq_some_iff] at hasked
      obtain ⟨asked, -, rfl⟩ := hasked
      exact (by decide : "access-control-allow-headers" ≠ requestIdHeader)
  unfold Http.Cors.preflight? at h
  split at h
  · next origin method _ _ =>
    split at h
    · next hmethod =>
      refine ⟨hmethod, ?_⟩
      simp only at h
      split at h
      · cases h
        exact (isAnonymous_of _ _).withHeaders (hheaders origin)
      · cases h
        exact (isAnonymous_of _ _).withHeaders (hheaders origin)
    · cases h
  · cases h

/-- **What is counted of a request up to its answer.** -/
theorem does_answer (r : Http.Request) :
    (s.answer r).Does (.shared s.name) fun result calls ↦
      Tallies (s.asked? r) result calls ∧ ∀ error, result ≠ .error (.refused error) := by
  rw [answer]
  cases hpreflight : s.cors.preflight? r with
  | some response =>
    -- a preflight is no POST, so that nothing was asked for
    obtain ⟨hmethod, hanonymous⟩ := preflight_kept hpreflight
    have hasked : s.asked? r = none := by
      cases hasked : s.asked? r with
      | none => rfl
      | some name => exact absurd (hmethod.symm.trans (s.method_of_asked hasked)) (by decide)
    rw [hasked]
    exact does_pure ⟨tallies_none_ok hanonymous (fun _ h ↦ (nomatch h)) rfl, fun _ h ↦ (nomatch h)⟩
  | none =>
    refine Does.bind (Does.mono (s.does_answerOrError r) fun result calls h ↦ ?_)
    obtain ⟨htallies, hrefused⟩ := h
    cases result with
    | error failure => exact ⟨htallies, hrefused⟩
    | ok response =>
      refine does_pure ⟨?_, fun _ h ↦ (nomatch h)⟩
      rw [List.append_nil]
      refine ⟨htallies.no_request, fun answered hanswered ↦ ?_, fun _ h ↦ (nomatch h),
        fun _ h ↦ (nomatch h)⟩
      cases hanswered
      obtain ⟨hanonymous, hoperations⟩ := htallies.of_ok response rfl
      exact ⟨hanonymous.withHeaders (isAnonymous_answerHeaders s.cors r), hoperations⟩

end Errors

end Service

end SessionGate
