import LintRelay.Proofs.NeedlessChange

/-!
# Requests that are refused

A request is refused before anything is done for it: with a response that tells of a mistake of the
client's everything is left as it was. To ask for the options changes nothing either, and a change of
preferences that is accepted changes the preferences alone.
-/
namespace LintRelay

/-- The response for the outcome of a route; a fault that nobody expects is an internal error. -/
def Response.ofOutcome : Except Fault Response → Response
  | .ok response => response
  | .error _ => .internalError

namespace Action

variable {r : Request} {h : Host} {α : Type}

/-- A response other than of success or of an error within leaves the host as it was. -/
def RefusesFirst (x : Action Response) : Prop :=
  ∀ h, (x h).2 = h ∨ (Response.ofOutcome (x h).1).status ∈ [200, 500]

namespace RefusesFirst

variable {x : Action Response}

theorem of_keeps (hx : Keeps Eq x) : RefusesFirst x := fun h => .inl (hx h).symm

theorem of_status (hx : ∀ h, (Response.ofOutcome (x h).1).status ∈ [200, 500]) : RefusesFirst x :=
  fun h => .inr (hx h)

theorem bind {y : Action α} {f : α → Action Response} (hy : Keeps Eq y) (hf : ∀ a, RefusesFirst (f a)) :
    RefusesFirst (y >>= f) := by
  intro h
  cases e : y h with
  | mk a g =>
    obtain rfl : g = h := (congrArg Prod.snd e).symm.trans (hy h).symm
    cases a with
    | ok a =>
      rw [bind_ok e]
      exact hf a g
    | error fault =>
      rw [bind_error e]
      exact .inl rfl

end RefusesFirst

theorem serveInspect_refusesFirst (data : Fields) : RefusesFirst (serveInspect data) := by
  unfold serveInspect
  dsimp only
  split
  · exact .of_keeps (keeps_pure _)
  · refine .bind (keeps_ofExcept _) fun language => .bind (keeps_ofExcept _) fun name => ?_
    refine .bind (fun _ => rfl) fun provided => ?_
    split
    · -- an inspection is answered, however it ends
      refine .of_status fun h => ?_
      set answered := inspect name (Value.fieldOrNull "text" data) (Value.fieldOrNull "path" data) h
        with hanswered
      have hattempt : attempt (inspect name (Value.fieldOrNull "text" data)
          (Value.fieldOrNull "path" data)) h = (.ok answered.1, answered.2) := rfl
      rw [bind_ok hattempt]
      cases answered.1 with
      | ok results => exact List.mem_cons_self
      | error fault => exact List.mem_cons_of_mem _ List.mem_cons_self
    · exact .of_keeps (keeps_pure _)

theorem serveProject_refusesFirst (data : Fields) : RefusesFirst (serveProject data) := by
  unfold serveProject
  dsimp only
  split
  · exact .of_keeps (keeps_pure _)
  · split
    · refine .bind (fun _ => rfl) fun h => ?_
      split
      · refine .of_status fun h => ?_
        cases e : openProject (.str _) h with
        | mk a g =>
          cases a with
          | ok a =>
            rw [bind_ok e]
            exact List.mem_cons_self
          | error fault =>
            rw [bind_error e]
            exact List.mem_cons_of_mem _ List.mem_cons_self
      · exact .of_keeps (keeps_pure _)
    · split
      · exact .of_keeps (keeps_pure _)
      · exact .of_keeps fun _ => rfl

theorem serveOptions_keeps : Keeps Eq serveOptions :=
  keeps_host_bind fun h => ((keeps_ofExcept _).bind fun _ => keeps_pure _) h

theorem servePreferences_apply (data : Fields) (h : Host) :
    servePreferences data h =
      match Value.fieldOrNull "options" data with
      | .null | .object _ =>
        (.ok (.ok [("options", Value.fieldOrNull "options" data)]),
          (setPreferences recordRerun (Value.fieldOrNull "options" data) h).2)
      | _ => (.ok (.refused 400 "Options must be an object"), h) := by
  have hset (options : Value) : setPreferences recordRerun options h =
      (.ok (), (setPreferences recordRerun options h).2) := by
    rw [setPreferences_apply]
  unfold servePreferences
  cases Value.fieldOrNull "options" data with
  | null => exact bind_ok (hset _) _
  | object fields => exact bind_ok (hset _) _
  | bool | int | float | str | list => rfl

theorem servePreferences_refusesFirst (data : Fields) : RefusesFirst (servePreferences data) := by
  intro h
  rw [servePreferences_apply]
  split
  · exact .inr List.mem_cons_self
  · exact .inr List.mem_cons_self
  · exact .inl rfl

theorem requestData_keeps (r : Request) : Keeps Eq (requestData r) := fun _ => rfl

theorem serveRoute_refusesFirst (r : Request) (route : Route) :
    RefusesFirst (serveRoute r route) := by
  cases route with
  | inspect => exact .bind (requestData_keeps r) serveInspect_refusesFirst
  | project => exact .bind (requestData_keeps r) serveProject_refusesFirst
  | options => exact .of_keeps serveOptions_keeps
  | preferences => exact .bind (requestData_keeps r) servePreferences_refusesFirst
  | asset => exact .of_keeps (keeps_pure _)

/-- A request is answered without a route being served; then only the question for its methods
succeeds. -/
structure Unserved (r : Request) (h : Host) (result : Except Fault Response × Host) : Prop where
  unchanged : result.2 = h
  status : ∀ response, result.1 = .ok response → response.status = 200 → r.methodName = "OPTIONS"

theorem unserved_error (fault : Fault) : Unserved r h (.error fault, h) := ⟨rfl, fun _ e => by cases e⟩

theorem unserved_of_status {response : Response} (hstatus : response.status ≠ 200) :
    Unserved r h (.ok response, h) := ⟨rfl, fun _ e hok => absurd (Except.ok.inj e ▸ hok) hstatus⟩

theorem ofExcept_bind_cases (a : Except Fault α) {β : Type} (f : α → Action β) (h : Host) :
    (∃ fault, (ofExcept a >>= f) h = (.error fault, h)) ∨
      ∃ b, a = .ok b ∧ (ofExcept a >>= f) h = f b h := by
  cases a with
  | error fault => exact .inl ⟨fault, rfl⟩
  | ok b => exact .inr ⟨b, rfl, rfl⟩

theorem unserved_or_ok (a : Except Fault α) (f : α → Action Response) :
    Unserved r h ((ofExcept a >>= f) h) ∨ ∃ b, a = .ok b ∧ (ofExcept a >>= f) h = f b h := by
  refine (ofExcept_bind_cases a f h).imp (fun hfault => ?_) id
  obtain ⟨fault, e⟩ := hfault
  rw [e]
  exact unserved_error fault

@[simp] theorem withoutBody_status (r : Request) (response : Response) :
    (withoutBody r response).status = response.status := by
  unfold withoutBody
  split <;> rfl

def served (r : Request) (route : Route) (h : Host) : Except Fault Response × Host :=
  (.ok (withoutBody r (.ofOutcome (serveRoute r route h).1)), (serveRoute r route h).2)

theorem serveMethod_cases (r : Request) (route : Route) (h : Host) :
    Unserved r h (serveMethod r route h) ∨ serveMethod r route h = served r route h := by
  unfold serveMethod
  split
  · exact .inl (unserved_of_status (by decide))
  · rcases unserved_or_ok (r := r) (h := h) r.asksForSocket _ with hrefused | ⟨socket, -, e⟩
    · exact .inl hrefused
    · rw [e]
      split
      · exact .inl (unserved_of_status (by decide))
      · split
        · rename_i hasking
          exact .inl ⟨rfl, fun _ _ _ => hasking⟩
        · have hattempt : attempt (serveRoute r route) h =
              (.ok (serveRoute r route h).1, (serveRoute r route h).2) := rfl
          rw [bind_ok hattempt, served]
          cases (serveRoute r route h).1 <;> exact .inr rfl

theorem redirect_unserved (r : Request) (path : String) (h : Host) :
    Unserved r h (redirect r path h) := by
  unfold redirect
  cases Route.ofPath (Route.mergedSlashes path) with
  | none =>
    refine unserved_of_status ?_
    rw [withoutBody_status]
    decide
  | some route =>
    dsimp only
    split
    · exact unserved_of_status (by decide)
    · rcases unserved_or_ok (r := r) (h := h) r.asksForSocket _ with hrefused | ⟨socket, -, e⟩
      · exact hrefused
      · rw [e]
        cases socket <;> exact unserved_of_status (by decide)

/-- A request either comes to nothing but its response, or the route that it asks for is served. -/
theorem respond_cases (r : Request) (h : Host) :
    Unserved r h (respond r h) ∨ ∃ path route, r.path = .ok path ∧
      Route.ofPath path = some route ∧ respond r h = served r route h := by
  unfold respond
  rcases unserved_or_ok (r := r) (h := h) r.path _ with hrefused | ⟨path, hpath, e⟩
  · exact .inl hrefused
  rw [e]
  rcases unserved_or_ok (r := r) (h := h) r.authority _ with hrefused | ⟨authority, -, e⟩
  · exact .inl hrefused
  rw [e]
  rcases unserved_or_ok (r := r) (h := h) r.checkHeader _ with hrefused | ⟨_, -, e⟩
  · exact .inl hrefused
  rw [e]
  rcases unserved_or_ok (r := r) (h := h) r.checkHost _ with hrefused | ⟨_, -, e⟩
  · exact .inl hrefused
  rw [e]
  rcases unserved_or_ok (r := r) (h := h) r.hasHostName _ with hrefused | ⟨named, -, e⟩
  · exact .inl hrefused
  rw [e]
  cases named with
  | false => exact .inl (unserved_of_status (by decide))
  | true =>
    cases hroute : Route.ofPath path with
    | none => exact .inl (redirect_unserved r path h)
    | some route =>
      refine (serveMethod_cases r route h).imp id fun hserved => ?_
      exact ⟨path, route, hpath, hroute, hserved⟩

theorem respond_refusesFirst (r : Request) (h : Host) :
    (respond r h).2 = h ∨ ∃ response, (respond r h).1 = .ok response ∧
      response.status ∈ [200, 500] := by
  rcases respond_cases r h with hrefused | ⟨path, route, -, -, hserved⟩
  · exact .inl hrefused.unchanged
  · rw [hserved]
    refine (serveRoute_refusesFirst r route h).imp id fun hstatus => ⟨_, rfl, ?_⟩
    rw [withoutBody_status]
    exact hstatus

theorem respond_of_route {path : String} {route : Route} (hpath : r.path = .ok path)
    (hroute : Route.ofPath path = some route) :
    Unserved r h (respond r h) ∨ respond r h = served r route h := by
  rcases respond_cases r h with hunserved | ⟨asked, found, hasked, hfound, hserved⟩
  · exact .inl hunserved
  · obtain rfl : asked = path := Except.ok.inj (hasked.symm.trans hpath)
    obtain rfl : found = route := Option.some.inj (hfound.symm.trans hroute)
    exact .inr hserved

/-- Preferences that a route accepts are all that it changes; watchers may be told to run again. -/
theorem servePreferences_accepted {data : Fields}
    (haccepted : (Response.ofOutcome (servePreferences data h).1).status = 200) :
    (Value.fieldOrNull "options" data = .null ∨
        ∃ fields, Value.fieldOrNull "options" data = .object fields) ∧
      (Response.ofOutcome (servePreferences data h).1) =
        .ok [("options", Value.fieldOrNull "options" data)] ∧
      ∃ asked : List Event, (∀ e ∈ asked, e = .rerunAsked Inspector.name) ∧
        (servePreferences data h).2 =
          { h with
            inspector := { h.inspector with preferences := Value.fieldOrNull "options" data }
            events := h.events ++ asked } := by
  have hasked (g : Host) (n : Nat) : ∀ e ∈ askedFor g n, e = .rerunAsked Inspector.name := by
    unfold askedFor
    split
    · exact fun e he => absurd he List.not_mem_nil
    · exact fun e he => List.eq_of_mem_replicate he
  rw [servePreferences_apply] at haccepted ⊢
  cases hoptions : Value.fieldOrNull "options" data with
  | null => exact ⟨.inl rfl, rfl, _, hasked _ _, by rw [setPreferences_apply]⟩
  | object fields => exact ⟨.inr ⟨fields, rfl⟩, rfl, _, hasked _ _, by rw [setPreferences_apply]⟩
  | bool | int | float | str | list =>
    rw [hoptions] at haccepted
    have hrefused : 400 = 200 := haccepted
    exact absurd hrefused (by decide)

theorem serveRoute_preferences_accepted
    (haccepted : (Response.ofOutcome (serveRoute r .preferences h).1).status = 200) :
    ∃ data, r.data h.disk.room = .ok data ∧ serveRoute r .preferences h = servePreferences data h := by
  rcases ofExcept_bind_cases (r.data h.disk.room) servePreferences h with ⟨fault, e⟩ | hread
  · have hfault : serveRoute r .preferences h = (.error fault, h) := e
    rw [hfault] at haccepted
    have hwithin : 500 = 200 := haccepted
    exact absurd hwithin (by decide)
  · exact hread

/-- A request that is refused leaves the host as it was, and so does every question for the options. A
change of preferences that succeeds makes them what the request gives, an object or null; besides, at
most a new run is asked for. -/
theorem refused_requests_change_nothing (r : Request) (h : Host) :
    (∀ response, (respond r h).1 = .ok response → response.status ∈ [400, 404, 405] →
        (respond r h).2 = h) ∧
      (r.methodName = "GET" → r.path = .ok "/api/options" → (respond r h).2 = h) ∧
      (r.methodName = "POST" → r.path = .ok "/api/preferences" →
        ∀ response, (respond r h).1 = .ok response → response.status = 200 →
          ∃ (data : Fields) (options : Value) (asked : List Event),
            r.data h.disk.room = .ok data ∧ options = Value.fieldOrNull "options" data ∧
            (options = .null ∨ ∃ fields, options = .object fields) ∧
            response = withoutBody r (.ok [("options", options)]) ∧
            (∀ e ∈ asked, e = .rerunAsked Inspector.name) ∧
            (respond r h).2 =
              { h with
                inspector := { h.inspector with preferences := options }
                events := h.events ++ asked }) := by
  refine ⟨fun response hanswer hrefused => ?_, fun _ hpath => ?_,
    fun hpost hpath response hanswer hok => ?_⟩
  · rcases respond_refusesFirst r h with hsame | ⟨other, hother, hstatus⟩
    · exact hsame
    · obtain rfl : response = other := Except.ok.inj (hanswer.symm.trans hother)
      simp only [List.mem_cons, List.not_mem_nil, or_false] at hrefused hstatus
      omega
  · rcases respond_of_route hpath (h := h) rfl with hunserved | hserved
    · exact hunserved.unchanged
    · rw [hserved]
      exact (serveOptions_keeps h).symm
  · rcases respond_of_route hpath (h := h) rfl with hunserved | hserved
    · have hmethods := hunserved.status response hanswer hok
      exact absurd (hpost.symm.trans hmethods) (by decide)
    · rw [hserved] at hanswer ⊢
      obtain rfl := Except.ok.inj hanswer
      rw [withoutBody_status] at hok
      obtain ⟨data, hdata, hroute⟩ := serveRoute_preferences_accepted hok
      rw [hroute] at hok
      obtain ⟨hkind, hresponse, asked, hrerun, hleft⟩ := servePreferences_accepted hok
      refine ⟨data, _, asked, hdata, rfl, hkind, ?_, hrerun, ?_⟩
      · rw [hroute, hresponse]
      · rw [served, hroute]
        exact hleft

def endpointInProject : Host :=
  (openProject (.str "/p")
    (Host.endpoint nodeProject (fun _ _ => .missing) Host.standardInspector)).2

def preferring (json : String) : Request :=
  ⟨"POST", "/api/preferences", "application/json", Utf8.encode json.toList⟩

def askingOptions : Request := ⟨"GET", "/api/options?all", "", []⟩

theorem refused_requests_change_nothing_in_project :
    (respond (preferring "\x7b\"options\": [1]\x7d") endpointInProject).2 = endpointInProject ∧
      (respond askingOptions endpointInProject).2 = endpointInProject ∧
      (respond (preferring "\x7b\"options\": \x7b\"node\": true\x7d\x7d")
          endpointInProject).2.inspector =
        { endpointInProject.inspector with preferences := .object [("node", .bool true)] } := by
  have hrefused : (respond (preferring "\x7b\"options\": [1]\x7d") endpointInProject).1 =
      .ok (.refused 400 "Options must be an object") := by decide +kernel
  have hread : (preferring "\x7b\"options\": \x7b\"node\": true\x7d\x7d").data
      endpointInProject.disk.room = .ok [("options", .object [("node", .bool true)])] := by decide +kernel
  have haccepted : (respond (preferring "\x7b\"options\": \x7b\"node\": true\x7d\x7d")
      endpointInProject).1 = .ok (.ok [("options", .object [("node", .bool true)])]) := by
    decide +kernel
  refine ⟨(refused_requests_change_nothing _ _).1 _ hrefused (by decide),
    (refused_requests_change_nothing askingOptions _).2.1 (by decide +kernel) (by decide +kernel), ?_⟩
  obtain ⟨data, options, asked, hdata, rfl, -, -, -, hleft⟩ :=
    (refused_requests_change_nothing _ _).2.2 (by decide +kernel) (by decide +kernel) _ haccepted rfl
  obtain rfl := Except.ok.inj (hdata.symm.trans hread)
  rw [hleft]
  rfl

end Action

end LintRelay
