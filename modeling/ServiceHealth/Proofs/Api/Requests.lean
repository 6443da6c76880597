import ServiceHealth.Api.Basic
import ServiceHealth.Proofs.Fleet.Stores

/-!
# What requests do to the fleet

A request asks the fleet for one change at most, and the fleet answers that with a failure or not.
Whatever else happens to the request, it shows in the fleet only by this: the change, and one more
failed lookup on the meters. So requests that are refused and requests that read leave the stores.
-/
namespace ServiceHealth.Api

/-- The change that a request for a resource asks for. There is none where a part of the path or the
body cannot be decoded. -/
def change? (request : Request) : Resource → Option Fleet.Call
  | .instances => (request.decodeBody Registration.decoder).toOption.map .register
  | .recordMetadata id =>
      (Text.percentDecode? id).bind fun id =>
        (request.decodeBody Metadata.decoder).toOption.map fun m => .updateMetadata id m.toList
  | .deregistration id => (Text.percentDecode? id).map .deregister
  | .report id => (Text.percentDecode? id).map .purge
  | _ => none

/-- The failure with which the fleet answers a request for a resource. -/
def fault? (now : Timestamp) (request : Request) (f : Fleet) : Resource → Option Error
  | .record id =>
      (Text.percentDecode? id).bind fun id => (Fleet.Answer.record (f.catalog.get id)).error?
  | resource => (change? request resource).bind fun c => (f.perform now c).1.error?

/-- The label under which failed lookups of a resource are counted. -/
def Resource.label : Resource → String
  | .report _ => "report"
  | _ => "instance"

/-- The resource that a request is for: its path leads there, and its method is known there. -/
def Request.resource? (request : Request) : Option Resource :=
  (Net.Uri.path? request.uri).bind fun path => (Resource.ofPath? path).filter
    fun resource => resource.method.names.contains request.method

/-- The label under which a request is counted: the fleet answers it that something is not there. -/
def missed? (now : Timestamp) (request : Request) (f : Fleet) : Option String :=
  (request.resource?.filter fun resource =>
    (fault? now request f resource).any Error.isNotFound).map Resource.label

/-- Counts a failure if it says that something is not there. -/
def counted (label : String) (fault : Option Error) (f : Fleet) : Fleet :=
  if fault.any Error.isNotFound then f.meter (·.recordNotFound label) else f

def changed (now : Timestamp) (f : Fleet) (change : Option Fleet.Call) : Fleet :=
  change.elim f fun c => (f.perform now c).2

/-- The status of an answer that follows from the one of the fleet. -/
def statusAfter (status : Nat) : Option Error → Nat
  | some e => if e.isNotFound then 404 else 400
  | none => status

theorem failure_snd (label : String) (e : Error) (f : Fleet) :
    (failure label e f).2 = counted label (some e) f := by
  simp only [failure, counted, Option.any_some]
  split <;> rfl

theorem failure_status (label : String) (e : Error) (f : Fleet) (status : Nat) :
    (failure label e f).1.status = statusAfter status (some e) := by
  simp only [failure, statusAfter]
  split <;> rfl

/-- All that serving a resource does to the fleet, and what the status says about it. -/
structure Serves (fault : Option Error) (change : Option Fleet.Call) (resource : Resource)
    (now : Timestamp) (f : Fleet) (handled : Handled) : Prop where
  fleet : handled.2 = counted resource.label fault (changed now f change)
  refused : ∀ e ∈ fault, handled.1.status = if e.isNotFound then 404 else 400
  success : change.isSome → fault = none → handled.1.isSuccess
  -- The page of metrics is not there if there are no meters.
  found : fault = none → handled.1.status = 404 → resource = .metrics ∧ f.meters = none

variable {now : Timestamp} {request : Request} {f f' : Fleet} {response : Response}
  {resource : Resource}

/-- An answer to which the fleet had nothing to say. -/
theorem serves_aside (h : response.status = 404 → resource = .metrics ∧ f.meters = none) :
    Serves none none resource now f (response, f) where
  fleet := rfl
  refused := by simp
  success hchange := by simp at hchange
  found _ := h

theorem serves_ok (response : Response) (hstatus : response.status = 200) :
    Serves none none resource now f (response, f) :=
  serves_aside fun h => absurd (hstatus.symm.trans h) (by decide)

theorem serves_bad (response : Response) (hstatus : response.status = 400) :
    Serves none none resource now f (response, f) :=
  serves_aside fun h => absurd (hstatus.symm.trans h) (by decide)

theorem serves_withName (name : List Char) (data : String → Json) :
    Serves none none resource now f (withName name f data) := by
  unfold withName
  split
  · exact serves_ok _ rfl
  · exact serves_bad _ rfl

/-- An answer that follows from the one of the fleet. -/
theorem serves_of_status {fault : Option Error} {change : Option Fleet.Call} {handled : Handled}
    {status : Nat} (hstatus : status = 200 ∨ status = 201)
    (hfleet : handled.2 = counted resource.label fault (changed now f change))
    (h : handled.1.status = statusAfter status fault) :
    Serves fault change resource now f handled where
  fleet := hfleet
  refused e he := by
    obtain rfl := Option.mem_def.mp he
    exact h
  success _ hnone := by
    subst hnone
    obtain rfl | rfl := hstatus <;> simp [Response.isSuccess, h, statusAfter]
  found hnone h404 := by
    subst hnone
    rw [h] at h404
    obtain rfl | rfl := hstatus <;> contradiction

theorem serves_record {change : Option Fleet.Call} {status : Nat}
    (hstatus : status = 200 ∨ status = 201) (hlabel : resource.label = "instance")
    (result : Except Error Instance) :
    Serves (Fleet.Answer.record result).error? change resource now f
      (recordAnswer status (result, changed now f change)) := by
  cases result with
  | error e =>
    exact serves_of_status hstatus (hlabel ▸ failure_snd "instance" e _)
      (failure_status "instance" e _ status)
  | ok i => exact serves_of_status hstatus rfl rfl

theorem serves_report {change : Option Fleet.Call} (hlabel : resource.label = "report")
    (result : Except Error Report) :
    Serves (Fleet.Answer.report result).error? change resource now f
      (reportAnswer (result, changed now f change)) := by
  cases result with
  | error e =>
    exact serves_of_status (.inl rfl) (hlabel ▸ failure_snd "report" e _)
      (failure_status "report" e _ 200)
  | ok r => exact serves_of_status (.inl rfl) rfl rfl

/-- What serving a resource does, resource by resource. -/
theorem serves (now : Timestamp) (request : Request) (f : Fleet) (resource : Resource) :
    Serves (fault? now request f resource) (change? request resource) resource now f
      (serve now request f resource) := by
  cases resource with
  | status | services => exact serves_ok _ rfl
  | serviceStatus name | serviceInstances name | healthyInstances name | serviceMetadata name =>
    exact serves_withName name _
  | instances =>
    simp only [fault?, change?, serve]
    cases request.decodeBody Registration.decoder with
    | error fault => exact serves_bad _ rfl
    | ok r => exact serves_record (.inr rfl) rfl (f.register now r).1
  | record id =>
    simp only [fault?, change?, serve, withId]
    cases Text.percentDecode? id with
    | none => exact serves_bad _ rfl
    | some id => exact serves_record (.inl rfl) rfl (f.catalog.get id)
  | recordMetadata id =>
    simp only [fault?, change?, serve, withId]
    cases Text.percentDecode? id with
    | none => exact serves_bad _ rfl
    | some id =>
      cases request.decodeBody Metadata.decoder with
      | error fault => exact serves_bad _ rfl
      | ok m => exact serves_record (.inl rfl) rfl (f.updateMetadata id m.toList).1
  | deregistration id =>
    simp only [fault?, change?, serve, withId]
    cases Text.percentDecode? id with
    | none => exact serves_bad _ rfl
    | some id => exact serves_record (.inl rfl) rfl (f.deregister now id).1
  | report id =>
    simp only [fault?, change?, serve, withId]
    cases Text.percentDecode? id with
    | none => exact serves_bad _ rfl
    | some id => exact serves_report rfl (f.purge id).1
  | metrics =>
    simp only [fault?, change?, serve]
    cases hm : f.meters with
    | none => exact serves_aside fun _ => ⟨rfl, hm⟩
    | some m => exact serves_ok _ rfl

/-- An answer is 404 if the fleet says that something is not there, or without meters to show. -/
theorem status_serve_eq_404_iff (now : Timestamp) (request : Request) (f : Fleet)
    (resource : Resource) : (serve now request f resource).1.status = 404 ↔
      (fault? now request f resource).any Error.isNotFound ∨
        resource = .metrics ∧ f.meters = none := by
  have h := serves now request f resource
  cases hfault : fault? now request f resource with
  | none =>
    refine ⟨fun h404 => .inr (h.found hfault h404), ?_⟩
    rintro (hfalse | ⟨rfl, hmeters⟩)
    · simp at hfalse
    · simp only [serve, hmeters]
      rfl
  | some e =>
    rw [h.refused e hfault, Option.any_some]
    constructor
    · intro h404
      by_contra hother
      rw [if_neg fun hnot => hother (.inl hnot)] at h404
      contradiction
    · rintro (hnot | ⟨rfl, -⟩)
      · exact if_pos hnot
      · simp [fault?, change?] at hfault

/-- Only resources that are not read ask for a change. -/
theorem change?_of_get {resource : Resource} (h : resource.method = .get) (request : Request) :
    change? request resource = none := by
  cases resource with
  | instances | recordMetadata id | deregistration id | report id => contradiction
  | _ => rfl

theorem method_of_reading {resource : Resource}
    (hreads : request.method = "GET" ∨ request.method = "HEAD")
    (hmethod : resource.method.names.contains request.method) : resource.method = .get := by
  cases hm : resource.method with
  | get => rfl
  | post | put | delete => obtain h | h := hreads <;> rw [hm, h] at hmethod <;> contradiction

theorem isToken_of_mem_names {m : Method} {name : String} (h : m.names.contains name) :
    name.toList.all Probe.Header.isTokenChar && !name.isEmpty := by
  have hall : ∀ name ∈ m.names, name.toList.all Probe.Header.isTokenChar && !name.isEmpty := by
    cases m <;> decide
  exact hall name (List.contains_iff_mem.mp h)

/-- An answer is that of the resource, perhaps without its body, or there is no resource and the
fleet is not asked. -/
theorem handle_cases (h : handle now request f = some (response, f')) :
    (∃ resource ∈ request.resource?, resource.method.names.contains request.method ∧
      response.status = (serve now request f resource).1.status ∧
      f' = (serve now request f resource).2) ∨
    request.resource? = none ∧ response.isSuccess = false ∧ f' = f := by
  simp only [handle] at h
  split at h
  · contradiction
  obtain ⟨path, hpath, hanswer⟩ := Option.map_eq_some_iff.mp h
  simp only [answer] at hanswer
  cases hresource : Resource.ofPath? path with
  | none =>
    rw [hresource] at hanswer
    obtain ⟨rfl, rfl⟩ := Prod.mk.inj hanswer
    exact .inr ⟨by simp [Request.resource?, hpath, hresource], rfl, rfl⟩
  | some resource =>
    simp only [hresource] at hanswer
    split at hanswer
    · rename_i hmethod
      obtain ⟨rfl, rfl⟩ := Prod.mk.inj hanswer
      refine .inl ⟨resource, ?_, hmethod, ?_, rfl⟩
      · simpa [Request.resource?, hpath, hresource, Option.filter_eq_some_iff] using hmethod
      · split <;> rfl
    · rename_i hmethod
      obtain ⟨rfl, rfl⟩ := Prod.mk.inj hanswer
      refine .inr ⟨?_, rfl, rfl⟩
      simpa [Request.resource?, hpath, hresource, Option.filter] using hmethod

theorem isSuccess_congr {response other : Response} (h : response.status = other.status) :
    response.isSuccess = other.isSuccess := by
  rw [Response.isSuccess, h, Response.isSuccess]

/-- Where a change is asked for, the failure is the one with which the fleet answers it. -/
theorem fault?_of_change? {c : Fleet.Call} (h : change? request resource = some c) :
    fault? now request f resource = (f.perform now c).1.error? := by
  cases resource with
  | instances | recordMetadata id | deregistration id | report id =>
    simp only [fault?, h, Option.bind_some]
  | _ => contradiction

/-- Where no change is asked for, or the answer is not a success, the fleet is left. -/
theorem changed_of_refused (hf : f.Sound) (h : change? request resource = none ∨
    (serve now request f resource).1.isSuccess = false) :
    changed now f (change? request resource) = f := by
  cases hc : change? request resource with
  | none => rfl
  | some c =>
    have hrefused := h.resolve_left (by simp [hc])
    cases hfault : fault? now request f resource with
    | none =>
      have hsuccess := (serves now request f resource).success (by simp [hc]) hfault
      rw [hrefused] at hsuccess
      contradiction
    | some e =>
      rw [fault?_of_change? hc] at hfault
      exact hf.perform_of_error hfault

theorem missed?_of_resource (h : request.resource? = some resource) (now : Timestamp) (f : Fleet) :
    missed? now request f =
      if (fault? now request f resource).any Error.isNotFound then some resource.label
      else none := by
  simp only [missed?, h, Option.filter]
  split <;> rfl

/-- A counted failure is one more failed lookup on the meters, and nothing else. -/
theorem sameStores_counted (label : String) (fault : Option Error) (f : Fleet) :
    (counted label fault f).SameStores f := by
  unfold counted
  split
  · exact f.sameStores_meter _
  · exact ⟨rfl, rfl, rfl⟩

inductive Input where
  | call (c : Fleet.Call)
  | request (r : Request)

/-- The fleet after an input. A request that has no answer leaves it. -/
def receive (now : Timestamp) (f : Fleet) : Input → Fleet
  | .call c => (f.perform now c).2
  | .request r => ((handle now r f).map Prod.snd).getD f

/-- The fleet after inputs, each with its own reading of the clock. -/
def run (f : Fleet) (inputs : List (Timestamp × Input)) : Fleet :=
  inputs.foldl (fun f input => receive input.1 f input.2) f

theorem sound_counted (h : f.Sound) (label : String) (fault : Option Error) :
    (counted label fault f).Sound := by
  unfold counted
  split
  · exact h.meter _
  · exact h

theorem sound_receive (h : f.Sound) (now : Timestamp) (input : Input) :
    (receive now f input).Sound := by
  cases input with
  | call c => exact h.perform now c
  | request r =>
    simp only [receive]
    cases hhandle : handle now r f with
    | none => exact h
    | some handled =>
      obtain ⟨response, f'⟩ := handled
      rw [Option.map_some, Option.getD_some]
      obtain ⟨resource, -, -, -, rfl⟩ | ⟨-, -, rfl⟩ := handle_cases hhandle
      · rw [(serves now r f resource).fleet]
        apply sound_counted
        unfold changed
        cases change? r resource with
        | none => exact h
        | some c => exact h.perform now c
      · exact h

theorem sound_run (h : f.Sound) (inputs : List (Timestamp × Input)) : (run f inputs).Sound := by
  induction inputs generalizing f with
  | nil => exact h
  | cons input rest ih => exact ih (sound_receive h input.1 input.2)

/-- Failures leave the stores. After every run of calls and requests: a call that fails and an
outcome that is discarded change no record, standing or report. A request that is not answered with
a success, or that only reads, changes none of them either, and the meters only if the fleet said
that something is not there: then there is one more failed lookup of the kind, and the answer is
404. An answer is 404 without that only where there is no resource for the method or no meters to
show. -/
theorem failures_leave_the_stores (t : Thresholds) (metered : Bool)
    (inputs : List (Timestamp × Input)) :
    let f := run (Fleet.empty t metered) inputs
    (∀ now c, (f.perform now c).1.isFailure → (f.perform now c).2.SameStores f) ∧
    ∀ now request response f', handle now request f = some (response, f') →
      response.isSuccess = false ∨ request.method = "GET" ∨ request.method = "HEAD" →
      f'.SameStores f ∧
      (f'.meters = match missed? now request f with
        | some label => f.meters.map fun m => { m with notFound := m.notFound.increment [label] }
        | none => f.meters) ∧
      ((missed? now request f).isSome → response.status = 404) ∧
      (response.status = 404 → missed? now request f = none →
        request.resource? = none ∨ request.resource? = some .metrics ∧ f.meters = none) := by
  intro f
  have hsound : f.Sound := sound_run (Fleet.sound_run t metered []) inputs
  refine ⟨fun now c hfail => hsound.perform_of_failure hfail, ?_⟩
  intro now request response f' hhandle hrefused
  obtain ⟨resource, hresource, hmethod, hstatus, rfl⟩ | ⟨hresource, -, rfl⟩ := handle_cases hhandle
  · have hserves := serves now request f resource
    have hunchanged : changed now f (change? request resource) = f := by
      refine changed_of_refused hsound (hrefused.symm.imp (fun hreads => ?_) fun hfail => ?_)
      · exact change?_of_get (method_of_reading hreads hmethod) request
      · rwa [← isSuccess_congr hstatus]
    have hnot : response.status = 404 ↔ (fault? now request f resource).any Error.isNotFound ∨
        resource = .metrics ∧ f.meters = none :=
      hstatus ▸ status_serve_eq_404_iff now request f resource
    rw [hserves.fleet, hunchanged, missed?_of_resource hresource]
    refine ⟨sameStores_counted _ _ f, ?_, fun hmissed => ?_, fun h404 hmissed => ?_⟩
    · unfold counted
      split <;> rfl
    · exact hnot.mpr (.inl (by simpa using hmissed))
    · obtain hfault | ⟨rfl, hmeters⟩ := hnot.mp h404
      · simp [hfault] at hmissed
      · exact .inr ⟨hresource, hmeters⟩
  · have hmissed : missed? now request f = none := by simp [missed?, hresource]
    rw [hmissed]
    exact ⟨⟨rfl, rfl, rfl⟩, rfl, by simp, fun _ _ => .inl hresource⟩

end ServiceHealth.Api
