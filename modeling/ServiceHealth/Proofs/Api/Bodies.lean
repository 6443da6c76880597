import ServiceHealth.Proofs.Api.Collisions
import ServiceHealth.Proofs.Json.Fronts

/-!
# How much of a body counts

Two resources take a body, and both decode the value that it begins with. What follows this value is
not looked at. So a body counts as far as a front of it that is decoded as a whole, and a body
without such a front is refused.
-/
namespace ServiceHealth.Api

def Resource.TakesBody : Resource → Prop
  | .instances | .recordMetadata _ => True
  | _ => False

/-- The change that a text asks for if all of it is decoded for the resource. -/
def Resource.asked? (s : Json.Input) : Resource → Option Fleet.Call
  | .instances => (Json.decode Registration.decoder s).toOption.map .register
  | .recordMetadata id =>
      (Text.percentDecode? id).bind fun id =>
        (Json.decode Metadata.decoder s).toOption.map fun m => .updateMetadata id m.toList
  | _ => none

variable {now : Timestamp} {request : Request} {f : Fleet} {resource : Resource} {c : Fleet.Call}

/-- A body in JSON is decoded if it is not too long and a front of it is decoded as a whole. -/
theorem Request.decodeBody_eq_ok_iff
    (hmedia : (request.contentType.map MediaType.isJson).getD false) {α : Type}
    {d : Json.Decoder α} (hd : Json.Compound d) {a : α} :
    request.decodeBody d = .ok a ↔ request.body.length ≤ maxBodyLength ∧
      ∃ front rest, Text.decodeUtf8 request.body = front ++ rest ∧ Json.decode d front = .ok a := by
  rw [decodeBody, if_neg (by simp [hmedia]), ← hd.decodeFirst_eq_ok_iff]
  by_cases hlength : request.body.length ≤ maxBodyLength
  · rw [if_neg (Nat.not_lt.mpr hlength)]
    cases Json.decodeFirst d (Text.decodeUtf8 request.body) <;> simp [Except.mapError, hlength]
  · rw [if_pos (Nat.lt_of_not_le hlength)]
    simp [hlength]

/-- Every resource that takes a body has one decoder for it. -/
theorem Resource.TakesBody.exists_decoder (h : resource.TakesBody) :
    ∃ (α : Type) (d : Json.Decoder α) (call : α → Option Fleet.Call), Json.Compound d ∧
      (∀ request, change? request resource = (request.decodeBody d).toOption.bind call) ∧
      ∀ s, resource.asked? s = (Json.decode d s).toOption.bind call := by
  cases resource with
  | instances =>
    exact ⟨_, Registration.decoder, fun r => some (.register r), Registration.compound,
      fun request => by rw [change?, Option.map_eq_bind]; rfl, fun s => by
        rw [asked?, Option.map_eq_bind]; rfl⟩
  | recordMetadata id =>
    refine ⟨_, Metadata.decoder, fun m => (Text.percentDecode? id).map fun id =>
      .updateMetadata id m.toList, Metadata.compound, fun request => ?_, fun s => ?_⟩
    · rw [change?]
      cases Text.percentDecode? id <;> simp [Option.map_eq_bind]
    · rw [asked?]
      cases Text.percentDecode? id <;> simp [Option.map_eq_bind]
  | _ => exact h.elim

/-- A request with a body in JSON asks for what a front of the body asks for. -/
theorem change?_eq_some_iff (hbody : resource.TakesBody)
    (hmedia : (request.contentType.map MediaType.isJson).getD false) :
    change? request resource = some c ↔ request.body.length ≤ maxBodyLength ∧
      ∃ front rest, Text.decodeUtf8 request.body = front ++ rest ∧
        resource.asked? front = some c := by
  obtain ⟨α, d, call, hd, hchange, hasked⟩ := hbody.exists_decoder
  simp only [hchange, hasked, Option.bind_eq_some_iff, toOption_eq_some_iff,
    Request.decodeBody_eq_ok_iff hmedia hd]
  constructor
  · rintro ⟨a, ⟨hlength, front, rest, htext, ha⟩, hc⟩
    exact ⟨hlength, front, rest, htext, a, ha, hc⟩
  · rintro ⟨hlength, front, rest, htext, a, ha, hc⟩
    exact ⟨a, ⟨hlength, front, rest, htext, ha⟩, hc⟩

/-- What asks for a change asks for it together with blanks behind it, and for nothing together with
anything else. -/
theorem Resource.asked?_append (hbody : resource.TakesBody) {front : Json.Input}
    (h : resource.asked? front = some c) (rest : Json.Input) :
    resource.asked? (front ++ rest) = if rest.all Json.isBlank then some c else none := by
  obtain ⟨α, d, call, hd, -, hasked⟩ := hbody.exists_decoder
  rw [hasked] at h
  obtain ⟨a, ha, hc⟩ := Option.bind_eq_some_iff.mp h
  rw [hasked, hd.decode_append (toOption_eq_some_iff.mp ha)]
  split
  · exact hc
  · rfl

/-- A text without gaps that asks for a change is a text of JSON. -/
theorem Resource.spells_of_asked? (hbody : resource.TakesBody) {text : List Char}
    (h : resource.asked? (text.map some) = some c) : ∃ v, Json.Spells text v := by
  obtain ⟨α, d, call, -, -, hasked⟩ := hbody.exists_decoder
  rw [hasked] at h
  obtain ⟨a, ha, -⟩ := Option.bind_eq_some_iff.mp h
  obtain ⟨v, hspells, -⟩ := Json.decode_text_eq_ok_iff.mp (toOption_eq_some_iff.mp ha)
  exact ⟨v, hspells⟩

theorem Resource.TakesBody.head_notMem (h : resource.TakesBody) :
    "HEAD" ∉ resource.method.names := by
  cases resource with
  | instances => decide
  | recordMetadata id => simp [Resource.method, Method.names]
  | _ => exact h.elim

/-- Without a change a request with a body is answered as a bad one, and the fleet is left. -/
theorem serve_of_change?_eq_none (hbody : resource.TakesBody)
    (h : change? request resource = none) :
    (serve now request f resource).1.status = 400 ∧ (serve now request f resource).2 = f := by
  cases resource with
  | instances =>
    simp only [change?, Option.map_eq_none_iff] at h
    simp only [serve]
    cases hr : request.decodeBody Registration.decoder with
    | error fault => exact ⟨rfl, rfl⟩
    | ok r => exact absurd h (by simp [hr, Except.toOption])
  | recordMetadata id =>
    simp only [change?] at h
    simp only [serve, withId]
    cases hid : Text.percentDecode? id with
    | none => exact ⟨rfl, rfl⟩
    | some id =>
      cases hm : request.decodeBody Metadata.decoder with
      | error fault => exact ⟨rfl, rfl⟩
      | ok m => exact absurd h (by simp [hid, hm, Except.toOption])
  | _ => exact hbody.elim

/-- A change that is asked for is answered with a success if the fleet answers it without a failure,
and the stores are those that the fleet leaves. -/
theorem serve_of_change?_eq_some (h : change? request resource = some c) (now : Timestamp)
    (f : Fleet) :
    ((serve now request f resource).1.isSuccess ↔ (f.perform now c).1.error? = none) ∧
      (serve now request f resource).2.SameStores (f.perform now c).2 := by
  have hserves := serves now request f resource
  rw [fault?_of_change? h, h] at hserves
  constructor
  · constructor
    · intro hsuccess
      by_contra hfault
      obtain ⟨e, he⟩ := Option.ne_none_iff_exists'.mp hfault
      have hstatus := hserves.refused e he
      rw [Response.isSuccess, hstatus] at hsuccess
      split at hsuccess <;> contradiction
    · exact hserves.success rfl
  · rw [hserves.fleet]
    exact sameStores_counted _ _ _

/-- A body counts as far as the value that it begins with. Take any request with a body in JSON for
a resource that takes one, and any fleet. If a front of the body, decoded as a whole, asks for a
change, the request is answered as the fleet answers this change, and the stores are those that the
change leaves, whatever follows the front. The body itself asks for the change if and only if
nothing but blanks follows. The front is a text of JSON, if there are no gaps in it. If there is no
such front, or the body is too long, the request is a bad one and changes nothing. -/
theorem body_counts_as_far_as_its_first_value (hresource : request.resource? = some resource)
    (hbody : resource.TakesBody) (hmedia : (request.contentType.map MediaType.isJson).getD false)
    (now : Timestamp) (f : Fleet) :
    ∃ response f', handle now request f = some (response, f') ∧
      (∀ front rest c, Text.decodeUtf8 request.body = front ++ rest →
        resource.asked? front = some c → request.body.length ≤ maxBodyLength →
        (response.isSuccess ↔ (f.perform now c).1.error? = none) ∧
        f'.SameStores (f.perform now c).2 ∧
        (resource.asked? (Text.decodeUtf8 request.body) = some c ↔ rest.all Json.isBlank) ∧
        ∀ text, front = text.map some → ∃ v, Json.Spells text v) ∧
      ((∀ front rest, Text.decodeUtf8 request.body = front ++ rest →
          resource.asked? front = none) ∨ maxBodyLength < request.body.length →
        response.status = 400 ∧ f' = f) := by
  have hmethod := method_ne_head hresource hbody.head_notMem
  refine ⟨_, _, handle_of_resource hresource hmethod, ?_, fun hnone => ?_⟩
  · intro front rest c htext hc hlength
    have hchange := (change?_eq_some_iff hbody hmedia).mpr ⟨hlength, front, rest, htext, hc⟩
    obtain ⟨hsuccess, hstores⟩ := serve_of_change?_eq_some hchange now f
    refine ⟨hsuccess, hstores, ?_, ?_⟩
    · rw [htext, Resource.asked?_append hbody hc]
      simp only [Option.ite_none_right_eq_some, and_true]
    · rintro text rfl
      exact Resource.spells_of_asked? hbody hc
  · refine serve_of_change?_eq_none hbody (Option.eq_none_iff_forall_ne_some.mpr fun c hc => ?_)
    obtain ⟨hlength, front, rest, htext, hfront⟩ := (change?_eq_some_iff hbody hmedia).mp hc
    obtain hnone | hlong := hnone
    · rw [hnone front rest htext] at hfront
      contradiction
    · exact absurd hlength (Nat.not_le.mpr hlong)

/-- Of two documents in one body only the first counts. -/
theorem body_counts_as_far_as_its_first_value_of_two :
    let first := "\x7b\"a\":\"1\"\x7d"
    let request : Request := ⟨"PUT", "/instances/i1/metadata", some "application/json",
      Text.encodeUtf8 (first ++ "\x7b\"b\":\"2\"\x7d").toList⟩
    ∀ now f, ∃ response f', handle now request f = some (response, f') ∧
      (response.isSuccess ↔ (f.perform now (.updateMetadata "i1" [("a", "1")])).1.error? = none) ∧
      f'.SameStores (f.perform now (.updateMetadata "i1" [("a", "1")])).2 := by
  intro first request now f
  have hresource : request.resource? = some (.recordMetadata "i1".toList) := by decide
  have hmedia : (request.contentType.map MediaType.isJson).getD false := by decide
  have hid : Text.percentDecode? "i1".toList = some "i1" := by decide +kernel
  have hm : (Json.decode Metadata.decoder (first.toList.map some)).toOption.map (·.toList) =
      some [("a", "1")] := by decide +kernel
  have hasked : Resource.asked? (first.toList.map some) (.recordMetadata "i1".toList) =
      some (.updateMetadata "i1" [("a", "1")]) := by
    obtain ⟨m, hm, hlist⟩ := Option.map_eq_some_iff.mp hm
    rw [Resource.asked?, hid, Option.bind_some, hm, Option.map_some, hlist]
  obtain ⟨response, f', hhandle, hfront, -⟩ :=
    body_counts_as_far_as_its_first_value hresource trivial hmedia now f
  have htext : Text.decodeUtf8 request.body =
      first.toList.map some ++ "\x7b\"b\":\"2\"\x7d".toList.map some := by
    rw [← List.map_append, ← String.toList_append]
    exact Text.decodeUtf8_encodeUtf8 _
  have hlength : request.body.length ≤ maxBodyLength := by decide
  obtain ⟨hsuccess, hstores, -⟩ := hfront _ _ _ htext hasked hlength
  exact ⟨response, f', hhandle, hsuccess, hstores⟩

/-- The second document is lost without notice: the body as a whole is refused by the decoder, but
the request is answered with a success, and the first document is in the catalog. -/
theorem second_document_is_lost :
    let orders : Registration := ⟨"i1", "orders", "10.0.0.5", 8080, .http, .empty⟩
    let f := ((Monitor.start ⟨3, 2⟩ false).run [(⟨0⟩, .call (.register orders))]).fleet
    let request : Request := ⟨"PUT", "/instances/i1/metadata", some "application/json",
      Text.encodeUtf8 "\x7b\"a\":\"1\"\x7d\x7b\"b\":\"2\"\x7d".toList⟩
    let metadata (f : Fleet) := (f.catalog.find? "i1").map (·.metadata.toList)
    (Json.decode Metadata.decoder (Text.decodeUtf8 request.body)).toOption.isNone ∧
    metadata f = some [] ∧
    (handle ⟨1⟩ request f).map (fun handled => (handled.1.status, metadata handled.2)) =
      some (200, some [("a", "1")]) := by
  decide +kernel

end ServiceHealth.Api
