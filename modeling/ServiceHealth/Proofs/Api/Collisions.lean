import ServiceHealth.Proofs.Api.ReadBack
import ServiceHealth.Proofs.Text.LetterCase

/-!
# Names that collide are refused

Metadata arrives in two requests, inside a registration and by itself. In both, names that are
different but fall together once letter case is ignored are refused before the fleet is asked. A
name that is repeated as it stands is not: then the last of its values counts.
-/
namespace ServiceHealth

namespace Registration

/-- What stands for a registration has a value for its metadata, as a member or in its place. -/
inductive Carries (v : Json) : Json → Prop where
  | member {members : List (Option String × Json)} (h : (some "metadata", v) ∈ members) :
      Carries v (.object members)
  | item {items : List Json} (h : items[5]? = some v) : Carries v (.array items)

/-- A registration is refused if its metadata is. -/
theorem Carries.refused {v whole : Json} (h : Carries v whole) {e : Json.Fault}
    (hv : Metadata.decoder v = .error e) : ∃ e', decoder whole = .error e' := by
  have hcheck : ∀ r, decoder whole = .ok r → (Metadata.decoder v).map (fun _ => ()) = .ok () := by
    intro r hr
    cases h with
    | member hmem => exact (Json.Record.Holds.member hmem rfl).check hr
    | item hitem => exact (Json.Record.Holds.item hitem rfl).check hr
  cases hdecoder : decoder whole with
  | error e' => exact ⟨e', rfl⟩
  | ok r =>
    have hok := hcheck r hdecoder
    rw [hv] at hok
    contradiction

end Registration

namespace Api

/-- The request is for metadata, in a registration or by itself, and its body spells the value. -/
inductive Request.Submits (request : Request) (v : Json) : Prop where
  | registration {s : List Char} {whole : Json} (hresource : request.resource? = some .instances)
      (hbody : request.body = Text.encodeUtf8 s) (hspells : Json.Spells s whole)
      (hcarries : Registration.Carries v whole)
  | update {s id : List Char} (hresource : request.resource? = some (.recordMetadata id))
      (hbody : request.body = Text.encodeUtf8 s) (hspells : Json.Spells s v)

variable {now : Timestamp} {request : Request} {f : Fleet} {resource : Resource} {v : Json}

theorem Request.decodeBody_of_refused {s : List Char} (hbody : request.body = Text.encodeUtf8 s)
    (hspells : Json.Spells s v) {α : Type} {d : Json.Decoder α} {e : Json.Fault}
    (hv : d v = .error e) : ∃ fault, request.decodeBody d = .error fault := by
  by_cases hmedia : (request.contentType.map MediaType.isJson).getD false
  · by_cases hlength : request.body.length ≤ maxBodyLength
    · rw [request.decodeBody_of_spells hspells hbody hmedia hlength d, hv]
      exact ⟨_, rfl⟩
    · exact ⟨.tooLong, by rw [decodeBody, if_neg (by simp [hmedia]), if_pos (by omega)]⟩
  · exact ⟨.notJson, by rw [decodeBody, if_pos (by simp [hmedia])]⟩

/-- Refused metadata is answered as a bad request, and the fleet stays as it was. -/
theorem Request.Submits.refused (h : request.Submits v) {e : Json.Fault}
    (hv : Metadata.decoder v = .error e) (now : Timestamp) (f : Fleet) :
    ∃ response, handle now request f = some (response, f) ∧ response.status = 400 := by
  cases h with
  | registration hresource hbody hspells hcarries =>
    obtain ⟨e', he'⟩ := hcarries.refused hv
    obtain ⟨fault, hfault⟩ := Request.decodeBody_of_refused hbody hspells he'
    rw [handle_of_resource hresource (method_ne_head hresource (by decide)), serve, hfault]
    exact ⟨_, rfl, rfl⟩
  | @update s id hresource hbody hspells =>
    obtain ⟨fault, hfault⟩ := Request.decodeBody_of_refused hbody hspells hv
    have hmethod := method_ne_head hresource (by simp [Resource.method, Method.names])
    rw [handle_of_resource hresource hmethod, serve, withId]
    cases Text.percentDecode? id with
    | none => exact ⟨_, rfl, rfl⟩
    | some id =>
      simp only [hfault]
      exact ⟨_, rfl, rfl⟩

open Metadata (Collide objectOf)

/-- Take any text of an object of strings. If two of its names are different and equal but for
letter case, wherever they stand and however they are escaped, the text is refused as metadata and
two such names are reported; every text of a registration with this object is refused as well, and a
request with either is a bad one and changes nothing. Otherwise the text is taken, and the entries
are the last members of their names: all of them, if no name is repeated. -/
theorem colliding_names_are_refused {text : List Char} {members : List (String × String)}
    (htext : Json.Spells text (objectOf members)) :
    (Collide members →
      (∃ p ∈ members, ∃ q ∈ members, p.1 < q.1 ∧ Text.fold p.1 = Text.fold q.1 ∧
        Json.decode Metadata.decoder (text.map some) =
          .error (.content [] (.refused (Error.invalid (.keysDifferInCase p.1 q.1)).message))) ∧
      (∀ s whole, Registration.Carries (objectOf members) whole → Json.Spells s whole →
        ∃ e, Json.decode Registration.decoder (s.map some) = .error e) ∧
      ∀ request, Request.Submits request (objectOf members) → ∀ now f,
        ∃ response, handle now request f = some (response, f) ∧ response.status = 400) ∧
    (¬Collide members →
      ∃ m, Json.decode Metadata.decoder (text.map some) = .ok m ∧
        (∀ p, p ∈ m.toList ↔ (members.filter fun q => q.1 = p.1).getLast? = some p) ∧
        ((members.map Prod.fst).Nodup → m.toList.Perm members)) := by
  constructor
  · intro hcollide
    obtain ⟨p, hp, q, hq, hlt, hfold, hrefused⟩ := Metadata.decoder_of_collide hcollide
    refine ⟨⟨p, hp, q, hq, hlt, hfold, ?_⟩, fun s whole hcarries hspells => ?_,
      fun request hsubmits now f => hsubmits.refused hrefused now f⟩
    · rw [htext.decode, hrefused]
      rfl
    · rw [hspells.decode]
      exact hcarries.refused hrefused
  · intro hapart
    obtain ⟨m, hm, hentries⟩ := Metadata.decoder_of_not_collide hapart
    refine ⟨m, by rw [htext.decode, hm], hentries, fun hnodup => ?_⟩
    refine (List.perm_ext_iff_of_nodup m.apart_toList.of_map hnodup.of_map).mpr fun p => ?_
    rw [hentries, ← Table.mem_ofList_iff, Table.mem_ofList hnodup]

/-- An escape does not hide a collision, and blanks do not. -/
theorem colliding_names_are_refused_escaped :
    let text := "\x7b\"\\u0052egion\":\"eu\", \"region\" : \"us\"\x7d".toList
    Json.decode Metadata.decoder (text.map some) =
      .error (.content [] (.refused
        "Invalid request: metadata keys 'Region' and 'region' differ only in case")) ∧
    ∀ now f, ∃ response, handle now ⟨"PUT", "/instances/i1/metadata", some "application/json",
      Text.encodeUtf8 text⟩ f = some (response, f) ∧ response.status = 400 := by
  intro text
  have hregion : Json.Spells "\"\\u0052egion\"".toList (.ofText "Region") := by
    have hunit : Json.hexUnit? (some '0') (some '0') (some '5') (some '2') = some 0x52 := by decide
    exact .text (.unit hunit (Json.spellsPieces_flatMap "egion".toList))
  have hblank : Json.Blanks [' '] := by simp [Json.Blanks, Json.isBlank]
  have hpadded : Json.Spells " \"region\" ".toList (.ofText "region") :=
    .padded hblank hblank (Json.spells_writeText "region")
  have hus : Json.Spells " \"us\"".toList (.ofText "us") :=
    .padded hblank (by simp [Json.Blanks]) (Json.spells_writeText "us")
  have htext : Json.Spells text (objectOf [("Region", "eu"), ("region", "us")]) :=
    @Json.Spells.object
      [⟨"\"\\u0052egion\"".toList, some "Region", Json.writeText "eu", .ofText "eu"⟩,
        ⟨" \"region\" ".toList, some "region", " \"us\"".toList, .ofText "us"⟩]
      (by simp) (List.forall_mem_cons.mpr ⟨hregion, List.forall_mem_singleton.mpr hpadded⟩)
      (List.forall_mem_cons.mpr ⟨Json.spells_writeText "eu", List.forall_mem_singleton.mpr hus⟩)
  have hcollide : Collide [("Region", "eu"), ("region", "us")] :=
    ⟨("Region", "eu"), by simp, ("region", "us"), by simp, by decide,
      Text.fold_eq_of_lowerAscii_eq (by decide)⟩
  obtain ⟨⟨p, hp, q, hq, hlt, -, hdecode⟩, -, hrequest⟩ :=
    (colliding_names_are_refused htext).1 hcollide
  have hresource : (Request.mk "PUT" "/instances/i1/metadata" (some "application/json")
      (Text.encodeUtf8 text)).resource? = some (.recordMetadata "i1".toList) := by decide
  refine ⟨?_, hrequest _ (.update hresource rfl htext)⟩
  have hlast : ¬("region" < "Region") := by decide
  simp only [List.mem_cons, List.not_mem_nil, or_false] at hp hq
  obtain rfl | rfl := hp <;> obtain rfl | rfl := hq
  · exact absurd hlt (String.lt_irrefl _)
  · exact hdecode
  · exact absurd hlt hlast
  · exact absurd hlt (String.lt_irrefl _)

/-- A name that is repeated as it stands is taken, although the two names are equal without regard
to letter case, and the first of its values is dropped. -/
theorem repeated_name_is_taken :
    let text := "\x7b\"Region\":\"eu\",\"Region\":\"us\"\x7d".toList
    let members := [("Region", "eu"), ("Region", "us")]
    Json.Spells text (objectOf members) ∧ ¬Metadata.Apart members ∧
      ∃ m, Json.decode Metadata.decoder (text.map some) = .ok m ∧
        ("Region", "us") ∈ m.toList ∧ ("Region", "eu") ∉ m.toList := by
  intro text members
  have hplain : (objectOf members).Plain := .object fun m hm => by
    obtain ⟨p, -, rfl⟩ := List.mem_map.mp hm
    exact .text p.2
  have htext : Json.Spells text (objectOf members) := hplain.spells
  have hsame : ¬Collide members := by
    rintro ⟨p, hp, q, hq, hne, -⟩
    simp only [members, List.mem_cons, List.not_mem_nil, or_false] at hp hq
    obtain rfl | rfl := hp <;> obtain rfl | rfl := hq <;> contradiction
  obtain ⟨m, hm, hentries⟩ := Metadata.decoder_of_not_collide hsame
  refine ⟨htext, by simp [Metadata.Apart, members], m, by rw [htext.decode, hm], ?_, ?_⟩
  · rw [hentries]
    decide
  · rw [hentries]
    decide

end Api

end ServiceHealth
