import ServiceHealth.Proofs.Fleet.Discovery
import ServiceHealth.Proofs.Text.Utf8
import ServiceHealth.Proofs.Wire.Records
import ServiceHealth.Text.Pieces

/-!
# Registered over HTTP, read back over HTTP

A path that holds an id or a name, escaped as one part of it, leads to what has this id or name,
whatever characters are in it. A registration that is sent in JSON is decoded to itself. So what is
registered is found again.
-/
namespace ServiceHealth

namespace Net.Uri

theorem pathBefore?_of_path {cs : List Char} (h : ∀ c ∈ cs, isPathChar c) :
    pathBefore? cs = some cs := by
  induction cs with
  | nil => rfl
  | cons c cs ih =>
    have hc := h c List.mem_cons_self
    have hrest := ih fun x hx => h x (List.mem_cons_of_mem c hx)
    have hquery : c ≠ '?' := by
      rintro rfl
      contradiction
    have hfragment : c ≠ '#' := by
      rintro rfl
      contradiction
    rw [pathBefore?, if_pos hc, hrest]
    · rfl
    · exact fun heq => hquery heq
    · exact fun heq => hfragment heq

/-- A target that is a path is taken as it is. -/
theorem path?_of_path {cs : List Char} (h : ∀ c ∈ '/' :: cs, isPathChar c)
    (hlength : Text.byteLength ('/' :: cs) ≤ maxLength) :
    path? (String.ofList ('/' :: cs)) = some ('/' :: cs) := by
  have hshort : ¬maxLength < Text.byteLength ('/' :: cs) := Nat.not_lt.mpr hlength
  simp only [path?, String.toList_ofList, List.isEmpty_cons, hshort, decide_false, Bool.or_self,
    List.head?_cons, if_true]
  exact pathBefore?_of_path h

end Net.Uri

namespace Api

open Text (PercentEncodes)

def Request.registering (r : Registration) : Request :=
  ⟨"POST", "/instances", some "application/json", Text.encodeUtf8 r.toJson.toText.toList⟩

def pathOf (parts : List (List Char)) : List Char := parts.flatMap ('/' :: ·)

/-- A request that reads what is at a path. -/
structure Request.Reads (request : Request) (parts : List (List Char)) : Prop where
  method : request.method = "GET"
  uri : request.uri = String.ofList (pathOf parts)
  short : Text.byteLength (pathOf parts) ≤ Net.Uri.maxLength

variable {now : Timestamp} {request : Request} {f : Fleet} {resource : Resource}

theorem method_ne_head (h : request.resource? = some resource)
    (hnames : "HEAD" ∉ resource.method.names) : request.method ≠ "HEAD" := by
  obtain ⟨path, -, hfilter⟩ := Option.bind_eq_some_iff.mp h
  have hname := (Option.filter_eq_some_iff.mp hfilter).2
  exact fun heq => hnames (heq ▸ List.contains_iff_mem.mp hname)

/-- A request for a resource is answered by serving it. -/
theorem handle_of_resource (h : request.resource? = some resource)
    (hbody : request.method ≠ "HEAD") :
    handle now request f = some (serve now request f resource) := by
  obtain ⟨path, hpath, hfilter⟩ := Option.bind_eq_some_iff.mp h
  obtain ⟨hresource, hmethod⟩ := Option.filter_eq_some_iff.mp hfilter
  rw [handle, isToken_of_mem_names hmethod, hpath, Option.map_some, answer]
  simp only [hresource, hmethod, hbody, if_true, if_false]
  rfl

/-- A part of a path: no slash and nothing that ends a path or may not stand in one. -/
def IsPart (part : List Char) : Prop := ∀ c ∈ part, Net.Uri.isPathChar c ∧ c ≠ '/'

instance (part : List Char) : Decidable (IsPart part) :=
  inferInstanceAs (Decidable (∀ c ∈ part, Net.Uri.isPathChar c ∧ c ≠ '/'))

theorem segments_append_pathOf {part : List Char} {parts : List (List Char)}
    (h : ∀ p ∈ part :: parts, IsPart p) : segments (part ++ pathOf parts) = part :: parts := by
  induction parts generalizing part with
  | nil =>
    have hpart := h part List.mem_cons_self
    rw [pathOf, List.flatMap_nil, List.append_nil, segments]
    exact Text.pieces_of_none fun c hc => decide_eq_false (hpart c hc).2
  | cons next parts ih =>
    have hpart := h part List.mem_cons_self
    have hnext := ih fun p hp => h p (List.mem_cons_of_mem part hp)
    rw [pathOf, List.flatMap_cons, ← pathOf, List.cons_append, segments,
      Text.pieces_append (fun c hc => decide_eq_false (hpart c hc).2) (decide_eq_true rfl),
      ← segments, hnext]

theorem isPart_nil : IsPart [] := by simp [IsPart]

/-- A path is split at the slashes with which it is made. -/
theorem segments_pathOf {parts : List (List Char)} (h : ∀ p ∈ parts, IsPart p) :
    segments (pathOf parts) = [] :: parts :=
  @segments_append_pathOf [] parts (List.forall_mem_cons.mpr ⟨isPart_nil, h⟩)

theorem isPathChar_of_mem_pathOf {parts : List (List Char)} (h : ∀ p ∈ parts, IsPart p) :
    ∀ c ∈ pathOf parts, Net.Uri.isPathChar c := by
  intro c hc
  obtain ⟨p, hp, hc⟩ := List.mem_flatMap.mp hc
  obtain rfl | hc := List.mem_cons.mp hc
  · rfl
  · exact (h p hp c hc).1

theorem isPathChar_of_isUnreserved {c : Char} (h : Text.isUnreserved c) :
    Net.Uri.isPathChar c ∧ c ≠ '/' := by
  have hcodes : ∀ n < 0x80, Text.isUnreserved (Char.ofNat n) →
      Net.Uri.isPathChar (Char.ofNat n) ∧ Char.ofNat n ≠ '/' := by decide
  have hc := hcodes c.toNat (Text.toNat_lt_of_isUnreserved h)
  rw [Char.ofNat_toNat] at hc
  exact hc h

theorem isPart_of_percentEncodes {bytes : List UInt8} {cs : List Char}
    (h : PercentEncodes bytes cs) : IsPart cs := by
  intro c hc
  obtain hc | rfl := h.mem c hc
  · exact isPathChar_of_isUnreserved hc
  · decide

/-- A request that reads a path of parts is for the resource to which they lead. -/
theorem Request.Reads.resource? {parts : List (List Char)} (h : request.Reads parts)
    (hparts : ∀ p ∈ parts, IsPart p) (hne : parts ≠ [])
    (hresource : Resource.ofPath? (pathOf parts) = some resource) (hget : resource.method = .get) :
    request.resource? = some resource := by
  have hpath : Net.Uri.path? request.uri = some (pathOf parts) := by
    rw [h.uri]
    cases parts with
    | nil => contradiction
    | cons p parts => exact Net.Uri.path?_of_path (isPathChar_of_mem_pathOf hparts) h.short
  rw [Request.resource?, hpath, Option.bind_some, hresource, Option.filter_some, hget, h.method]
  rfl

theorem ofPath?_record {id : List Char} (hid : IsPart id) (hne : id ≠ []) :
    Resource.ofPath? (pathOf ["instances".toList, id]) = some (.record id) := by
  have hparts : ∀ p ∈ ["instances".toList, id], IsPart p :=
    List.forall_mem_cons.mpr ⟨by decide, List.forall_mem_singleton.mpr hid⟩
  rw [Resource.ofPath?, segments_pathOf hparts]
  simp [hne]

theorem ofPath?_serviceInstances {name : List Char} (hname : IsPart name) :
    Resource.ofPath? (pathOf ["services".toList, name, "instances".toList]) =
      some (.serviceInstances name) := by
  have hparts : ∀ p ∈ ["services".toList, name, "instances".toList], IsPart p :=
    List.forall_mem_cons.mpr ⟨by decide, List.forall_mem_cons.mpr ⟨hname, by decide⟩⟩
  rw [Resource.ofPath?, segments_pathOf hparts]
  simp

/-- A body that spells a value is decoded from it. -/
theorem Request.decodeBody_of_spells {s : List Char} {v : Json} (hspells : Json.Spells s v)
    (hbody : request.body = Text.encodeUtf8 s)
    (hmedia : (request.contentType.map MediaType.isJson).getD false)
    (hlength : request.body.length ≤ maxBodyLength) {α : Type} (d : Json.Decoder α) :
    request.decodeBody d = (d v).mapError .undecoded := by
  rw [decodeBody, if_neg (by simp [hmedia]), if_neg (Nat.not_lt.mpr hlength), hbody,
    Text.decodeUtf8_encodeUtf8, hspells.decodeFirst]

/-- A body that holds a registration in JSON is decoded to it. -/
theorem decodeBody_registering {r : Registration}
    (hlength : (Request.registering r).body.length ≤ maxBodyLength) :
    (Request.registering r).decodeBody Registration.decoder = .ok r := by
  have hspells := (Registration.faithful.plain r trivial).spells
  have hmedia : MediaType.isJson "application/json" := by decide
  have hbody : (Request.registering r).body = Text.encodeUtf8 r.toJson.write := by
    rw [Request.registering, Json.toText, String.toList_ofList]
  rw [Request.decodeBody_of_spells hspells hbody hmedia hlength,
    Registration.faithful.returns r trivial]
  rfl

theorem resource?_registering (r : Registration) :
    (Request.registering r).resource? = some .instances := by
  have hpath : Net.Uri.path? "/instances" = some (pathOf ["instances".toList]) := by decide
  have hresource : Resource.ofPath? (pathOf ["instances".toList]) = some .instances := by decide
  rw [Request.resource?, Request.registering, hpath, Option.bind_some, hresource]
  rfl

theorem handle_registering {r : Registration}
    (hlength : (Request.registering r).body.length ≤ maxBodyLength) :
    handle now (Request.registering r) f = some (recordAnswer 201 (f.register now r)) := by
  have hbody : (Request.registering r).method ≠ "HEAD" := show ("POST" : String) ≠ "HEAD" by decide
  rw [handle_of_resource (resource?_registering r) hbody, serve, decodeBody_registering hlength]

/-- However an id is escaped, the record under it is answered. -/
theorem handle_record {id : String} {part : List Char} {i : Instance}
    (hi : f.catalog.find? id = some i) (hpart : PercentEncodes (Text.encodeUtf8 id.toList) part)
    (hne : part ≠ []) (h : request.Reads ["instances".toList, part]) :
    handle now request f = some (.ofData 200 i.toJson, f) := by
  have hparts : ∀ p ∈ ["instances".toList, part], IsPart p :=
    List.forall_mem_cons.mpr
      ⟨by decide, List.forall_mem_singleton.mpr (isPart_of_percentEncodes hpart)⟩
  have hresource := h.resource? hparts (List.cons_ne_nil _ _)
    (ofPath?_record (isPart_of_percentEncodes hpart) hne) rfl
  rw [handle_of_resource hresource (h.method ▸ by decide), serve, withId,
    Text.percentDecode?_of_percentEncodes hpart]
  simp only [Catalog.get_eq, hi, recordAnswer]

/-- However a name is escaped, the instances of the service are answered. -/
theorem handle_serviceInstances {name : String} {part : List Char}
    (hpart : PercentEncodes (Text.encodeUtf8 name.toList) part)
    (h : request.Reads ["services".toList, part, "instances".toList]) :
    handle now request f =
      some (.ofData 200 (listJson Instance.toJson (f.catalog.ofService name)), f) := by
  have hparts : ∀ p ∈ ["services".toList, part, "instances".toList], IsPart p :=
    List.forall_mem_cons.mpr
      ⟨by decide, List.forall_mem_cons.mpr ⟨isPart_of_percentEncodes hpart, by decide⟩⟩
  have hresource := h.resource? hparts (List.cons_ne_nil _ _)
    (ofPath?_serviceInstances (isPart_of_percentEncodes hpart)) rfl
  rw [handle_of_resource hresource (h.method ▸ by decide), serve, withName,
    Text.percentDecode?_of_percentEncodes hpart]

theorem handle_services (h : request.Reads ["services".toList]) :
    handle now request f = some (.ofData 200 (listJson Json.ofText f.catalog.serviceNames), f) := by
  have hpath : Resource.ofPath? (pathOf ["services".toList]) = some .services := by decide
  have hresource := h.resource? (by decide) (List.cons_ne_nil _ _) hpath rfl
  rw [handle_of_resource hresource (h.method ▸ by decide), serve]

end Api

theorem Registration.named_of_check {r : Registration} (h : r.check = .ok ()) :
    Text.isAllBlank r.serviceId = false := by
  unfold check at h
  split at h
  · contradiction
  · rename_i hid
    exact Bool.eq_false_iff.mpr hid

/-- A registration that is accepted answers with the record that is put into the catalog. -/
theorem Fleet.register_of_check {r : Registration} (h : r.check = .ok ()) (now : Timestamp)
    (f : Fleet) : ∃ i f', f.register now r = (.ok i, f') ∧ i = .ofRegistration r i.registeredAt ∧
      f'.catalog = f.catalog.put i := by
  rw [register, Catalog.register_eq, h]
  refine ⟨_, _, rfl, rfl, ?_⟩
  simp only
  split <;> rfl

namespace Catalog

variable {c : Catalog} {i : Instance}

/-- Of the records of a service one is under the id. -/
theorem filter_ofService (hc : c.Keyed) (hi : c.find? i.serviceId = some i) {name : String}
    (hname : i.matchesService name) :
    (c.ofService name).filter (fun j => j.serviceId = i.serviceId) = [i] := by
  have hnodup := (nodup_of_ascending (ofService_ascending hc name)).filter
    fun j => decide (j.serviceId = i.serviceId)
  refine List.perm_singleton.mp
    ((List.perm_ext_iff_of_nodup hnodup (List.nodup_singleton i)).mpr fun j => ?_)
  rw [List.mem_filter, mem_ofService hc, decide_eq_true_iff, List.mem_singleton]
  constructor
  · rintro ⟨⟨hj, -⟩, hid⟩
    rw [hid, hi] at hj
    exact (Option.some.inj hj).symm
  · rintro rfl
    exact ⟨⟨hi, matchesService_iff.mp hname⟩, rfl⟩

/-- Of the names of the services one is that of the instance, up to letter case. -/
theorem countP_serviceNames (h : i ∈ c.active) : c.serviceNames.countP i.matchesService = 1 := by
  obtain ⟨name, hname, hmatches⟩ := exists_serviceName h
  have hnodup : (c.serviceNames.filter i.matchesService).Nodup :=
    (nodup_of_ascending c.serviceNames_ascending).filter _
  have hone : c.serviceNames.filter i.matchesService = [name] := by
    refine List.perm_singleton.mp
      ((List.perm_ext_iff_of_nodup hnodup (List.nodup_singleton name)).mpr fun other => ?_)
    rw [List.mem_filter, List.mem_singleton]
    constructor
    · rintro ⟨hother, hmatches'⟩
      exact eq_of_matchesService hother hname hmatches' hmatches
    · rintro rfl
      exact ⟨hname, hmatches⟩
  rw [List.countP_eq_length_filter, hone, List.length_singleton]

end Catalog

namespace Monitor

open Api (Request)
open Text (PercentEncodes)

/-- What is registered over HTTP is read back over HTTP. Whatever has happened, a registration that
passes its check and whose JSON is short enough for a body is answered 201 with its record. From
then on, however the id is escaped in the path, the record is answered under it. However the name is
escaped, the instances of the service hold one record under the id, and it is this one. And of the
names of all services one is that of the registration, up to letter case. -/
theorem registered_is_read_back (t : Thresholds) (metered : Bool) (acts : List (Timestamp × Act))
    {r : Registration} (hcheck : r.check = .ok ())
    (hlength : (Request.registering r).body.length ≤ Api.maxBodyLength) (now : Timestamp) :
    ∃ i f', Api.handle now (Request.registering r) ((start t metered).run acts).fleet =
        some (.ofData 201 i.toJson, f') ∧
      i = .ofRegistration r i.registeredAt ∧
      (∀ later request id, PercentEncodes (Text.encodeUtf8 r.serviceId.toList) id →
        request.Reads ["instances".toList, id] →
        Api.handle later request f' = some (.ofData 200 i.toJson, f')) ∧
      (∀ later request name, PercentEncodes (Text.encodeUtf8 r.serviceName.toList) name →
        request.Reads ["services".toList, name, "instances".toList] →
        ∃ found, Api.handle later request f' =
            some (.ofData 200 (Api.listJson Instance.toJson found), f') ∧
          found.filter (fun j => j.serviceId = r.serviceId) = [i]) ∧
      ∀ later request, request.Reads ["services".toList] →
        ∃ names, Api.handle later request f' =
            some (.ofData 200 (Api.listJson Json.ofText names), f') ∧
          names.countP (Text.sameFold r.serviceName) = 1 := by
  have hsound : ((start t metered).run acts).fleet.Sound := sound_run t metered acts
  generalize ((start t metered).run acts).fleet = f at hsound ⊢
  obtain ⟨i, f', hresult, hi, hcatalog⟩ := Fleet.register_of_check hcheck now f
  have hkeyed : f'.catalog.Keyed := by
    have hnext := hsound.perform now (.register r)
    rw [Fleet.perform, hresult] at hnext
    exact hnext.keyed
  have hid : i.serviceId = r.serviceId := by rw [hi, Instance.ofRegistration]
  have hname : i.serviceName = r.serviceName := by rw [hi, Instance.ofRegistration]
  have hfind : f'.catalog.find? i.serviceId = some i := by
    rw [hcatalog, Catalog.find?_put, if_pos rfl]
  have hactive : i ∈ f'.catalog.active := by
    refine List.mem_filter.mpr ⟨(Table.mem_values_iff hkeyed).mpr hfind, ?_⟩
    rw [hi]
    rfl
  have hmatches : i.matchesService r.serviceName :=
    Catalog.matchesService_iff.mpr (congrArg Text.fold hname)
  have hnamed : Text.isAllBlank r.serviceId = false := Registration.named_of_check hcheck
  refine ⟨i, f', ?_, hi, fun later request part hpart hreads => ?_,
    fun later request part hpart hreads => ⟨_, Api.handle_serviceInstances hpart hreads, ?_⟩,
    fun later request hreads => ⟨_, Api.handle_services hreads, ?_⟩⟩
  · rw [Api.handle_registering hlength, hresult]
    rfl
  · have hpartNe : part ≠ [] := hpart.ne_nil (Text.encodeUtf8_ne_nil hnamed)
    exact Api.handle_record (hid ▸ hfind) hpart hpartNe hreads
  · rw [← hid]
    exact Catalog.filter_ofService hkeyed hfind hmatches
  · rw [← hname]
    exact Catalog.countP_serviceNames hactive

/-- An id with a slash, a percent sign and an umlaut, and a name with a blank, escaped in both
cases. The instance had been there under another name, and had left. -/
theorem registered_is_read_back_escaped :
    let r : Registration := ⟨"a/%ü", "Two Words", "10.0.0.5", 8080, .http, .empty⟩
    let acts : List (Timestamp × Act) :=
      [(⟨1⟩, .call (.register ⟨"a/%ü", "metadata", "10.0.0.5", 8080, .tcp, .empty⟩)),
        (⟨2⟩, .call (.deregister "a/%ü"))]
    let record : Request := ⟨"GET", "/instances/a%2F%25%c3%BC", none, []⟩
    let service : Request := ⟨"GET", "/services/Two%20%57ords/instances", none, []⟩
    r.check = .ok () ∧ (Request.registering r).body.length ≤ Api.maxBodyLength ∧
    ∃ i f', Api.handle ⟨3⟩ (Request.registering r) ((start ⟨1, 1⟩ false).run acts).fleet =
        some (.ofData 201 i.toJson, f') ∧
      Api.handle ⟨4⟩ record f' = some (.ofData 200 i.toJson, f') ∧
      ∃ found, Api.handle ⟨4⟩ service f' =
          some (.ofData 200 (Api.listJson Instance.toJson found), f') ∧
        found.filter (fun j => j.serviceId = "a/%ü") = [i] := by
  intro r acts record service
  have hcheck : r.check = .ok () := by decide
  have hlength : (Request.registering r).body.length ≤ Api.maxBodyLength := by decide +kernel
  have hid : PercentEncodes (Text.encodeUtf8 r.serviceId.toList) "a%2F%25%c3%BC".toList := by
    have hbytes : Text.encodeUtf8 r.serviceId.toList = [0x61, 0x2f, 0x25, 0xc3, 0xbc] := by decide
    have hpart : "a%2F%25%c3%BC".toList =
      ['a', '%', '2', 'F', '%', '2', '5', '%', 'c', '3', '%', 'B', 'C'] := by decide
    rw [hbytes, hpart]
    exact .plain 'a' rfl (.escape 0x2f (.inl rfl) (.inr rfl) (.escape 0x25 (.inl rfl) (.inl rfl)
      (.escape 0xc3 (.inl rfl) (.inl rfl) (.escape 0xbc (.inr rfl) (.inr rfl) .nil))))
  have hname : PercentEncodes (Text.encodeUtf8 r.serviceName.toList) "Two%20%57ords".toList := by
    have hbytes : Text.encodeUtf8 r.serviceName.toList =
      [0x54, 0x77, 0x6f, 0x20, 0x57, 0x6f, 0x72, 0x64, 0x73] := by decide
    have hpart : "Two%20%57ords".toList =
      ['T', 'w', 'o', '%', '2', '0', '%', '5', '7', 'o', 'r', 'd', 's'] := by decide
    rw [hbytes, hpart]
    exact .plain 'T' rfl (.plain 'w' rfl (.plain 'o' rfl (.escape 0x20 (.inl rfl) (.inl rfl)
      (.escape 0x57 (.inl rfl) (.inl rfl) (.plain 'o' rfl (.plain 'r' rfl (.plain 'd' rfl
        (.plain 's' rfl .nil))))))))
  have hrecord : record.Reads ["instances".toList, "a%2F%25%c3%BC".toList] :=
    ⟨rfl, by decide, by decide⟩
  have hservice : service.Reads ["services".toList, "Two%20%57ords".toList, "instances".toList] :=
    ⟨rfl, by decide, by decide⟩
  obtain ⟨i, f', hanswer, -, hread, hfound, -⟩ :=
    registered_is_read_back ⟨1, 1⟩ false acts hcheck hlength ⟨3⟩
  exact ⟨hcheck, hlength, i, f', hanswer, hread ⟨4⟩ record _ hid hrecord,
    hfound ⟨4⟩ service _ hname hservice⟩

end Monitor

end ServiceHealth
