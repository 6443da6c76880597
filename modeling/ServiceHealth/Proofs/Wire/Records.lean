import ServiceHealth.Proofs.Time.Stamp
import ServiceHealth.Proofs.Wire.Metadata
import ServiceHealth.Wire.Health

/-!
# Records, read back

A record may be written if its timestamps lie before the year 10000 and its counts are words of
sixty-four bits. What a decoder returns may be written, and what is written is decoded again.
-/
namespace ServiceHealth

open Json (Faithful faithful_text faithful_uint16 faithful_uint32 faithful_uint64 faithful_count
  faithful_variant)

theorem Wire.faithful_timestamp : Faithful timestamp ofTimestamp Timestamp.Writable where
  sound v t h := by
    unfold timestamp at h
    split at h
    · split at h
      · rename_i found hfound
        obtain rfl := Except.ok.inj h
        exact Timestamp.writable_of_ofText? hfound
      · contradiction
    · exact absurd h Json.wrongType_ne_ok
  plain t _ := .text t.text
  returns t ht := by
    simp only [ofTimestamp, Json.ofText, timestamp, Timestamp.ofText?_text ht]

theorem Wire.faithful_lastTime : Faithful timestamp.nullable (Json.ofOption ofTimestamp)
    fun o => ∀ t ∈ o, t.Writable :=
  faithful_timestamp.nullable fun _ => Json.noConfusion

theorem Wire.faithful_lastMessage : Faithful Json.Decoder.text.nullable (Json.ofOption Json.ofText)
    fun _ => True :=
  (faithful_text.nullable fun _ => Json.noConfusion).congr (by simp)

theorem Probe.Protocol.faithful : Faithful decoder toJson fun _ => True :=
  faithful_variant fun p => by cases p <;> rfl

theorem Probe.Protocol.faithful_nullable : Faithful decoder.nullable (Json.ofOption toJson)
    fun _ => True :=
  (faithful.nullable fun _ => Json.noConfusion).congr (by simp)

theorem Status.faithful : Faithful decoder toJson fun _ => True :=
  faithful_variant fun s => by cases s <;> rfl

/-- All times in a record lie before the year 10000. -/
structure Instance.Writable (i : Instance) : Prop where
  registered : i.registeredAt.Writable
  left : ∀ t ∈ i.deregisteredAt, t.Writable

/-- The last probe was before the year 10000. -/
def Standing.Writable (s : Standing) : Prop := ∀ t ∈ s.lastProbeAt, t.Writable

def Report.Writable (r : Report) : Prop := ∀ t ∈ r.lastProbe, t.Writable

/-- The count is a word of sixty-four bits. -/
def KeySummary.Writable (s : KeySummary) : Prop := s.instanceCount < Nat.pow 2 64

/-- Counts are words of sixty-four bits, and the summary was made before the year 10000. -/
structure MetadataSummary.Writable (s : MetadataSummary) : Prop where
  count : s.instanceCount < Nat.pow 2 64
  generated : s.generatedAt.Writable
  keys : ∀ k ∈ s.keys, k.Writable

theorem Registration.faithful : Faithful decoder toJson fun _ => True := by
  refine Json.Record.faithful _ (by decide) (fun _ => rfl) (fun r _ => ?_) (fun r _ => ?_)
    (fun _ _ _ => trivial) _
  · simp only [List.forall_mem_cons]
    exact ⟨.text _, .text _, .text _, faithful_uint16.plain _ trivial, .text _,
      Metadata.faithful.plain _ trivial, by simp⟩
  · show fields.Takes _ (fields.make r.serviceId r.serviceName r.address r.port r.protocol
      r.metadata)
    refine .seq ?_ (Metadata.faithful.takes_field trivial rfl)
    refine .seq ?_ (Probe.Protocol.faithful.takes_field trivial rfl)
    refine .seq ?_ (faithful_uint16.takes_field trivial rfl)
    refine .seq ?_ (faithful_text.takes_field trivial rfl)
    refine .seq ?_ (faithful_text.takes_field trivial rfl)
    exact .map (faithful_text.takes_field trivial rfl) fields.make

theorem Instance.ensures_fields : fields.Ensures Writable := by
  refine .keep ?_ (Wire.faithful_lastTime.ensures_field fun o ho => ?_)
  · refine .keep ?_ (Wire.faithful_timestamp.ensures_field fun t ht => ?_)
    · iterate 5 refine .skip ?_
      exact Json.Record.ensures_map fun _ _ _ _ _ _ t ht o ho => ⟨ht, ho⟩
    · contradiction
  · obtain rfl := Except.ok.inj ho
    simp

theorem Instance.faithful : Faithful decoder toJson Writable := by
  refine Json.Record.faithful _ (by decide) (fun _ => rfl) (fun i hi => ?_) (fun i hi => ?_)
    ensures_fields _
  · simp only [List.forall_mem_cons]
    exact ⟨.text _, .text _, .text _, faithful_uint16.plain _ trivial, .text _,
      Metadata.faithful.plain _ trivial, .text _, Wire.faithful_lastTime.plain _ hi.left, by simp⟩
  · show fields.Takes _ (fields.make i.serviceId i.serviceName i.address i.port i.protocol
      i.metadata i.registeredAt i.deregisteredAt)
    refine .seq ?_ (Wire.faithful_lastTime.takes_field hi.left rfl)
    refine .seq ?_ (Wire.faithful_timestamp.takes_field hi.registered rfl)
    refine .seq ?_ (Metadata.faithful.takes_field trivial rfl)
    refine .seq ?_ (Probe.Protocol.faithful.takes_field trivial rfl)
    refine .seq ?_ (faithful_uint16.takes_field trivial rfl)
    refine .seq ?_ (faithful_text.takes_field trivial rfl)
    refine .seq ?_ (faithful_text.takes_field trivial rfl)
    exact .map (faithful_text.takes_field trivial rfl) fields.make

theorem Standing.ensures_fields : fields.Ensures Writable := by
  iterate 2 refine .skip ?_
  refine .keep ?_ (Wire.faithful_lastTime.ensures_field fun o ho => ?_)
  · iterate 2 refine .skip ?_
    exact Json.Record.ensures_map fun _ _ _ o ho _ _ => ho
  · obtain rfl := Except.ok.inj ho
    simp

theorem Standing.faithful : Faithful decoder toJson Writable := by
  refine Json.Record.faithful _ (by decide) (fun _ => rfl) (fun s hs => ?_) (fun s hs => ?_)
    ensures_fields _
  · simp only [List.forall_mem_cons]
    exact ⟨.text _, faithful_uint32.plain _ trivial, faithful_uint32.plain _ trivial,
      Wire.faithful_lastTime.plain _ hs, Probe.Protocol.faithful_nullable.plain _ trivial,
      Wire.faithful_lastMessage.plain _ trivial, by simp⟩
  · show fields.Takes _ (fields.make s.status s.failures s.successes s.lastProbeAt s.lastProbeType
      s.lastMessage)
    refine .seq ?_ (Wire.faithful_lastMessage.takes_field trivial rfl)
    refine .seq ?_ (Probe.Protocol.faithful_nullable.takes_field trivial rfl)
    refine .seq ?_ (Wire.faithful_lastTime.takes_field hs rfl)
    refine .seq ?_ (faithful_uint32.takes_field trivial rfl)
    refine .seq ?_ (faithful_uint32.takes_field trivial rfl)
    exact .map (Status.faithful.takes_field trivial rfl) fields.make

theorem Report.ensures_fields : fields.Ensures Writable := by
  iterate 6 refine .skip ?_
  refine .keep ?_ (Wire.faithful_lastTime.ensures_field fun o ho => ?_)
  · iterate 4 refine .skip ?_
    exact Json.Record.ensures_map fun _ _ _ _ _ o ho _ _ _ _ _ _ => ho
  · obtain rfl := Except.ok.inj ho
    simp

theorem Report.faithful_latency :
    Faithful Json.Decoder.uint64.nullable (Json.ofOption fun n => .ofNat n.toNat)
      fun _ => True :=
  (faithful_uint64.nullable fun _ => Json.noConfusion).congr (by simp)

theorem Report.faithful : Faithful decoder toJson Writable := by
  refine Json.Record.faithful _ (by decide) (fun _ => rfl) (fun r hr => ?_) (fun r hr => ?_)
    ensures_fields _
  · simp only [List.forall_mem_cons]
    exact ⟨.text _, .text _, .text _, faithful_uint16.plain _ trivial, .text _,
      Wire.faithful_lastTime.plain _ hr, Probe.Protocol.faithful_nullable.plain _ trivial,
      Wire.faithful_lastMessage.plain _ trivial, Metadata.faithful.plain _ trivial,
      faithful_uint32.plain _ trivial, faithful_uint32.plain _ trivial,
      faithful_latency.plain _ trivial, by simp⟩
  · show fields.Takes _ (fields.make r.serviceId r.serviceName r.address r.port r.status
      r.lastProbe r.lastProbeType r.message r.metadata r.failures r.successes r.latencyMs)
    refine .seq ?_ (faithful_latency.takes_field trivial rfl)
    refine .seq ?_ (faithful_uint32.takes_field trivial rfl)
    refine .seq ?_ (faithful_uint32.takes_field trivial rfl)
    refine .seq ?_ (Metadata.faithful.takes_field trivial rfl)
    refine .seq ?_ (Wire.faithful_lastMessage.takes_field trivial rfl)
    refine .seq ?_ (Probe.Protocol.faithful_nullable.takes_field trivial rfl)
    refine .seq ?_ (Wire.faithful_lastTime.takes_field hr rfl)
    refine .seq ?_ (Status.faithful.takes_field trivial rfl)
    refine .seq ?_ (faithful_uint16.takes_field trivial rfl)
    refine .seq ?_ (faithful_text.takes_field trivial rfl)
    refine .seq ?_ (faithful_text.takes_field trivial rfl)
    exact .map (faithful_text.takes_field trivial rfl) fields.make

theorem KeySummary.ensures_fields : fields.Ensures Writable := by
  refine .skip ?_
  refine .keep ?_ (faithful_count.ensures_field fun n hn => ?_)
  · exact Json.Record.ensures_map fun _ n hn _ => hn
  · contradiction

theorem KeySummary.faithful : Faithful decoder toJson Writable := by
  refine Json.Record.faithful _ (by decide) (fun _ => rfl) (fun s hs => ?_) (fun s hs => ?_)
    ensures_fields _
  · simp only [List.forall_mem_cons]
    exact ⟨.text _, .number hs, faithful_text.list.plain _ (by simp), by simp⟩
  · show fields.Takes _ (fields.make s.key s.instanceCount s.values)
    refine .seq ?_ (faithful_text.list.takes_field (by simp) rfl)
    refine .seq ?_ (faithful_count.takes_field hs rfl)
    exact .map (faithful_text.takes_field trivial rfl) fields.make

theorem MetadataSummary.ensures_fields : fields.Ensures Writable := by
  refine .keep ?_ (KeySummary.faithful.list.ensures_field fun l hl => ?_)
  · refine .keep ?_ (Wire.faithful_timestamp.ensures_field fun t ht => ?_)
    · refine .keep ?_ (faithful_count.ensures_field fun n hn => ?_)
      · exact Json.Record.ensures_map fun _ n hn t ht l hl => ⟨hn, ht, hl⟩
      · contradiction
    · contradiction
  · contradiction

theorem MetadataSummary.faithful : Faithful decoder toJson Writable := by
  refine Json.Record.faithful _ (by decide) (fun _ => rfl) (fun s hs => ?_) (fun s hs => ?_)
    ensures_fields _
  · simp only [List.forall_mem_cons]
    exact ⟨.text _, .number hs.count, .text _, KeySummary.faithful.list.plain _ hs.keys, by simp⟩
  · show fields.Takes _ (fields.make s.serviceName s.instanceCount s.generatedAt s.keys)
    refine .seq ?_ (KeySummary.faithful.list.takes_field hs.keys rfl)
    refine .seq ?_ (Wire.faithful_timestamp.takes_field hs.generated rfl)
    refine .seq ?_ (faithful_count.takes_field hs.count rfl)
    exact .map (faithful_text.takes_field trivial rfl) fields.make

end ServiceHealth
