import Ika.Cvd.PersistentData
import Ika.Foundation.Protobuf

/-! The wire format, for data without unknown fields. -/

set_option autoImplicit false

namespace Ika.Cvd.WireFormat

open Protobuf Option List

def instanceFields (instanceProto : Instance) : List Field :=
  numberField 1 instanceProto.id.toNat ++ textField 2 instanceProto.name ++
    numberField 3 instanceProto.state.number.toInt64.toUInt64.toNat ++
    textField 5 instanceProto.webrtcDeviceId

def serializeInstance (instanceProto : Instance) : List UInt8 :=
  write (instanceFields instanceProto)

def groupFields (group : InstanceGroup) : List Field :=
  textField 1 group.name ++ textField 2 group.homeDirectory ++
    textField 3 group.hostArtifactsPath ++ textField 4 group.productOutPath ++
    numberField 5 group.startTimeSec.toUInt64.toNat ++
    messageFields 6 serializeInstance group.instances

def serializeGroup (group : InstanceGroup) : List UInt8 := write (groupFields group)

def dataFields (data : PersistentData) : List Field :=
  messageFields 1 serializeGroup data.instanceGroups

def maxMessageSize : Nat := 2147483647

def Known (data : PersistentData) : Prop :=
  data.unknownFields = [] ∧ ∀ group ∈ data.instanceGroups,
    group.unknownFields = [] ∧ ∀ item ∈ group.instances, item.unknownFields = []
  deriving Decidable

def serializeToString (data : PersistentData) : Option (List UInt8) :=
  if Known data ∧ (write (dataFields data)).length ≤ maxMessageSize then
    some (write (dataFields data))
  else none

def mergeInstance (instanceProto : Instance) (field : Field) : Option Instance :=
  match field with
  | ⟨1, .varint number⟩ => some {instanceProto with id := UInt32.ofNat number}
  | ⟨2, .delimited stored⟩ =>
    (readText stored).map fun text => {instanceProto with name := text}
  | ⟨3, .varint number⟩ =>
    some {instanceProto with state := ⟨(UInt64.ofNat number).toInt64.toInt32⟩}
  | ⟨5, .delimited stored⟩ =>
    (readText stored).map fun text => {instanceProto with webrtcDeviceId := text}
  | _ => none

def parseInstance (stored : List UInt8) : Option Instance := readMessage mergeInstance {} stored

def addInstance (group : InstanceGroup) (item : Instance) : InstanceGroup :=
  {group with instances := group.instances ++ [item]}

def mergeGroup (group : InstanceGroup) (field : Field) : Option InstanceGroup :=
  match field with
  | ⟨1, .delimited stored⟩ => (readText stored).map fun text => {group with name := text}
  | ⟨2, .delimited stored⟩ =>
    (readText stored).map fun text => {group with homeDirectory := text}
  | ⟨3, .delimited stored⟩ =>
    (readText stored).map fun text => {group with hostArtifactsPath := text}
  | ⟨4, .delimited stored⟩ =>
    (readText stored).map fun text => {group with productOutPath := text}
  | ⟨5, .varint number⟩ => some {group with startTimeSec := (UInt64.ofNat number).toInt64}
  | ⟨6, .delimited stored⟩ => (parseInstance stored).map (addInstance group)
  | _ => none

def parseGroup (stored : List UInt8) : Option InstanceGroup := readMessage mergeGroup {} stored

def mergeData (data : PersistentData) (field : Field) : Option PersistentData :=
  match field with
  | ⟨1, .delimited stored⟩ => (parseGroup stored).map data.add
  | _ => none

def parseFromString (stored : List UInt8) : Option PersistentData :=
  if stored.length ≤ maxMessageSize then readMessage mergeData {} stored else none

theorem parse_serializeInstance {instanceProto : Instance}
    (known : instanceProto.unknownFields = [])
    (bound : (serializeInstance instanceProto).length < 2 ^ 64) :
    parseInstance (serializeInstance instanceProto) = some instanceProto := by
  obtain ⟨id, name, ⟨state⟩, webrtcDeviceId, _⟩ := instanceProto
  subst known
  apply readMessage_write _ bound
  · have number : mergeInstance {} ⟨1, .varint id.toNat⟩ = some {id := id} := by
      simp [mergeInstance]
    have text : mergeInstance {id := id} ⟨2, .delimited name.toUTF8.data.toList⟩ =
        some {id := id, name := name} := by
      simp only [mergeInstance, readText_toUTF8, map_some]
    have kind : mergeInstance {id := id, name := name}
        ⟨3, .varint state.toInt64.toUInt64.toNat⟩ =
          some {id := id, name := name, state := ⟨state⟩} := by
      simp [mergeInstance]
    have device : mergeInstance {id := id, name := name, state := ⟨state⟩}
        ⟨5, .delimited webrtcDeviceId.toUTF8.data.toList⟩ =
          some ⟨id, name, ⟨state⟩, webrtcDeviceId, []⟩ := by
      simp only [mergeInstance, readText_toUTF8, map_some]
    refine merge_append (merge_append (merge_append (merge_numberField ?_ number)
      (merge_textField ?_ text)) (merge_numberField ?_ kind)) (merge_textField ?_ device)
    · intro zero
      rw [show id = 0 from UInt32.toNat_inj.mp zero]
    · rintro rfl
      rfl
    · intro zero
      have same : state.toInt64.toUInt64 = 0 := UInt64.toNat_inj.mp zero
      rw [← state.toInt32_toInt64, ← state.toInt64.toInt64_toUInt64, same]
      rfl
    · rintro rfl
      rfl
  · have small : id.toNat < 2 ^ 64 := by
      have := id.toNat_lt
      omega
    simp only [instanceFields, forall_mem_append]
    exact ⟨⟨⟨plain_numberField (by omega) small, plain_textField (by omega) name⟩,
      plain_numberField (by omega) state.toInt64.toUInt64.toNat_lt⟩,
      plain_textField (by omega) webrtcDeviceId⟩

theorem foldl_addInstance (group : InstanceGroup) (items : List Instance) :
    items.foldl addInstance group = {group with instances := group.instances ++ items} := by
  induction items generalizing group with
  | nil => simp
  | cons item rest ih => simp [ih, addInstance]

theorem foldl_add (data : PersistentData) (groups : List InstanceGroup) :
    groups.foldl PersistentData.add data =
      {data with instanceGroups := data.instanceGroups ++ groups} := by
  induction groups generalizing data with
  | nil => simp
  | cons group rest ih => simp [ih, PersistentData.add]

theorem parse_serializeGroup {group : InstanceGroup} (known : group.unknownFields = [])
    (items : ∀ item ∈ group.instances, item.unknownFields = [])
    (bound : (serializeGroup group).length < 2 ^ 64) :
    parseGroup (serializeGroup group) = some group := by
  obtain ⟨name, home, host, product, start, instances, _⟩ := group
  subst known
  -- what an instance takes is part of what the group takes
  have inner : ∀ item ∈ instances, parseInstance (serializeInstance item) = some item := by
    intro item mem
    apply parse_serializeInstance (items item mem)
    apply Nat.lt_of_le_of_lt _ bound
    apply length_le_write
    exact mem_append_right _ (List.mem_map.mpr ⟨item, mem, rfl⟩)
  apply readMessage_write _ bound
  · have first : mergeGroup {} ⟨1, .delimited name.toUTF8.data.toList⟩ = some {name := name} := by
      simp only [mergeGroup, readText_toUTF8, map_some]
    have second : mergeGroup {name := name} ⟨2, .delimited home.toUTF8.data.toList⟩ =
        some {name := name, homeDirectory := home} := by
      simp only [mergeGroup, readText_toUTF8, map_some]
    have third : mergeGroup {name := name, homeDirectory := home}
        ⟨3, .delimited host.toUTF8.data.toList⟩ =
          some {name := name, homeDirectory := home, hostArtifactsPath := host} := by
      simp only [mergeGroup, readText_toUTF8, map_some]
    have fourth : mergeGroup {name := name, homeDirectory := home, hostArtifactsPath := host}
        ⟨4, .delimited product.toUTF8.data.toList⟩ =
          some ⟨name, home, host, product, 0, [], []⟩ := by
      simp only [mergeGroup, readText_toUTF8, map_some]
    have fifth : mergeGroup ⟨name, home, host, product, 0, [], []⟩
        ⟨5, .varint start.toUInt64.toNat⟩ =
          some ⟨name, home, host, product, start, [], []⟩ := by
      simp [mergeGroup]
    have last : (messageFields 6 serializeInstance instances).foldlM mergeGroup
        ⟨name, home, host, product, start, [], []⟩ =
          some ⟨name, home, host, product, start, instances, []⟩ := by
      rw [merge_messageFields instances _ fun message item mem =>
        (congrArg (Option.map (addInstance message)) (inner item mem)), foldl_addInstance]
      rfl
    refine merge_append (merge_append (merge_append (merge_append (merge_append
      (merge_textField ?_ first) (merge_textField ?_ second)) (merge_textField ?_ third))
        (merge_textField ?_ fourth)) (merge_numberField ?_ fifth)) last
    · rintro rfl
      rfl
    · rintro rfl
      rfl
    · rintro rfl
      rfl
    · rintro rfl
      rfl
    · intro zero
      have same : start.toUInt64 = 0 := UInt64.toNat_inj.mp zero
      rw [← start.toInt64_toUInt64, same]
      rfl
  · simp only [groupFields, forall_mem_append]
    exact ⟨⟨⟨⟨⟨plain_textField (by omega) name, plain_textField (by omega) home⟩,
      plain_textField (by omega) host⟩, plain_textField (by omega) product⟩,
      plain_numberField (by omega) start.toUInt64.toNat_lt⟩,
      plain_messageFields (by omega) _ instances⟩

theorem parse_serialize {data : PersistentData} {stored : List UInt8}
    (written : serializeToString data = some stored) : parseFromString stored = some data := by
  unfold serializeToString at written
  split at written
  · rename_i fits
    cases written
    obtain ⟨⟨known, kept⟩, bound⟩ := fits
    obtain ⟨groups, _⟩ := data
    subst known
    have small : (write (dataFields ⟨groups, []⟩)).length < 2 ^ 64 := by
      simp only [maxMessageSize] at bound
      omega
    have inner : ∀ group ∈ groups, parseGroup (serializeGroup group) = some group := by
      intro group mem
      apply parse_serializeGroup (kept group mem).1 (kept group mem).2
      apply Nat.lt_of_le_of_lt _ small
      apply length_le_write
      exact List.mem_map.mpr ⟨group, mem, rfl⟩
    rw [parseFromString, if_pos bound]
    apply readMessage_write (plain_messageFields (by omega) _ groups) small
    have merged := merge_messageFields groups {} fun (data : PersistentData) group mem =>
      show mergeData data ⟨1, .delimited (serializeGroup group)⟩ = some (data.add group) from
        congrArg (Option.map data.add) (inner group mem)
    rw [foldl_add] at merged
    exact merged
  · cases written

end Ika.Cvd.WireFormat

namespace Ika.Cvd

def wireFormat : Format :=
  ⟨WireFormat.parseFromString, WireFormat.serializeToString, WireFormat.parse_serialize, rfl⟩

end Ika.Cvd
