import Mathlib.Data.List.Basic

/-! The data of the instance database, and what is known of its bytes in the backing file.

A file that holds what was serialized is parsed to the same data; an empty file is
an empty database.
-/

set_option autoImplicit false

namespace Ika.Cvd

/-- An open enumeration, which keeps the numbers it has no name for. -/
structure InstanceState where
  number : Int32
deriving DecidableEq

namespace InstanceState

def unspecified : InstanceState := ⟨0⟩
def running : InstanceState := ⟨3⟩
def stopped : InstanceState := ⟨5⟩

end InstanceState

structure Instance where
  id : UInt32 := 0
  name : String := ""
  state : InstanceState := .unspecified
  webrtcDeviceId : String := ""
  unknownFields : List UInt8 := []
deriving DecidableEq

structure InstanceGroup where
  name : String := ""
  homeDirectory : String := ""
  hostArtifactsPath : String := ""
  productOutPath : String := ""
  startTimeSec : Int64 := 0
  instances : List Instance := []
  unknownFields : List UInt8 := []
deriving DecidableEq

structure PersistentData where
  instanceGroups : List InstanceGroup := []
  unknownFields : List UInt8 := []
deriving DecidableEq

def PersistentData.add (data : PersistentData) (group : InstanceGroup) : PersistentData :=
  {data with instanceGroups := data.instanceGroups ++ [group]}

/-- What protobuf and the code generated for these messages do. -/
structure Format where
  parseFromString : List UInt8 → Option PersistentData
  serializeToString : PersistentData → Option (List UInt8)
  parse_serialize : ∀ {data stored}, serializeToString data = some stored →
    parseFromString stored = some data
  parse_nil : parseFromString [] = some {}

end Ika.Cvd
