/-
Where an operator is asked to run: a kind of device, its number, and what else
the request fixes.
-/
import Dataflow.Json.Basic
import Dataflow.Json.Record

namespace Dataflow

open Json

inductive DeviceType
  | cpu | cuda | hip
  deriving DecidableEq, Repr

structure DeviceOption where
  deviceType : DeviceType := .cpu
  deviceId : Int32 := 0
  randomSeed : Option UInt32 := none
  nodeName : Option String := none
  deriving DecidableEq, BEq

namespace DeviceType

def name : DeviceType → String
  | cpu => "cpu"
  | cuda => "cuda"
  | hip => "hip"

def all : List DeviceType := [cpu, cuda, hip]

def ofName (s : String) : Except ReadError DeviceType :=
  match all.find? (·.name == s) with
  | some kind => .ok kind
  | none => .error (.unknownVariant s (all.map name))

/-- Reads the key that names a kind, where `ending` follows the members of the object. -/
def readKey : List (Except ReadError String × Doc) → Ending → Except ReadError DeviceType
  | [], .ended => .error .endOfObject
  | [], .badKey => .error .keyNotText
  | [], _ => .error .expectedValue
  | (key, _) :: _, _ => key >>= ofName

/-- Reads what comes after the key that names a kind: `null` and the end of the object. -/
def readNothing (room : Nat) : List (Except ReadError String × Doc) → Ending → Except ReadError Unit
  | [(_, value)], ending => do
    Reader.unit room value
    match ending with
    | .closed => .ok ()
    | .ended => .error .endOfObject
    | _ => .error .expectedValue
  | (_, value) :: _, _ => do
    Reader.unit room value
    .error .expectedValue
  | [], _ => .error .expectedValue

/-- A kind is written as its name, or as an object with the name as its only key and no value. -/
def reader : Reader DeviceType
  | _, .text s => s >>= ofName
  | room, .object members ending => inBracket room fun inner => do
    let kind ← readKey members ending
    readNothing inner members ending
    return kind
  | _, .broken fault => .error fault.glanced
  | _, _ => .error .expectedValue

def toJson (kind : DeviceType) : Json := .text kind.name

end DeviceType

def readInt32 : Reader Int32 := fun room d =>
  (Reader.integer (-2147483648) 2147483647 "i32" room d).map Int32.ofInt

def readUInt32 : Reader UInt32 := fun room d =>
  (Reader.integer 0 4294967295 "u32" room d).map fun n => .ofNat n.toNat

namespace DeviceOption

def cpu : DeviceOption := {}

def cuda (deviceId : Int32) : DeviceOption := { deviceType := .cuda, deviceId }

structure Draft where
  deviceType : Option DeviceType := none
  deviceId : Option Int32 := none
  randomSeed : Option (Option UInt32) := none
  nodeName : Option (Option String) := none

def record : Record Draft DeviceOption where
  name := "DeviceOption"
  fields := [
    .slot "device_type" false DeviceType.reader (·.deviceType)
      (fun d v => { d with deviceType := some v }),
    .slot "device_id" false readInt32 (·.deviceId) (fun d v => { d with deviceId := some v }),
    .slot "random_seed" false (Reader.option readUInt32) (·.randomSeed)
      (fun d v => { d with randomSeed := some v }),
    .slot "node_name" false (Reader.option Reader.text) (·.nodeName)
      (fun d v => { d with nodeName := some v })]
  blank := {}
  build d := .ok
    { deviceType := d.deviceType.getD .cpu
      deviceId := d.deviceId.getD 0
      randomSeed := d.randomSeed.getD none
      nodeName := d.nodeName.getD none }

def reader : Reader DeviceOption := record.reader

def toJson (d : DeviceOption) : Json :=
  .object <|
    [("device_type", d.deviceType.toJson), ("device_id", .ofInt d.deviceId.toInt)] ++
    (d.randomSeed.map fun seed => ("random_seed", Json.ofNat seed.toNat)).toList ++
    (d.nodeName.map fun name => ("node_name", Json.text name)).toList

end DeviceOption

end Dataflow
