/-
  DeviceMail — the clients of a hub.

  * `Client` is what a hub authenticates: a device, or a module on a device;
  * `Endpoint` is a client together with the hub that it talks to.

  Both have a path (`path`), which joins the ids by slashes, and a JSON form
  (`json`), in which the two kinds of client cannot be taken for each other.
-/
import DeviceMail.Json.Basic
import DeviceMail.Text.Dump

namespace DeviceMail

/-! ## Clients -/

/-- A client that a hub authenticates. -/
inductive Client where
  /-- A device itself. -/
  | device (deviceId : String)
  /-- A module that runs on a device. -/
  | onDevice (deviceId moduleId : String)
  deriving DecidableEq, Repr

namespace Client

/-- The device, or the device on which a module runs. -/
def deviceId : Client → String
  | .device deviceId | .onDevice deviceId _ => deviceId

/-- The module, if the client is one. -/
def moduleId : Client → Option String
  | .device _ => none
  | .onDevice _ moduleId => some moduleId

/-- The device id, and for a module a slash and the module id. -/
def path : Client → String
  | .device deviceId => deviceId
  | .onDevice deviceId moduleId => deviceId ++ "/" ++ moduleId

/-- An object with the kind of the client and its ids. -/
def json : Client → Json
  | .device deviceId => .object [("kind", .string "device"), ("device_id", .string deviceId)]
  | .onDevice deviceId moduleId =>
    .object [("kind", .string "module"), ("device_id", .string deviceId),
      ("module_id", .string moduleId)]

/-- The structure of a client. -/
def dump : Client → Dump
  | .device deviceId => .record "Device" [("device_id", .string deviceId)]
  | .onDevice deviceId moduleId =>
    .record "Module" [("device_id", .string deviceId), ("module_id", .string moduleId)]

end Client

/-! ## Endpoints -/

/-- A client at a hub.  Several clients may share a connection, and each message
    then says who sends it. -/
structure Endpoint where
  hostname : String
  client : Client
  deriving DecidableEq, Repr

namespace Endpoint

/-- The host name and the path of the client on it. -/
def path (endpoint : Endpoint) : String :=
  endpoint.hostname ++ "/devices/" ++ endpoint.client.path

/-- An object with the host name and the client. -/
def json (endpoint : Endpoint) : Json :=
  .object [("hostname", .string endpoint.hostname), ("client_id", endpoint.client.json)]

/-- The structure of an endpoint. -/
def dump (endpoint : Endpoint) : Dump :=
  .record "HubEndpoint"
    [("hostname", .string endpoint.hostname), ("client_id", endpoint.client.dump)]

end Endpoint

end DeviceMail
