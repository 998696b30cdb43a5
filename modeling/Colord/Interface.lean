/-
Colord.Interface — what `cd-device.c` takes from outside itself: the D-Bus
values it reads and sends, the answers of the bus, and the two collaborators
of libcolord that are not in the tree (`cd-profile.c`, `cd-enum.c`).

* `Variant` — the `GVariant` values of the Device interface, by D-Bus type
  (`s`, `o`, `t`, `ao`), with the GLib accessors the file calls.
* `RemoteDevice` — a colord device object as a new `GDBusProxy` caches its
  properties; `RemoteDevice.get` is `g_dbus_proxy_get_cached_property`.
* `PropertiesChanged` — the payload of a `g-properties-changed` signal: the
  changed values, in message order, and the invalidated names. Every value
  has the type the interface declares for its name (`typed`); a value of
  another type makes GLib abort, so the model leaves it out.
* `MethodCall` — the four methods the file calls, each with its reply type.
* `Bus` — the answers of the bus. They are functions, so every pattern of
  success and failure is one `Bus`. A profile resolution is numbered by
  where the code asks for it: `resolve j i path` answers the `i`-th path of
  the `j`-th profile list one operation resolves, so two resolutions of one
  path may answer differently.
* `CdProfile`, `CdDeviceKind`, `CdEnum` — a bound profile as the file reads
  it (object path and id), the kind enum by its number, and the kind
  conversions of `cd-enum.c`, which every result here is stated for.
-/
import Mathlib.Data.List.Basic

namespace Colord

/-- Results of the model are compared by `decide`, so `Except` needs equality. -/
instance instDecidableEqExcept {ε α : Type} [DecidableEq ε] [DecidableEq α] :
    DecidableEq (Except ε α)
  | .ok a, .ok b => decidable_of_iff (a = b) (by simp)
  | .error a, .error b => decidable_of_iff (a = b) (by simp)
  | .ok _, .error _ => isFalse (by simp)
  | .error _, .ok _ => isFalse (by simp)

/-- A D-Bus object path, e.g. `/org/freedesktop/ColorManager/devices/xrandr_LVDS1`. -/
abbrev ObjectPath := String

/-! ## `GVariant` -/

/-- The D-Bus types of the values `cd-device.c` reads and sends. -/
inductive VariantType
  | string
  | objectPath
  | uint64
  | objectPaths
  deriving DecidableEq, Repr

/-- A `GVariant` of one of the types `cd-device.c` handles. -/
inductive Variant
  | string (s : String)
  | objectPath (p : ObjectPath)
  | uint64 (n : UInt64)
  | objectPaths (ps : List ObjectPath)
  deriving DecidableEq, Repr

namespace Variant

def type : Variant → VariantType
  | .string _ => .string
  | .objectPath _ => .objectPath
  | .uint64 _ => .uint64
  | .objectPaths _ => .objectPaths

/-- `g_variant_get_string` and `g_variant_dup_string`: the text of an `s` or
`o` value; on any other type GLib's precondition returns `NULL`. -/
def getString : Variant → Option String
  | .string s => some s
  | .objectPath p => some p
  | _ => none

/-- `g_variant_get_uint64`: `0` when the precondition on the type fails. -/
def getUint64 : Variant → UInt64
  | .uint64 n => n
  | _ => 0

/-- The object paths `g_variant_iter_init` and `g_variant_get_child (.., "o", ..)`
walk through. Only an `ao` value has children here: GLib aborts on the others,
which `PropertiesChanged.typed` and `RemoteDevice` rule out. -/
def objectPathChildren : Variant → List ObjectPath
  | .objectPaths ps => ps
  | _ => []

end Variant

/-- The type the Device interface declares for a property `cd-device.c` reads. -/
def propertyType? (name : String) : Option VariantType :=
  if name = "DeviceId" ∨ name = "Kind" ∨ name = "Model" then some .string
  else if name = "Created" then some .uint64
  else if name = "Profiles" then some .objectPaths
  else none

/-! ## The daemon's device object and its signals -/

/-- A colord device object, by the properties `cd_device_set_object_path_sync`
reads from a new proxy's cache. The daemon always exports `Profiles`; each of
the others may be missing. -/
structure RemoteDevice where
  deviceId : Option String
  kind : Option String
  model : Option String
  created : Option UInt64
  profiles : List ObjectPath
  deriving DecidableEq, Repr

/-- `g_dbus_proxy_get_cached_property` on a proxy for `r`. -/
def RemoteDevice.get (r : RemoteDevice) (name : String) : Option Variant :=
  if name = "DeviceId" then r.deviceId.map .string
  else if name = "Kind" then r.kind.map .string
  else if name = "Model" then r.model.map .string
  else if name = "Created" then r.created.map .uint64
  else if name = "Profiles" then some (.objectPaths r.profiles)
  else none

@[simp] theorem RemoteDevice.get_DeviceId (r : RemoteDevice) :
    r.get "DeviceId" = r.deviceId.map .string := rfl

@[simp] theorem RemoteDevice.get_Kind (r : RemoteDevice) : r.get "Kind" = r.kind.map .string :=
  rfl

@[simp] theorem RemoteDevice.get_Model (r : RemoteDevice) :
    r.get "Model" = r.model.map .string := rfl

@[simp] theorem RemoteDevice.get_Created (r : RemoteDevice) :
    r.get "Created" = r.created.map .uint64 := rfl

@[simp] theorem RemoteDevice.get_Profiles (r : RemoteDevice) :
    r.get "Profiles" = some (.objectPaths r.profiles) := rfl

/-- The arguments of a `g-properties-changed` signal: the changed properties
with their new values (`a{sv}`, in message order, a name possibly repeated) and
the names of properties that changed without their value being sent. -/
structure PropertiesChanged where
  changed : List (String × Variant)
  invalidated : List String
  typed : ∀ e ∈ changed, (propertyType? e.1).all (· == e.2.type) = true

/-! ## Method calls -/

/-- The Device interface's methods that `cd-device.c` calls, with their arguments. -/
inductive MethodCall
  | setProperty (name value : String)
  | addProfile (objectPath : ObjectPath)
  | makeProfileDefault (profileId : String)
  | getProfileForQualifier (qualifier : String)
  deriving DecidableEq, Repr

/-- What a successful reply carries: an object path for `GetProfileForQualifier`,
nothing the file reads for the others. -/
def MethodCall.Reply : MethodCall → Type
  | .getProfileForQualifier _ => ObjectPath
  | _ => Unit

/-! ## Collaborators -/

/-- A `GDBusProxy` for a colord object: the path it was made for and the names of
its signals that have a handler connected, in connection order. -/
structure GDBusProxy where
  objectPath : ObjectPath
  handlers : List String
  deriving DecidableEq, Repr

/-- A bound `CdProfile`, by the two things `cd-device.c` reads of it
(`cd_profile_get_object_path`, `cd_profile_get_id`). -/
structure CdProfile where
  objectPath : ObjectPath
  id : String
  deriving DecidableEq, Repr

/-- A `CdDeviceKind` of `cd-enum.h`, by its number. -/
structure CdDeviceKind where
  toNat : Nat
  deriving DecidableEq, Repr

/-- `CD_DEVICE_KIND_UNKNOWN`, the zero a new device's private data starts with. -/
def CdDeviceKind.unknown : CdDeviceKind := ⟨0⟩

/-- `cd_device_kind_from_string` and `cd_device_kind_to_string` of `cd-enum.c`.
That file is not in the tree, so the model is stated for any pair; the first
takes `NULL` too, as its C signature allows. -/
structure CdEnum where
  kindFromString : Option String → CdDeviceKind
  kindToString : CdDeviceKind → String

/-- The answers of the system bus to one operation. -/
structure Bus where
  /-- `g_dbus_proxy_new_for_bus_sync` for a device path: the object the new proxy
  caches, or the error's message. -/
  connect : ObjectPath → Except String RemoteDevice
  /-- `cd_profile_set_object_path_sync` on a new `CdProfile`, for the `i`-th path of
  the operation's `j`-th profile list: the profile's id, or the error's message. -/
  resolve : Nat → Nat → ObjectPath → Except String String
  /-- `g_dbus_proxy_call_sync`: the reply, or the error's message. -/
  call : (c : MethodCall) → Except String c.Reply

end Colord
