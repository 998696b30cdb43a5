/-
Colord.Device — `cd-device.c`, function by function.

`CdDevice` is `CdDevicePrivate`. Each function takes the private data it reads
and returns the data it leaves, with what the C function returns:

* `Outcome` — a `gboolean` and its `GError`: `.ok ()` is `TRUE`,
  `.error (some msg)` is `FALSE` with `msg` set, `.error none` is `FALSE` from
  a `g_return_val_if_fail`, which sets no error.
* the calls on the device's proxy, for the four functions that make one.

Two loops of the file are structural recursions here:
`setProfilesArrayLoop` (the `for` of `cd_device_set_profiles_array_from_variant`)
and `propertiesChangedLoop` (the `for` of `cd_device_dbus_properties_changed`),
each with the C loop index as an argument.

The getters (`cd_device_get_id`, ...) are the fields; `cd_device_to_string` is in
`Colord.Time`, with the libc functions it calls.
-/
import Colord.Interface

namespace Colord

/-- `CdDevicePrivate`. -/
structure CdDevice where
  proxy : Option GDBusProxy
  objectPath : Option ObjectPath
  id : Option String
  model : Option String
  created : UInt64
  profiles : List CdProfile
  kind : CdDeviceKind
  deriving DecidableEq, Repr

/-- A `gboolean` with its `GError`, as the file's functions return them. -/
abbrev Outcome := Except (Option String) Unit

/-- A write through `g_object_set` of one of the properties `cd_device_class_init`
installs. The param specs bound `kind` by `CD_DEVICE_KIND_LAST`; the model takes
any kind. -/
inductive Property
  | created (value : UInt64)
  | id (value : Option String)
  | model (value : Option String)
  | kind (value : CdDeviceKind)

namespace CdDevice

/-- `cd_device_init` on the zeroed private data: only the profile array is made. -/
def init : CdDevice where
  proxy := none
  objectPath := none
  id := none
  model := none
  created := 0
  profiles := []
  kind := .unknown

/-- A handler for the proxy signal `signal` is connected. -/
def listens (device : CdDevice) (signal : String) : Bool :=
  device.proxy.any (signal ∈ ·.handlers)

/-! ## Profiles -/

/-- The loop of `cd_device_set_profiles_array_from_variant`, from path `i` on:
resolve each path, append its profile to `acc`, stop at the first failure. -/
def setProfilesArrayLoop (resolve : Nat → ObjectPath → Except String String) :
    Nat → List ObjectPath → List CdProfile → List CdProfile × Except String Unit
  | _, [], acc => (acc, .ok ())
  | i, p :: ps, acc =>
    match resolve i p with
    | .error msg => (acc, .error ("Failed to set profile object path: " ++ msg))
    | .ok id => setProfilesArrayLoop resolve (i + 1) ps (acc ++ [⟨p, id⟩])

/-- `cd_device_set_profiles_array_from_variant`: empty the array, then run the loop
over the paths of `profiles`. -/
def setProfilesArrayFromVariant (resolve : Nat → ObjectPath → Except String String)
    (device : CdDevice) (profiles : Variant) : CdDevice × Except String Unit :=
  let (list, ret) := setProfilesArrayLoop resolve 0 profiles.objectPathChildren []
  ({ device with profiles := list }, ret)

/-! ## Signals -/

/-- One pass of `cd_device_dbus_properties_changed`'s loop, on its `j`-th entry.
The result of a profile update is dropped, as the C code drops it. -/
def propertyChanged (enum : CdEnum) (resolve : Nat → Nat → ObjectPath → Except String String)
    (j : Nat) (device : CdDevice) (name : String) (value : Variant) : CdDevice :=
  if name = "Model" then { device with model := value.getString }
  else if name = "Kind" then { device with kind := enum.kindFromString value.getString }
  else if name = "Profiles" then (device.setProfilesArrayFromVariant (resolve j) value).1
  else device

/-- The loop of `cd_device_dbus_properties_changed`, from entry `j` on. -/
def propertiesChangedLoop (enum : CdEnum)
    (resolve : Nat → Nat → ObjectPath → Except String String) :
    Nat → List (String × Variant) → CdDevice → CdDevice
  | _, [], device => device
  | j, (name, value) :: rest, device =>
    propertiesChangedLoop enum resolve (j + 1) rest
      (propertyChanged enum resolve j device name value)

/-- `cd_device_dbus_properties_changed`. The invalidated names are not read. -/
def dbusPropertiesChanged (enum : CdEnum)
    (resolve : Nat → Nat → ObjectPath → Except String String)
    (device : CdDevice) (m : PropertiesChanged) : CdDevice :=
  propertiesChangedLoop enum resolve 0 m.changed device

/-- `cd_device_dbus_signal_cb`: whether the signal makes the device emit
`changed`. Only `Changed` does; any other is warned about. -/
def dbusSignalCb (signalName : String) : Bool :=
  signalName == "Changed"

/-! ## Binding -/

/-- The reads of `DeviceId`, `Kind`, `Model` and `Created` in
`cd_device_set_object_path_sync`: each property in the proxy's cache sets its field. -/
def readCachedProperties (enum : CdEnum) (remote : RemoteDevice) (device : CdDevice) :
    CdDevice :=
  let device := (remote.get "DeviceId").elim device fun v => { device with id := v.getString }
  let device := (remote.get "Kind").elim device
    fun v => { device with kind := enum.kindFromString v.getString }
  let device := (remote.get "Model").elim device fun v => { device with model := v.getString }
  (remote.get "Created").elim device fun v => { device with created := v.getUint64 }

/-- `cd_device_set_object_path_sync`. -/
def setObjectPathSync (enum : CdEnum) (bus : Bus) (device : CdDevice)
    (objectPath : ObjectPath) : CdDevice × Outcome :=
  if device.proxy.isSome then (device, .error none) else
  match bus.connect objectPath with
  | .error msg =>
    (device, .error (some ("Failed to connect to device " ++ objectPath ++ ": " ++ msg)))
  | .ok remote =>
    let device := readCachedProperties enum remote
      { device with proxy := some ⟨objectPath, []⟩, objectPath := some objectPath }
    match device.setProfilesArrayFromVariant (bus.resolve 0)
        ((remote.get "Profiles").getD (.objectPaths [])) with
    | (device, .error msg) => (device, .error (some msg))
    | (device, .ok ()) =>
      ({ device with proxy := some ⟨objectPath, ["g-signal", "g-properties-changed"]⟩ }, .ok ())

/-! ## Method calls -/

/-- `g_dbus_proxy_call_sync` for a method whose reply is not read: the call sent,
and on failure `FALSE` with `failure` and the bus's message. -/
def callSync (bus : Bus) (c : MethodCall) (failure : String) : List MethodCall × Outcome :=
  ([c], match bus.call c with
    | .error msg => .error (some (failure ++ msg))
    | .ok _ => .ok ())

/-- `g_return_val_if_fail (device->priv->proxy != NULL, FALSE)` in front of a call. -/
def requireProxy (device : CdDevice) (call : List MethodCall × Outcome) :
    List MethodCall × Outcome :=
  if device.proxy.isSome then call else ([], .error none)

/-- `cd_device_set_property_sync`. Its failure text names profile object paths,
as the C code has it. -/
def setPropertySync (bus : Bus) (name value : String) : List MethodCall × Outcome :=
  callSync bus (.setProperty name value) "Failed to set profile object path: "

/-- `cd_device_set_model_sync`. -/
def setModelSync (bus : Bus) (device : CdDevice) (value : String) :
    List MethodCall × Outcome :=
  device.requireProxy (setPropertySync bus "Model" value)

/-- `cd_device_set_kind_sync`. -/
def setKindSync (enum : CdEnum) (bus : Bus) (device : CdDevice) (kind : CdDeviceKind) :
    List MethodCall × Outcome :=
  device.requireProxy (setPropertySync bus "Kind" (enum.kindToString kind))

/-- `cd_device_add_profile_sync`. -/
def addProfileSync (bus : Bus) (device : CdDevice) (profile : CdProfile) :
    List MethodCall × Outcome :=
  device.requireProxy
    (callSync bus (.addProfile profile.objectPath) "Failed to add profile to device: ")

/-- `cd_device_make_profile_default_sync`. -/
def makeProfileDefaultSync (bus : Bus) (device : CdDevice) (profile : CdProfile) :
    List MethodCall × Outcome :=
  device.requireProxy (callSync bus (.makeProfileDefault profile.id)
    "Failed to make profile default on device: ")

/-- `cd_device_get_profile_for_qualifier_sync`: a new profile bound to the path the
daemon answers, or `NULL` with the error. -/
def getProfileForQualifierSync (bus : Bus) (device : CdDevice) (qualifier : String) :
    List MethodCall × Except (Option String) CdProfile :=
  if device.proxy.isNone then ([], .error none) else
  ([.getProfileForQualifier qualifier],
    match bus.call (.getProfileForQualifier qualifier) with
    | .error msg => .error (some ("Failed to get a suitable profile: " ++ msg))
    | .ok path =>
      match bus.resolve 0 0 path with
      | .error msg => .error (some msg)
      | .ok id => .ok ⟨path, id⟩)

/-! ## GObject properties -/

/-- `cd_device_set_property`. -/
def setProperty (device : CdDevice) : Property → CdDevice
  | .id value => { device with id := value }
  | .model value => { device with model := value }
  | .created value => { device with created := value }
  | .kind value => { device with kind := value }

/-! ## Equations

What each function does to the fields, so that later proofs never unfold them. -/

/-- The fields binding fixes: the proxy, the object path, the id and the created time. -/
def identity (device : CdDevice) :
    Option GDBusProxy × Option ObjectPath × Option String × UInt64 :=
  (device.proxy, device.objectPath, device.id, device.created)

variable (enum : CdEnum) (resolve : Nat → Nat → ObjectPath → Except String String)
  (j : Nat) (device : CdDevice) (value : Variant)

theorem setProfilesArrayFromVariant_fst (r : Nat → ObjectPath → Except String String) :
    (device.setProfilesArrayFromVariant r value).1 =
      { device with profiles := (setProfilesArrayLoop r 0 value.objectPathChildren []).1 } :=
  rfl

@[simp] theorem propertyChanged_Model :
    propertyChanged enum resolve j device "Model" value =
      { device with model := value.getString } := rfl

@[simp] theorem propertyChanged_Kind :
    propertyChanged enum resolve j device "Kind" value =
      { device with kind := enum.kindFromString value.getString } := rfl

@[simp] theorem propertyChanged_Profiles :
    propertyChanged enum resolve j device "Profiles" value =
      (device.setProfilesArrayFromVariant (resolve j) value).1 := rfl

theorem propertyChanged_unhandled {name : String} (h₁ : name ≠ "Model") (h₂ : name ≠ "Kind")
    (h₃ : name ≠ "Profiles") : propertyChanged enum resolve j device name value = device := by
  simp [propertyChanged, h₁, h₂, h₃]

theorem propertyChanged_model_of_ne {name : String} (h : name ≠ "Model") :
    (propertyChanged enum resolve j device name value).model = device.model := by
  unfold propertyChanged
  split_ifs <;> first | rfl | contradiction

theorem propertyChanged_kind_of_ne {name : String} (h : name ≠ "Kind") :
    (propertyChanged enum resolve j device name value).kind = device.kind := by
  unfold propertyChanged
  split_ifs <;> rfl

theorem propertyChanged_profiles_of_ne {name : String} (h : name ≠ "Profiles") :
    (propertyChanged enum resolve j device name value).profiles = device.profiles := by
  unfold propertyChanged
  split_ifs <;> rfl

theorem propertyChanged_identity (name : String) :
    (propertyChanged enum resolve j device name value).identity = device.identity := by
  unfold propertyChanged
  split_ifs <;> rfl

/-- The handler never touches what binding fixes. -/
theorem propertiesChangedLoop_identity :
    ∀ (j : Nat) (l : List (String × Variant)) (device : CdDevice),
      (propertiesChangedLoop enum resolve j l device).identity = device.identity
  | _, [], _ => rfl
  | j, (name, value) :: rest, device => by
    rw [propertiesChangedLoop, propertiesChangedLoop_identity,
      propertyChanged_identity]

section Keeps

variable (m : PropertiesChanged)

@[simp] theorem dbusPropertiesChanged_proxy :
    (device.dbusPropertiesChanged enum resolve m).proxy = device.proxy :=
  congrArg (·.1) (propertiesChangedLoop_identity enum resolve 0 m.changed device)

@[simp] theorem dbusPropertiesChanged_objectPath :
    (device.dbusPropertiesChanged enum resolve m).objectPath = device.objectPath :=
  congrArg (·.2.1) (propertiesChangedLoop_identity enum resolve 0 m.changed device)

@[simp] theorem dbusPropertiesChanged_id :
    (device.dbusPropertiesChanged enum resolve m).id = device.id :=
  congrArg (·.2.2.1) (propertiesChangedLoop_identity enum resolve 0 m.changed device)

@[simp] theorem dbusPropertiesChanged_created :
    (device.dbusPropertiesChanged enum resolve m).created = device.created :=
  congrArg (·.2.2.2) (propertiesChangedLoop_identity enum resolve 0 m.changed device)

end Keeps

/-- A property write never touches the proxy. -/
@[simp] theorem setProperty_proxy (p : Property) : (device.setProperty p).proxy = device.proxy := by
  cases p <;> rfl

theorem readCachedProperties_eq (remote : RemoteDevice) :
    readCachedProperties enum remote device =
      { device with
        id := remote.deviceId.or device.id
        kind := (remote.kind.map (enum.kindFromString ∘ some)).getD device.kind
        model := remote.model.or device.model
        created := remote.created.getD device.created } := by
  rcases remote with ⟨_ | _, _ | _, _ | _, _ | _, _⟩ <;> rfl

/-- A call sends its one message, whatever the bus answers. -/
@[simp] theorem callSync_fst (bus : Bus) (c : MethodCall) (failure : String) :
    (callSync bus c failure).1 = [c] := rfl

theorem requireProxy_fst (call : List MethodCall × Outcome) :
    (device.requireProxy call).1 = if device.proxy.isSome then call.1 else [] := by
  unfold requireProxy
  split_ifs <;> rfl

theorem getProfileForQualifierSync_fst (bus : Bus) (qualifier : String) :
    (device.getProfileForQualifierSync bus qualifier).1 =
      if device.proxy.isSome then [.getProfileForQualifier qualifier] else [] := by
  cases h : device.proxy <;> simp [getProfileForQualifierSync, h]

/-- The profile for a qualifier is a new profile bound to the path the daemon
answers, independent of the device's own list. -/
theorem getProfileForQualifierSync_ok (bus : Bus) (qualifier : String) {path : ObjectPath}
    {id : String} (h : device.proxy.isSome)
    (hcall : bus.call (.getProfileForQualifier qualifier) = .ok path)
    (hres : bus.resolve 0 0 path = .ok id) :
    device.getProfileForQualifierSync bus qualifier =
      ([.getProfileForQualifier qualifier], .ok ⟨path, id⟩) := by
  obtain ⟨p, hp⟩ := Option.isSome_iff_exists.1 h
  simp only [getProfileForQualifierSync, hp, Option.isNone_some, hcall, hres]
  rfl

end CdDevice

end Colord
