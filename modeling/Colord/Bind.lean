/-
Colord.Bind — `cd_device_set_object_path_sync`, on each of its exits.

On a device with no proxy and a daemon that answers, bind makes the proxy,
saves the path, copies each cached property that is present, and then runs the
profile loop. Its exits:

* `setObjectPathSync_of_bound` — a proxy is already there: `FALSE`, nothing
  changed, no error set.
* `setObjectPathSync_of_connect_error` — the proxy cannot be made: `FALSE`
  with the message, nothing changed.
* `setObjectPathSync_of_resolves` — every profile path resolves: `TRUE`, the
  mirror hydrated, both signal handlers connected.
* `setObjectPathSync_of_profile_error` — a profile path does not resolve:
  `FALSE` with the message, but the proxy stays, with no handler connected.

`setObjectPathSync_hydrates` is the statement for a new device: `TRUE` exactly
when every path resolves, and then each field is the daemon's value, or the
new device's default where the daemon has none.

`setProfilesArray_failure` follows a profile list whose path fails through each
path into the loop: the function itself, the properties-changed handler, and
bind.

`setPropertySync_error_eq_profile_error`: the one method call whose error text
names another operation, and what a caller can no longer tell apart because of it.
-/
import Colord.ProfileArray
import Colord.Notify

namespace Colord

namespace CdDevice

variable (enum : CdEnum) (bus : Bus) (device : CdDevice) (objectPath : ObjectPath)

/-- The two handlers a successful bind connects, in its order. -/
def boundHandlers : List String := ["g-signal", "g-properties-changed"]

/-- What bind has done to an unbound device by the time the profile loop starts. -/
def hydrated (remote : RemoteDevice) : CdDevice :=
  readCachedProperties enum remote
    { device with proxy := some ⟨objectPath, []⟩, objectPath := some objectPath }

theorem hydrated_eq (remote : RemoteDevice) :
    hydrated enum device objectPath remote =
      { device with
        proxy := some ⟨objectPath, []⟩
        objectPath := some objectPath
        id := remote.deviceId.or device.id
        kind := (remote.kind.map (enum.kindFromString ∘ some)).getD device.kind
        model := remote.model.or device.model
        created := remote.created.getD device.created } := by
  rw [hydrated, readCachedProperties_eq]

theorem setObjectPathSync_of_bound (h : device.proxy.isSome) :
    device.setObjectPathSync enum bus objectPath = (device, .error none) := by
  simp [setObjectPathSync, h]

theorem setObjectPathSync_of_connect_error {msg : String} (h : device.proxy = none)
    (hconn : bus.connect objectPath = .error msg) :
    device.setObjectPathSync enum bus objectPath =
      (device, .error (some ("Failed to connect to device " ++ objectPath ++ ": " ++ msg))) := by
  simp [setObjectPathSync, h, hconn]

/-- Bind past the connection: the profile loop decides the rest. -/
theorem setObjectPathSync_connected {remote : RemoteDevice} (h : device.proxy = none)
    (hconn : bus.connect objectPath = .ok remote) :
    device.setObjectPathSync enum bus objectPath =
      match (hydrated enum device objectPath remote).setProfilesArrayFromVariant
          (bus.resolve 0) (.objectPaths remote.profiles) with
      | (device, .error msg) => (device, .error (some msg))
      | (device, .ok ()) =>
        ({ device with proxy := some ⟨objectPath, boundHandlers⟩ }, .ok ()) := by
  simp only [setObjectPathSync, h, Option.isSome_none, hconn]
  rfl

theorem setObjectPathSync_of_resolves {remote : RemoteDevice} {l : List CdProfile}
    (h : device.proxy = none) (hconn : bus.connect objectPath = .ok remote)
    (hl : resolveEach (bus.resolve 0) 0 remote.profiles = .ok l) :
    device.setObjectPathSync enum bus objectPath =
      ({ hydrated enum device objectPath remote with
          proxy := some ⟨objectPath, boundHandlers⟩, profiles := l }, .ok ()) := by
  rw [setObjectPathSync_connected enum bus device objectPath h hconn,
    @setProfilesArray_success (bus.resolve 0) _ (.objectPaths remote.profiles) _ hl]

/-- A bind that fails in the profile loop keeps its new proxy, with no handler
connected, and the profiles resolved before the failing path. -/
theorem setObjectPathSync_of_profile_error {remote : RemoteDevice} {ps₁ : List ObjectPath}
    {p : ObjectPath} {ps₂ : List ObjectPath} {l : List CdProfile} {msg : String}
    (h : device.proxy = none) (hconn : bus.connect objectPath = .ok remote)
    (hps : remote.profiles = ps₁ ++ p :: ps₂)
    (hpre : resolveEach (bus.resolve 0) 0 ps₁ = .ok l)
    (hfail : bus.resolve 0 ps₁.length p = .error msg) :
    device.setObjectPathSync enum bus objectPath =
      ({ hydrated enum device objectPath remote with profiles := l },
        .error (some ("Failed to set profile object path: " ++ msg))) := by
  rw [setObjectPathSync_connected enum bus device objectPath h hconn, hps,
    setProfilesArray_of_error _ _ p ps₂ hpre hfail]

/-- A bind whose profile paths do not all resolve keeps its new proxy with no
handler connected, whichever path fails. -/
theorem setObjectPathSync_of_unresolved {remote : RemoteDevice} (h : device.proxy = none)
    (hconn : bus.connect objectPath = .ok remote)
    (hres : ¬ Resolves (bus.resolve 0) 0 remote.profiles) :
    (device.setObjectPathSync enum bus objectPath).1.proxy = some ⟨objectPath, []⟩ := by
  have hloop := mt (setProfilesArrayLoop_ok_iff (bus.resolve 0) 0 remote.profiles []).1 hres
  rw [setObjectPathSync_connected enum bus device objectPath h hconn]
  simp only [setProfilesArrayFromVariant, Variant.objectPathChildren] at hloop ⊢
  revert hloop
  cases (setProfilesArrayLoop (bus.resolve 0) 0 remote.profiles []).2 <;> simp [hydrated_eq]

/-- On an unbound device whose daemon answers, bind returns `TRUE` exactly when
every profile path resolves. -/
theorem setObjectPathSync_ok_iff {remote : RemoteDevice} (h : device.proxy = none)
    (hconn : bus.connect objectPath = .ok remote) :
    (device.setObjectPathSync enum bus objectPath).2 = .ok () ↔
      Resolves (bus.resolve 0) 0 remote.profiles := by
  rw [setObjectPathSync_connected enum bus device objectPath h hconn,
    ← setProfilesArrayLoop_ok_iff _ 0 _ []]
  simp only [setProfilesArrayFromVariant, Variant.objectPathChildren]
  cases (setProfilesArrayLoop (bus.resolve 0) 0 remote.profiles []).2 <;> simp

/-- A bind that returns `TRUE` found no proxy, and leaves one with both handlers. -/
theorem setObjectPathSync_ok_proxy (h : (device.setObjectPathSync enum bus objectPath).2 = .ok ()) :
    device.proxy = none ∧
      (device.setObjectPathSync enum bus objectPath).1.proxy =
        some ⟨objectPath, boundHandlers⟩ := by
  cases hp : device.proxy with
  | some px => simp [setObjectPathSync_of_bound enum bus device objectPath (by simp [hp])] at h
  | none =>
    cases hc : bus.connect objectPath with
    | error msg => simp [setObjectPathSync_of_connect_error enum bus device objectPath hp hc] at h
    | ok remote =>
      rw [setObjectPathSync_connected enum bus device objectPath hp hc] at h ⊢
      split at h <;> simp_all

end CdDevice

/-- `device` is what binding a new device to `remote` at `objectPath` should give:
the path saved, each present property copied (an absent one leaving the new
device's default), and the profiles the in-order resolution of `Profiles`. -/
structure Hydrated (enum : CdEnum) (resolve : Nat → ObjectPath → Except String String)
    (objectPath : ObjectPath) (remote : RemoteDevice) (device : CdDevice) : Prop where
  objectPath : device.objectPath = some objectPath
  id : device.id = remote.deviceId
  model : device.model = remote.model
  kind : device.kind = (remote.kind.map (enum.kindFromString ∘ some)).getD CdDevice.init.kind
  created : device.created = remote.created.getD CdDevice.init.created
  profiles : resolveEach resolve 0 remote.profiles = .ok device.profiles

/-- **Bind hydrates the mirror exactly.** On a new device whose connection
succeeds, `cd_device_set_object_path_sync` returns `TRUE` exactly when every
profile path resolves, and then leaves the device `Hydrated` from the daemon's. -/
theorem setObjectPathSync_hydrates (enum : CdEnum) (bus : Bus) (objectPath : ObjectPath)
    (remote : RemoteDevice) (hconn : bus.connect objectPath = .ok remote) :
    ((CdDevice.init.setObjectPathSync enum bus objectPath).2 = .ok () ↔
        Resolves (bus.resolve 0) 0 remote.profiles) ∧
      ((CdDevice.init.setObjectPathSync enum bus objectPath).2 = .ok () →
        Hydrated enum (bus.resolve 0) objectPath remote
          (CdDevice.init.setObjectPathSync enum bus objectPath).1) := by
  have hiff := CdDevice.setObjectPathSync_ok_iff enum bus CdDevice.init objectPath rfl hconn
  refine ⟨hiff, fun hok => ?_⟩
  obtain ⟨l, hl⟩ := (resolveEach_ok_iff _ 0 _).2 (hiff.1 hok)
  rw [CdDevice.setObjectPathSync_of_resolves enum bus _ objectPath rfl hconn hl,
    CdDevice.hydrated_eq]
  exact ⟨rfl, by cases remote.deviceId <;> rfl, by cases remote.model <;> rfl, rfl, rfl, hl⟩

theorem setObjectPathSync_hydrates_lvds :
    let enum : CdEnum := ⟨fun _ => .unknown, fun _ => "unknown"⟩
    let remote : RemoteDevice := ⟨some "xrandr-LVDS1", some "display", none, some 1300000000,
      ["/org/freedesktop/ColorManager/profiles/icc_0"]⟩
    let bus : Bus := ⟨fun _ => .ok remote, fun _ _ _ => .ok "icc-0", fun _ => .error "unused"⟩
    let objectPath := "/org/freedesktop/ColorManager/devices/xrandr_LVDS1"
    ((CdDevice.init.setObjectPathSync enum bus objectPath).2 = .ok () ↔
        Resolves (bus.resolve 0) 0 remote.profiles) ∧
      ((CdDevice.init.setObjectPathSync enum bus objectPath).2 = .ok () →
        Hydrated enum (bus.resolve 0) objectPath remote
          (CdDevice.init.setObjectPathSync enum bus objectPath).1) :=
  setObjectPathSync_hydrates _ _ _ _ rfl

/-! ## A profile list whose path fails -/

/-- **A failed update leaves the resolved prefix.** When the first path of a list
`P` that does not resolve is at position `k` (`ps₁` the `k` paths before it),
`cd_device_set_profiles_array_from_variant` leaves the in-order resolution of
`ps₁`, whatever the list was before, and fails with the resolution's message. The
properties-changed handler leaves the same list for every change set whose last
`Profiles` entry is `P`, and a bind of a device with no proxy to a daemon that
publishes `P` leaves it too and returns `FALSE` with that message. -/
theorem setProfilesArray_failure (enum : CdEnum)
    (resolve : Nat → ObjectPath → Except String String) (device : CdDevice)
    {ps₁ : List ObjectPath} (p : ObjectPath) (ps₂ : List ObjectPath) {l : List CdProfile}
    {msg : String} (hpre : resolveEach resolve 0 ps₁ = .ok l)
    (hfail : resolve ps₁.length p = .error msg) :
    device.setProfilesArrayFromVariant resolve (.objectPaths (ps₁ ++ p :: ps₂)) =
        ({ device with profiles := l }, .error ("Failed to set profile object path: " ++ msg)) ∧
      (∀ (resolveAt : Nat → Nat → ObjectPath → Except String String) (m : PropertiesChanged)
          (c₁ c₂ : List (String × Variant)),
        m.changed = c₁ ++ ("Profiles", .objectPaths (ps₁ ++ p :: ps₂)) :: c₂ →
        "Profiles" ∉ c₂.map Prod.fst → resolveAt c₁.length = resolve →
          (device.dbusPropertiesChanged enum resolveAt m).profiles = l) ∧
      (∀ (bus : Bus) (objectPath : ObjectPath) (remote : RemoteDevice),
        device.proxy = none → bus.connect objectPath = .ok remote →
        remote.profiles = ps₁ ++ p :: ps₂ → bus.resolve 0 = resolve →
          (device.setObjectPathSync enum bus objectPath).1.profiles = l ∧
            (device.setObjectPathSync enum bus objectPath).2 =
              .error (some ("Failed to set profile object path: " ++ msg))) := by
  refine ⟨setProfilesArray_of_error resolve device p ps₂ hpre hfail,
    fun resolveAt m c₁ c₂ hm hlast hr => ?_, fun bus objectPath remote hp hconn hps hr => ?_⟩
  · rw [CdDevice.dbusPropertiesChanged, hm, propertiesChangedLoop_append, Nat.zero_add,
      CdDevice.propertiesChangedLoop,
      propertiesChangedLoop_keep enum resolveAt CdDevice.profiles "Profiles"
        (fun _ _ _ _ hn => CdDevice.propertyChanged_profiles_of_ne _ _ _ _ _ hn) _ c₂ _ hlast,
      CdDevice.propertyChanged_Profiles, hr, setProfilesArray_of_error resolve _ p ps₂ hpre hfail]
  · subst hr
    rw [CdDevice.setObjectPathSync_of_profile_error enum bus device objectPath hp hconn hps hpre
      hfail]
    exact ⟨rfl, rfl⟩

theorem setProfilesArray_failure_second :
    let enum : CdEnum := ⟨fun _ => .unknown, fun _ => "unknown"⟩
    let resolve : Nat → ObjectPath → Except String String :=
      fun _ p => if p = "/a" then .ok "a" else .error "no such profile"
    let device : CdDevice := { CdDevice.init with profiles := [⟨"/old", "old"⟩] }
    device.setProfilesArrayFromVariant resolve (.objectPaths (["/a"] ++ "/b" :: ["/c"])) =
        ({ device with profiles := [⟨"/a", "a"⟩] },
          .error ("Failed to set profile object path: " ++ "no such profile")) ∧
      (∀ (resolveAt : Nat → Nat → ObjectPath → Except String String) (m : PropertiesChanged)
          (c₁ c₂ : List (String × Variant)),
        m.changed = c₁ ++ ("Profiles", .objectPaths (["/a"] ++ "/b" :: ["/c"])) :: c₂ →
        "Profiles" ∉ c₂.map Prod.fst → resolveAt c₁.length = resolve →
          (device.dbusPropertiesChanged enum resolveAt m).profiles = [⟨"/a", "a"⟩]) ∧
      (∀ (bus : Bus) (objectPath : ObjectPath) (remote : RemoteDevice),
        device.proxy = none → bus.connect objectPath = .ok remote →
        remote.profiles = ["/a"] ++ "/b" :: ["/c"] → bus.resolve 0 = resolve →
          (device.setObjectPathSync enum bus objectPath).1.profiles = [⟨"/a", "a"⟩] ∧
            (device.setObjectPathSync enum bus objectPath).2 =
              .error (some ("Failed to set profile object path: " ++ "no such profile"))) :=
  @setProfilesArray_failure _ _ _ ["/a"] "/b" ["/c"] _ _ rfl rfl

/-! ## The error text of `cd_device_set_property_sync`

Each method call of the file prefixes the bus's message with a text naming its
operation, except `cd_device_set_property_sync`, behind `cd_device_set_model_sync`
and `cd_device_set_kind_sync`, which reuses the text of the profile loop. -/

/-- **A refused `SetProperty` reads as a profile that does not resolve.** When the
bus refuses a `SetProperty` call with the message that a failing profile path gives
a bind, the call's error is exactly that bind's error. -/
theorem setPropertySync_error_eq_profile_error (enum : CdEnum) (bus bus' : Bus)
    (name value : String) (objectPath : ObjectPath) (remote : RemoteDevice)
    {ps₁ : List ObjectPath} {p : ObjectPath} {ps₂ : List ObjectPath} {l : List CdProfile}
    {msg : String} (hcall : bus.call (.setProperty name value) = .error msg)
    (hconn : bus'.connect objectPath = .ok remote) (hps : remote.profiles = ps₁ ++ p :: ps₂)
    (hpre : resolveEach (bus'.resolve 0) 0 ps₁ = .ok l)
    (hfail : bus'.resolve 0 ps₁.length p = .error msg) :
    (CdDevice.setPropertySync bus name value).2 =
      (CdDevice.init.setObjectPathSync enum bus' objectPath).2 := by
  rw [CdDevice.setObjectPathSync_of_profile_error enum bus' _ objectPath rfl hconn hps hpre hfail]
  simp [CdDevice.setPropertySync, CdDevice.callSync, hcall]

/-- A refused `SetProperty ("Model", ..)` on a bound device reports a profile path. -/
example :
    (CdDevice.setModelSync ⟨fun _ => .error "unused", fun _ _ _ => .error "unused",
        fun _ => .error "Permission denied"⟩
      { CdDevice.init with
        proxy := some ⟨"/org/freedesktop/ColorManager/devices/xrandr_LVDS1",
          CdDevice.boundHandlers⟩ } "LVDS1").2 =
      .error (some "Failed to set profile object path: Permission denied") := by
  decide

end Colord
