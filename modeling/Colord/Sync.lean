/-
Colord.Sync — the mirror against the daemon's device, over whole runs.

The daemon holds a `RemoteDevice`; the client binds to it once and then sees
the daemon's updates as `g-properties-changed` signals, interleaved with other
signals and with its own calls. `SyncEvent` is one step of the pair, and
`SyncRun Msg` says a run is one the protocol allows: each update changes only
`Model`, `Kind` and `Profiles`, is announced by a message related to the old
and new device by `Msg`, and publishes only paths that resolve.

`Mirror` is what is compared: the id, model, kind, created time and profile
object paths. `RemoteDevice.mirror` is what a new device binding to the daemon's
device gets (`setObjectPathSync_mirror`).

* `invalidated_update_not_mirrored` — under `Announces`, the D-Bus properties
  protocol, the mirror can fall behind: the protocol lets a change be sent as
  an invalidated name, and the handler never reads those names.
* `sync_agrees` — when every message carries the value of each property that
  changed (`CarriesValues`), the mirror equals a new bind's after every step.

The proof is one invariant, `Agrees`, kept by each kind of step; the update
step is `carried_field`, once per field the handler writes.
-/
import Colord.Notify
import Colord.Run

namespace Colord

/-- The fields the synchronisation is about, with the profiles by object path. -/
structure Mirror where
  id : Option String
  model : Option String
  kind : CdDeviceKind
  created : UInt64
  profiles : List ObjectPath
  deriving DecidableEq, Repr

/-- The device's mirror. -/
def CdDevice.mirror (device : CdDevice) : Mirror :=
  ⟨device.id, device.model, device.kind, device.created,
    device.profiles.map CdProfile.objectPath⟩

/-- The mirror a new device takes from `r` (`setObjectPathSync_mirror`). -/
def RemoteDevice.mirror (enum : CdEnum) (r : RemoteDevice) : Mirror :=
  ⟨r.deviceId, r.model, (r.kind.map (enum.kindFromString ∘ some)).getD CdDevice.init.kind,
    r.created.getD CdDevice.init.created, r.profiles⟩

/-- The mirror without its profiles: what no profile resolution touches. -/
def Mirror.fields (m : Mirror) : Option String × Option String × CdDeviceKind × UInt64 :=
  (m.id, m.model, m.kind, m.created)

/-- The daemon changes its device from `r` to `r'` and says so in `m`, as the D-Bus
properties protocol allows: only `Model`, `Kind` and `Profiles` change, each value
`m` carries is the new value of a property of the device, and each property that
changed is carried or invalidated. -/
structure Announces (r r' : RemoteDevice) (m : PropertiesChanged) : Prop where
  deviceId : r'.deviceId = r.deviceId
  created : r'.created = r.created
  values : ∀ e ∈ m.changed, r'.get e.1 = some e.2
  complete : ∀ name, r.get name ≠ r'.get name →
    name ∈ m.changed.map Prod.fst ∨ name ∈ m.invalidated

/-- `m` carries the new value of each property that changed. -/
def CarriesValues (r r' : RemoteDevice) (m : PropertiesChanged) : Prop :=
  ∀ name, r.get name ≠ r'.get name → name ∈ m.changed.map Prod.fst

/-- `m` carries the new value of the property `N` if it changed. -/
def CarriesValue (N : String) (r r' : RemoteDevice) (m : PropertiesChanged) : Prop :=
  r.get N ≠ r'.get N → N ∈ m.changed.map Prod.fst

/-- One step of the daemon and the client. -/
inductive SyncEvent
  | update (r' : RemoteDevice) (m : PropertiesChanged) (bus : Bus)
  | client (e : Event)

/-- The events of the client that the runs interleave with the updates. -/
def Event.isSignalOrCall : Event → Bool
  | .signal _ | .setModel .. | .setKind .. | .addProfile .. | .makeProfileDefault ..
  | .getProfileForQualifier .. => true
  | _ => false

/-- One step: an update replaces the daemon's device and delivers its message. -/
def syncStep (enum : CdEnum) : RemoteDevice × World → SyncEvent → RemoteDevice × World
  | (_, w), .update r' m bus => (r', w.step enum (.propertiesChanged m bus))
  | (r, w), .client e => (r, w.step enum e)

/-- A run from the daemon's device `r` that the protocol allows, updates announced
as `Msg` says. -/
def SyncRun (Msg : RemoteDevice → RemoteDevice → PropertiesChanged → Prop) :
    RemoteDevice → List SyncEvent → Prop
  | _, [] => True
  | r, .update r' m bus :: rest =>
    Msg r r' m ∧ (∀ j, Resolves (bus.resolve j) 0 r'.profiles) ∧ SyncRun Msg r' rest
  | r, .client e :: rest => e.isSignalOrCall ∧ SyncRun Msg r rest

variable (enum : CdEnum)

/-- A new device that binds to `r`, every path resolving, mirrors `r`. -/
theorem setObjectPathSync_mirror {bus : Bus} {objectPath : ObjectPath} {r : RemoteDevice}
    (hconn : bus.connect objectPath = .ok r) (hres : Resolves (bus.resolve 0) 0 r.profiles) :
    (CdDevice.init.setObjectPathSync enum bus objectPath).1.mirror = r.mirror enum := by
  obtain ⟨l, hl⟩ := (resolveEach_ok_iff _ 0 _).2 hres
  rw [CdDevice.setObjectPathSync_of_resolves enum bus _ objectPath rfl hconn hl,
    CdDevice.hydrated_eq]
  simp only [CdDevice.mirror, RemoteDevice.mirror, resolveEach_objectPaths _ hl, Mirror.mk.injEq,
    and_true]
  exact ⟨by cases r.deviceId <;> rfl, by cases r.model <;> rfl⟩

/-! ## The update step -/

section Update

variable (resolve : Nat → Nat → ObjectPath → Except String String)
  {r r' : RemoteDevice} {m : PropertiesChanged}

/-- A field that the entries named `N` set to what `r'` says, and that the other
entries keep, ends there whatever it was, if `m` sends `N`. -/
theorem sent_field {β : Type} (π : CdDevice → β) (N : String) (g : RemoteDevice → β)
    (hset : ∀ j device v, r'.get N = some v →
      π (CdDevice.propertyChanged enum resolve j device N v) = g r')
    (hkeep : ∀ j device name value, name ≠ N →
      π (CdDevice.propertyChanged enum resolve j device name value) = π device)
    (hann : Announces r r' m) (hN : N ∈ m.changed.map Prod.fst) (device : CdDevice) :
    π (device.dbusPropertiesChanged enum resolve m) = g r' := by
  rw [CdDevice.dbusPropertiesChanged, propertiesChangedLoop_proj enum resolve π N (g r') hkeep
    0 m.changed device fun e he hN j d => hset j d e.2 (hN ▸ hann.values e he), if_pos hN]

/-- A field that the entries named `N` set to what `r'` says, and that the other
entries keep, ends at what `r'` says, where it started at what `r` says and `m`
carries every change. -/
theorem carried_field {β : Type} (π : CdDevice → β) (N : String) (g : RemoteDevice → β)
    (hset : ∀ j device v, r'.get N = some v →
      π (CdDevice.propertyChanged enum resolve j device N v) = g r')
    (hkeep : ∀ j device name value, name ≠ N →
      π (CdDevice.propertyChanged enum resolve j device name value) = π device)
    (hg : r.get N = r'.get N → g r = g r')
    (hann : Announces r r' m) (hcar : CarriesValue N r r' m) {device : CdDevice}
    (hd : π device = g r) : π (device.dbusPropertiesChanged enum resolve m) = g r' := by
  rw [CdDevice.dbusPropertiesChanged, propertiesChangedLoop_proj enum resolve π N (g r') hkeep
    0 m.changed device fun e he hN j d => hset j d e.2 (hN ▸ hann.values e he)]
  split_ifs with hN
  · rfl
  · exact hd.trans (hg (not_not.1 (mt hcar hN)))

section StringProperty

/-! A string property `N`, read from the daemon's device by `prop`, that an entry
sets to `f` of its string. -/

variable {β : Type} (π : CdDevice → β) (N : String) (prop : RemoteDevice → Option String)
  (f : Option String → β) (hget : ∀ r : RemoteDevice, r.get N = (prop r).map .string)
  (hset : ∀ j device s, π (CdDevice.propertyChanged enum resolve j device N (.string s)) =
    f (some s))
  (hkeep : ∀ j device name value, name ≠ N →
    π (CdDevice.propertyChanged enum resolve j device name value) = π device)

include hget hset in
/-- An entry named `N` whose value is the one `r'` has sets the field to what `r'` says. -/
theorem string_set (j : Nat) (device : CdDevice) (v : Variant) (hv : r'.get N = some v) :
    π (CdDevice.propertyChanged enum resolve j device N v) = f (prop r') := by
  obtain ⟨s, hs, rfl⟩ := Option.map_eq_some'.1 ((hget r').symm.trans hv)
  rw [hset, hs]

include hget hset hkeep in
/-- `sent_field` for a string property. -/
theorem sent_string (hann : Announces r r' m) (hN : N ∈ m.changed.map Prod.fst)
    (device : CdDevice) : π (device.dbusPropertiesChanged enum resolve m) = f (prop r') :=
  sent_field enum resolve π N (f ∘ prop) (string_set enum resolve π N prop f hget hset)
    hkeep hann hN device

include hget hset hkeep in
/-- `carried_field` for a string property. -/
theorem carried_string (hann : Announces r r' m) (hcar : CarriesValue N r r' m)
    {device : CdDevice} (hd : π device = f (prop r)) :
    π (device.dbusPropertiesChanged enum resolve m) = f (prop r') := by
  refine carried_field enum resolve π N (f ∘ prop) (string_set enum resolve π N prop f hget hset)
    hkeep (fun h => ?_) hann hcar hd
  rw [hget, hget] at h
  simp only [Function.comp_apply, Option.map_injective (fun _ _ => Variant.string.inj) h]

end StringProperty

section Fields

variable {device : CdDevice}

/-- Whatever the profile resolutions answer, an announced update keeps the id. -/
theorem update_id (hann : Announces r r' m) (hd : device.mirror.id = (r.mirror enum).id) :
    (device.dbusPropertiesChanged enum resolve m).mirror.id = (r'.mirror enum).id :=
  (CdDevice.dbusPropertiesChanged_id _ _ _ _).trans (hd.trans hann.deviceId.symm)

/-- Whatever the profile resolutions answer, an announced update keeps the created time. -/
theorem update_created (hann : Announces r r' m)
    (hd : device.mirror.created = (r.mirror enum).created) :
    (device.dbusPropertiesChanged enum resolve m).mirror.created = (r'.mirror enum).created :=
  (CdDevice.dbusPropertiesChanged_created _ _ _ _).trans
    (hd.trans (congrArg (fun c => c.getD CdDevice.init.created) hann.created.symm))

/-- An announced update carries the model along if it carries the model's change. -/
theorem update_model (hann : Announces r r' m) (hcar : CarriesValue "Model" r r' m)
    (hd : device.mirror.model = (r.mirror enum).model) :
    (device.dbusPropertiesChanged enum resolve m).mirror.model = (r'.mirror enum).model :=
  carried_string enum resolve CdDevice.model "Model" RemoteDevice.model id
    RemoteDevice.get_Model (fun _ _ _ => rfl)
    (fun _ _ _ _ hn => CdDevice.propertyChanged_model_of_ne _ _ _ _ _ hn) hann hcar hd

/-- An announced update carries the kind along if it carries the kind's change. -/
theorem update_kind (hann : Announces r r' m) (hcar : CarriesValue "Kind" r r' m)
    (hd : device.mirror.kind = (r.mirror enum).kind) :
    (device.dbusPropertiesChanged enum resolve m).mirror.kind = (r'.mirror enum).kind :=
  carried_string enum resolve CdDevice.kind "Kind" RemoteDevice.kind
    (fun k => (k.map (enum.kindFromString ∘ some)).getD CdDevice.init.kind)
    RemoteDevice.get_Kind (fun _ _ _ => rfl)
    (fun _ _ _ _ hn => CdDevice.propertyChanged_kind_of_ne _ _ _ _ _ hn) hann hcar hd

/-- An announced update that sends `Model` sets the model to the daemon's, whatever
it was. -/
theorem update_model_of_sent (hann : Announces r r' m) (hN : "Model" ∈ m.changed.map Prod.fst)
    (device : CdDevice) :
    (device.dbusPropertiesChanged enum resolve m).mirror.model = (r'.mirror enum).model :=
  sent_string enum resolve CdDevice.model "Model" RemoteDevice.model id
    RemoteDevice.get_Model (fun _ _ _ => rfl)
    (fun _ _ _ _ hn => CdDevice.propertyChanged_model_of_ne _ _ _ _ _ hn) hann hN device

/-- An announced update that sends `Kind` sets the kind to the daemon's, whatever it
was. -/
theorem update_kind_of_sent (hann : Announces r r' m) (hN : "Kind" ∈ m.changed.map Prod.fst)
    (device : CdDevice) :
    (device.dbusPropertiesChanged enum resolve m).mirror.kind = (r'.mirror enum).kind :=
  sent_string enum resolve CdDevice.kind "Kind" RemoteDevice.kind
    (fun k => (k.map (enum.kindFromString ∘ some)).getD CdDevice.init.kind)
    RemoteDevice.get_Kind (fun _ _ _ => rfl)
    (fun _ _ _ _ hn => CdDevice.propertyChanged_kind_of_ne _ _ _ _ _ hn) hann hN device

/-- Whatever the profile resolutions answer, an update announced with every changed
value carries the id, model, kind and created time along. -/
theorem update_fields (hann : Announces r r' m) (hcar : CarriesValues r r' m)
    (hd : device.mirror.fields = (r.mirror enum).fields) :
    (device.dbusPropertiesChanged enum resolve m).mirror.fields = (r'.mirror enum).fields := by
  simp only [Mirror.fields, Prod.mk.injEq] at hd ⊢
  exact ⟨update_id enum resolve hann hd.1, update_model enum resolve hann (hcar "Model") hd.2.1,
    update_kind enum resolve hann (hcar "Kind") hd.2.2.1, update_created enum resolve hann hd.2.2.2⟩

end Fields

/-- An update announced with every changed value carries the mirror along. -/
theorem dbusPropertiesChanged_mirror (hann : Announces r r' m) (hcar : CarriesValues r r' m)
    (hres : ∀ j, Resolves (resolve j) 0 r'.profiles) {device : CdDevice}
    (hd : device.mirror = r.mirror enum) :
    (device.dbusPropertiesChanged enum resolve m).mirror = r'.mirror enum := by
  have hf := update_fields enum resolve hann hcar (congrArg Mirror.fields hd)
  simp only [CdDevice.mirror, RemoteDevice.mirror, Mirror.fields, Mirror.mk.injEq,
    Prod.mk.injEq] at hd hf ⊢
  refine ⟨hf.1, hf.2.1, hf.2.2.1, hf.2.2.2, ?_⟩
  · refine carried_field enum resolve (fun d => d.profiles.map CdProfile.objectPath) "Profiles"
      RemoteDevice.profiles ?_
      (fun _ _ _ _ hn => by simp [CdDevice.propertyChanged_profiles_of_ne _ _ _ _ _ hn]) ?_
      hann (hcar "Profiles") hd.2.2.2.2
    · intro j d v hv
      obtain rfl : v = .objectPaths r'.profiles := by simpa [eq_comm] using hv
      obtain ⟨l, hl⟩ := (resolveEach_ok_iff _ 0 _).2 (hres j)
      simp [@setProfilesArray_success (resolve j) d (.objectPaths r'.profiles) _ hl,
        resolveEach_objectPaths _ hl]
    · simp

end Update

/-! ## Runs -/

/-- The invariant of a synchronised run: the device mirrors the daemon's device
and holds a proxy with both handlers connected. -/
def Agrees (r : RemoteDevice) (w : World) : Prop :=
  w.device.mirror = r.mirror enum ∧ w.device.proxy.isSome ∧ World.Subscribed w.device

/-- The state right after a bind that connects and resolves every path. -/
theorem agrees_bind {objectPath : ObjectPath} {bus : Bus} {r₀ : RemoteDevice}
    (hconn : bus.connect objectPath = .ok r₀) (hres : Resolves (bus.resolve 0) 0 r₀.profiles) :
    Agrees enum r₀ (World.init.step enum (.setObjectPath objectPath bus)) := by
  obtain ⟨l, hl⟩ := (resolveEach_ok_iff _ 0 _).2 hres
  refine ⟨setObjectPathSync_mirror enum hconn hres, ?_, ?_⟩ <;>
    simp [World.step, World.init, CdDevice.setObjectPathSync_of_resolves enum bus
      CdDevice.init objectPath rfl hconn hl, World.Subscribed]

theorem step_agrees_update {r r' : RemoteDevice} {m : PropertiesChanged} {bus : Bus}
    {w : World} (h : Agrees enum r w) (hann : Announces r r' m) (hcar : CarriesValues r r' m)
    (hres : ∀ j, Resolves (bus.resolve j) 0 r'.profiles) :
    Agrees enum r' (w.step enum (.propertiesChanged m bus)) := by
  obtain ⟨hmir, hb, hs⟩ := h
  have hl := World.listens_of_subscribed hb hs (.tail _ (.head _))
  simp only [Agrees, World.Subscribed, World.step, hl, if_true,
    CdDevice.dbusPropertiesChanged_proxy]
  exact ⟨dbusPropertiesChanged_mirror enum bus.resolve hann hcar hres hmir, hb, hs⟩

/-- A signal or a call leaves the device as it is. -/
theorem step_device_of_isSignalOrCall (w : World) {e : Event} (he : e.isSignalOrCall) :
    (w.step enum e).device = w.device := by
  rcases World.step_device enum w e with
    hd | ⟨_, _, rfl, _⟩ | ⟨_, _, rfl, _⟩ | ⟨_, rfl, _⟩ <;>
    simp_all [Event.isSignalOrCall]

theorem step_agrees_client {r : RemoteDevice} {w : World} {e : Event}
    (h : Agrees enum r w) (he : e.isSignalOrCall) : Agrees enum r (w.step enum e) := by
  unfold Agrees
  rwa [step_device_of_isSignalOrCall enum w he]

theorem run_agrees :
    ∀ (events : List SyncEvent) {r : RemoteDevice} {w : World}, Agrees enum r w →
      SyncRun (fun r r' m => Announces r r' m ∧ CarriesValues r r' m) r events →
        Agrees enum (events.foldl (syncStep enum) (r, w)).1
          (events.foldl (syncStep enum) (r, w)).2
  | [], _, _, h, _ => h
  | .update _ _ _ :: rest, _, _, h, ⟨⟨hann, hcar⟩, hres, hrest⟩ =>
    run_agrees rest (step_agrees_update enum h hann hcar hres) hrest
  | .client _ :: rest, _, _, h, ⟨he, hrest⟩ =>
    run_agrees rest (step_agrees_client enum h he) hrest

/-- **Incremental synchronisation agrees with a new bind.** Bind a new device to
the daemon's device `r₀`, every path resolving; then run any updates, each
announced with the value of every property it changes and publishing paths that
resolve, interleaved with any signals and calls. After every step the device's
id, model, kind, created time and profile object paths are those a new device
binding to the daemon's current device gets. -/
theorem sync_agrees (objectPath : ObjectPath) (bus : Bus) (r₀ : RemoteDevice)
    (hconn : bus.connect objectPath = .ok r₀) (hres : Resolves (bus.resolve 0) 0 r₀.profiles)
    (events : List SyncEvent)
    (hrun : SyncRun (fun r r' m => Announces r r' m ∧ CarriesValues r r' m) r₀ events)
    (bus' : Bus)
    (hconn' : bus'.connect objectPath =
      .ok (events.foldl (syncStep enum)
        (r₀, World.init.step enum (.setObjectPath objectPath bus))).1)
    (hres' : Resolves (bus'.resolve 0) 0
      (events.foldl (syncStep enum)
        (r₀, World.init.step enum (.setObjectPath objectPath bus))).1.profiles) :
    (events.foldl (syncStep enum)
        (r₀, World.init.step enum (.setObjectPath objectPath bus))).2.device.mirror =
      (CdDevice.init.setObjectPathSync enum bus' objectPath).1.mirror := by
  rw [setObjectPathSync_mirror enum hconn' hres']
  exact (run_agrees enum events (agrees_bind enum hconn hres) hrun).1

/-! ## Changes of model and profiles, sent with their values or invalidated -/

/-- The daemon's device before its model changes. -/
def lvdsModelA : RemoteDevice :=
  ⟨some "xrandr-LVDS1", some "display", some "a", some 1300000000, []⟩

/-- The daemon's device after its model changes from `a` to `b`. -/
def lvdsModelB : RemoteDevice := { lvdsModelA with model := some "b" }

/-- The change of model, sent with its value. -/
def modelChanged : PropertiesChanged := ⟨[("Model", .string "b")], [], by decide⟩

/-- The change of model, sent as an invalidated name without its value. -/
def modelInvalidated : PropertiesChanged := ⟨[], ["Model"], by simp⟩

/-- A bus on which every device path is `r` and every profile resolves. -/
def busAt (r : RemoteDevice) : Bus :=
  ⟨fun _ => .ok r, fun _ _ _ => .ok "", fun _ => .error "unused"⟩

theorem lvdsModel_get_ne {name : String} (h : lvdsModelA.get name ≠ lvdsModelB.get name) :
    name = "Model" := by
  by_contra hn
  exact h (by simp [RemoteDevice.get, hn, lvdsModelB])

theorem announces_modelChanged : Announces lvdsModelA lvdsModelB modelChanged :=
  ⟨rfl, rfl, by simp [modelChanged, lvdsModelB, lvdsModelA],
    fun _ h => .inl (by simp [modelChanged, lvdsModel_get_ne h])⟩

theorem carriesValues_modelChanged : CarriesValues lvdsModelA lvdsModelB modelChanged :=
  fun _ h => by simp [modelChanged, lvdsModel_get_ne h]

/-- The daemon's device once it also publishes two profiles. -/
def lvdsProfilesB : RemoteDevice := { lvdsModelB with profiles := ["/p/0", "/p/1"] }

/-- The change of profile list, sent with its value. -/
def profilesChanged : PropertiesChanged :=
  ⟨[("Profiles", .objectPaths ["/p/0", "/p/1"])], [], by decide⟩

theorem get_withProfiles_ne {r : RemoteDevice} {ps : List ObjectPath} {name : String}
    (h : r.get name ≠ { r with profiles := ps }.get name) : name = "Profiles" := by
  by_contra hn
  exact h (by simp [RemoteDevice.get, hn])

theorem announces_profilesChangedB : Announces lvdsModelB lvdsProfilesB profilesChanged :=
  ⟨rfl, rfl, by decide, fun _ h => .inl (by rw [get_withProfiles_ne h]; decide)⟩

theorem carriesValues_profilesChangedB : CarriesValues lvdsModelB lvdsProfilesB profilesChanged :=
  fun _ h => by rw [get_withProfiles_ne h]; decide

theorem sync_agrees_lvds :
    ([.client (.signal "Changed"), .update lvdsModelB modelChanged (busAt lvdsModelB),
        .update lvdsProfilesB profilesChanged (busAt lvdsProfilesB)].foldl
        (syncStep ⟨fun _ => .unknown, fun _ => "unknown"⟩)
        (lvdsModelA, World.init.step ⟨fun _ => .unknown, fun _ => "unknown"⟩
          (.setObjectPath lvdsPath (busAt lvdsModelA)))).2.device.mirror =
      (CdDevice.init.setObjectPathSync ⟨fun _ => .unknown, fun _ => "unknown"⟩
        (busAt lvdsProfilesB) lvdsPath).1.mirror :=
  sync_agrees _ _ (busAt lvdsModelA) lvdsModelA rfl (resolves_nil _ 0)
    [.client (.signal "Changed"), .update lvdsModelB modelChanged (busAt lvdsModelB),
      .update lvdsProfilesB profilesChanged (busAt lvdsProfilesB)]
    ⟨rfl, ⟨announces_modelChanged, carriesValues_modelChanged⟩, fun _ => resolves_nil _ 0,
      ⟨announces_profilesChangedB, carriesValues_profilesChangedB⟩, fun _ _ _ _ => ⟨_, rfl⟩,
      trivial⟩
    (busAt lvdsProfilesB) rfl fun _ _ _ => ⟨_, rfl⟩

theorem announces_modelInvalidated : Announces lvdsModelA lvdsModelB modelInvalidated :=
  ⟨rfl, rfl, by simp [modelInvalidated],
    fun _ h => .inr (by simp [modelInvalidated, lvdsModel_get_ne h])⟩

/-- Under the D-Bus properties protocol alone the mirror falls behind: the daemon
changes the model and invalidates `Model`, the handler never reads invalidated
names, and the device keeps `a` where a new bind reads `b`. -/
theorem invalidated_update_not_mirrored :
    ¬ ∀ (enum : CdEnum) (objectPath : ObjectPath) (bus : Bus) (r₀ : RemoteDevice),
      bus.connect objectPath = .ok r₀ → Resolves (bus.resolve 0) 0 r₀.profiles →
      ∀ events : List SyncEvent, SyncRun Announces r₀ events → ∀ bus' : Bus,
        bus'.connect objectPath = .ok (events.foldl (syncStep enum)
          (r₀, World.init.step enum (.setObjectPath objectPath bus))).1 →
        Resolves (bus'.resolve 0) 0 (events.foldl (syncStep enum)
          (r₀, World.init.step enum (.setObjectPath objectPath bus))).1.profiles →
        (events.foldl (syncStep enum)
          (r₀, World.init.step enum (.setObjectPath objectPath bus))).2.device.mirror =
          (CdDevice.init.setObjectPathSync enum bus' objectPath).1.mirror := by
  intro h
  have := h ⟨fun _ => .unknown, fun _ => "unknown"⟩
    "/org/freedesktop/ColorManager/devices/xrandr_LVDS1"
    (busAt lvdsModelA) lvdsModelA rfl (resolves_nil _ 0)
    [.update lvdsModelB modelInvalidated (busAt lvdsModelB)]
    ⟨announces_modelInvalidated, fun _ => resolves_nil _ 0, trivial⟩ (busAt lvdsModelB) rfl
    (resolves_nil _ 0)
  exact absurd this (by decide)

end Colord
