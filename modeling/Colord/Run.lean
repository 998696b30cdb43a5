/-
Colord.Run — a `CdDevice` in a process, event after event.

`World` is what a process sees of one device: its private data, the method
calls it has sent on its proxy, and how many times it has emitted `changed`.
`Event` is everything that can happen to it: a call of the public API, a
signal of its proxy, or a write of one of its GObject properties. A proxy
signal reaches the device only through a connected handler.

`step_device` says once what an event can do to the device; every invariant
below is a case analysis on it, and a run lemma by induction over the events.

* `run_of_bound` — once a proxy is held, it and the object path never change;
  the id changes only by a write of `id`, the created time only by a write
  of `created`. `setObjectPathSync_fixes_binding` is this after a successful
  bind, and `bind_identity_not_fixed` shows the two writes do change them.
* `run_subscribed` — a device that holds a proxy has both handlers connected,
  along every run in which each bind that reaches it with no proxy and
  connects resolves all its profile paths. `failed_bind_deaf_forever` is the
  run where one does not.
* `step_call` and `run_changedEmitted` — calls send one message and change
  nothing else; every delivered signal named `Changed` emits `changed` exactly
  once (`step_changedEmitted_eq`, through `cd_device_dbus_signal_cb`).
* `run_propertiesChanged_twice` — a `g-properties-changed` message delivered
  twice in a row acts once, anywhere in a run.
-/
import Colord.Bind
import Colord.Notify

namespace Colord

/-- What a process sees of one `CdDevice`. -/
structure World where
  device : CdDevice
  sent : List MethodCall
  changedEmitted : Nat

/-- What can happen to a device. -/
inductive Event
  | setObjectPath (objectPath : ObjectPath) (bus : Bus)
  | propertiesChanged (m : PropertiesChanged) (bus : Bus)
  | signal (signalName : String)
  | setModel (value : String) (bus : Bus)
  | setKind (kind : CdDeviceKind) (bus : Bus)
  | addProfile (profile : CdProfile) (bus : Bus)
  | makeProfileDefault (profile : CdProfile) (bus : Bus)
  | getProfileForQualifier (qualifier : String) (bus : Bus)
  | setProperty (p : Property)

namespace Event

/-- The event writes the GObject property `id`. -/
def writesId : Event → Bool
  | .setProperty (.id _) => true
  | _ => false

/-- The event writes the GObject property `created`. -/
def writesCreated : Event → Bool
  | .setProperty (.created _) => true
  | _ => false

/-- The event is a proxy signal named `Changed`. -/
def isChangedSignal : Event → Bool
  | .signal name => name == "Changed"
  | _ => false

/-- The method call an API call makes on a device that has a proxy. -/
def call? (enum : CdEnum) : Event → Option MethodCall
  | .setModel value _ => some (.setProperty "Model" value)
  | .setKind kind _ => some (.setProperty "Kind" (enum.kindToString kind))
  | .addProfile profile _ => some (.addProfile profile.objectPath)
  | .makeProfileDefault profile _ => some (.makeProfileDefault profile.id)
  | .getProfileForQualifier qualifier _ => some (.getProfileForQualifier qualifier)
  | _ => none

end Event

/-- The object path of the daemon's `xrandr-LVDS1` device, the path of the examples. -/
def lvdsPath : ObjectPath := "/org/freedesktop/ColorManager/devices/xrandr_LVDS1"

/-- The daemon answers for `lvdsPath`, but its profile does not resolve. -/
def lvdsBus : Bus where
  connect _ := .ok ⟨some "xrandr-LVDS1", none, none, none,
    ["/org/freedesktop/ColorManager/profiles/icc_1"]⟩
  resolve _ _ _ := .error "no such object"
  call _ := .error "unused"

namespace World

variable (enum : CdEnum)

/-- A new device in a process that has done nothing with it. -/
def init : World := ⟨CdDevice.init, [], 0⟩

/-- One event. -/
def step (w : World) : Event → World
  | .setObjectPath path bus => { w with device := (w.device.setObjectPathSync enum bus path).1 }
  | .propertiesChanged m bus =>
    if w.device.listens "g-properties-changed" then
      { w with device := w.device.dbusPropertiesChanged enum bus.resolve m }
    else w
  | .signal name =>
    if w.device.listens "g-signal" && CdDevice.dbusSignalCb name then
      { w with changedEmitted := w.changedEmitted + 1 }
    else w
  | .setModel value bus => { w with sent := w.sent ++ (w.device.setModelSync bus value).1 }
  | .setKind kind bus => { w with sent := w.sent ++ (w.device.setKindSync enum bus kind).1 }
  | .addProfile profile bus =>
    { w with sent := w.sent ++ (w.device.addProfileSync bus profile).1 }
  | .makeProfileDefault profile bus =>
    { w with sent := w.sent ++ (w.device.makeProfileDefaultSync bus profile).1 }
  | .getProfileForQualifier qualifier bus =>
    { w with sent := w.sent ++ (w.device.getProfileForQualifierSync bus qualifier).1 }
  | .setProperty p => { w with device := w.device.setProperty p }

/-- A run of events, in order. -/
def run (w : World) (events : List Event) : World :=
  events.foldl (step enum) w

@[simp] theorem run_nil (w : World) : w.run enum [] = w := rfl

@[simp] theorem run_cons (w : World) (e : Event) (events : List Event) :
    w.run enum (e :: events) = (w.step enum e).run enum events := rfl

/-! ## What one event does -/

/-- Only a bind, a delivered change set and a property write change the device. -/
theorem step_device (w : World) (e : Event) :
    (w.step enum e).device = w.device ∨
      (∃ path bus, e = .setObjectPath path bus ∧
        (w.step enum e).device = (w.device.setObjectPathSync enum bus path).1) ∨
      (∃ m bus, e = .propertiesChanged m bus ∧
        (w.step enum e).device = w.device.dbusPropertiesChanged enum bus.resolve m) ∨
      (∃ p, e = .setProperty p ∧ (w.step enum e).device = w.device.setProperty p) := by
  cases e with
  | setObjectPath path bus => exact .inr (.inl ⟨path, bus, rfl, rfl⟩)
  | propertiesChanged m bus =>
    by_cases h : w.device.listens "g-properties-changed"
    · exact .inr (.inr (.inl ⟨m, bus, rfl, by simp [step, h]⟩))
    · exact .inl (by simp [step, h])
  | signal name => exact .inl (by simp only [step]; split <;> rfl)
  | setProperty p => exact .inr (.inr (.inr ⟨p, rfl, rfl⟩))
  | _ => exact .inl rfl

/-- An API call sends its one method call if the device has a proxy, nothing
otherwise, and changes nothing else: the mirror waits for the daemon's signal. -/
theorem step_call (w : World) {e : Event} {c : MethodCall} (h : e.call? enum = some c) :
    w.step enum e = { w with sent := w.sent ++ if w.device.proxy.isSome then [c] else [] } := by
  cases e <;> cases h <;>
    simp [step, CdDevice.setModelSync, CdDevice.setKindSync, CdDevice.addProfileSync,
      CdDevice.makeProfileDefaultSync, CdDevice.setPropertySync, CdDevice.requireProxy_fst,
      CdDevice.getProfileForQualifierSync_fst]

/-- A second bind is refused and changes nothing: the first binding stays. -/
theorem step_rebind (w : World) (bus : Bus) (objectPath : ObjectPath)
    (h : w.device.proxy.isSome) : w.step enum (.setObjectPath objectPath bus) = w := by
  simp [step, CdDevice.setObjectPathSync_of_bound enum bus w.device objectPath h]

/-- A change set delivered again right after itself, with the same resolution
answers, changes nothing: the handler is connected or not both times, and
handling it again leaves the device as it is (`dbusPropertiesChanged_twice`). -/
theorem step_propertiesChanged_twice (w : World) (m : PropertiesChanged) (bus : Bus) :
    (w.step enum (.propertiesChanged m bus)).step enum (.propertiesChanged m bus) =
      w.step enum (.propertiesChanged m bus) := by
  by_cases h : w.device.listens "g-properties-changed"
  · have h' : (w.device.dbusPropertiesChanged enum bus.resolve m).listens
        "g-properties-changed" := by
      simpa only [CdDevice.listens, CdDevice.dbusPropertiesChanged_proxy] using h
    simp only [step, h, h', if_true, dbusPropertiesChanged_twice]
  · simp [step, h]

/-- **A change set delivered twice acts once.** Anywhere in any run, a
`g-properties-changed` message delivered again right after itself, with the same
profile resolution answers, leaves the same world as one delivery: whatever names
repeat in its change set, whichever of its paths fail, and whether or not the
handler is connected. -/
theorem run_propertiesChanged_twice (w : World) (events₁ events₂ : List Event)
    (m : PropertiesChanged) (bus : Bus) :
    w.run enum (events₁ ++ .propertiesChanged m bus :: .propertiesChanged m bus :: events₂) =
      w.run enum (events₁ ++ .propertiesChanged m bus :: events₂) := by
  simp only [run, List.foldl_append, List.foldl_cons, step_propertiesChanged_twice]

/-! ## What binding fixes -/

/-- On a device that holds a proxy, an event keeps the proxy and the object path,
the id unless it writes `id`, and the created time unless it writes `created`. -/
theorem step_of_bound {w : World} (h : w.device.proxy.isSome) (e : Event) :
    (w.step enum e).device.proxy = w.device.proxy ∧
      (w.step enum e).device.objectPath = w.device.objectPath ∧
      (e.writesId = false → (w.step enum e).device.id = w.device.id) ∧
      (e.writesCreated = false → (w.step enum e).device.created = w.device.created) := by
  rcases step_device enum w e with
    hd | ⟨path, bus, rfl, hd⟩ | ⟨m, bus, rfl, hd⟩ | ⟨p, rfl, hd⟩
  · simp [hd]
  · simp [hd, CdDevice.setObjectPathSync_of_bound enum bus w.device path h]
  · simp [hd]
  · cases p <;> simp [hd, CdDevice.setProperty, Event.writesId, Event.writesCreated]

/-- Along `events` from `w` the proxy and the object path are kept, the id unless
the events write `id`, and the created time unless they write `created`. -/
def KeepsBinding (w : World) (events : List Event) : Prop :=
  (w.run enum events).device.proxy = w.device.proxy ∧
    (w.run enum events).device.objectPath = w.device.objectPath ∧
    ((∀ e ∈ events, e.writesId = false) → (w.run enum events).device.id = w.device.id) ∧
    ((∀ e ∈ events, e.writesCreated = false) →
      (w.run enum events).device.created = w.device.created)

/-- Along any run from a device that holds a proxy, `step_of_bound` at every step. -/
theorem run_of_bound :
    ∀ (events : List Event) {w : World}, w.device.proxy.isSome → KeepsBinding enum w events
  | [], _, _ => by simp [KeepsBinding]
  | e :: events, w, h => by
    obtain ⟨hp, ho, hi, hc⟩ := step_of_bound enum h e
    obtain ⟨hp', ho', hi', hc'⟩ := run_of_bound events (w := w.step enum e) (hp ▸ h)
    simp only [KeepsBinding, run_cons, List.mem_cons, forall_eq_or_imp]
    exact ⟨hp'.trans hp, ho'.trans ho, fun ⟨h₁, h₂⟩ => (hi' h₂).trans (hi h₁),
      fun ⟨h₁, h₂⟩ => (hc' h₂).trans (hc h₁)⟩

/-- **What a successful bind fixes.** After `cd_device_set_object_path_sync` has
returned `TRUE`, every later run keeps the proxy and the object path; the id is
kept unless the run writes the `id` property, the created time unless it writes
`created`. -/
theorem setObjectPathSync_fixes_binding (w : World) (bus : Bus) (objectPath : ObjectPath)
    (hbind : (w.device.setObjectPathSync enum bus objectPath).2 = .ok ()) (events : List Event) :
    KeepsBinding enum (w.step enum (.setObjectPath objectPath bus)) events :=
  run_of_bound enum events
    (by simp [step, (CdDevice.setObjectPathSync_ok_proxy enum bus w.device objectPath hbind).2])

theorem setObjectPathSync_fixes_binding_lvds :
    KeepsBinding ⟨fun _ => .unknown, fun _ => "unknown"⟩
      (World.init.step ⟨fun _ => .unknown, fun _ => "unknown"⟩
        (.setObjectPath "/org/freedesktop/ColorManager/devices/xrandr_LVDS1"
        ⟨fun _ => .ok ⟨some "xrandr-LVDS1", none, none, none, []⟩, fun _ _ _ => .ok "",
          fun _ => .error "unused"⟩))
      [.signal "Changed", .setProperty (.model (some "LVDS1"))] :=
  setObjectPathSync_fixes_binding _ _ _ _ (by decide) _

/-! ## Listening -/

/-- The daemon answers for every device path, with no profiles. -/
def lvdsOkBus : Bus where
  connect _ := .ok ⟨some "xrandr-LVDS1", some "display", some "LVDS1", some 1300000000, []⟩
  resolve _ _ _ := .ok ""
  call _ := .error "unused"

/-- Every proxy the device holds has both handlers connected. -/
def Subscribed (device : CdDevice) : Prop :=
  ∀ p, device.proxy = some p → p.handlers = CdDevice.boundHandlers

/-- A subscribed device that holds a proxy listens to each signal bind connects. -/
theorem listens_of_subscribed {device : CdDevice} (hb : device.proxy.isSome)
    (h : Subscribed device) {signal : String} (hs : signal ∈ CdDevice.boundHandlers) :
    device.listens signal := by
  obtain ⟨p, hp⟩ := Option.isSome_iff_exists.1 hb
  simp [CdDevice.listens, hp, h p hp, hs]

/-- If the event is a bind that connects, every profile path of the device resolves. -/
def ResolvesOnBind : Event → Prop
  | .setObjectPath path bus =>
    ∀ remote, bus.connect path = .ok remote → Resolves (bus.resolve 0) 0 remote.profiles
  | _ => True

/-- Every bind of `events` that reaches a device with no proxy, and so creates one
when it connects, resolves all its profile paths. A bind that the
`proxy == NULL` guard refuses is not constrained. -/
def BindsResolve : World → List Event → Prop
  | _, [] => True
  | w, e :: rest => (w.device.proxy = none → ResolvesOnBind e) ∧ BindsResolve (w.step enum e) rest

theorem step_subscribed {w : World} (h : Subscribed w.device) {e : Event}
    (he : w.device.proxy = none → ResolvesOnBind e) : Subscribed (w.step enum e).device := by
  rcases step_device enum w e with
    hd | ⟨path, bus, rfl, hd⟩ | ⟨m, bus, rfl, hd⟩ | ⟨p, rfl, hd⟩
  · rwa [hd]
  · rw [hd]
    cases hp : w.device.proxy with
    | some px => rwa [CdDevice.setObjectPathSync_of_bound enum bus _ path (by simp [hp])]
    | none =>
      cases hc : bus.connect path with
      | error msg => rwa [CdDevice.setObjectPathSync_of_connect_error enum bus _ path hp hc]
      | ok remote =>
        obtain ⟨l, hl⟩ := (resolveEach_ok_iff _ 0 _).2 (he hp remote hc)
        rw [CdDevice.setObjectPathSync_of_resolves enum bus _ path hp hc hl]
        rintro _ ⟨⟩
        rfl
  · simpa [Subscribed, hd] using h
  · simpa [Subscribed, hd] using h

theorem run_subscribed :
    ∀ (events : List Event) {w : World}, Subscribed w.device → BindsResolve enum w events →
      Subscribed (w.run enum events).device
  | [], _, h, _ => h
  | _ :: events, _, h, ⟨he, hrest⟩ => run_subscribed events (step_subscribed enum h he) hrest

/-- **No bound but deaf device, while binds resolve.** Along every run from a new
device in which each bind that reaches the device with no proxy and connects
resolves all its profile paths, a device that holds a proxy has both signal
handlers connected. -/
theorem init_run_subscribed (events : List Event) (he : BindsResolve enum World.init events) :
    Subscribed (World.init.run enum events).device :=
  run_subscribed enum events (fun _ h => by cases h) he

/-- A later bind whose profile fails is refused, and does not count. -/
theorem init_run_subscribed_lvds :
    Subscribed (World.init.run ⟨fun _ => .unknown, fun _ => "unknown"⟩
      [.setObjectPath lvdsPath lvdsOkBus, .signal "Changed",
        .setObjectPath lvdsPath lvdsBus]).device :=
  init_run_subscribed _ _
    ⟨fun _ _ h => by cases h; exact resolves_nil _ 0, fun _ => trivial,
      fun h => Option.noConfusion h, trivial⟩

/-! ## Signals -/

/-- What an event adds to the `changed` count: one for a `Changed` signal that
reaches `cd_device_dbus_signal_cb`, nothing for any other event. -/
theorem step_changedEmitted_eq (w : World) (e : Event) :
    (w.step enum e).changedEmitted =
      w.changedEmitted + if w.device.listens "g-signal" && e.isChangedSignal then 1 else 0 := by
  cases e <;> simp only [step, Event.isChangedSignal, CdDevice.dbusSignalCb, Bool.and_false] <;>
    split_ifs <;> simp_all

theorem step_changedEmitted (w : World) (e : Event) (hl : w.device.listens "g-signal") :
    (w.step enum e).changedEmitted = w.changedEmitted + if e.isChangedSignal then 1 else 0 := by
  rw [step_changedEmitted_eq, hl, Bool.true_and]

/-- **No signal is lost or coalesced.** On a device that holds a proxy with both
handlers, a run emits `changed` exactly once for each `Changed` signal in it. -/
theorem run_changedEmitted :
    ∀ (events : List Event) {w : World}, w.device.proxy.isSome → Subscribed w.device →
      (w.run enum events).changedEmitted =
        w.changedEmitted + events.countP Event.isChangedSignal
  | [], _, _, _ => by simp
  | e :: events, w, hb, h => by
    have hp := (step_of_bound enum hb e).1
    rw [run_cons, run_changedEmitted events (hp ▸ hb) (fun q hq => h q (hp ▸ hq)),
      step_changedEmitted enum w e (listens_of_subscribed hb h (.head _)), List.countP_cons]
    omega

theorem run_changedEmitted_lvds :
    ((World.init.step ⟨fun _ => .unknown, fun _ => "unknown"⟩
        (.setObjectPath lvdsPath lvdsOkBus)).run
        ⟨fun _ => .unknown, fun _ => "unknown"⟩
        [.signal "Changed", .signal "Changed", .signal "Removed"]).changedEmitted =
      (World.init.step ⟨fun _ => .unknown, fun _ => "unknown"⟩
        (.setObjectPath lvdsPath lvdsOkBus)).changedEmitted +
      [Event.signal "Changed", .signal "Changed", .signal "Removed"].countP Event.isChangedSignal :=
  run_changedEmitted _ _ rfl fun _ h => by cases h; rfl

end World

/-- **A bind that fails on a profile leaves the device bound but deaf, for good.**
Bind returns `FALSE`, yet keeps its proxy with no handler connected, and every
later run keeps exactly that proxy: no change signal is ever handled, and every
later bind is refused by the `proxy == NULL` guard. -/
theorem failed_bind_deaf_forever (enum : CdEnum) (events : List Event) :
    (CdDevice.init.setObjectPathSync enum lvdsBus lvdsPath).2 =
        .error (some "Failed to set profile object path: no such object") ∧
      ((World.init.step enum (.setObjectPath lvdsPath lvdsBus)).run enum events).device.proxy =
        some ⟨lvdsPath, []⟩ :=
  ⟨rfl, (World.run_of_bound enum events
    (w := World.init.step enum (.setObjectPath lvdsPath lvdsBus)) rfl).1⟩

/-- The bind-time id is not fixed: a bound device whose `id` property is written
takes the written id. -/
theorem bind_identity_not_fixed :
    ¬ ∀ (enum : CdEnum) (w : World) (bus : Bus) (objectPath : ObjectPath),
      (w.device.setObjectPathSync enum bus objectPath).2 = .ok () → ∀ events : List Event,
        ((w.step enum (.setObjectPath objectPath bus)).run enum events).device.identity =
          (w.step enum (.setObjectPath objectPath bus)).device.identity := by
  intro h
  have := h ⟨fun _ => .unknown, fun _ => "unknown"⟩ World.init
    ⟨fun _ => .ok ⟨some "xrandr-LVDS1", none, none, none, []⟩, fun _ _ _ => .ok "",
      fun _ => .error "unused"⟩ "/org/freedesktop/ColorManager/devices/xrandr_LVDS1" (by decide)
    [.setProperty (.id (some "other"))]
  revert this
  decide

end Colord
