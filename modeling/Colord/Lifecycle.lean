/-
Colord.Lifecycle — the binding lifecycle of a device, as an automaton the
device model refines.

The specification gives a device two states, empty and bound, and one way
between them, a bind. The code has a third: bound, with the proxy kept, but
with no handler connected, which a bind reaches when a profile path fails.
`Lifecycle` is that automaton, `Lifecycle.step` its transition on an event, and
`CdDevice.lifecycle` the abstraction of a device's private data.

`Lifecycle.proxy` is the other direction: the proxy slot a state stands for,
`deaf` being a proxy with no handler. `HandlersFormed` (every proxy has no
handler or both of bind's) says a device's slot is the one its state stands for
(`handlersFormed_iff`).

* `step_lifecycle` — on every event, from every state, the device's lifecycle
  moves as the automaton does; `step_handlersFormed` keeps the slot the one the
  state stands for.
* `ofFirstBind` — what the automaton ends in from `unbound`: the first bind that
  connects decides, for good (`foldl_step_unbound`).
* `refines_lifecycle` — both per event, and hence, for a new device and any run:
  no bind that connects leaves it without a proxy; the first one that does
  leaves its path with both handlers if all its profile paths resolve, and with
  no handler otherwise.

The automaton also says what a device lets through. `Lifecycle.sent` and
`Lifecycle.emitted` are its outputs, and `run_sent` and
`run_changedEmitted_lifecycle` say the device's calls and `changed` signals are
exactly those, from every state whose handlers bind made. From a new device:

* `init_run_sent` — the calls sent are those made after the first bind that
  connects, each once and in order, also when that bind left the device deaf.
* `init_run_changedEmitted` — one `changed` per `Changed` signal after the first
  bind that connects, if it resolved every path, and none otherwise.
* `run_of_deaf` — a deaf device changes only by its property writes.
-/
import Colord.Run

namespace Colord

/-- How a bind on an unbound device ends, read off the bus's answers. -/
inductive BindEnd
  | connectFailed
  | profileFailed
  | resolved
  deriving DecidableEq, Repr

/-- How `cd_device_set_object_path_sync` at `objectPath` ends on an unbound
device: the connection fails, or the in-order resolution of `Profiles` does. -/
def Bus.bindEnd (bus : Bus) (objectPath : ObjectPath) : BindEnd :=
  match bus.connect objectPath with
  | .error _ => .connectFailed
  | .ok remote =>
    match resolveEach (bus.resolve 0) 0 remote.profiles with
    | .ok _ => .resolved
    | .error _ => .profileFailed

/-- The binding lifecycle of a device. -/
inductive Lifecycle
  | unbound
  | bound (objectPath : ObjectPath)
  /-- A proxy is held without the handlers bind connects. -/
  | deaf (objectPath : ObjectPath)
  deriving DecidableEq, Repr

namespace Lifecycle

/-- A bind: it moves only an unbound device, to `bound` or `deaf` at its path. -/
def bind (objectPath : ObjectPath) : BindEnd → Lifecycle → Lifecycle
  | .resolved, .unbound => .bound objectPath
  | .profileFailed, .unbound => .deaf objectPath
  | _, s => s

/-- One event: only a bind moves the lifecycle. -/
def step (s : Lifecycle) : Event → Lifecycle
  | .setObjectPath objectPath bus => bind objectPath (bus.bindEnd objectPath) s
  | _ => s

/-- The state a new device ends in: the first bind that connects decides. -/
def ofFirstBind : List Event → Lifecycle
  | [] => .unbound
  | .setObjectPath objectPath bus :: rest =>
    match bus.bindEnd objectPath with
    | .connectFailed => ofFirstBind rest
    | .resolved => .bound objectPath
    | .profileFailed => .deaf objectPath
  | _ :: rest => ofFirstBind rest

/-- The proxy slot a state stands for: none, the path with both of bind's
handlers, or the path with no handler. -/
def proxy : Lifecycle → Option GDBusProxy
  | .unbound => none
  | .bound objectPath => some ⟨objectPath, CdDevice.boundHandlers⟩
  | .deaf objectPath => some ⟨objectPath, []⟩

theorem bind_of_ne_unbound {s : Lifecycle} (h : s ≠ .unbound) (objectPath : ObjectPath)
    (e : BindEnd) : bind objectPath e s = s := by
  cases s
  · exact absurd rfl h
  all_goals cases e <;> rfl

theorem step_of_ne_unbound {s : Lifecycle} (h : s ≠ .unbound) (e : Event) : s.step e = s := by
  cases e <;> first | rfl | exact bind_of_ne_unbound h ..

/-- A bound or a deaf device stays as it is, along every run. -/
theorem foldl_step_of_ne_unbound {s : Lifecycle} (h : s ≠ .unbound) :
    ∀ events : List Event, events.foldl step s = s
  | [] => rfl
  | e :: events => by rw [List.foldl_cons, step_of_ne_unbound h, foldl_step_of_ne_unbound h]

theorem foldl_step_unbound :
    ∀ events : List Event, events.foldl step .unbound = ofFirstBind events
  | [] => rfl
  | e :: rest => by
    cases e with
    | setObjectPath objectPath bus =>
      rw [List.foldl_cons, ofFirstBind, step]
      cases Bus.bindEnd bus objectPath
      · exact foldl_step_unbound rest
      all_goals exact foldl_step_of_ne_unbound (by simp [bind]) rest
    | _ => exact foldl_step_unbound rest

end Lifecycle

/-- The lifecycle state of a device, read off its proxy. -/
def CdDevice.lifecycle (device : CdDevice) : Lifecycle :=
  match device.proxy with
  | none => .unbound
  | some p => if p.handlers = CdDevice.boundHandlers then .bound p.objectPath
    else .deaf p.objectPath

theorem CdDevice.lifecycle_congr {device device' : CdDevice} (h : device'.proxy = device.proxy) :
    device'.lifecycle = device.lifecycle := by
  simp only [CdDevice.lifecycle, h]

theorem CdDevice.lifecycle_eq_unbound {device : CdDevice} :
    device.lifecycle = .unbound ↔ device.proxy = none := by
  cases h : device.proxy with
  | none => simp [CdDevice.lifecycle, h]
  | some p => simp only [CdDevice.lifecycle, h]; split_ifs <;> simp

/-! ## Refinement -/

variable (enum : CdEnum)

/-- What bind leaves in the proxy slot of an unbound device, by how it ends. -/
theorem setObjectPathSync_proxy_of_unbound (bus : Bus) (device : CdDevice)
    (objectPath : ObjectPath) (hp : device.proxy = none) :
    (device.setObjectPathSync enum bus objectPath).1.proxy =
      match bus.bindEnd objectPath with
      | .connectFailed => none
      | .resolved => some ⟨objectPath, CdDevice.boundHandlers⟩
      | .profileFailed => some ⟨objectPath, []⟩ := by
  cases hc : bus.connect objectPath with
  | error msg =>
    simp [CdDevice.setObjectPathSync_of_connect_error enum bus device objectPath hp hc,
      Bus.bindEnd, hc, hp]
  | ok remote =>
    cases hr : resolveEach (bus.resolve 0) 0 remote.profiles with
    | ok l =>
      simp [CdDevice.setObjectPathSync_of_resolves enum bus device objectPath hp hc hr,
        Bus.bindEnd, hc, hr]
    | error msg =>
      have hres : ¬ Resolves (bus.resolve 0) 0 remote.profiles := fun hres => by
        simpa [hr] using (resolveEach_ok_iff _ 0 _).2 hres
      simp [CdDevice.setObjectPathSync_of_unresolved enum bus device objectPath hp hc hres,
        Bus.bindEnd, hc, hr]

/-- Bind moves the device's lifecycle as `Lifecycle.bind` does. -/
theorem setObjectPathSync_lifecycle (bus : Bus) (device : CdDevice) (objectPath : ObjectPath) :
    (device.setObjectPathSync enum bus objectPath).1.lifecycle =
      Lifecycle.bind objectPath (bus.bindEnd objectPath) device.lifecycle := by
  cases hp : device.proxy with
  | some p =>
    rw [CdDevice.setObjectPathSync_of_bound enum bus device objectPath (by simp [hp]),
      Lifecycle.bind_of_ne_unbound (by simp [CdDevice.lifecycle_eq_unbound, hp])]
  | none =>
    rw [CdDevice.lifecycle_eq_unbound.2 hp, CdDevice.lifecycle,
      setObjectPathSync_proxy_of_unbound enum bus device objectPath hp]
    cases bus.bindEnd objectPath <;> simp [Lifecycle.bind, CdDevice.boundHandlers]

/-- **The device refines its lifecycle, one event at a time.** From every state, on
every event, the device's lifecycle moves exactly as the automaton does. -/
theorem step_lifecycle (w : World) (e : Event) :
    (w.step enum e).device.lifecycle = w.device.lifecycle.step e := by
  cases e with
  | setObjectPath objectPath bus => exact setObjectPathSync_lifecycle enum bus w.device objectPath
  | propertiesChanged m bus =>
    simp only [World.step]
    split_ifs
    · exact CdDevice.lifecycle_congr (CdDevice.dbusPropertiesChanged_proxy ..)
    · rfl
  | signal _ => simp only [World.step]; split_ifs <;> rfl
  | setProperty p => cases p <;> rfl
  | _ => rfl

/-- Every proxy the device holds has no handler connected, or both of bind's. -/
def HandlersFormed (device : CdDevice) : Prop :=
  ∀ p, device.proxy = some p → p.handlers = [] ∨ p.handlers = CdDevice.boundHandlers

theorem handlersFormed_iff (device : CdDevice) :
    HandlersFormed device ↔ device.proxy = device.lifecycle.proxy := by
  cases hp : device.proxy with
  | none => simp [HandlersFormed, CdDevice.lifecycle, hp, Lifecycle.proxy]
  | some q =>
    obtain ⟨path, handlers⟩ := q
    by_cases h : handlers = CdDevice.boundHandlers <;>
      simp [HandlersFormed, CdDevice.lifecycle, hp, h, Lifecycle.proxy]

theorem step_handlersFormed {w : World} (h : HandlersFormed w.device) (e : Event) :
    HandlersFormed (w.step enum e).device := by
  rcases World.step_device enum w e with
    hd | ⟨path, bus, rfl, hd⟩ | ⟨m, bus, rfl, hd⟩ | ⟨p, rfl, hd⟩
  · rwa [hd]
  · rw [hd]
    cases hp : w.device.proxy with
    | some q => rwa [CdDevice.setObjectPathSync_of_bound enum bus _ path (by simp [hp])]
    | none =>
      intro q hq
      rw [setObjectPathSync_proxy_of_unbound enum bus _ path hp] at hq
      revert hq
      cases bus.bindEnd path <;> intro hq <;> cases hq <;> simp
  · simpa [HandlersFormed, hd] using h
  · simpa [HandlersFormed, hd] using h

theorem run_handlersFormed :
    ∀ (events : List Event) {w : World}, HandlersFormed w.device →
      HandlersFormed (w.run enum events).device
  | [], _, h => h
  | e :: events, _, h => run_handlersFormed events (step_handlersFormed enum h e)

/-- Along every run from every state, the device's lifecycle is the automaton's,
run over the same events. -/
theorem run_lifecycle :
    ∀ (events : List Event) (w : World),
      (w.run enum events).device.lifecycle = events.foldl Lifecycle.step w.device.lifecycle
  | [], _ => rfl
  | e :: events, w => by rw [World.run_cons, run_lifecycle events, step_lifecycle, List.foldl_cons]

/-- After any run from a new device, its lifecycle is the automaton's from
`unbound`: the first bind that connects decides. -/
theorem init_run_lifecycle (events : List Event) :
    (World.init.run enum events).device.lifecycle = Lifecycle.ofFirstBind events := by
  rw [run_lifecycle, ← Lifecycle.foldl_step_unbound]
  rfl

/-- **The device refines its lifecycle.** On every event from every state the
device's lifecycle moves as the automaton does, and where the proxy slot is the
one the state stands for (`Lifecycle.proxy`; by `handlersFormed_iff`, where every
proxy has no handler or both of bind's) it still is after the event. A new device
is such a state, so after any run from it the proxy slot is the one the automaton
ends in from `unbound`: none if no bind connected; otherwise the first bind that
connected decided it for good, its path with both handlers if all its profile
paths resolved, its path with no handler if one did not. -/
theorem refines_lifecycle :
    (∀ (w : World) (e : Event),
      (w.step enum e).device.lifecycle = w.device.lifecycle.step e ∧
        (w.device.proxy = w.device.lifecycle.proxy →
          (w.step enum e).device.proxy = (w.device.lifecycle.step e).proxy)) ∧
    ∀ events : List Event,
      (World.init.run enum events).device.proxy = (Lifecycle.ofFirstBind events).proxy := by
  refine ⟨fun w e => ⟨step_lifecycle enum w e, fun h => ?_⟩, fun events => ?_⟩
  · rw [← step_lifecycle enum w e]
    exact (handlersFormed_iff _).1 (step_handlersFormed enum ((handlersFormed_iff _).2 h) e)
  · rw [← init_run_lifecycle enum events]
    exact (handlersFormed_iff _).1 (run_handlersFormed enum events fun _ h => by cases h)

/-- A bind that fails on a profile, then one that would succeed: the device keeps
the first proxy, with no handler. -/
example :
    (World.init.run ⟨fun _ => .unknown, fun _ => "unknown"⟩
      [.setObjectPath lvdsPath lvdsBus,
        .setObjectPath lvdsPath World.lvdsOkBus]).device.proxy =
      (Lifecycle.deaf lvdsPath).proxy := by
  decide

/-! ## What the lifecycle lets through

The lifecycle also says what a device lets out. A call goes out exactly when a
proxy is held, so also from a deaf device. A `Changed` signal is re-emitted
exactly when the device is bound: only bind connects handlers, and it connects
both or none (`HandlersFormed`). -/

namespace Lifecycle

/-- A proxy is held, so the calls of the public API go out. -/
def holdsProxy : Lifecycle → Bool
  | .unbound => false
  | _ => true

/-- The proxy's signals reach the device. -/
def listens : Lifecycle → Bool
  | .bound _ => true
  | _ => false

/-- The method calls a device sends along `events` from `s`. -/
def sent (enum : CdEnum) : Lifecycle → List Event → List MethodCall
  | _, [] => []
  | s, e :: rest =>
    (if s.holdsProxy then (e.call? enum).toList else []) ++ sent enum (s.step e) rest

/-- The `changed` signals a device emits along `events` from `s`. -/
def emitted : Lifecycle → List Event → Nat
  | _, [] => 0
  | s, e :: rest => (if s.listens && e.isChangedSignal then 1 else 0) + emitted (s.step e) rest

/-- The events after the first bind that connects; none if no bind does. -/
def afterFirstConnect : List Event → List Event
  | [] => []
  | .setObjectPath objectPath bus :: rest =>
    match bus.bindEnd objectPath with
    | .connectFailed => afterFirstConnect rest
    | _ => rest
  | _ :: rest => afterFirstConnect rest

theorem sent_of_holdsProxy (enum : CdEnum) {s : Lifecycle} (h : s.holdsProxy) :
    ∀ events : List Event, sent enum s events = events.filterMap (Event.call? enum)
  | [] => rfl
  | e :: rest => by
    have hs : s ≠ .unbound := by rintro rfl; exact absurd h (by decide)
    rw [sent, if_pos h, step_of_ne_unbound hs, sent_of_holdsProxy enum h rest,
      List.filterMap_cons]
    rcases e.call? enum with _ | c <;> rfl

/-- From `unbound`, the calls made before the first bind that connects are refused,
and every call after it goes out, in order. -/
theorem sent_unbound (enum : CdEnum) :
    ∀ events : List Event,
      sent enum .unbound events = (afterFirstConnect events).filterMap (Event.call? enum)
  | [] => rfl
  | e :: rest => by
    cases e with
    | setObjectPath objectPath bus =>
      simp only [sent, holdsProxy, Bool.false_eq_true, ↓reduceIte, List.nil_append, step,
        afterFirstConnect]
      cases bus.bindEnd objectPath
      · exact sent_unbound enum rest
      all_goals exact sent_of_holdsProxy enum (by rfl) rest
    | _ => exact sent_unbound enum rest

theorem emitted_of_ne_unbound {s : Lifecycle} (h : s ≠ .unbound) :
    ∀ events : List Event,
      emitted s events = if s.listens then events.countP Event.isChangedSignal else 0
  | [] => by simp [emitted]
  | e :: rest => by
    rw [emitted, step_of_ne_unbound h, emitted_of_ne_unbound h rest, List.countP_cons]
    cases s.listens <;> cases e.isChangedSignal <;> simp [Nat.add_comm]

/-- From `unbound`, a `Changed` signal is re-emitted exactly when the first bind
that connects resolved every path and the signal comes after it. -/
theorem emitted_unbound :
    ∀ events : List Event, emitted .unbound events =
      if (ofFirstBind events).listens then (afterFirstConnect events).countP Event.isChangedSignal
      else 0
  | [] => rfl
  | e :: rest => by
    cases e with
    | setObjectPath objectPath bus =>
      simp only [emitted, listens, Bool.false_and, Bool.false_eq_true, ↓reduceIte, Nat.zero_add,
        step, ofFirstBind, afterFirstConnect]
      cases bus.bindEnd objectPath
      · exact emitted_unbound rest
      all_goals exact emitted_of_ne_unbound (by simp [bind]) rest
    | _ => simpa [emitted, listens, ofFirstBind, afterFirstConnect] using emitted_unbound rest

end Lifecycle

theorem CdDevice.holdsProxy_lifecycle (device : CdDevice) :
    device.lifecycle.holdsProxy = device.proxy.isSome := by
  cases h : device.proxy with
  | none => simp [CdDevice.lifecycle, h, Lifecycle.holdsProxy]
  | some p => simp only [CdDevice.lifecycle, h]; split_ifs <;> rfl

theorem listens_gSignal_eq {device : CdDevice} (hf : HandlersFormed device) :
    device.listens "g-signal" = device.lifecycle.listens := by
  cases hp : device.proxy with
  | none => simp [CdDevice.listens, CdDevice.lifecycle, hp, Lifecycle.listens]
  | some p =>
    rcases hf p hp with h | h <;>
      simp [CdDevice.listens, CdDevice.lifecycle, hp, h, Lifecycle.listens, CdDevice.boundHandlers]

/-- What an event adds to the calls sent: its call, if it is one and a proxy is held. -/
theorem step_sent (w : World) (e : Event) :
    (w.step enum e).sent =
      w.sent ++ if w.device.proxy.isSome then (e.call? enum).toList else [] := by
  cases e <;>
    simp [World.step, Event.call?, CdDevice.setModelSync, CdDevice.setKindSync,
      CdDevice.addProfileSync, CdDevice.makeProfileDefaultSync, CdDevice.setPropertySync,
      CdDevice.requireProxy_fst, CdDevice.getProfileForQualifierSync_fst] <;>
    split_ifs <;> rfl

theorem run_sent :
    ∀ (events : List Event) (w : World),
      (w.run enum events).sent = w.sent ++ Lifecycle.sent enum w.device.lifecycle events
  | [], w => by simp [Lifecycle.sent]
  | e :: events, w => by
    rw [World.run_cons, run_sent events, step_sent, step_lifecycle, Lifecycle.sent,
      CdDevice.holdsProxy_lifecycle, List.append_assoc]

theorem run_changedEmitted_lifecycle :
    ∀ (events : List Event) {w : World}, HandlersFormed w.device →
      (w.run enum events).changedEmitted =
        w.changedEmitted + Lifecycle.emitted w.device.lifecycle events
  | [], _, _ => rfl
  | e :: events, w, hf => by
    rw [World.run_cons, run_changedEmitted_lifecycle events (step_handlersFormed enum hf e),
      World.step_changedEmitted_eq, step_lifecycle, Lifecycle.emitted, listens_gSignal_eq hf]
    omega

/-- **The calls a device sends, over any run.** Along any run from a new device, the
calls it sends are exactly those of the public API made after the first bind that
connected, each once and in order, whether that bind resolved its profiles or not;
every call made before it is refused by the `proxy != NULL` precondition. -/
theorem init_run_sent (events : List Event) :
    (World.init.run enum events).sent =
      (Lifecycle.afterFirstConnect events).filterMap (Event.call? enum) := by
  rw [run_sent, ← Lifecycle.sent_unbound]
  rfl

/-- A call made before any bind is refused; after a bind that failed on a profile
it goes out, although the device hears nothing back. -/
example :
    (World.init.run ⟨fun _ => .unknown, fun _ => "unknown"⟩
      [.setModel "a" lvdsBus, .setObjectPath lvdsPath lvdsBus, .setModel "b" lvdsBus]).sent =
      [.setProperty "Model" "b"] := by
  decide

/-- **The `changed` signals a device emits, over any run.** Along any run from a
new device, the device emits `changed` once for each `Changed` signal that comes
after the first bind that connected, if that bind resolved every profile path,
and never otherwise. -/
theorem init_run_changedEmitted (events : List Event) :
    (World.init.run enum events).changedEmitted =
      if (Lifecycle.ofFirstBind events).listens then
        (Lifecycle.afterFirstConnect events).countP Event.isChangedSignal
      else 0 := by
  rw [run_changedEmitted_lifecycle enum events (fun _ h => by cases h),
    ← Lifecycle.emitted_unbound]
  exact Nat.zero_add _

/-! ## A deaf device -/

/-- The GObject property an event writes, if it is a write. -/
def Event.write? : Event → Option Property
  | .setProperty p => some p
  | _ => none

/-- A device holding a proxy with no handler changes only by a property write. -/
theorem step_of_deaf {w : World} {objectPath : ObjectPath}
    (h : w.device.proxy = some ⟨objectPath, []⟩) (e : Event) :
    (w.step enum e).device = e.write?.elim w.device w.device.setProperty := by
  cases e with
  | setObjectPath path bus =>
    simp [World.step, CdDevice.setObjectPathSync_of_bound enum bus w.device path (by simp [h]),
      Event.write?]
  | propertiesChanged m bus => simp [World.step, CdDevice.listens, h, Event.write?]
  | signal _ => simp only [World.step]; split_ifs <;> rfl
  | _ => rfl

/-- **A deaf device never hears from the daemon again.** A device that holds a proxy
with no handler connected, as a bind that fails on a profile path leaves it, changes
along any run only by the writes of its GObject properties, in order: no later
update of the daemon, signal, call or bind changes it. -/
theorem run_of_deaf {objectPath : ObjectPath} :
    ∀ (events : List Event) {w : World}, w.device.proxy = some ⟨objectPath, []⟩ →
      (w.run enum events).device =
        (events.filterMap Event.write?).foldl CdDevice.setProperty w.device
  | [], _, _ => rfl
  | e :: events, w, h => by
    have hs := step_of_deaf enum h e
    have hp : (w.step enum e).device.proxy = some ⟨objectPath, []⟩ := by
      rw [hs]
      cases e.write? <;> simpa using h
    rw [World.run_cons, run_of_deaf events hp, hs]
    cases e <;> rfl

theorem run_of_deaf_lvds :
    ((World.init.step ⟨fun _ => .unknown, fun _ => "unknown"⟩
        (.setObjectPath lvdsPath lvdsBus)).run ⟨fun _ => .unknown, fun _ => "unknown"⟩
        [.propertiesChanged ⟨[("Model", .string "b")], [], by decide⟩ lvdsBus,
          .setProperty (.model (some "LVDS1"))]).device =
      ([Event.propertiesChanged ⟨[("Model", .string "b")], [], by decide⟩ lvdsBus,
          .setProperty (.model (some "LVDS1"))].filterMap Event.write?).foldl CdDevice.setProperty
        (World.init.step ⟨fun _ => .unknown, fun _ => "unknown"⟩
          (.setObjectPath lvdsPath lvdsBus)).device :=
  run_of_deaf _ _ rfl

end Colord
