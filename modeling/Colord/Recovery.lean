/-
Colord.Recovery — the mirror when profile resolutions fail or values are not sent.

`cd_device_dbus_properties_changed` drops the error of
`cd_device_set_profiles_array_from_variant`: when a path of a `Profiles` entry
does not resolve, the device keeps the profiles resolved before it and the
message is otherwise handled as usual. This module says how far the mirror can
then drift from the daemon's device, and how it comes back.

* `update_profiles_of_not_carried` — an update that carries no `Profiles`
  leaves the profile list alone, and the daemon's did not change either.
* `update_profiles_of_carried` — an update that carries `Profiles` leaves the
  profile paths a prefix of the daemon's new list, whatever the resolutions
  answer, and exactly that list when they all resolve.
* `sync_trails` — along every run that binds with all paths resolving and then
  announces each update with its changed values, the id, model, kind and
  created time always equal the daemon's, and the profile paths are always a
  prefix of the daemon's list: a failure can lose profiles from the end, but
  never keeps one of an older list, adds one, or reorders them.
* `sync_recovers` — after any such run, the first update that carries
  `Profiles` with every path resolving brings the whole mirror back to a new
  bind's, and it stays so while each later update that carries `Profiles`
  resolves.
* `sync_fields_of_carried` — when a change is announced only as an invalidated
  name, which the handler never reads, the staleness stays with that property:
  id and created always follow the daemon, and the model (the kind) does along
  every run that sends each of its own changes with the value.
* `sync_field_recovers` — and it lasts only until the property is next sent:
  the update that sends it sets it to the daemon's, however stale it was.

Assumed, as hypotheses: the first bind resolves every path (otherwise no
handler is connected and nothing is mirrored), and, for the first three, each
message carries the value of every property that changed (otherwise the mirror can fall behind
even when every path resolves).
-/
import Colord.Sync

namespace Colord

/-- A run of the daemon and the client, each update announced as `Msg` says,
whatever the profile resolutions answer. -/
def AnnouncedRun (Msg : RemoteDevice → RemoteDevice → PropertiesChanged → Prop) :
    RemoteDevice → List SyncEvent → Prop
  | _, [] => True
  | r, .update r' m _ :: rest => Msg r r' m ∧ AnnouncedRun Msg r' rest
  | r, .client e :: rest => e.isSignalOrCall ∧ AnnouncedRun Msg r rest

/-- Every update of `events` that carries `Profiles` resolves all of its paths. -/
def ProfilesSettle (events : List SyncEvent) : Prop :=
  ∀ r m bus, SyncEvent.update r m bus ∈ events → "Profiles" ∈ m.changed.map Prod.fst →
    ∀ j, Resolves (bus.resolve j) 0 r.profiles

/-- The daemon's device and the client after the client binds a new device to
`r₀` at `objectPath` and `events` follow. -/
def syncFrom (enum : CdEnum) (objectPath : ObjectPath) (bus : Bus) (r₀ : RemoteDevice)
    (events : List SyncEvent) : RemoteDevice × World :=
  events.foldl (syncStep enum) (r₀, World.init.step enum (.setObjectPath objectPath bus))

variable (enum : CdEnum)

/-- The invariant when resolutions can fail: the fields mirror the daemon's, the
profile paths are a prefix of the daemon's, and the device listens. -/
def Trails (r : RemoteDevice) (w : World) : Prop :=
  w.device.mirror.fields = (r.mirror enum).fields ∧ w.device.mirror.profiles <+: r.profiles ∧
    w.device.proxy.isSome ∧ World.Subscribed w.device

theorem agrees_iff_trails {r : RemoteDevice} {w : World} :
    Agrees enum r w ↔ Trails enum r w ∧ w.device.mirror.profiles = r.profiles := by
  simp only [Agrees, Trails, Mirror.fields, CdDevice.mirror, RemoteDevice.mirror,
    Mirror.mk.injEq, Prod.mk.injEq]
  constructor
  · rintro ⟨⟨h₁, h₂, h₃, h₄, h₅⟩, hb, hs⟩
    exact ⟨⟨⟨h₁, h₂, h₃, h₄⟩, h₅ ▸ List.prefix_refl _, hb, hs⟩, h₅⟩
  · rintro ⟨⟨⟨h₁, h₂, h₃, h₄⟩, -, hb, hs⟩, h₅⟩
    exact ⟨⟨h₁, h₂, h₃, h₄, h₅⟩, hb, hs⟩

/-! ## One update -/

section Update

variable (resolve : Nat → Nat → ObjectPath → Except String String)
  {r r' : RemoteDevice} {m : PropertiesChanged}

/-- Every `Profiles` entry of an announced message carries the daemon's new list. -/
theorem profiles_entry (hann : Announces r r' m) {e : String × Variant} (he : e ∈ m.changed)
    (hN : e.1 = "Profiles") : e.2 = .objectPaths r'.profiles := by
  have hv := hann.values e he
  rw [hN, RemoteDevice.get_Profiles] at hv
  exact (Option.some.inj hv).symm

theorem profiles_keep (j : Nat) (device : CdDevice) (name : String) (value : Variant)
    (hn : name ≠ "Profiles") :
    (CdDevice.propertyChanged enum resolve j device name value).mirror.profiles =
      device.mirror.profiles := by
  simp [CdDevice.mirror, CdDevice.propertyChanged_profiles_of_ne _ _ _ _ _ hn]

/-- An update that carries no `Profiles` keeps the profile list, and, announced with
every changed value, comes with a daemon whose list did not change. -/
theorem update_profiles_of_not_carried (hcar : CarriesValues r r' m) (device : CdDevice)
    (hN : "Profiles" ∉ m.changed.map Prod.fst) :
    (device.dbusPropertiesChanged enum resolve m).mirror.profiles = device.mirror.profiles ∧
      r'.profiles = r.profiles := by
  refine ⟨propertiesChangedLoop_keep enum resolve (·.mirror.profiles) "Profiles"
    (profiles_keep enum resolve) 0 m.changed device hN, ?_⟩
  by_contra hne
  exact hN (hcar "Profiles" (by simpa [eq_comm] using hne))

/-- An update that carries `Profiles` leaves the profile paths a prefix of the
daemon's new list whatever the resolutions answer, and that whole list when every
path resolves. -/
theorem update_profiles_of_carried (hann : Announces r r' m) (device : CdDevice)
    (hN : "Profiles" ∈ m.changed.map Prod.fst) :
    (device.dbusPropertiesChanged enum resolve m).mirror.profiles <+: r'.profiles ∧
      ((∀ j, Resolves (resolve j) 0 r'.profiles) →
        (device.dbusPropertiesChanged enum resolve m).mirror.profiles = r'.profiles) := by
  refine propertiesChangedLoop_occurs enum resolve (·.mirror.profiles) "Profiles"
    (fun l => l <+: r'.profiles ∧ ((∀ j, Resolves (resolve j) 0 r'.profiles) → l = r'.profiles))
    (profiles_keep enum resolve) 0 m.changed device (fun e he hN' j d => ?_) hN
  rw [profiles_entry hann he hN', CdDevice.propertyChanged_Profiles]
  refine ⟨by simpa using setProfilesArray_prefix (resolve j) d (.objectPaths r'.profiles),
    fun hres => ?_⟩
  obtain ⟨l, hl⟩ := (resolveEach_ok_iff _ 0 _).2 (hres j)
  simp [CdDevice.mirror, @setProfilesArray_success (resolve j) d (.objectPaths r'.profiles) _ hl,
    resolveEach_objectPaths _ hl]

end Update

/-! ## Steps and runs -/

/-- A device that holds a proxy with both handlers applies a delivered update. -/
theorem step_update_bound {w : World} {m : PropertiesChanged} {bus : Bus}
    (hb : w.device.proxy.isSome) (hs : World.Subscribed w.device) :
    (w.step enum (.propertiesChanged m bus)).device =
      w.device.dbusPropertiesChanged enum bus.resolve m := by
  simp [World.step, World.listens_of_subscribed hb hs (.tail _ (.head _))]

theorem step_trails_update {r r' : RemoteDevice} {m : PropertiesChanged} {bus : Bus}
    {w : World} (h : Trails enum r w) (hann : Announces r r' m) (hcar : CarriesValues r r' m) :
    Trails enum r' (w.step enum (.propertiesChanged m bus)) := by
  obtain ⟨hf, hp, hb, hs⟩ := h
  rw [Trails, step_update_bound enum hb hs]
  refine ⟨update_fields enum bus.resolve hann hcar hf, ?_, by simpa using hb,
    by simpa [World.Subscribed] using hs⟩
  by_cases hN : "Profiles" ∈ m.changed.map Prod.fst
  · exact (update_profiles_of_carried enum bus.resolve hann _ hN).1
  · obtain ⟨h₁, h₂⟩ := update_profiles_of_not_carried enum bus.resolve hcar w.device hN
    rwa [h₁, h₂]

/-- An update keeps the mirror whole if it carries no `Profiles` or resolves them
all, and brings it back whole from a trailing one if it carries and resolves them. -/
theorem step_agrees_of_trails {r r' : RemoteDevice} {m : PropertiesChanged} {bus : Bus}
    {w : World} (h : Trails enum r w) (hann : Announces r r' m) (hcar : CarriesValues r r' m)
    (hsettle : "Profiles" ∈ m.changed.map Prod.fst → ∀ j, Resolves (bus.resolve j) 0 r'.profiles)
    (hprev : "Profiles" ∉ m.changed.map Prod.fst → w.device.mirror.profiles = r.profiles) :
    Agrees enum r' (w.step enum (.propertiesChanged m bus)) := by
  refine (agrees_iff_trails enum).2 ⟨step_trails_update enum h hann hcar, ?_⟩
  rw [step_update_bound enum h.2.2.1 h.2.2.2]
  by_cases hN : "Profiles" ∈ m.changed.map Prod.fst
  · exact (update_profiles_of_carried enum bus.resolve hann _ hN).2 (hsettle hN)
  · obtain ⟨h₁, h₂⟩ := update_profiles_of_not_carried enum bus.resolve hcar w.device hN
    rw [h₁, h₂, hprev hN]

theorem step_trails_client {r : RemoteDevice} {w : World} {e : Event} (h : Trails enum r w)
    (he : e.isSignalOrCall) : Trails enum r (w.step enum e) := by
  unfold Trails
  rwa [step_device_of_isSignalOrCall enum w he]

theorem run_trails :
    ∀ (events : List SyncEvent) {r : RemoteDevice} {w : World}, Trails enum r w →
      AnnouncedRun (fun r r' m => Announces r r' m ∧ CarriesValues r r' m) r events →
        Trails enum (events.foldl (syncStep enum) (r, w)).1
          (events.foldl (syncStep enum) (r, w)).2
  | [], _, _, h, _ => h
  | .update _ _ _ :: rest, _, _, h, ⟨⟨hann, hcar⟩, hrest⟩ =>
    run_trails rest (step_trails_update enum h hann hcar) hrest
  | .client _ :: rest, _, _, h, ⟨he, hrest⟩ =>
    run_trails rest (step_trails_client enum h he) hrest

theorem run_agrees_settled :
    ∀ (events : List SyncEvent) {r : RemoteDevice} {w : World}, Agrees enum r w →
      AnnouncedRun (fun r r' m => Announces r r' m ∧ CarriesValues r r' m) r events →
        ProfilesSettle events →
        Agrees enum (events.foldl (syncStep enum) (r, w)).1
          (events.foldl (syncStep enum) (r, w)).2
  | [], _, _, h, _, _ => h
  | .update r' m bus :: rest, _, _, h, ⟨⟨hann, hcar⟩, hrest⟩, hsettle => by
    have ht := (agrees_iff_trails enum).1 h
    exact run_agrees_settled rest (step_agrees_of_trails enum ht.1 hann hcar
      (hsettle r' m bus (.head _)) fun _ => ht.2) hrest
      fun r m bus hmem => hsettle r m bus (.tail _ hmem)
  | .client _ :: rest, _, _, h, ⟨he, hrest⟩, hsettle =>
    run_agrees_settled rest (step_agrees_client enum h he) hrest
      fun r m bus hmem => hsettle r m bus (.tail _ hmem)

/-- From a trailing mirror, a run whose first update carrying resolving `Profiles`
comes after `events₁` ends with the whole mirror. -/
theorem run_recovers (r : RemoteDevice) (m : PropertiesChanged) (busU : Bus)
    (events₂ : List SyncEvent) (hN : "Profiles" ∈ m.changed.map Prod.fst)
    (hsettle : ProfilesSettle (.update r m busU :: events₂)) :
    ∀ (events₁ : List SyncEvent) {r₁ : RemoteDevice} {w : World}, Trails enum r₁ w →
      AnnouncedRun (fun r r' m => Announces r r' m ∧ CarriesValues r r' m) r₁
        (events₁ ++ .update r m busU :: events₂) →
      Agrees enum ((events₁ ++ .update r m busU :: events₂).foldl (syncStep enum) (r₁, w)).1
        ((events₁ ++ .update r m busU :: events₂).foldl (syncStep enum) (r₁, w)).2
  | [], _, _, h, ⟨⟨hann, hcar⟩, hrest⟩ =>
    run_agrees_settled enum events₂
      (step_agrees_of_trails enum h hann hcar (hsettle r m busU (.head _)) fun h' => absurd hN h')
      hrest fun r m bus hmem => hsettle r m bus (.tail _ hmem)
  | .update _ _ _ :: rest, _, _, h, ⟨⟨hann, hcar⟩, hrest⟩ =>
    run_recovers r m busU events₂ hN hsettle rest (step_trails_update enum h hann hcar) hrest
  | .client _ :: rest, _, _, h, ⟨he, hrest⟩ =>
    run_recovers r m busU events₂ hN hsettle rest (step_trails_client enum h he) hrest

/-! ## The mirror along a run with failures -/

/-- **A failed profile resolution loses only profiles, and only from the end.**
Bind a new device to the daemon's device `r₀`, every path resolving; then run any
updates, each announced with the value of every property it changes, interleaved
with any signals and calls, whatever each later profile resolution answers. After
every step the device's id, model, kind and created time are the daemon's, and its
profile paths are a prefix of the daemon's current list. -/
theorem sync_trails (objectPath : ObjectPath) (bus : Bus) (r₀ : RemoteDevice)
    (hconn : bus.connect objectPath = .ok r₀) (hres : Resolves (bus.resolve 0) 0 r₀.profiles)
    (events : List SyncEvent)
    (hrun : AnnouncedRun (fun r r' m => Announces r r' m ∧ CarriesValues r r' m) r₀ events) :
    (syncFrom enum objectPath bus r₀ events).2.device.mirror.fields =
        ((syncFrom enum objectPath bus r₀ events).1.mirror enum).fields ∧
      (syncFrom enum objectPath bus r₀ events).2.device.mirror.profiles <+:
        (syncFrom enum objectPath bus r₀ events).1.profiles :=
  have h := run_trails enum events ((agrees_iff_trails enum).1 (agrees_bind enum hconn hres)).1
    hrun
  ⟨h.1, h.2.1⟩

/-- **The mirror recovers at the next resolved profile list.** After a bind that
resolves every path and any run of announced updates, some of whose profile paths
fail, the first update that carries `Profiles` with every path resolving makes the
whole mirror (id, model, kind, created time and profile paths) that of a new device
bound to the daemon's device, and it stays so while every later update that carries
`Profiles` resolves them. -/
theorem sync_recovers (objectPath : ObjectPath) (bus : Bus) (r₀ : RemoteDevice)
    (hconn : bus.connect objectPath = .ok r₀) (hres : Resolves (bus.resolve 0) 0 r₀.profiles)
    (events₁ : List SyncEvent) (r : RemoteDevice) (m : PropertiesChanged) (busU : Bus)
    (events₂ : List SyncEvent)
    (hrun : AnnouncedRun (fun r r' m => Announces r r' m ∧ CarriesValues r r' m) r₀
      (events₁ ++ .update r m busU :: events₂))
    (hN : "Profiles" ∈ m.changed.map Prod.fst)
    (hsettle : ProfilesSettle (.update r m busU :: events₂)) :
    (syncFrom enum objectPath bus r₀ (events₁ ++ .update r m busU :: events₂)).2.device.mirror =
      (syncFrom enum objectPath bus r₀ (events₁ ++ .update r m busU :: events₂)).1.mirror enum :=
  (run_recovers enum r m busU events₂ hN hsettle events₁
    ((agrees_iff_trails enum).1 (agrees_bind enum hconn hres)).1 hrun).1

/-! ## A profile list whose second path fails, then resolves -/

/-- The daemon's device once it publishes two profiles. -/
def lvdsTwoProfiles : RemoteDevice := { lvdsModelA with profiles := ["/p/0", "/p/1"] }

/-- A bus on which `/p/1` does not resolve. -/
def secondFails : Bus :=
  ⟨fun _ => .error "unused", fun _ _ p => if p = "/p/1" then .error "no such object" else .ok "icc",
    fun _ => .error "unused"⟩

theorem announces_profilesChanged : Announces lvdsModelA lvdsTwoProfiles profilesChanged :=
  ⟨rfl, rfl, by decide, fun _ h => .inl (by rw [get_withProfiles_ne h]; decide)⟩

theorem carriesValues_profilesChanged : CarriesValues lvdsModelA lvdsTwoProfiles profilesChanged :=
  fun _ h => by rw [get_withProfiles_ne h]; decide

theorem sync_trails_lvds :
    (syncFrom ⟨fun _ => .unknown, fun _ => "unknown"⟩ lvdsPath (busAt lvdsModelA) lvdsModelA
        [.update lvdsTwoProfiles profilesChanged secondFails]).2.device.mirror.fields =
        ((syncFrom ⟨fun _ => .unknown, fun _ => "unknown"⟩ lvdsPath (busAt lvdsModelA) lvdsModelA
          [.update lvdsTwoProfiles profilesChanged secondFails]).1.mirror
            ⟨fun _ => .unknown, fun _ => "unknown"⟩).fields ∧
      (syncFrom ⟨fun _ => .unknown, fun _ => "unknown"⟩ lvdsPath (busAt lvdsModelA) lvdsModelA
        [.update lvdsTwoProfiles profilesChanged secondFails]).2.device.mirror.profiles <+:
        (syncFrom ⟨fun _ => .unknown, fun _ => "unknown"⟩ lvdsPath (busAt lvdsModelA) lvdsModelA
          [.update lvdsTwoProfiles profilesChanged secondFails]).1.profiles :=
  sync_trails _ _ _ _ rfl (resolves_nil _ 0) _
    ⟨⟨announces_profilesChanged, carriesValues_profilesChanged⟩, trivial⟩

/-- The failed update leaves the first profile only. -/
example :
    (syncFrom ⟨fun _ => .unknown, fun _ => "unknown"⟩ lvdsPath (busAt lvdsModelA) lvdsModelA
      [.update lvdsTwoProfiles profilesChanged secondFails]).2.device.mirror.profiles =
      ["/p/0"] := by
  decide

theorem announces_profilesChanged_again :
    Announces lvdsTwoProfiles lvdsTwoProfiles profilesChanged :=
  ⟨rfl, rfl, by decide, fun _ h => absurd rfl h⟩

theorem sync_recovers_lvds :
    (syncFrom ⟨fun _ => .unknown, fun _ => "unknown"⟩ lvdsPath (busAt lvdsModelA) lvdsModelA
        ([.update lvdsTwoProfiles profilesChanged secondFails] ++
          [.update lvdsTwoProfiles profilesChanged (busAt lvdsTwoProfiles)])).2.device.mirror =
      (syncFrom ⟨fun _ => .unknown, fun _ => "unknown"⟩ lvdsPath (busAt lvdsModelA) lvdsModelA
        ([.update lvdsTwoProfiles profilesChanged secondFails] ++
          [.update lvdsTwoProfiles profilesChanged (busAt lvdsTwoProfiles)])).1.mirror
        ⟨fun _ => .unknown, fun _ => "unknown"⟩ :=
  sync_recovers _ _ _ _ rfl (resolves_nil _ 0) [.update lvdsTwoProfiles profilesChanged secondFails]
    _ _ _ [] ⟨⟨announces_profilesChanged, carriesValues_profilesChanged⟩,
      ⟨announces_profilesChanged_again, fun _ h => absurd rfl h⟩, trivial⟩
    (by decide) fun _ _ _ hmem _ _ => by
      simp only [List.mem_singleton, SyncEvent.update.injEq] at hmem
      obtain ⟨-, -, rfl⟩ := hmem
      exact fun _ _ _ => ⟨_, rfl⟩

/-! ## Each field on its own

Under the D-Bus properties protocol alone a change can be announced as an
invalidated name, which the handler never reads (`Announces`). The staleness
that follows stays with that property: every other field keeps following the
daemon. -/

/-- The device holds a proxy with both handlers. -/
def Listening (w : World) : Prop :=
  w.device.proxy.isSome ∧ World.Subscribed w.device

theorem step_listening_update {w : World} {m : PropertiesChanged} {bus : Bus}
    (h : Listening w) : Listening (w.step enum (.propertiesChanged m bus)) := by
  rw [Listening, step_update_bound enum h.1 h.2]
  exact ⟨by simpa using h.1, by simpa [World.Subscribed] using h.2⟩

theorem step_listening_client {w : World} {e : Event} (h : Listening w)
    (he : e.isSignalOrCall) : Listening (w.step enum e) := by
  rwa [Listening, step_device_of_isSignalOrCall enum w he]

/-- A projection `π` of the mirror that equals the daemon's stays so along a run
whose updates are announced as `Msg` says, if one such update keeps it so. -/
theorem run_field {β : Type} (π : Mirror → β)
    {Msg : RemoteDevice → RemoteDevice → PropertiesChanged → Prop}
    (hstep : ∀ r r' m resolve (device : CdDevice), Msg r r' m →
      π device.mirror = π (r.mirror enum) →
        π (device.dbusPropertiesChanged enum resolve m).mirror = π (r'.mirror enum)) :
    ∀ (events : List SyncEvent) {r : RemoteDevice} {w : World},
      π w.device.mirror = π (r.mirror enum) → Listening w → AnnouncedRun Msg r events →
        π (events.foldl (syncStep enum) (r, w)).2.device.mirror =
          π ((events.foldl (syncStep enum) (r, w)).1.mirror enum)
  | [], _, _, h, _, _ => h
  | .update r' m bus :: rest, r, w, h, hl, ⟨hmsg, hrest⟩ =>
    run_field π hstep rest
      (by rw [step_update_bound enum hl.1 hl.2]; exact hstep r r' m bus.resolve w.device hmsg h)
      (step_listening_update enum hl) hrest
  | .client _ :: rest, _, w, h, hl, ⟨he, hrest⟩ => by
    exact run_field π hstep rest (by rw [step_device_of_isSignalOrCall enum w he]; exact h)
      (step_listening_client enum hl he) hrest

/-- **Staleness stays with the property that was not sent.** Bind a new device to
the daemon's device `r₀`, every path resolving; then run any updates announced as
the D-Bus properties protocol allows, some changes sent only as invalidated names,
interleaved with any signals and calls, whatever each later profile resolution
answers. The device's id and created time always equal the daemon's; its model
equals the daemon's along every such run in which each change of `Model` was sent
with its value, and its kind likewise for `Kind`, whatever happened to the other
properties. -/
theorem sync_fields_of_carried (objectPath : ObjectPath) (bus : Bus) (r₀ : RemoteDevice)
    (hconn : bus.connect objectPath = .ok r₀) (hres : Resolves (bus.resolve 0) 0 r₀.profiles)
    (events : List SyncEvent) :
    (AnnouncedRun Announces r₀ events →
      (syncFrom enum objectPath bus r₀ events).2.device.mirror.id =
          ((syncFrom enum objectPath bus r₀ events).1.mirror enum).id ∧
        (syncFrom enum objectPath bus r₀ events).2.device.mirror.created =
          ((syncFrom enum objectPath bus r₀ events).1.mirror enum).created) ∧
    (AnnouncedRun (fun r r' m => Announces r r' m ∧ CarriesValue "Model" r r' m) r₀ events →
      (syncFrom enum objectPath bus r₀ events).2.device.mirror.model =
        ((syncFrom enum objectPath bus r₀ events).1.mirror enum).model) ∧
    (AnnouncedRun (fun r r' m => Announces r r' m ∧ CarriesValue "Kind" r r' m) r₀ events →
      (syncFrom enum objectPath bus r₀ events).2.device.mirror.kind =
        ((syncFrom enum objectPath bus r₀ events).1.mirror enum).kind) := by
  obtain ⟨hmir, hl⟩ := agrees_bind enum hconn hres
  refine ⟨fun hrun => ⟨?_, ?_⟩, fun hrun => ?_, fun hrun => ?_⟩
  · exact run_field enum Mirror.id (fun _ _ _ resolve _ hann => update_id enum resolve hann)
      events (congrArg _ hmir) hl hrun
  · exact run_field enum Mirror.created
      (fun _ _ _ resolve _ hann => update_created enum resolve hann) events
      (congrArg _ hmir) hl hrun
  · exact run_field enum Mirror.model
      (fun _ _ _ resolve _ hm => update_model enum resolve hm.1 hm.2) events
      (congrArg _ hmir) hl hrun
  · exact run_field enum Mirror.kind
      (fun _ _ _ resolve _ hm => update_kind enum resolve hm.1 hm.2) events
      (congrArg _ hmir) hl hrun

theorem AnnouncedRun.and {P Q : RemoteDevice → RemoteDevice → PropertiesChanged → Prop} :
    ∀ {r : RemoteDevice} {events : List SyncEvent}, AnnouncedRun P r events →
      AnnouncedRun Q r events → AnnouncedRun (fun r r' m => P r r' m ∧ Q r r' m) r events
  | _, [], _, _ => trivial
  | _, .update _ _ _ :: _, ⟨hp, hp'⟩, ⟨hq, hq'⟩ => ⟨⟨hp, hq⟩, AnnouncedRun.and hp' hq'⟩
  | _, .client _ :: _, ⟨he, hp'⟩, ⟨_, hq'⟩ => ⟨he, AnnouncedRun.and hp' hq'⟩

/-- A projection `π` of the mirror that an update sending it sets to the daemon's,
and that updates with `Carries` keep, equals the daemon's after such an update
however the run before it left it. -/
theorem run_field_recovers {β : Type} (π : Mirror → β)
    {Carries : RemoteDevice → RemoteDevice → PropertiesChanged → Prop}
    (hstep : ∀ r r' m resolve (device : CdDevice), Announces r r' m ∧ Carries r r' m →
      π device.mirror = π (r.mirror enum) →
        π (device.dbusPropertiesChanged enum resolve m).mirror = π (r'.mirror enum))
    (r : RemoteDevice) (m : PropertiesChanged) (busU : Bus) (events₂ : List SyncEvent)
    (hsent : ∀ r₁ resolve (device : CdDevice), Announces r₁ r m →
      π (device.dbusPropertiesChanged enum resolve m).mirror = π (r.mirror enum))
    (hcar : AnnouncedRun Carries r events₂) :
    ∀ (events₁ : List SyncEvent) {r₁ : RemoteDevice} {w : World}, Listening w →
      AnnouncedRun Announces r₁ (events₁ ++ .update r m busU :: events₂) →
        π ((events₁ ++ .update r m busU :: events₂).foldl (syncStep enum) (r₁, w)).2.device.mirror =
          π (((events₁ ++ .update r m busU :: events₂).foldl (syncStep enum) (r₁, w)).1.mirror enum)
  | [], _, w, hl, ⟨hann, hrest⟩ =>
    run_field enum π hstep events₂
      (by rw [step_update_bound enum hl.1 hl.2]; exact hsent _ busU.resolve w.device hann)
      (step_listening_update enum hl) (hrest.and hcar)
  | .update _ _ _ :: rest, _, _, hl, ⟨_, hrest⟩ =>
    run_field_recovers π hstep r m busU events₂ hsent hcar rest (step_listening_update enum hl)
      hrest
  | .client _ :: rest, _, _, hl, ⟨he, hrest⟩ =>
    run_field_recovers π hstep r m busU events₂ hsent hcar rest (step_listening_client enum hl he)
      hrest

/-- **An invalidated property is stale only until it is next sent.** Bind a new
device to the daemon's device `r₀`, every path resolving; then run any updates
announced as the D-Bus properties protocol allows, interleaved with any signals and
calls, whatever the profile resolutions answer. If an update sends the value of
`Model`, the device's model equals the daemon's right after it, however earlier
updates left it, and stays so while each later change of `Model` is sent with its
value; likewise for `Kind`. -/
theorem sync_field_recovers (objectPath : ObjectPath) (bus : Bus) (r₀ : RemoteDevice)
    (hconn : bus.connect objectPath = .ok r₀) (hres : Resolves (bus.resolve 0) 0 r₀.profiles)
    (events₁ : List SyncEvent) (r : RemoteDevice) (m : PropertiesChanged) (busU : Bus)
    (events₂ : List SyncEvent)
    (hrun : AnnouncedRun Announces r₀ (events₁ ++ .update r m busU :: events₂)) :
    ("Model" ∈ m.changed.map Prod.fst → AnnouncedRun (CarriesValue "Model") r events₂ →
      (syncFrom enum objectPath bus r₀
          (events₁ ++ .update r m busU :: events₂)).2.device.mirror.model =
        ((syncFrom enum objectPath bus r₀ (events₁ ++ .update r m busU :: events₂)).1.mirror
          enum).model) ∧
    ("Kind" ∈ m.changed.map Prod.fst → AnnouncedRun (CarriesValue "Kind") r events₂ →
      (syncFrom enum objectPath bus r₀
          (events₁ ++ .update r m busU :: events₂)).2.device.mirror.kind =
        ((syncFrom enum objectPath bus r₀ (events₁ ++ .update r m busU :: events₂)).1.mirror
          enum).kind) := by
  have hl := (agrees_bind enum hconn hres).2
  refine ⟨fun hN hcar => ?_, fun hN hcar => ?_⟩
  · exact run_field_recovers enum Mirror.model
      (fun _ _ _ resolve _ hm => update_model enum resolve hm.1 hm.2) r m busU events₂
      (fun _ resolve device hann => update_model_of_sent enum resolve hann hN device) hcar
      events₁ hl hrun
  · exact run_field_recovers enum Mirror.kind
      (fun _ _ _ resolve _ hm => update_kind enum resolve hm.1 hm.2) r m busU events₂
      (fun _ resolve device hann => update_kind_of_sent enum resolve hann hN device) hcar
      events₁ hl hrun

theorem announces_modelChanged_again : Announces lvdsModelB lvdsModelB modelChanged :=
  ⟨rfl, rfl, by decide, fun _ h => absurd rfl h⟩

theorem sync_field_recovers_lvds :
    (syncFrom ⟨fun _ => .unknown, fun _ => "unknown"⟩ lvdsPath (busAt lvdsModelA) lvdsModelA
        ([.update lvdsModelB modelInvalidated (busAt lvdsModelB)] ++
          [.update lvdsModelB modelChanged (busAt lvdsModelB)])).2.device.mirror.model =
      ((syncFrom ⟨fun _ => .unknown, fun _ => "unknown"⟩ lvdsPath (busAt lvdsModelA) lvdsModelA
        ([.update lvdsModelB modelInvalidated (busAt lvdsModelB)] ++
          [.update lvdsModelB modelChanged (busAt lvdsModelB)])).1.mirror
        ⟨fun _ => .unknown, fun _ => "unknown"⟩).model :=
  (sync_field_recovers _ _ _ _ rfl (resolves_nil _ 0)
    [.update lvdsModelB modelInvalidated (busAt lvdsModelB)] _ _ _ []
    ⟨announces_modelInvalidated, announces_modelChanged_again, trivial⟩).1 (by decide) trivial

/-- The daemon's device after its model changes to `b` and its kind to `printer`. -/
def lvdsModelKind : RemoteDevice := { lvdsModelA with model := some "b", kind := some "printer" }

/-- The change sent with the model's value and the kind as an invalidated name. -/
def modelSentKindInvalidated : PropertiesChanged := ⟨[("Model", .string "b")], ["Kind"], by decide⟩

theorem lvdsModelKind_get_ne {name : String} (h : lvdsModelA.get name ≠ lvdsModelKind.get name) :
    name = "Model" ∨ name = "Kind" := by
  by_contra hn
  push_neg at hn
  exact h (by simp [RemoteDevice.get, hn.1, hn.2, lvdsModelKind])

theorem announces_modelSentKindInvalidated :
    Announces lvdsModelA lvdsModelKind modelSentKindInvalidated :=
  ⟨rfl, rfl, by decide, fun _ h => by rcases lvdsModelKind_get_ne h with rfl | rfl <;> decide⟩

theorem sync_fields_of_carried_lvds :
    (syncFrom ⟨fun _ => .unknown, fun _ => "unknown"⟩ lvdsPath (busAt lvdsModelA) lvdsModelA
        [.update lvdsModelKind modelSentKindInvalidated (busAt lvdsModelKind)]).2.device.mirror.model
      =
      ((syncFrom ⟨fun _ => .unknown, fun _ => "unknown"⟩ lvdsPath (busAt lvdsModelA) lvdsModelA
        [.update lvdsModelKind modelSentKindInvalidated (busAt lvdsModelKind)]).1.mirror
          ⟨fun _ => .unknown, fun _ => "unknown"⟩).model :=
  (sync_fields_of_carried _ _ _ _ rfl (resolves_nil _ 0) _).2.1
    ⟨⟨announces_modelSentKindInvalidated,
      fun _ => by decide⟩, trivial⟩

/-- In the same run the kind, sent only as an invalidated name, stays stale. -/
example :
    (syncFrom ⟨fun k => ⟨if k = some "printer" then 1 else 0⟩, fun _ => "unknown"⟩ lvdsPath
        (busAt lvdsModelA) lvdsModelA
        [.update lvdsModelKind modelSentKindInvalidated (busAt lvdsModelKind)]).2.device.kind ≠
      ((syncFrom ⟨fun k => ⟨if k = some "printer" then 1 else 0⟩, fun _ => "unknown"⟩ lvdsPath
        (busAt lvdsModelA) lvdsModelA
        [.update lvdsModelKind modelSentKindInvalidated (busAt lvdsModelKind)]).1.mirror
          ⟨fun k => ⟨if k = some "printer" then 1 else 0⟩, fun _ => "unknown"⟩).kind := by
  decide

end Colord
