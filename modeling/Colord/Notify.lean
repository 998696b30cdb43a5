/-
Colord.Notify — `cd_device_dbus_properties_changed` is a left fold over its
change set.

`applyChange` is the handler as the specification words it, entry by entry:
`Model` sets the model, `Kind` the kind, `Profiles` the whole profile list to
the in-order resolution of the paths (`resolveEach`), any other name nothing.
It fails where a path does not resolve, so a change set on which it succeeds
is one in which every path resolves (`ProfilesResolve`).

* `dbusPropertiesChanged_fold` — where every path resolves, the handler's
  result is the fold of `applyChange` over the entries in message order, and
  the fields binding fixes are untouched.
* `propertiesChangedLoop_proj` — the consequence the synchronisation proof
  uses: a field that every entry of one name sets to the same value ends at
  that value if the name occurs, and keeps its own otherwise.
* `dbusPropertiesChanged_twice` — every handled entry overwrites its field
  from the entry alone, so handling a change set again changes nothing.
-/
import Colord.ProfileArray

namespace Colord

variable (enum : CdEnum) (resolve : Nat → Nat → ObjectPath → Except String String)

/-- One entry `(j, name, value)` of a change set, as the specification reads it;
`j` numbers the entry's resolutions. -/
def applyChange (device : CdDevice) : Nat × String × Variant → Except String CdDevice
  | (j, name, value) =>
    if name = "Model" then .ok { device with model := value.getString }
    else if name = "Kind" then .ok { device with kind := enum.kindFromString value.getString }
    else if name = "Profiles" then
      (resolveEach (resolve j) 0 value.objectPathChildren).map ({ device with profiles := · })
    else .ok device

/-- Every path of every `Profiles` entry resolves, those of entry `j` as list `j`. -/
def ProfilesResolve (j : Nat) (changed : List (String × Variant)) : Prop :=
  ∀ k value, changed[k]? = some ("Profiles", value) →
    Resolves (resolve (j + k)) 0 value.objectPathChildren

theorem profilesResolve_cons {j : Nat} {e : String × Variant} {rest : List (String × Variant)}
    (h : ProfilesResolve resolve j (e :: rest)) : ProfilesResolve resolve (j + 1) rest :=
  fun k value hk => by
    simpa [Nat.add_right_comm, Nat.add_assoc] using h (k + 1) value (by simpa using hk)

/-- Where its paths resolve, an entry does what the handler's loop does with it. -/
theorem applyChange_eq (device : CdDevice) (j : Nat) (name : String) (value : Variant)
    (h : name = "Profiles" → Resolves (resolve j) 0 value.objectPathChildren) :
    applyChange enum resolve device (j, name, value) =
      .ok (CdDevice.propertyChanged enum resolve j device name value) := by
  by_cases hm : name = "Model"
  · subst hm; rfl
  by_cases hk : name = "Kind"
  · subst hk; rfl
  by_cases hp : name = "Profiles"
  · subst hp
    obtain ⟨l, hl⟩ := (resolveEach_ok_iff _ 0 _).2 (h rfl)
    simp [applyChange, hl, Except.map, setProfilesArray_success _ device hl]
  · simp [applyChange, hm, hk, hp, CdDevice.propertyChanged_unhandled enum resolve j device
      value hm hk hp]

theorem foldlM_applyChange :
    ∀ (j : Nat) (changed : List (String × Variant)) (device : CdDevice),
      ProfilesResolve resolve j changed →
        (changed.enumFrom j).foldlM (applyChange enum resolve) device =
          .ok (CdDevice.propertiesChangedLoop enum resolve j changed device)
  | _, [], _, _ => rfl
  | j, (name, value) :: rest, device, h => by
    rw [List.enumFrom_cons, List.foldlM_cons,
      applyChange_eq enum resolve device j name value
        (fun hp => by simpa using h 0 value (by simp [hp]))]
    exact foldlM_applyChange (j + 1) rest _ (profilesResolve_cons resolve h)

/-- **The properties-changed handler is a left fold with an exact frame.** Where
every path of the change set resolves, the handler leaves what folding
`applyChange` over the entries in message order gives, and never changes the
proxy, object path, id or created time. -/
theorem dbusPropertiesChanged_fold (device : CdDevice) (m : PropertiesChanged)
    (hres : ProfilesResolve resolve 0 m.changed) :
    m.changed.enum.foldlM (applyChange enum resolve) device =
        .ok (device.dbusPropertiesChanged enum resolve m) ∧
      (device.dbusPropertiesChanged enum resolve m).identity = device.identity :=
  ⟨foldlM_applyChange enum resolve 0 m.changed device hres,
    CdDevice.propertiesChangedLoop_identity enum resolve 0 m.changed device⟩

theorem dbusPropertiesChanged_fold_lvds :
    let enum : CdEnum := ⟨fun _ => .unknown, fun _ => "unknown"⟩
    let resolve : Nat → Nat → ObjectPath → Except String String := fun _ _ p => .ok p
    let m : PropertiesChanged :=
      ⟨[("Model", .string "X"), ("Profiles", .objectPaths ["/p/0", "/p/1"]),
        ("Vendor", .string "v"), ("Model", .string "Y")], ["Kind"], by decide⟩
    m.changed.enum.foldlM (applyChange enum resolve) CdDevice.init =
        .ok (CdDevice.init.dbusPropertiesChanged enum resolve m) ∧
      (CdDevice.init.dbusPropertiesChanged enum resolve m).identity = CdDevice.init.identity :=
  dbusPropertiesChanged_fold _ _ _ _ fun _ _ _ _ _ _ => ⟨_, rfl⟩

/-- A field that every entry named `N` sets to `b`, and that the other entries keep,
ends at `b` if `N` occurs in the change set and keeps its value otherwise: the last
occurrence of a name wins, and an absent name changes nothing. -/
theorem propertiesChangedLoop_proj {β : Type} (π : CdDevice → β) (N : String) (b : β)
    (hkeep : ∀ j device name value, name ≠ N →
      π (CdDevice.propertyChanged enum resolve j device name value) = π device) :
    ∀ (j : Nat) (changed : List (String × Variant)) (device : CdDevice),
      (∀ e ∈ changed, e.1 = N → ∀ j device,
        π (CdDevice.propertyChanged enum resolve j device N e.2) = b) →
        π (CdDevice.propertiesChangedLoop enum resolve j changed device) =
          if N ∈ changed.map Prod.fst then b else π device
  | _, [], _, _ => by simp [CdDevice.propertiesChangedLoop]
  | j, (name, value) :: rest, device, hset => by
    rw [CdDevice.propertiesChangedLoop, propertiesChangedLoop_proj π N b hkeep (j + 1) rest
      _ (fun e he => hset e (.tail _ he))]
    by_cases hn : name = N
    · subst hn
      simp [hset _ (.head _) rfl]
    · have hmem : N ∈ name :: rest.map Prod.fst ↔ N ∈ rest.map Prod.fst := by
        simp [Ne.symm hn]
      simp only [List.map_cons, hmem, hkeep _ _ _ _ hn]

/-- The loop over `c₁ ++ c₂` runs over `c₁`, then over `c₂` from the entry after. -/
theorem propertiesChangedLoop_append :
    ∀ (j : Nat) (c₁ c₂ : List (String × Variant)) (device : CdDevice),
      CdDevice.propertiesChangedLoop enum resolve j (c₁ ++ c₂) device =
        CdDevice.propertiesChangedLoop enum resolve (j + c₁.length) c₂
          (CdDevice.propertiesChangedLoop enum resolve j c₁ device)
  | _, [], _, _ => rfl
  | j, (name, value) :: c₁, c₂, device => by
    rw [List.cons_append, CdDevice.propertiesChangedLoop, CdDevice.propertiesChangedLoop,
      propertiesChangedLoop_append (j + 1) c₁ c₂, List.length_cons]
    congr 1
    omega

/-- A field that no entry of the change set names keeps its value. -/
theorem propertiesChangedLoop_keep {β : Type} (π : CdDevice → β) (N : String)
    (hkeep : ∀ j device name value, name ≠ N →
      π (CdDevice.propertyChanged enum resolve j device name value) = π device) :
    ∀ (j : Nat) (changed : List (String × Variant)) (device : CdDevice),
      N ∉ changed.map Prod.fst →
        π (CdDevice.propertiesChangedLoop enum resolve j changed device) = π device
  | _, [], _, _ => rfl
  | j, (name, value) :: rest, device, h => by
    rw [List.map_cons, List.mem_cons, not_or] at h
    rw [CdDevice.propertiesChangedLoop, propertiesChangedLoop_keep π N hkeep (j + 1) rest _ h.2,
      hkeep _ _ _ _ (Ne.symm h.1)]

/-- A field that every entry named `N` sets to a value satisfying `P`, and that the
other entries keep, satisfies `P` after the loop if `N` occurs in the change set. -/
theorem propertiesChangedLoop_occurs {β : Type} (π : CdDevice → β) (N : String) (P : β → Prop)
    (hkeep : ∀ j device name value, name ≠ N →
      π (CdDevice.propertyChanged enum resolve j device name value) = π device) :
    ∀ (j : Nat) (changed : List (String × Variant)) (device : CdDevice),
      (∀ e ∈ changed, e.1 = N → ∀ j device,
        P (π (CdDevice.propertyChanged enum resolve j device N e.2))) →
        N ∈ changed.map Prod.fst →
          P (π (CdDevice.propertiesChangedLoop enum resolve j changed device))
  | _, [], _, _, h => absurd h (List.not_mem_nil _)
  | j, (name, value) :: rest, device, hset, h => by
    rw [CdDevice.propertiesChangedLoop]
    by_cases hr : N ∈ rest.map Prod.fst
    · exact propertiesChangedLoop_occurs π N P hkeep (j + 1) rest _
        (fun e he => hset e (.tail _ he)) hr
    · obtain rfl : N = name := (List.mem_cons.1 h).resolve_right hr
      rw [propertiesChangedLoop_keep enum resolve π N hkeep (j + 1) rest _ hr]
      exact hset _ (.head _) rfl j device

/-! ## A change set handled twice

Every handled entry overwrites its field with what the entry alone determines:
`Profiles` empties the array before refilling it. So the value the handler leaves
in a field the change set names does not depend on the device it started from,
and handling the same change set again changes nothing. -/

/-- A field that each entry named `N` sets from the entry alone ends at the same
value from any two devices when `N` occurs: the last such entry decides it. -/
theorem propertiesChangedLoop_overwrites {β : Type} (π : CdDevice → β) (N : String)
    (hset : ∀ j device device' value,
      π (CdDevice.propertyChanged enum resolve j device N value) =
        π (CdDevice.propertyChanged enum resolve j device' N value))
    (hkeep : ∀ j device name value, name ≠ N →
      π (CdDevice.propertyChanged enum resolve j device name value) = π device) :
    ∀ (j : Nat) (changed : List (String × Variant)) (device device' : CdDevice),
      N ∈ changed.map Prod.fst →
        π (CdDevice.propertiesChangedLoop enum resolve j changed device) =
          π (CdDevice.propertiesChangedLoop enum resolve j changed device')
  | _, [], _, _, h => absurd h (List.not_mem_nil _)
  | j, (name, value) :: rest, device, device', h => by
    rw [CdDevice.propertiesChangedLoop, CdDevice.propertiesChangedLoop]
    by_cases hr : N ∈ rest.map Prod.fst
    · exact propertiesChangedLoop_overwrites π N hset hkeep (j + 1) rest _ _ hr
    · obtain rfl : N = name := (List.mem_cons.1 h).resolve_right hr
      rw [propertiesChangedLoop_keep enum resolve π N hkeep (j + 1) rest _ hr,
        propertiesChangedLoop_keep enum resolve π N hkeep (j + 1) rest _ hr]
      exact hset j device device' value

/-- Two devices with the same binding, model, kind and profiles are the same. -/
theorem CdDevice.eq_of_identity {device device' : CdDevice}
    (hi : device.identity = device'.identity) (hm : device.model = device'.model)
    (hk : device.kind = device'.kind) (hp : device.profiles = device'.profiles) :
    device = device' := by
  cases device
  cases device'
  simp_all [CdDevice.identity]

/-- Handling a change set a second time, with the same resolution answers, changes
nothing: there is no duplicated update, whatever names repeat in the change set and
whichever paths fail. -/
theorem dbusPropertiesChanged_twice (device : CdDevice) (m : PropertiesChanged) :
    (device.dbusPropertiesChanged enum resolve m).dbusPropertiesChanged enum resolve m =
      device.dbusPropertiesChanged enum resolve m := by
  have field : ∀ {β : Type} (π : CdDevice → β) (N : String),
      (∀ j device device' value,
        π (CdDevice.propertyChanged enum resolve j device N value) =
          π (CdDevice.propertyChanged enum resolve j device' N value)) →
      (∀ j device name value, name ≠ N →
        π (CdDevice.propertyChanged enum resolve j device name value) = π device) →
      π ((device.dbusPropertiesChanged enum resolve m).dbusPropertiesChanged enum resolve m) =
        π (device.dbusPropertiesChanged enum resolve m) := fun π N hset hkeep => by
    by_cases hN : N ∈ m.changed.map Prod.fst
    · exact propertiesChangedLoop_overwrites enum resolve π N hset hkeep 0 m.changed _ _ hN
    · exact propertiesChangedLoop_keep enum resolve π N hkeep 0 m.changed _ hN
  exact CdDevice.eq_of_identity
    (CdDevice.propertiesChangedLoop_identity enum resolve 0 m.changed _)
    (field CdDevice.model "Model" (fun _ _ _ _ => rfl)
      fun _ _ _ _ hn => CdDevice.propertyChanged_model_of_ne _ _ _ _ _ hn)
    (field CdDevice.kind "Kind" (fun _ _ _ _ => rfl)
      fun _ _ _ _ hn => CdDevice.propertyChanged_kind_of_ne _ _ _ _ _ hn)
    (field CdDevice.profiles "Profiles" (fun _ _ _ _ => rfl)
      fun _ _ _ _ hn => CdDevice.propertyChanged_profiles_of_ne _ _ _ _ _ hn)

end Colord
