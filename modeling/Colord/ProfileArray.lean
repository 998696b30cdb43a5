/-
Colord.ProfileArray — what `cd_device_set_profiles_array_from_variant` does to
the profile list, for every list of paths and every pattern of answers.

The function first empties the array (`g_ptr_array_set_size (.., 0)`) and then
appends one profile per path, leaving the loop at the first path that does not
resolve. So the list is never kept whole on failure: it becomes the profiles of
the paths before the failing one (`setProfilesArray_of_error`; `Colord.Bind` has
it on each path into the loop), and on success the in-order resolution of all
of them (`setProfilesArray_success`).

The specification of "in-order resolution" is `resolveEach`, a map that fails
at the first failing path; `Resolves` says that every path resolves. The loop
is related to both by one induction each.
-/
import Colord.Device

namespace Colord

variable (resolve : Nat → ObjectPath → Except String String)

/-- The in-order resolution of `ps`, the first path at index `i`: one profile
per path, bound to it with the id its resolution answered, or the first failure. -/
def resolveEach : Nat → List ObjectPath → Except String (List CdProfile)
  | _, [] => .ok []
  | i, p :: ps =>
    match resolve i p, resolveEach (i + 1) ps with
    | .ok id, .ok rest => .ok (⟨p, id⟩ :: rest)
    | .error msg, _ => .error msg
    | .ok _, .error msg => .error msg

/-- Every path of `ps` resolves, the `k`-th asked as number `i + k`. -/
def Resolves (i : Nat) (ps : List ObjectPath) : Prop :=
  ∀ k p, ps[k]? = some p → ∃ id, resolve (i + k) p = .ok id

/-! ## The specification -/

theorem resolves_nil (i : Nat) : Resolves resolve i [] := by
  simp [Resolves]

theorem resolves_cons {i : Nat} {p : ObjectPath} {ps : List ObjectPath} :
    Resolves resolve i (p :: ps) ↔
      (∃ id, resolve i p = .ok id) ∧ Resolves resolve (i + 1) ps := by
  constructor
  · intro h
    refine ⟨by simpa using h 0 p (by simp), fun k q hq => ?_⟩
    simpa [Nat.add_right_comm, Nat.add_assoc] using h (k + 1) q (by simpa using hq)
  · rintro ⟨hp, hps⟩ (_ | k) q hq
    · simp only [List.getElem?_cons_zero, Option.some.injEq] at hq
      simpa [← hq] using hp
    · simp only [List.getElem?_cons_succ] at hq
      simpa [Nat.add_right_comm, Nat.add_assoc] using hps k q hq

/-- `resolveEach` succeeds exactly when every path resolves. -/
theorem resolveEach_ok_iff :
    ∀ (i : Nat) (ps : List ObjectPath),
      (∃ l, resolveEach resolve i ps = .ok l) ↔ Resolves resolve i ps
  | i, [] => by simp [resolveEach, resolves_nil]
  | i, p :: ps => by
    rw [resolves_cons, ← resolveEach_ok_iff (i + 1) ps]
    cases hp : resolve i p <;> cases hr : resolveEach resolve (i + 1) ps <;>
      simp [resolveEach, hp, hr]

/-- One profile per path, each bound to its path. -/
theorem resolveEach_objectPaths :
    ∀ {i : Nat} {ps : List ObjectPath} {l : List CdProfile},
      resolveEach resolve i ps = .ok l → l.map CdProfile.objectPath = ps
  | _, [], l, h => by simp only [resolveEach, Except.ok.injEq] at h; simp [← h]
  | i, p :: ps, l, h => by
    cases hp : resolve i p <;> cases hr : resolveEach resolve (i + 1) ps <;>
      simp only [resolveEach, hp, hr, Except.ok.injEq, reduceCtorEq] at h
    simp [← h, resolveEach_objectPaths hr]

/-! ## The loop -/

/-- Where every path resolves, the loop appends their in-order resolution. -/
theorem setProfilesArrayLoop_of_ok :
    ∀ {i : Nat} {ps : List ObjectPath} {l : List CdProfile} (acc : List CdProfile),
      resolveEach resolve i ps = .ok l →
        CdDevice.setProfilesArrayLoop resolve i ps acc = (acc ++ l, .ok ())
  | _, [], l, acc, h => by
    simp only [resolveEach, Except.ok.injEq] at h
    simp [CdDevice.setProfilesArrayLoop, ← h]
  | i, p :: ps, l, acc, h => by
    cases hp : resolve i p <;> cases hr : resolveEach resolve (i + 1) ps <;>
      simp only [resolveEach, hp, hr, Except.ok.injEq, reduceCtorEq] at h
    simp [CdDevice.setProfilesArrayLoop, hp, setProfilesArrayLoop_of_ok _ hr, ← h]

/-- At the first failing path the loop stops, keeping what it appended before. -/
theorem setProfilesArrayLoop_of_error :
    ∀ {i : Nat} {ps₁ : List ObjectPath} {l : List CdProfile} (p : ObjectPath)
      (ps₂ : List ObjectPath) (acc : List CdProfile) {msg : String},
      resolveEach resolve i ps₁ = .ok l → resolve (i + ps₁.length) p = .error msg →
        CdDevice.setProfilesArrayLoop resolve i (ps₁ ++ p :: ps₂) acc =
          (acc ++ l, .error ("Failed to set profile object path: " ++ msg))
  | i, [], l, p, ps₂, acc, msg, h, hp => by
    simp only [resolveEach, Except.ok.injEq] at h
    simp only [List.length_nil, Nat.add_zero] at hp
    simp [CdDevice.setProfilesArrayLoop, ← h, hp]
  | i, q :: ps₁, l, p, ps₂, acc, msg, h, hp => by
    cases hq : resolve i q <;> cases hr : resolveEach resolve (i + 1) ps₁ <;>
      simp only [resolveEach, hq, hr, Except.ok.injEq, reduceCtorEq] at h
    have hp' : resolve (i + 1 + ps₁.length) p = .error msg := by
      simpa [Nat.add_right_comm, Nat.add_assoc, Nat.add_comm 1] using hp
    simp [CdDevice.setProfilesArrayLoop, hq, setProfilesArrayLoop_of_error p ps₂ _ hr hp', ← h]

/-- Whatever the answers, the loop appends the profiles of a prefix of the paths,
one per path and in order. -/
theorem setProfilesArrayLoop_prefix :
    ∀ (i : Nat) (ps : List ObjectPath) (acc : List CdProfile),
      (CdDevice.setProfilesArrayLoop resolve i ps acc).1.map CdProfile.objectPath <+:
        acc.map CdProfile.objectPath ++ ps
  | _, [], acc => by simp [CdDevice.setProfilesArrayLoop]
  | i, p :: ps, acc => by
    cases hp : resolve i p with
    | error msg => simp [CdDevice.setProfilesArrayLoop, hp]
    | ok id =>
      have h := setProfilesArrayLoop_prefix (i + 1) ps (acc ++ [⟨p, id⟩])
      rw [List.map_append, List.append_assoc] at h
      simpa [CdDevice.setProfilesArrayLoop, hp] using h

/-- The loop returns `TRUE` exactly when every path resolves. -/
theorem setProfilesArrayLoop_ok_iff :
    ∀ (i : Nat) (ps : List ObjectPath) (acc : List CdProfile),
      (CdDevice.setProfilesArrayLoop resolve i ps acc).2 = .ok () ↔ Resolves resolve i ps
  | i, [], acc => by simp [CdDevice.setProfilesArrayLoop, resolves_nil]
  | i, p :: ps, acc => by
    rw [resolves_cons]
    cases hp : resolve i p with
    | error msg => simp [CdDevice.setProfilesArrayLoop, hp]
    | ok id =>
      simp [CdDevice.setProfilesArrayLoop, hp, setProfilesArrayLoop_ok_iff (i + 1) ps]

/-! ## The profile list -/

/-- Where every path resolves, the list becomes their in-order resolution. -/
theorem setProfilesArray_success (device : CdDevice) {value : Variant}
    {l : List CdProfile} (h : resolveEach resolve 0 value.objectPathChildren = .ok l) :
    device.setProfilesArrayFromVariant resolve value =
      ({ device with profiles := l }, .ok ()) := by
  simp [CdDevice.setProfilesArrayFromVariant, setProfilesArrayLoop_of_ok resolve [] h]

/-- Whatever the answers, the list becomes the profiles of a prefix of the paths. -/
theorem setProfilesArray_prefix (device : CdDevice) (value : Variant) :
    (device.setProfilesArrayFromVariant resolve value).1.profiles.map CdProfile.objectPath <+:
      value.objectPathChildren := by
  simpa using setProfilesArrayLoop_prefix resolve 0 value.objectPathChildren []

/-- A failed update does not keep the old list: the first path resolves, the
second does not, and the list is left holding the first path's profile. -/
theorem setProfilesArray_not_all_or_nothing :
    ({ CdDevice.init with profiles := [⟨"/old", "old"⟩] }.setProfilesArrayFromVariant
        (fun _ p => if p = "/a" then .ok "a" else .error "no such profile")
        (.objectPaths ["/a", "/b"])).1.profiles = [⟨"/a", "a"⟩] ∧
      [(⟨"/a", "a"⟩ : CdProfile)] ≠ [⟨"/old", "old"⟩] := by
  decide

/-- At the first failing path the list keeps the profiles resolved before it. -/
theorem setProfilesArray_of_error (device : CdDevice) {ps₁ : List ObjectPath} (p : ObjectPath)
    (ps₂ : List ObjectPath) {l : List CdProfile} {msg : String}
    (hpre : resolveEach resolve 0 ps₁ = .ok l) (hfail : resolve ps₁.length p = .error msg) :
    device.setProfilesArrayFromVariant resolve (.objectPaths (ps₁ ++ p :: ps₂)) =
      ({ device with profiles := l }, .error ("Failed to set profile object path: " ++ msg)) := by
  have h := setProfilesArrayLoop_of_error resolve p ps₂ [] hpre (by rwa [Nat.zero_add])
  simp [CdDevice.setProfilesArrayFromVariant, Variant.objectPathChildren, h]

end Colord
