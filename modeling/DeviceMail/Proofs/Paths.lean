/-
  DeviceMail — which clients share a path.

  A path joins ids by slashes, and an id may hold slashes of its own.  So a path
  does not say at which of its slashes an id ends.

  * `Client.CutsLater`: one client reads into its device id what the other takes
    for a module, or for the beginning of one;
  * `Client.path_eq_iff`: clients share a path in this way, and in no other;
  * `paths_ambiguous_only_through_slash`: where host names and device ids hold no
    slash, a path belongs to one client and to one endpoint.
-/
import DeviceMail.Client
import DeviceMail.Proofs.Cuts
import Mathlib.Data.Set.Function

namespace DeviceMail

/-! ## Clients -/

namespace Client

/-- Both clients have the same path, but the device id of the first ends at a
    later slash of it than that of the second. -/
inductive CutsLater : Client → Client → Prop where
  /-- The whole path is a device id. -/
  | device (deviceId moduleId : String) :
    CutsLater (.device (deviceId ++ "/" ++ moduleId)) (.onDevice deviceId moduleId)
  /-- A part of the path between two slashes belongs to the device id, not to the
      module id. -/
  | onDevice (deviceId between moduleId : String) :
    CutsLater (.onDevice (deviceId ++ "/" ++ between) moduleId)
      (.onDevice deviceId (between ++ "/" ++ moduleId))

theorem CutsLater.path_eq {a b : Client} (h : a.CutsLater b) : a.path = b.path := by
  cases h with
  | device deviceId moduleId => rfl
  | onDevice deviceId between moduleId => simp only [path, String.append_assoc]

theorem CutsLater.slash_mem {a b : Client} (h : a.CutsLater b) : '/' ∈ a.deviceId.toList := by
  cases h <;> simp [deviceId]

/-- A path with a module in it, as it is cut. -/
theorem toList_path_onDevice (deviceId moduleId : String) :
    (onDevice deviceId moduleId).path.toList = deviceId.toList ++ '/' :: moduleId.toList := by
  simp [path]

/-- **Clients share a path if one cuts it later than the other**, and in no other
    way. -/
theorem path_eq_iff (a b : Client) : a.path = b.path ↔ a = b ∨ a.CutsLater b ∨ b.CutsLater a := by
  constructor
  · intro h
    cases a with
    | device deviceId =>
      cases b with
      | device other => exact .inl (congrArg device h)
      | onDevice other moduleId =>
        obtain rfl : deviceId = other ++ "/" ++ moduleId := h
        exact .inr (.inl (.device other moduleId))
    | onDevice deviceId moduleId =>
      cases b with
      | device other =>
        obtain rfl : deviceId ++ "/" ++ moduleId = other := h
        exact .inr (.inr (.device deviceId moduleId))
      | onDevice other otherModule =>
        have hcut := congrArg String.toList h
        rw [toList_path_onDevice, toList_path_onDevice, Text.append_cons_eq_iff] at hcut
        rcases hcut with ⟨hdevice, hmodule⟩ | ⟨between, hdevice, hmodule⟩ |
          ⟨between, hdevice, hmodule⟩
        · rw [String.toList_inj.1 hdevice, String.toList_inj.1 hmodule]
          exact .inl rfl
        · obtain rfl : deviceId = other ++ "/" ++ .ofList between := by
            simp [← String.toList_inj, hdevice]
          obtain rfl : otherModule = .ofList between ++ "/" ++ moduleId := by
            simp [← String.toList_inj, hmodule]
          exact .inr (.inl (.onDevice other _ moduleId))
        · obtain rfl : other = deviceId ++ "/" ++ .ofList between := by
            simp [← String.toList_inj, hdevice]
          obtain rfl : moduleId = .ofList between ++ "/" ++ otherModule := by
            simp [← String.toList_inj, hmodule]
          exact .inr (.inr (.onDevice deviceId _ otherModule))
  · rintro (rfl | h | h)
    · rfl
    · exact h.path_eq
    · exact h.path_eq.symm

theorem slash_mem_of_path_eq {a b : Client} (hne : a ≠ b) (h : a.path = b.path) :
    '/' ∈ a.deviceId.toList ∨ '/' ∈ b.deviceId.toList := by
  rcases (path_eq_iff a b).1 h with hsame | hlater | hlater
  · exact absurd hsame hne
  · exact .inl hlater.slash_mem
  · exact .inr hlater.slash_mem

end Client

/-! ## Endpoints -/

namespace Endpoint

/-- A host name without a slash ends at the first slash of the path. -/
theorem hostname_eq_of_path_eq {a b : Endpoint} (ha : '/' ∉ a.hostname.toList)
    (hb : '/' ∉ b.hostname.toList) (h : a.path = b.path) :
    a.hostname = b.hostname ∧ a.client.path = b.client.path := by
  have htoList (endpoint : Endpoint) : endpoint.path.toList =
      endpoint.hostname.toList ++ '/' :: ("devices/" ++ endpoint.client.path).toList := by
    simp [path]
  have hcut := congrArg String.toList h
  rw [htoList, htoList] at hcut
  obtain ⟨hhost, hrest⟩ := Text.append_cons_inj_of_notMem ha hb hcut
  rw [String.toList_inj, String.append_right_inj] at hrest
  exact ⟨String.toList_inj.1 hhost, hrest⟩

theorem slash_mem_of_path_eq {a b : Endpoint} (hne : a ≠ b) (h : a.path = b.path) :
    ('/' ∈ a.hostname.toList ∨ '/' ∈ a.client.deviceId.toList) ∨
      '/' ∈ b.hostname.toList ∨ '/' ∈ b.client.deviceId.toList := by
  by_cases ha : '/' ∈ a.hostname.toList
  · exact .inl (.inl ha)
  by_cases hb : '/' ∈ b.hostname.toList
  · exact .inr (.inl hb)
  obtain ⟨hhost, hpath⟩ := hostname_eq_of_path_eq ha hb h
  have hclient : a.client ≠ b.client := by
    intro hclient
    exact hne (congrArg₂ Endpoint.mk hhost hclient)
  rcases Client.slash_mem_of_path_eq hclient hpath with hslash | hslash
  · exact .inl (.inr hslash)
  · exact .inr (.inr hslash)

end Endpoint

/-! ## Ambiguous paths -/

/-- **Paths are ambiguous only through slashes.**  Where two clients share a path,
    there is a slash in the device id of one of them, and where two endpoints do,
    in the host name or the device id of one of them.  So without slashes in these
    a path belongs to one client or endpoint, whatever the ids are, module ids with
    slashes and empty ids included, and a device is not taken for a module. -/
theorem paths_ambiguous_only_through_slash :
    (∀ a b : Client, a ≠ b → a.path = b.path →
      '/' ∈ a.deviceId.toList ∨ '/' ∈ b.deviceId.toList) ∧
    (∀ a b : Endpoint, a ≠ b → a.path = b.path →
      ('/' ∈ a.hostname.toList ∨ '/' ∈ a.client.deviceId.toList) ∨
        '/' ∈ b.hostname.toList ∨ '/' ∈ b.client.deviceId.toList) ∧
    Set.InjOn Client.path {client | '/' ∉ client.deviceId.toList} ∧
    Set.InjOn Endpoint.path
      {endpoint | '/' ∉ endpoint.hostname.toList ∧ '/' ∉ endpoint.client.deviceId.toList} := by
  refine ⟨fun a b => Client.slash_mem_of_path_eq, fun a b => Endpoint.slash_mem_of_path_eq,
    fun a ha b hb h => ?_, fun a ha b hb h => ?_⟩
  · by_contra hne
    rcases Client.slash_mem_of_path_eq hne h with hslash | hslash
    · exact ha hslash
    · exact hb hslash
  · by_contra hne
    rcases Endpoint.slash_mem_of_path_eq hne h with (hslash | hslash) | hslash | hslash
    · exact ha.1 hslash
    · exact ha.2 hslash
    · exact hb.1 hslash
    · exact hb.2 hslash

/-- Two endpoints of which neither has a slash in its device id: the host name of
    one holds what the other takes for a device, and the module id of the other
    what the one takes for a separator. -/
theorem paths_ambiguous_through_host :
    let a : Endpoint := ⟨"hub", .onDevice "pump" "devices/meter"⟩
    let b : Endpoint := ⟨"hub/devices/pump", .device "meter"⟩
    a ≠ b ∧ a.path = b.path ∧ (('/' ∈ a.hostname.toList ∨ '/' ∈ a.client.deviceId.toList) ∨
      '/' ∈ b.hostname.toList ∨ '/' ∈ b.client.deviceId.toList) := by
  intro a b
  have hne : a ≠ b := by decide
  have hpath : a.path = b.path := by decide +kernel
  exact ⟨hne, hpath, paths_ambiguous_only_through_slash.2.1 a b hne hpath⟩

end DeviceMail
