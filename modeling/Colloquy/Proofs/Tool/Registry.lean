import Colloquy.Tool.Local

/-! A registry finds exactly the tools that were registered. Its index and its list of tools say the same
(`Registry.Coherent`), and registering a tool keeps them so. -/

namespace Colloquy.Registry

variable {α : Type} {r r' : Registry α}

/-- The index leads from a name to the places of the tools with that name, of which there is one at most. -/
def Coherent (r : Registry α) : Prop :=
  ∀ (name : String) (i : Nat), r.index[name]? = some i ↔ ∃ tool, r.tools[i]? = some tool ∧ tool.name = name

theorem empty_coherent : (empty : Registry α).Coherent := by
  intro name i
  simp [empty]

theorem Coherent.register {t : Tool α} (h : r.Coherent) (hregister : r.register t = .ok r') : r'.Coherent := by
  unfold Registry.register at hregister
  split at hregister
  · cases hregister
  · next hfresh =>
      cases hregister
      intro name i
      have hnew : r.index[t.name]? = none := by
        rwa [Std.HashMap.contains_eq_isSome_getElem?, Bool.not_eq_true, Option.isSome_eq_false_iff,
          Option.isNone_iff_eq_none] at hfresh
      have hlast : r.index[name]? ≠ some r.tools.size := by
        rw [ne_eq, h name]
        simp
      rw [Std.HashMap.getElem?_insert, Array.getElem?_push]
      by_cases hname : t.name = name <;> by_cases hi : i = r.tools.size
      · simp [hname, hi]
      · subst hname
        have hnone : ¬∃ tool, r.tools[i]? = some tool ∧ tool.name = t.name := by
          rw [← h, hnew]
          simp
        simp [hi, hnone, Ne.symm hi]
      · subst hi
        simp [hname, hlast]
      · simp [hname, hi, h name]

theorem Coherent.registerAll {tools : List (Tool α)} (h : r.Coherent) (hregister : r.registerAll tools = .ok r') :
    r'.Coherent := by
  induction tools generalizing r with
  | nil =>
      cases hregister
      exact h
  | cons t tools ih =>
      unfold Registry.registerAll at hregister
      cases hfirst : r.register t with
      | error e =>
          rw [hfirst] at hregister
          cases hregister
      | ok next =>
          rw [hfirst] at hregister
          exact ih (h.register hfirst) hregister

/-- A tool is found under a name exactly when one with that name is announced. -/
theorem Coherent.isSome_get?_iff (h : r.Coherent) (name : String) :
    (r.get? name).isSome ↔ ∃ s ∈ r.schemas, s.name = name := by
  unfold get?
  cases hindex : r.index[name]? with
  | none =>
      refine iff_of_false nofun ?_
      rintro ⟨s, hs, hname⟩
      obtain ⟨tool, htool, rfl⟩ := List.mem_map.mp hs
      obtain ⟨i, hi⟩ := Array.getElem?_of_mem (Array.mem_toList_iff.mp htool)
      rw [(h name i).mpr ⟨tool, hi, hname⟩] at hindex
      cases hindex
  | some i =>
      obtain ⟨tool, htool, hname⟩ := (h name i).mp hindex
      have hmem : tool.schema ∈ r.schemas := List.mem_map.mpr ⟨tool, by simpa using Array.mem_of_getElem? htool, rfl⟩
      simp only [Option.bind_some, htool, Option.isSome_some, true_iff]
      exact ⟨_, hmem, hname⟩

end Colloquy.Registry
