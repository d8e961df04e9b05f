import Mathlib.Data.List.Nodup
import Colloquy.Conversation.Ids

/-! Renewing the ids of a batch. If the ids that are handed out are fresh, the batch has different ids
afterwards, none of which was unusable; what its calls ask for is never touched. -/

namespace Colloquy

/-- What a call asks for. -/
def ToolCall.request (c : ToolCall) : String × Json := (c.toolName, c.arguments)

/-- The ids that are handed out from here up to a number are not in use, and they differ. -/
structure IdSupply.FreshBelow (s : IdSupply) (bound : Nat) (used : List String) : Prop where
  unused : ∀ n, s.next ≤ n → n < bound → s.name n ∉ used
  different : ∀ m n, s.next ≤ m → m < n → n < bound → s.name m ≠ s.name n

theorem IdSupply.freshBelow_iff (s : IdSupply) (bound : Nat) (used : List String) :
    s.FreshBelow bound used ↔ (∀ n < bound, s.next ≤ n → s.name n ∉ used) ∧
      ∀ n < bound, ∀ m < n, s.next ≤ m → s.name m ≠ s.name n := by
  constructor
  · intro h
    exact ⟨fun n hb hn => h.unused n hn hb, fun n hb m hmn hm => h.different m n hm hmn hb⟩
  · intro h
    exact ⟨fun n hn hb => h.1 n hb hn, fun m n hm hmn hb => h.2 n hb m hmn hm⟩

instance (s : IdSupply) (bound : Nat) (used : List String) : Decidable (s.FreshBelow bound used) :=
  decidable_of_iff' _ (s.freshBelow_iff bound used)

/-- An id that has been handed out is in use. -/
theorem IdSupply.FreshBelow.take {s : IdSupply} {bound : Nat} {used : List String}
    (hfresh : s.FreshBelow bound used) : s.take.2.FreshBelow bound (s.take.1 :: used) where
  unused n hn hb := by
    have hn : s.next < n := hn
    rw [List.mem_cons, not_or]
    exact ⟨(hfresh.different s.next n (Nat.le_refl _) hn hb).symm, hfresh.unused n (Nat.le_of_lt hn) hb⟩
  different m n hm hmn hb := hfresh.different m n (Nat.le_of_succ_le hm) hmn hb

variable (unusable : String → Bool)

theorem next_le_renewIds (s : IdSupply) (seen : List String) (cs : List ToolCall) :
    s.next ≤ (renewIds unusable s seen cs).2.next := by
  induction cs generalizing s seen with
  | nil => exact Nat.le_refl _
  | cons c cs ih =>
      simp only [renewIds]
      split
      · exact Nat.le_trans (Nat.le_succ _) (ih s.take.2 (s.take.1 :: seen))
      · exact ih s (c.id :: seen)

theorem renewIds_requests (s : IdSupply) (seen : List String) (cs : List ToolCall) :
    (renewIds unusable s seen cs).1.map ToolCall.request = cs.map ToolCall.request := by
  induction cs generalizing s seen with
  | nil => rfl
  | cons c cs ih =>
      simp only [renewIds]
      split
      · rw [List.map_cons, List.map_cons, ih s.take.2 (s.take.1 :: seen)]
        rfl
      · rw [List.map_cons, List.map_cons, ih s (c.id :: seen)]

theorem renewIds_length (s : IdSupply) (seen : List String) (cs : List ToolCall) :
    (renewIds unusable s seen cs).1.length = cs.length := by
  simpa only [List.length_map] using congrArg List.length (renewIds_requests unusable s seen cs)

variable {unusable}

/-- A call stays as it is, or gets one of the ids that are handed out for the batch. -/
theorem renewIds_getElem? {s : IdSupply} {seen : List String} {cs : List ToolCall} {i : Nat} {c c' : ToolCall}
    (hc : cs[i]? = some c) (hc' : (renewIds unusable s seen cs).1[i]? = some c') :
    c' = c ∨ ∃ n, s.next ≤ n ∧ n < (renewIds unusable s seen cs).2.next ∧ c' = { c with id := s.name n } := by
  induction cs generalizing s seen i with
  | nil => cases hc
  | cons d cs ih =>
      simp only [renewIds] at hc' ⊢
      split at hc'
      · next hrenew =>
          rw [if_pos hrenew]
          cases i with
          | zero =>
              obtain rfl := Option.some.inj hc
              obtain rfl := Option.some.inj hc'
              exact Or.inr ⟨s.next, Nat.le_refl _, next_le_renewIds unusable s.take.2 (s.take.1 :: seen) cs, rfl⟩
          | succ i =>
              rcases ih (s := s.take.2) hc hc' with hsame | ⟨n, hn, hlast, hnew⟩
              · exact Or.inl hsame
              · exact Or.inr ⟨n, Nat.le_of_succ_le hn, hlast, hnew⟩
      · next hkeep =>
          rw [if_neg hkeep]
          cases i with
          | zero =>
              obtain rfl := Option.some.inj hc
              exact Or.inl (Option.some.inj hc').symm
          | succ i => exact ih hc hc'

/-- The id that the first call of a batch gets is not in use. -/
theorem IdSupply.FreshBelow.take_notMem {s : IdSupply} {seen used : List String} {cs : List ToolCall}
    (hfresh : s.FreshBelow (renewIds unusable s.take.2 seen cs).2.next used) : s.take.1 ∉ used :=
  hfresh.unused s.next (Nat.le_refl _) (next_le_renewIds unusable s.take.2 seen cs)

/-- A batch whose ids differ, are usable and are none of those seen before. -/
def DistinctIds (unusable : String → Bool) (seen : List String) (cs : List ToolCall) : Prop :=
  (cs.map (·.id)).Nodup ∧ ∀ c ∈ cs, c.id ∉ seen ∧ unusable c.id = false

theorem DistinctIds.cons {seen : List String} {c : ToolCall} {cs : List ToolCall}
    (hrest : DistinctIds unusable (c.id :: seen) cs) (hseen : c.id ∉ seen) (hgood : unusable c.id = false) :
    DistinctIds unusable seen (c :: cs) := by
  obtain ⟨hdiff, hok⟩ := hrest
  refine ⟨?_, ?_⟩
  · rw [List.map_cons, List.nodup_cons]
    refine ⟨fun hmem => ?_, hdiff⟩
    obtain ⟨d, hd, heq⟩ := List.mem_map.mp hmem
    exact (hok d hd).1 (heq ▸ List.mem_cons_self)
  · rintro d hd
    rcases List.mem_cons.mp hd with rfl | hd
    · exact ⟨hseen, hgood⟩
    · exact ⟨fun h => (hok d hd).1 (List.mem_cons_of_mem _ h), (hok d hd).2⟩

/-- With fresh ids a batch gets ids that differ, are usable and are not those of earlier calls. -/
theorem renewIds_distinct {s : IdSupply} {seen used : List String} {cs : List ToolCall}
    (hfresh : s.FreshBelow (renewIds unusable s seen cs).2.next used)
    (hseen : ∀ id ∈ seen, id ∈ used) (hown : ∀ c ∈ cs, c.id ∈ used) (hbad : ∀ id, unusable id = true → id ∈ used) :
    DistinctIds unusable seen (renewIds unusable s seen cs).1 := by
  induction cs generalizing s seen used with
  | nil => simp [renewIds, DistinctIds]
  | cons c cs ih =>
      have hrest : ∀ d ∈ cs, d.id ∈ used := fun d hd => hown d (List.mem_cons_of_mem c hd)
      simp only [renewIds] at hfresh ⊢
      split at hfresh
      · next hrenew =>
          rw [if_pos hrenew]
          have hnew : s.take.1 ∉ used := hfresh.take_notMem
          have hdistinct := ih hfresh.take (List.cons_subset_cons _ hseen)
            (fun d hd => List.mem_cons_of_mem _ (hrest d hd)) (fun id h => List.mem_cons_of_mem _ (hbad id h))
          exact DistinctIds.cons (c := { c with id := s.take.1 }) hdistinct (fun h => hnew (hseen _ h))
            (Bool.eq_false_iff.mpr fun h => hnew (hbad _ h))
      · next hkeep =>
          rw [if_neg hkeep]
          simp only [Bool.or_eq_true, List.contains_iff_mem, not_or, Bool.not_eq_true] at hkeep
          have hdistinct := ih hfresh (List.cons_subset.mpr ⟨hown c List.mem_cons_self, hseen⟩) hrest hbad
          exact hdistinct.cons hkeep.2 hkeep.1

/-- With fresh ids a call keeps its own id just if that is usable and not one seen before or that of an earlier call. -/
theorem renewIds_keeps_iff {s : IdSupply} {seen used : List String} {cs : List ToolCall}
    (hfresh : s.FreshBelow (renewIds unusable s seen cs).2.next used) (hown : ∀ c ∈ cs, c.id ∈ used)
    {i : Nat} {c c' : ToolCall} (hc : cs[i]? = some c) (hc' : (renewIds unusable s seen cs).1[i]? = some c') :
    c'.id = c.id ↔ unusable c.id = false ∧ c.id ∉ seen ∧ c.id ∉ (cs.take i).map (·.id) := by
  induction cs generalizing s seen used i with
  | nil => cases hc
  | cons d cs ih =>
      have hrest : ∀ e ∈ cs, e.id ∈ used := fun e he => hown e (List.mem_cons_of_mem d he)
      simp only [renewIds] at hfresh hc'
      split at hfresh
      · next hrenew =>
          rw [if_pos hrenew] at hc'
          have hnew : s.take.1 ∉ used := hfresh.take_notMem
          have hd : ¬(unusable d.id = false ∧ d.id ∉ seen) := by
            rintro ⟨hgood, hfirst⟩
            simp [hgood, hfirst] at hrenew
          cases i with
          | zero =>
              obtain rfl := Option.some.inj hc
              obtain rfl := Option.some.inj hc'
              have hne : s.take.1 ≠ d.id := fun heq => hnew (heq ▸ hown d List.mem_cons_self)
              exact iff_of_false hne fun ⟨hgood, hfirst, _⟩ => hd ⟨hgood, hfirst⟩
          | succ i =>
              have hne : c.id ≠ s.take.1 := fun heq => hnew (heq ▸ hrest c (List.mem_of_getElem? hc))
              -- An id like that of the renewed call would have been renewed itself.
              have hother : unusable c.id = false → c.id ∉ seen → c.id ≠ d.id := fun hgood hfirst heq =>
                hd (heq ▸ ⟨hgood, hfirst⟩)
              rw [ih hfresh.take (fun e he => List.mem_cons_of_mem _ (hrest e he)) hc hc', List.take_succ_cons,
                List.map_cons, List.mem_cons, List.mem_cons, not_or, not_or]
              tauto
      · next hkeep =>
          rw [if_neg hkeep] at hc'
          simp only [Bool.or_eq_true, List.contains_iff_mem, not_or, Bool.not_eq_true] at hkeep
          cases i with
          | zero =>
              obtain rfl := Option.some.inj hc
              obtain rfl := Option.some.inj hc'
              exact iff_of_true rfl ⟨hkeep.1, hkeep.2, by simp⟩
          | succ i =>
              rw [ih hfresh hrest hc hc', List.take_succ_cons, List.map_cons, List.mem_cons, List.mem_cons, not_or, not_or]
              tauto

end Colloquy
