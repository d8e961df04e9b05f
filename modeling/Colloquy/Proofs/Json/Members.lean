import Mathlib.Data.List.Basic
import Mathlib.Data.List.Perm.Basic
import Colloquy.Json.Basic

/-! Lists of entries by key, and the members of an object put together one by one. Where no two have the same key,
the object holds what was put in and nothing else, whatever the order (`lookup_arranged`, `arranged_perm`). -/

namespace Colloquy

variable {α : Type} {key : String} {entries : List (String × α)}

theorem lookup_fresh (h : key ∉ entries.map Prod.fst) : entries.lookup key = none := by
  rw [List.lookup_eq_none_iff]
  intro e he
  simp only [bne_iff_ne]
  rintro rfl
  exact h (List.mem_map_of_mem he)

theorem lookup_cons (e : String × α) (entries : List (String × α)) (key : String) :
    (e :: entries).lookup key = if key = e.1 then some e.2 else entries.lookup key := by
  by_cases h : key = e.1
  · subst h
    rw [if_pos rfl]
    exact List.lookup_cons_self
  · rw [List.lookup_cons, beq_false_of_ne h, if_neg h]

theorem lookup_mapped {β : Type} (f : α → β) (key : String) :
    (entries.map (fun e => (e.1, f e.2))).lookup key = (entries.lookup key).map f := by
  induction entries with
  | nil => rfl
  | cons e entries ih =>
      rw [List.map_cons, lookup_cons, lookup_cons, ih]
      split <;> rfl

namespace Json

/-- The members in the order in which an object that is composed of them has them. -/
def arranged (members : Members) : Members := members.foldl (fun ms m => insert m.1 m.2 ms) []

theorem ofMembers_eq (members : Members) : ofMembers members = .obj (arranged members) := rfl

theorem lookup_insert (key : String) (value : Json) (ms : Members) (k : String) :
    (insert key value ms).lookup k = if k = key then some value else ms.lookup k := by
  induction ms with
  | nil => exact lookup_cons (key, value) [] k
  | cons m ms ih =>
      rw [insert]
      split
      · exact lookup_cons (key, value) (m :: ms) k
      · split
        · rename_i heq
          rw [lookup_cons, lookup_cons, ← heq]
          split <;> rfl
        · rename_i hne
          rw [lookup_cons, lookup_cons, ih]
          by_cases hk : k = m.1
          · rw [if_pos hk, if_pos hk, if_neg fun hkey => hne (hkey.symm.trans hk)]
          · rw [if_neg hk, if_neg hk]

variable {members : Members}

theorem lookup_arranged (hkeys : (members.map Prod.fst).Nodup) (k : String) :
    (arranged members).lookup k = members.lookup k := by
  have hfold (done : Members) :
      (members.foldl (fun ms m => insert m.1 m.2 ms) done).lookup k = (members.lookup k).or (done.lookup k) := by
    induction members generalizing done with
    | nil => rfl
    | cons m ms ih =>
        obtain ⟨hm, hms⟩ := List.nodup_cons.mp hkeys
        rw [List.foldl_cons, ih hms, lookup_insert, lookup_cons]
        by_cases hk : k = m.1
        · rw [if_pos hk, if_pos hk, hk, lookup_fresh hm]
          rfl
        · rw [if_neg hk, if_neg hk]
  rw [arranged, hfold, List.lookup_nil, Option.or_none]

theorem insert_perm {ms : Members} (hkey : key ∉ ms.map Prod.fst) (value : Json) :
    (insert key value ms).Perm ((key, value) :: ms) := by
  induction ms with
  | nil => exact .refl _
  | cons m ms ih =>
      rw [List.map_cons, List.mem_cons, not_or] at hkey
      rw [insert]
      split
      · exact .refl _
      · rw [if_neg hkey.1]
        exact ((ih hkey.2).cons m).trans (.swap _ _ _)

theorem arranged_perm (hkeys : (members.map Prod.fst).Nodup) : (arranged members).Perm members := by
  have hfold (done : Members) (hdone : ((members ++ done).map Prod.fst).Nodup) :
      (members.foldl (fun ms m => insert m.1 m.2 ms) done).Perm (members ++ done) := by
    clear hkeys
    induction members generalizing done with
    | nil => exact .refl _
    | cons m ms ih =>
        have hfresh : m.1 ∉ done.map Prod.fst := by
          rw [List.cons_append, List.map_cons, List.nodup_cons, List.map_append, List.mem_append, not_or] at hdone
          exact hdone.1.2
        have hmiddle : (ms ++ insert m.1 m.2 done).Perm (m :: (ms ++ done)) :=
          ((insert_perm hfresh m.2).append_left ms).trans List.perm_middle
        rw [List.foldl_cons]
        exact (ih _ ((hmiddle.map Prod.fst).nodup_iff.mpr hdone)).trans hmiddle
  simpa [arranged] using hfold [] (by simpa using hkeys)

end Json

end Colloquy
