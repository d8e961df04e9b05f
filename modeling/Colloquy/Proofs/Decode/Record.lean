import Mathlib.Algebra.Group.Nat.Defs
import Colloquy.Decode.Basic

/-! Reading a record that has what is asked for: one lemma for every kind of field, and one for each way of
putting fields together. The members of an object are looked up by their keys, so every record that is written
with its fields is read by these (`record_obj`). -/

namespace Colloquy.Decode

variable {α β : Type} {slots : Slots} {key : String} {index : Nat} {read : Json → Result α} {j : Json} {a : α}

theorem given_ok (hread : read j = .ok a) : given key read j = .ok a := by
  rw [given, hread]

theorem run_required (hfind : slots.find? key index = some j) (hread : read j = .ok a) :
    (required key index read).run slots = .ok a := by
  simp only [required, hfind, given_ok hread]

theorem run_defaulted {default : α} (hfind : slots.find? key index = some j) (hread : read j = .ok a) :
    (defaulted key index read default).run slots = .ok a := by
  simp only [defaulted, hfind, given_ok hread]

theorem run_defaulted_absent {default : α} (hfind : slots.find? key index = none) :
    (defaulted key index read default).run slots = .ok default := by
  simp only [defaulted, hfind]

theorem nullable_ok (hread : read j = .ok a) (hpresent : j.isNull = false) : nullable read j = .ok (some a) := by
  unfold nullable
  split
  · cases hpresent
  · rw [hread]
    rfl

theorem run_optionalNamed (hfind : slots.find? key index = some j) (hread : read j = .ok a)
    (hpresent : j.isNull = false) : (optionalNamed key index read).run slots = .ok (some a) := by
  simp only [optionalNamed, hfind, given_ok (nullable_ok hread hpresent)]

theorem run_optionalNamed_null (hfind : slots.find? key index = some .null) :
    (optionalNamed key index read).run slots = .ok none := by
  have hread : nullable read .null = .ok none := rfl
  simp only [optionalNamed, hfind, given_ok hread]

theorem run_map {x : Reading α} {g : α → β} (hx : x.run slots = .ok a) : (g <$> x).run slots = .ok (g a) := by
  show (x.run slots).map g = _
  rw [hx]
  rfl

theorem run_seq {f : Reading (α → β)} {x : Reading α} {g : α → β} (hf : f.run slots = .ok g)
    (hx : x.run slots = .ok a) : (f <*> x).run slots = .ok (g a) := by
  show (f.both x).run slots = _
  simp only [Reading.both, hf, hx]

theorem record_obj {name : String} {size : Nat} {setting : Setting} {reading : Reading α} {members : Json.Members}
    (hrun : reading.run (.named members) = .ok a) : record name size setting reading (.obj members) = .ok a := by
  simp only [record, fields, hrun]

theorem text_str (s : String) : text (.str s) = .ok s := rfl

theorem boolean_bool (b : Bool) : boolean (.bool b) = .ok b := rfl

theorem natural_nat {width : String} {bits n : Nat} (hn : n < 2 ^ bits) : natural width bits (.nat n) = .ok n := by
  have hbounds : (decide ((0 : Int) ≤ n) && decide ((n : Int) ≤ Int.ofNat (Nat.pow 2 bits - 1))) = true := by
    have hpow : Nat.pow 2 bits = 2 ^ bits := rfl
    simp only [hpow, Bool.and_eq_true, decide_eq_true_eq, Int.ofNat_eq_natCast]
    omega
  simp only [natural, Json.nat, integer, hbounds, if_true]
  rfl

/-- A list is read item by item, each as what it was written for. -/
theorem list_map_map {write : β → Json} {f : β → α} (hitem : ∀ b, read (write b) = .ok (f b)) (bs : List β) :
    list read (.arr (bs.map write)) = .ok (bs.map f) := by
  show (bs.map write).mapM read = _
  induction bs with
  | nil => rfl
  | cons b bs ih =>
      rw [List.map_cons, List.mapM_cons, hitem, ih]
      rfl

theorem list_map {write : α → Json} (hitem : ∀ a, read (write a) = .ok a) (as : List α) :
    list read (.arr (as.map write)) = .ok as := by
  simpa using list_map_map hitem as

/-! ### What was read -/

theorem given_eq_ok : given key read j = .ok a ↔ read j = .ok a := by
  unfold given
  cases read j <;> simp

theorem required_eq_ok : (required key index read).run slots = .ok a ↔
    ∃ j, slots.find? key index = some j ∧ read j = .ok a := by
  cases hfind : slots.find? key index <;> simp [required, hfind, given_eq_ok]

theorem eq_default_of_absent {default : α} (hrun : (defaulted key index read default).run slots = .ok a)
    (hfind : slots.find? key index = none) : a = default := by
  rw [run_defaulted_absent hfind, Except.ok.injEq] at hrun
  exact hrun.symm

theorem map_eq_ok {x : Reading α} {g : α → β} {b : β} :
    (g <$> x).run slots = .ok b ↔ ∃ a, x.run slots = .ok a ∧ g a = b := by
  show (x.run slots).map g = .ok b ↔ _
  cases x.run slots <;> simp [Except.map]

theorem seq_eq_ok {f : Reading (α → β)} {x : Reading α} {b : β} :
    (f <*> x).run slots = .ok b ↔ ∃ g a, f.run slots = .ok g ∧ x.run slots = .ok a ∧ g a = b := by
  show (f.both x).run slots = .ok b ↔ _
  cases hf : f.run slots <;> cases hx : x.run slots <;> simp [Reading.both, hf, hx]

theorem record_obj_eq_ok {name : String} {size : Nat} {setting : Setting} {reading : Reading α}
    {members : Json.Members} :
    record name size setting reading (.obj members) = .ok a ↔ reading.run (.named members) = .ok a := by
  cases hrun : reading.run (.named members) <;> simp [record, fields, hrun]

/-- What a value gives for a field of a record: in an object by name, in an array by place. -/
def field? (j : Json) (key : String) (index : Nat) : Option Json :=
  match j with
  | .obj members => members.lookup key
  | .arr items => items[index]?
  | _ => none

theorem record_eq_ok {name : String} {size : Nat} {setting : Setting} {reading : Reading α}
    (h : record name size setting reading j = .ok a) :
    ∃ slots, (∀ key index, slots.find? key index = field? j key index) ∧ reading.run slots = .ok a := by
  cases j with
  | obj members => exact ⟨.named members, fun _ _ => rfl, record_obj_eq_ok.mp h⟩
  | arr items =>
      refine ⟨.positional items, fun _ _ => rfl, ?_⟩
      cases hrun : reading.run (.positional items) with
      | error blames => simp [record, fields, hrun] at h
      | ok b =>
          simp only [record, fields, hrun] at h
          split at h
          · rw [Except.ok.inj h]
          · cases h
  | _ => cases h

end Colloquy.Decode
