import Colloquy.Proofs.Decimal.Fixed
import Colloquy.Proofs.Decimal.Sign
import Colloquy.Tool.Price

/-! Amounts of money as they are written. A row of digits is cut into groups of three from its end, however long it is
(`isGrouped_groupThousands`), and without the commas it is what it was (`withoutCommas_groupThousands`). So an amount is
written with two places, with commas put in and a sign if it is below zero (`amount_written`). -/

namespace Colloquy

/-! ### Groups of three -/

/-- One to three digits, and then groups of a comma and three digits. -/
def IsGrouped (text : List Char) : Prop :=
  ∃ (lead : List Char) (groups : List (List Char)), text = lead ++ groups.flatMap (',' :: ·) ∧
    1 ≤ lead.length ∧ lead.length ≤ 3 ∧ (∀ d ∈ lead, d.isDigit = true) ∧
    ∀ g ∈ groups, g.length = 3 ∧ ∀ d ∈ g, d.isDigit = true

theorem groupThousands_cons_of_ne {d : Char} {ds : List Char} (hlength : ds.length % 3 ≠ 0) :
    groupThousands (d :: ds) = d :: groupThousands ds := by
  simp [groupThousands, hlength]

theorem groupThousands_cons_of_eq {d : Char} {ds : List Char} (hlength : ds.length % 3 = 0) (hne : ds ≠ []) :
    groupThousands (d :: ds) = d :: ',' :: groupThousands ds := by
  simp [groupThousands, hlength, hne]

/-- Up to three digits in front of full groups stay together. -/
theorem groupThousands_append {lead rest : List Char} (hlead : lead ≠ []) (hshort : lead.length ≤ 3)
    (hrest : rest.length % 3 = 0) :
    groupThousands (lead ++ rest) = lead ++ if rest = [] then [] else ',' :: groupThousands rest := by
  induction lead with
  | nil => exact absurd rfl hlead
  | cons d lead ih =>
      cases lead with
      | nil =>
          by_cases hne : rest = []
          · subst hne
            rfl
          · rw [if_neg hne]
            exact groupThousands_cons_of_eq hrest hne
      | cons e lead =>
          rw [List.length_cons, List.length_cons] at hshort
          have hinside : (e :: lead ++ rest).length % 3 ≠ 0 := by
            rw [List.length_append, List.length_cons]
            omega
          have htail : (e :: lead).length ≤ 3 := by
            rw [List.length_cons]
            omega
          rw [List.cons_append, groupThousands_cons_of_ne hinside, ih (List.cons_ne_nil _ _) htail]
          rfl

theorem groupThousands_groups {lead : List Char} {groups : List (List Char)} (hlead : lead ≠ [])
    (hshort : lead.length ≤ 3) (hgroups : ∀ g ∈ groups, g.length = 3) :
    groupThousands (lead ++ groups.flatten) = lead ++ groups.flatMap (',' :: ·) := by
  have hlength : groups.flatten.length % 3 = 0 := by
    rw [List.length_flatten]
    exact Nat.mod_eq_zero_of_dvd (List.dvd_sum (by simpa using fun g hg => (hgroups g hg).symm.dvd))
  rw [groupThousands_append hlead hshort hlength]
  induction groups generalizing lead with
  | nil => rfl
  | cons g groups ih =>
      obtain ⟨hg, hgroups⟩ := List.forall_mem_cons.mp hgroups
      have hne : g ≠ [] := List.ne_nil_of_length_eq_add_one hg
      rw [List.flatten_cons, List.length_append] at hlength
      have hrest : groups.flatten.length % 3 = 0 := by omega
      rw [List.flatten_cons, if_neg (by simp [hne]), groupThousands_append hne hg.le hrest,
        ih hne hg.le hgroups hrest]
      rfl

/-- Every row of digits is made of groups of three behind the first ones. -/
theorem exists_groups {ds : List Char} (hne : ds ≠ []) :
    ∃ (lead : List Char) (groups : List (List Char)), ds = lead ++ groups.flatten ∧
      1 ≤ lead.length ∧ lead.length ≤ 3 ∧ ∀ g ∈ groups, g.length = 3 := by
  -- The last three are taken off, since it is from the end that the groups are counted.
  induction hn : ds.length using Nat.strong_induction_on generalizing ds with
  | _ n ih =>
      subst hn
      have hpos : 1 ≤ ds.length := List.length_pos_iff.mpr hne
      rcases Nat.lt_or_ge 3 ds.length with hlong | hshort
      · have hfront : (ds.take (ds.length - 3)).length = ds.length - 3 := by
          rw [List.length_take]
          omega
        obtain ⟨lead, groups, heq, hlow, hhigh, hgroups⟩ :=
          ih (ds.length - 3) (by omega) (List.ne_nil_of_length_pos (by omega)) hfront
        refine ⟨lead, groups ++ [ds.drop (ds.length - 3)], ?_, hlow, hhigh, ?_⟩
        · rw [List.flatten_append, List.flatten_singleton, ← List.append_assoc, ← heq, List.take_append_drop]
        · rw [List.forall_mem_append, List.forall_mem_singleton, List.length_drop]
          exact ⟨hgroups, by omega⟩
      · exact ⟨ds, [], by simp, hpos, hshort, List.forall_mem_nil _⟩

theorem isGrouped_groupThousands {ds : List Char} (hne : ds ≠ []) (hdigits : ∀ d ∈ ds, d.isDigit = true) :
    IsGrouped (groupThousands ds) := by
  obtain ⟨lead, groups, rfl, hlow, hhigh, hgroups⟩ := exists_groups hne
  refine ⟨lead, groups, groupThousands_groups (List.ne_nil_of_length_pos hlow) hhigh hgroups, hlow, hhigh, ?_, ?_⟩
  · exact fun d hd => hdigits d (List.mem_append_left _ hd)
  · exact fun g hg => ⟨hgroups g hg, fun d hd =>
      hdigits d (List.mem_append_right _ (List.mem_flatten.mpr ⟨g, hg, hd⟩))⟩

/-! ### Without the commas -/

def withoutCommas (text : List Char) : List Char := text.filter (· ≠ ',')

theorem withoutCommas_append (text more : List Char) :
    withoutCommas (text ++ more) = withoutCommas text ++ withoutCommas more := List.filter_append ..

theorem withoutCommas_cons (c : Char) (text : List Char) :
    withoutCommas (c :: text) = withoutCommas [c] ++ withoutCommas text := withoutCommas_append [c] text

theorem withoutCommas_comma (text : List Char) : withoutCommas (',' :: text) = withoutCommas text :=
  List.filter_cons_of_neg (by decide)

theorem withoutCommas_of_digits {ds : List Char} (hdigits : ∀ d ∈ ds, d.isDigit = true) : withoutCommas ds = ds := by
  rw [withoutCommas, List.filter_eq_self]
  intro d hd
  rw [decide_eq_true_eq]
  rintro rfl
  exact absurd (hdigits ',' hd) (by decide)

theorem withoutCommas_groupThousands (ds : List Char) : withoutCommas (groupThousands ds) = withoutCommas ds := by
  induction ds with
  | nil => rfl
  | cons d ds ih =>
      rw [groupThousands]
      split
      · rw [withoutCommas_cons d (',' :: _), withoutCommas_comma, ih, ← withoutCommas_cons]
      · rw [withoutCommas_cons d (groupThousands _), ih, ← withoutCommas_cons]

/-! ### Amounts -/

/-- The sign of an amount that is below zero. -/
def minus (x : Float) : List Char := if x < 0 then ['-'] else []

/-- How an amount is written: its sign, its whole digits in groups, and two places. Without the commas this is the
number of hundredths next to its magnitude. -/
structure IsAmount (x : Float) (text : List Char) : Prop where
  shape : ∃ whole cents, text = minus x ++ whole ++ '.' :: cents ∧ IsGrouped whole ∧
    cents.length = 2 ∧ ∀ d ∈ cents, d.isDigit = true
  plain : withoutCommas text = minus x ++ Decimal.fixedText 2 x.abs
  value : ∃ n, Decimal.fixedText 2 x.abs = Decimal.hundredthsText n ∧
    Decimal.NearestEven ((Decimal.Binary.ofFloat x).value * 10 ^ 2) n

variable {x : Float}

theorem isBelowZero_iff (hx : x.isFinite = true) : isBelowZero x = true ↔ x < 0 := by
  rw [← Decimal.isFinite_eq] at hx
  rw [Decimal.lt_zero_iff hx, isBelowZero, if_pos hx, Bool.and_eq_true, bne_iff_ne]

theorem toList_usdText (hx : x.isFinite = true) {n : Nat} (hn : (Decimal.Binary.ofFloat x).units 2 = n) :
    (usdText x).toList = minus x ++ groupThousands (Nat.toDigits 10 (n / 100)) ++
      '.' :: [(n / 10 % 10).digitChar, (n % 10).digitChar] := by
  have hsign : (if isBelowZero x then ['-'] else []) = minus x := by simp only [minus, isBelowZero_iff hx]
  rw [← Decimal.isFinite_eq] at hx
  rw [usdText, amountDigits, if_pos hx, hn, Decimal.splitUnits_two, String.toList_ofList, hsign]

/-- A finite amount is written with one to three digits, groups of a comma and three digits, a point and two digits, and
in front of them a minus sign just if it is below zero. The commas apart, these are the digits of the amount without its
sign, rounded to two places. -/
theorem amount_written (hx : x.isFinite = true) : IsAmount x (usdText x).toList := by
  obtain ⟨n, hn⟩ : ∃ n, (Decimal.Binary.ofFloat x).units 2 = n := ⟨_, rfl⟩
  have htext := toList_usdText hx hn
  have hfixed : Decimal.fixedText 2 x.abs = Decimal.hundredthsText n := by
    rw [Decimal.fixedText_two, Decimal.ofFloat_abs (Decimal.isFinite_eq x ▸ hx), hn]
  have hwhole : ∀ d ∈ Nat.toDigits 10 (n / 100), d.isDigit = true := fun d hd =>
    Nat.isDigit_of_mem_toDigits (by decide) (by decide) hd
  have hcents : ∀ d ∈ [(n / 10 % 10).digitChar, (n % 10).digitChar], d.isDigit = true := by
    simp only [List.forall_mem_cons, Nat.isDigit_digitChar, decide_eq_true_eq]
    exact ⟨by omega, by omega, List.forall_mem_nil _⟩
  have hminus : withoutCommas (minus x) = minus x := by
    unfold minus
    split <;> rfl
  refine ⟨⟨_, _, htext, isGrouped_groupThousands Nat.toDigits_ne_nil hwhole, rfl, hcents⟩, ?_, n, hfixed, ?_⟩
  · rw [htext, hfixed, withoutCommas_append, withoutCommas_append, hminus, withoutCommas_groupThousands,
      withoutCommas_of_digits hwhole, withoutCommas_cons, withoutCommas_of_digits hcents, List.append_assoc]
    rfl
  · rw [← hn]
    exact Decimal.nearestEven_units _ 2

/-- Rounding may add a digit, and with it a comma. -/
theorem amount_written_carry : (-999.999 : Float).isFinite = true ∧ usdText (-999.999) = "-1,000.00" ∧
    IsAmount (-999.999) (usdText (-999.999)).toList :=
  ⟨by decide +kernel, by decide +kernel, amount_written (by decide +kernel)⟩

end Colloquy
