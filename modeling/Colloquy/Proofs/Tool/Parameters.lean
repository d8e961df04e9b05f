import Colloquy.Tool.Price
import Colloquy.Proofs.Decimal.Magnitude

/-! What the built-in tools take for parameters, apart from how it is checked: the code of a state
(`stateCode?_eq_some_iff`), coordinates (`exists_coordinate?_iff`) and the symbol of a currency (`symbol?_eq_some_iff`). -/

namespace Colloquy

theorem Json.asText?_eq_some_iff {j : Json} {text : String} : j.asText? = some text ↔ j = .str text := by
  cases j <;> simp [Json.asText?]

/-! ### States -/

/-- A state is named by two ASCII letters. -/
def NamesState (params : Json) (a b : Char) : Prop :=
  params.get "state" = .str (String.ofList [a, b]) ∧ a.isAlpha = true ∧ b.isAlpha = true

theorem toNat_of_isAlpha {c : Char} (hc : c.isAlpha = true) : c.toNat ≤ 122 := by
  simp only [Char.isAlpha, Char.isUpper, Char.isLower, Bool.or_eq_true, Bool.and_eq_true, decide_eq_true_eq,
    UInt32.le_iff_toNat_le, ge_iff_le] at hc
  rcases hc with ⟨-, hc⟩ | ⟨-, hc⟩
  · exact hc.trans (by decide)
  · exact hc.trans (by decide)

theorem utf8Size_of_isAlpha {c : Char} (hc : c.isAlpha = true) : c.utf8Size = 1 := by
  rw [Char.utf8Size_eq_one_iff, UInt32.le_iff_toNat_le]
  exact (toNat_of_isAlpha hc).trans (by decide)

/-- A text of letters takes as many bytes as it has letters. -/
theorem utf8ByteSize_of_letters {letters : List Char} (hletters : ∀ c ∈ letters, c.isAlpha = true) :
    (String.ofList letters).utf8ByteSize = letters.length := by
  rw [String.utf8ByteSize_ofList]
  induction letters with
  | nil => rfl
  | cons c letters ih =>
      rw [List.forall_mem_cons] at hletters
      rw [String.utf8Len_cons, ih hletters.2, utf8Size_of_isAlpha hletters.1, List.length_cons]

theorem isTwoLetters_iff {s : String} : (s.utf8ByteSize = 2 && s.all Char.isAlpha) = true ↔
    ∃ a b, s = String.ofList [a, b] ∧ a.isAlpha = true ∧ b.isAlpha = true := by
  rw [Bool.and_eq_true, decide_eq_true_eq, String.all_bool_eq, List.all_eq_true]
  constructor
  · rintro ⟨hsize, hletters⟩
    rw [← String.ofList_toList (s := s), utf8ByteSize_of_letters hletters, List.length_eq_two] at hsize
    obtain ⟨a, b, htwo⟩ := hsize
    rw [htwo] at hletters
    exact ⟨a, b, by rw [← htwo, String.ofList_toList], hletters a (by simp), hletters b (by simp)⟩
  · rintro ⟨a, b, rfl, ha, hb⟩
    have hletters : ∀ c ∈ [a, b], c.isAlpha = true := by simp [ha, hb]
    rw [String.toList_ofList]
    exact ⟨utf8ByteSize_of_letters hletters, hletters⟩

theorem stateCode?_eq_some_iff {params : Json} {code : String} : WeatherService.stateCode? params = some code ↔
    ∃ a b, NamesState params a b ∧ code = String.ofList [a.toUpper, b.toUpper] := by
  have hupper (a b : Char) : (String.ofList [a, b]).map Char.toUpper = String.ofList [a.toUpper, b.toUpper] := by
    rw [← String.ofList_toList (s := (String.ofList [a, b]).map Char.toUpper), String.toList_map, String.toList_ofList]
    rfl
  unfold WeatherService.stateCode?
  constructor
  · intro hcode
    split at hcode
    · next s htext =>
        split at hcode
        · next htwo =>
            obtain ⟨a, b, rfl, ha, hb⟩ := isTwoLetters_iff.mp htwo
            exact ⟨a, b, ⟨Json.asText?_eq_some_iff.mp htext, ha, hb⟩, by rw [← hupper, Option.some.inj hcode]⟩
        · cases hcode
    · cases hcode
  · rintro ⟨a, b, ⟨htext, ha, hb⟩, rfl⟩
    rw [htext, ← hupper]
    exact if_pos (isTwoLetters_iff.mpr ⟨a, b, rfl, ha, hb⟩)

/-! ### Coordinates -/

/-- The magnitude of a number, if it has one. -/
def Number.absValue? : Number → Option ℚ
  | .int n => some (n.natAbs : ℚ)
  | .float x => Decimal.absValue? x

/-- A number whose magnitude is at most a bound. -/
def Json.IsWithin (bound : Nat) (v : Json) : Prop := ∃ n m, v = .num n ∧ n.absValue? = some m ∧ m ≤ bound

theorem isWithin_iff {bound : Nat} {x : Float} :
    WeatherService.isWithin bound x = true ↔ ∃ m, Decimal.absValue? x = some m ∧ m ≤ bound := by
  unfold WeatherService.isWithin
  rw [Bool.and_eq_true, bne_iff_ne, Decimal.compareScaled_ne_lt_iff, Decimal.absValue?]
  split
  · next hfinite => simp [hfinite]
  · next hinfinite => simp [hinfinite]

theorem isWithin_intToFloat_iff {bound : Nat} (hbound : bound < 2 ^ 53) {n : Int} :
    WeatherService.isWithin bound (Decimal.intToFloat n) = true ↔ n.natAbs ≤ bound := by
  rw [isWithin_iff]
  rcases Nat.lt_or_ge n.natAbs (2 ^ 53) with hsmall | hlarge
  · rw [Decimal.absValue?_intToFloat_small hsmall]
    simp only [Option.some.injEq, exists_eq_left', Nat.cast_le]
  · refine iff_of_false ?_ (by omega)
    rintro ⟨m, hm, hle⟩
    have hge := Decimal.absValue?_intToFloat_large hlarge hm
    have hlt : (bound : ℚ) < 2 ^ 53 := by exact_mod_cast hbound
    linarith

theorem exists_coordinate?_iff {params : Json} {key : String} {bound : Nat} (hbound : bound < 2 ^ 53) :
    (∃ x, WeatherService.coordinate? params key bound = .ok x) ↔ (params.get key).IsWithin bound := by
  have hsome : (∃ x, WeatherService.coordinate? params key bound = .ok x) ↔
      ∃ x, WeatherService.number? (params.get key) = some x ∧ WeatherService.isWithin bound x = true := by
    unfold WeatherService.coordinate?
    refine exists_congr fun x => ?_
    rw [← Option.filter_eq_some_iff]
    split
    · next y hy => rw [hy, Except.ok.injEq, Option.some.injEq]
    · next hnone => simp [hnone]
  rw [hsome, Json.IsWithin]
  generalize params.get key = v
  cases v with
  | num n =>
      cases n with
      | int n =>
          simp only [WeatherService.number?, Option.some.injEq, exists_eq_left', isWithin_intToFloat_iff hbound]
          refine ⟨fun hle => ⟨.int n, _, rfl, rfl, Nat.cast_le.mpr hle⟩, ?_⟩
          rintro ⟨_, _, ⟨⟩, ⟨⟩, hle⟩
          exact Nat.cast_le.mp hle
      | float x => simp [WeatherService.number?, Number.absValue?, isWithin_iff]
  | _ => simp [WeatherService.number?]

/-! ### Symbols -/

/-- A currency is named by text that is not blank. -/
def NamesSymbol (params : Json) (symbol : String) : Prop :=
  ∃ text, params.get "symbol" = .str text ∧ Text.isAllBlank text = false ∧ symbol = Text.trimBlanks text

theorem isEmpty_trimBlanks (s : String) : (Text.trimBlanks s).isEmpty = Text.isAllBlank s := by
  rw [Bool.eq_iff_iff, String.isEmpty_iff, Text.isAllBlank, String.all_bool_eq, List.all_eq_true, Text.trimBlanks,
    String.ofList_eq_empty_iff, List.reverse_eq_nil_iff, List.dropWhile_eq_nil_iff]
  simp only [List.mem_reverse]
  refine ⟨fun hrest c hc => ?_, fun hall c hc => hall c ((List.dropWhile_sublist _).subset hc)⟩
  rw [← List.takeWhile_append_dropWhile (p := Text.isBlank) (l := s.toList), List.mem_append] at hc
  exact hc.elim (fun hfront => List.mem_takeWhile_imp hfront) (hrest c)

theorem symbol?_eq_some_iff {params : Json} {symbol : String} :
    PriceService.symbol? params = some symbol ↔ NamesSymbol params symbol := by
  unfold PriceService.symbol? NamesSymbol
  simp only [← Json.asText?_eq_some_iff]
  cases (params.get "symbol").asText? with
  | none => simp
  | some text => cases hblank : Text.isAllBlank text <;> simp [isEmpty_trimBlanks, hblank, eq_comm (b := symbol)]

end Colloquy
