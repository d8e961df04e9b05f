import Mathlib.Data.List.Basic
import Colloquy.Toml.Printer
import Colloquy.Toml.Reader

/-! Quoted text that is written and read again. A text between quotes is spelled by characters that stand for
themselves, by escapes, and between three quotes also by line ends and by rows of up to two quotes (`Spells`). The
readers take back whatever is spelled (`basic_spells`, `multiline_spells`), and the printer spells every text in the
way of quoting that it takes (`quotedText?_textOf`, `keyPart?_keyText`). -/

namespace Colloquy.Toml

/-- A row of characters ends where one of another kind stands. -/
theorem takeWhile_append_of_head {p : Char → Bool} {s rest : List Char} (hs : ∀ c ∈ s, p c = true)
    (hrest : ∀ c, rest.head? = some c → p c = false) : (s ++ rest).takeWhile p = s := by
  rw [List.takeWhile_append_of_pos hs]
  cases rest with
  | nil => simp
  | cons c rest => simp [hrest c rfl]

theorem head_cons {p : Char → Prop} {c : Char} (hc : p c) (s : List Char) : ∀ d, (c :: s).head? = some d → p d := by
  intro d hd
  obtain rfl := Option.some.inj hd
  exact hc

theorem ne_of_kind {kind : Char → Bool} {c d : Char} (hc : kind c = true) (hd : kind d = false) : c ≠ d := by
  rintro rfl
  rw [hc] at hd
  cases hd

/-- How many quotes stand in front. -/
def lead (quote : Char) (s : List Char) : Nat := (s.takeWhile (· == quote)).length

/-- The body of a quoted text spells the text. With `lines`, it stands between three quotes. -/
inductive Spells (quote : Char) (escapes lines : Bool) : List Char → List Char → Prop where
  | nil : Spells quote escapes lines [] []
  | plain {c : Char} {body s : List Char} (hquote : c ≠ quote) (hbackslash : escapes = true → c ≠ '\\')
      (hbarred : isBarred c = false) (h : Spells quote escapes lines body s) :
      Spells quote escapes lines (c :: body) (c :: s)
  | escape {e : List Char} {c : Char} {body s : List Char} (hescapes : escapes = true)
      (hread : ∀ rest, escape? (e ++ rest) = some (c, rest)) (h : Spells quote escapes lines body s) :
      Spells quote escapes lines ('\\' :: e ++ body) (c :: s)
  | lineEnd {body s : List Char} (hlines : lines = true) (h : Spells quote escapes lines body s) :
      Spells quote escapes lines ('\n' :: body) ('\n' :: s)
  | quote {body s : List Char} (hlines : lines = true) (hrow : lead quote body < 2)
      (h : Spells quote escapes lines body s) : Spells quote escapes lines (quote :: body) (quote :: s)

/-! ### Reading -/

theorem basic_spells {body s : List Char} (h : Spells '"' true false body s) (rest : List Char) :
    ∀ fuel soFar, body.length < fuel →
      basic fuel soFar (body ++ '"' :: rest) = some (String.ofList (soFar.reverse ++ s), rest) := by
  induction h with
  | nil =>
      intro fuel soFar hfuel
      obtain ⟨fuel, rfl⟩ := Nat.exists_eq_add_one_of_ne_zero (Nat.ne_zero_of_lt hfuel)
      simp [basic]
  | @plain c body s hquote hbackslash hbarred _ ih =>
      intro fuel soFar hfuel
      obtain ⟨fuel, rfl⟩ := Nat.exists_eq_add_one_of_ne_zero (Nat.ne_zero_of_lt hfuel)
      rw [List.cons_append, basic, if_neg (by simp [hbarred]), ih fuel (c :: soFar) (by simpa using hfuel)]
      · simp
      · exact hquote
      · exact hbackslash rfl
  | @escape e c body s _ hread _ ih =>
      intro fuel soFar hfuel
      obtain ⟨fuel, rfl⟩ := Nat.exists_eq_add_one_of_ne_zero (Nat.ne_zero_of_lt hfuel)
      have hlength : body.length < fuel := by
        simp only [List.cons_append, List.length_cons, List.length_append] at hfuel
        omega
      rw [List.cons_append, List.cons_append, List.append_assoc, basic, hread]
      simp [ih fuel (c :: soFar) hlength]
  | lineEnd hlines => cases hlines
  | quote hlines => cases hlines

variable {quote : Char} {s t : List Char}

theorem quotesAhead_eq : quotesAhead quote s = min 5 (lead quote s) := by
  rw [quotesAhead, lead, ← List.take_takeWhile, List.length_take]

theorem lead_cons_self : lead quote (quote :: s) = lead quote s + 1 := by
  simp [lead]

theorem lead_cons {c : Char} (h : c ≠ quote) : lead quote (c :: s) = 0 := by
  simp [lead, h]

theorem lead_append_of_mem {c : Char} (hc : c ∈ s) (h : c ≠ quote) : lead quote (s ++ t) = lead quote s := by
  induction s with
  | nil => cases hc
  | cons d s ih =>
      by_cases hd : d = quote
      · subst hd
        have hmem : c ∈ s := (List.mem_cons.mp hc).resolve_left h
        rw [List.cons_append, lead_cons_self, lead_cons_self, ih hmem]
      · rw [List.cons_append, lead_cons hd, lead_cons hd]

theorem lead_append_of_forall (hs : ∀ c ∈ s, c = quote) : lead quote (s ++ t) = s.length + lead quote t := by
  induction s with
  | nil => simp
  | cons d s ih =>
      obtain ⟨rfl, hrest⟩ := List.forall_mem_cons.mp hs
      rw [List.cons_append, lead_cons_self, ih hrest, List.length_cons]
      omega

/-- A body of quotes spells these quotes. -/
theorem Spells.eq_of_forall {escapes : Bool} {body s : List Char} (h : Spells quote escapes true body s)
    (hquote : quote = '"' ∨ quote = '\'') (hbody : ∀ c ∈ body, c = quote) : s = body := by
  have hother {c : Char} (hc : c = '\\' ∨ c = '\n') : c ≠ quote := by
    obtain rfl | rfl := hc <;> obtain rfl | rfl := hquote <;> decide
  induction h with
  | nil => rfl
  | plain hne => exact absurd (hbody _ List.mem_cons_self) hne
  | escape => exact absurd (hbody _ List.mem_cons_self) (hother (.inl rfl))
  | lineEnd => exact absurd (hbody _ List.mem_cons_self) (hother (.inr rfl))
  | quote _ _ _ ih => rw [ih (fun c hc => hbody c (List.mem_cons_of_mem _ hc))]

section Multiline

variable {escapes : Bool} (fuel : Nat) (soFar rest : List Char)

theorem multiline_plain {c : Char} (hquote : c ≠ quote) (hbackslash : escapes = true → c ≠ '\\')
    (hbarred : isBarred c = false) :
    multiline quote escapes (fuel + 1) soFar (c :: rest) = multiline quote escapes fuel (c :: soFar) rest := by
  have hnewline : c ≠ '\n' := by
    rintro rfl
    exact absurd hbarred (by decide)
  have hreturn : c ≠ '\r' := by
    rintro rfl
    exact absurd hbarred (by decide)
  rw [multiline, if_neg hquote, if_neg (by simpa using fun hc he => hbackslash he hc), if_neg (by simp [hbarred])]
  · exact hnewline
  · exact fun _ hc _ => hreturn hc

theorem multiline_escape {e : List Char} {c : Char} (hquote : '\\' ≠ quote)
    (hread : escape? (e ++ rest) = some (c, rest)) :
    multiline quote true (fuel + 1) soFar ('\\' :: (e ++ rest)) = multiline quote true fuel (c :: soFar) rest := by
  rw [multiline, if_neg hquote, if_pos (by decide), hread]
  · decide
  · exact fun _ hc => absurd hc (by decide)

theorem multiline_lineEnd (hquote : '\n' ≠ quote) :
    multiline quote escapes (fuel + 1) soFar ('\n' :: rest) = multiline quote escapes fuel ('\n' :: soFar) rest := by
  rw [multiline, if_neg hquote, if_neg (by simp)]

theorem multiline_quote (hquote : quote = '"' ∨ quote = '\'') :
    multiline quote escapes (fuel + 1) soFar (quote :: rest) =
      if quotesAhead quote (quote :: rest) < 3 then multiline quote escapes fuel (quote :: soFar) rest
      else some (String.ofList ((List.replicate (quotesAhead quote (quote :: rest) - 3) quote ++ soFar).reverse),
        (quote :: rest).drop (quotesAhead quote (quote :: rest))) := by
  rw [multiline, if_pos rfl]
  · obtain rfl | rfl := hquote <;> decide
  · obtain rfl | rfl := hquote <;> exact fun _ hc => absurd hc (by decide)

end Multiline

/-- A row of up to two quotes belongs to the text also in front of the three that end it. -/
theorem multiline_row {escapes : Bool} (hquote : quote = '"' ∨ quote = '\'') {n : Nat} (hn : n ≤ 2) {rest : List Char}
    (hrest : lead quote rest = 0) (fuel : Nat) (soFar : List Char) :
    multiline quote escapes (fuel + 1) soFar (List.replicate n quote ++ (tripled quote ++ rest)) =
      some (String.ofList (soFar.reverse ++ List.replicate n quote), rest) := by
  have hrow : List.replicate n quote ++ (tripled quote ++ rest) = quote :: (List.replicate (n + 2) quote ++ rest) := by
    have hthree : tripled quote = List.replicate 3 quote := rfl
    rw [hthree, ← List.append_assoc, List.replicate_append_replicate]
    rfl
  have hahead : quotesAhead quote (quote :: (List.replicate (n + 2) quote ++ rest)) = n + 3 := by
    have hall : ∀ c ∈ List.replicate (n + 2) quote, c = quote := fun c hc => List.eq_of_mem_replicate hc
    rw [quotesAhead_eq, lead_cons_self, lead_append_of_forall hall, hrest, List.length_replicate]
    omega
  have hdrop : (quote :: (List.replicate (n + 2) quote ++ rest)).drop (n + 3) = rest := by
    rw [List.drop_succ_cons, List.drop_left' List.length_replicate]
  rw [hrow, multiline_quote _ _ _ hquote, hahead, if_neg (by omega), hdrop, Nat.add_sub_cancel]
  simp

theorem multiline_spells {escapes : Bool} {body s : List Char} (h : Spells quote escapes true body s)
    (hquote : quote = '"' ∨ quote = '\'') {rest : List Char} (hrest : lead quote rest = 0) :
    ∀ fuel soFar, body.length < fuel → multiline quote escapes fuel soFar (body ++ (tripled quote ++ rest)) =
      some (String.ofList (soFar.reverse ++ s), rest) := by
  have hother {c : Char} (hc : c = '\\' ∨ c = '\n') : c ≠ quote := by
    obtain rfl | rfl := hc <;> obtain rfl | rfl := hquote <;> decide
  induction h with
  | nil =>
      intro fuel soFar hfuel
      obtain ⟨fuel, rfl⟩ := Nat.exists_eq_add_one_of_ne_zero (Nat.ne_zero_of_lt hfuel)
      exact multiline_row hquote (Nat.zero_le 2) hrest fuel soFar
  | @plain c body s hne hbackslash hbarred _ ih =>
      intro fuel soFar hfuel
      obtain ⟨fuel, rfl⟩ := Nat.exists_eq_add_one_of_ne_zero (Nat.ne_zero_of_lt hfuel)
      rw [List.cons_append, multiline_plain _ _ _ hne hbackslash hbarred, ih fuel (c :: soFar) (by simpa using hfuel)]
      simp
  | @escape e c body s hescapes hread _ ih =>
      intro fuel soFar hfuel
      obtain ⟨fuel, rfl⟩ := Nat.exists_eq_add_one_of_ne_zero (Nat.ne_zero_of_lt hfuel)
      have hlength : body.length < fuel := by
        simp only [List.cons_append, List.length_cons, List.length_append] at hfuel
        omega
      subst hescapes
      rw [List.cons_append, List.cons_append, List.append_assoc, multiline_escape _ _ _ (hother (.inl rfl)) (hread _),
        ih fuel (c :: soFar) hlength]
      simp
  | @lineEnd body s _ _ ih =>
      intro fuel soFar hfuel
      obtain ⟨fuel, rfl⟩ := Nat.exists_eq_add_one_of_ne_zero (Nat.ne_zero_of_lt hfuel)
      rw [List.cons_append, multiline_lineEnd _ _ _ (hother (.inr rfl)), ih fuel ('\n' :: soFar) (by simpa using hfuel)]
      simp
  | @quote body s _ hrow hspells ih =>
      intro fuel soFar hfuel
      obtain ⟨fuel, rfl⟩ := Nat.exists_eq_add_one_of_ne_zero (Nat.ne_zero_of_lt hfuel)
      by_cases hall : ∀ c ∈ body, c = quote
      · -- the row goes up to the quotes that end the text, and is read with them at once
        obtain rfl := hspells.eq_of_forall hquote hall
        obtain ⟨n, rfl⟩ : ∃ n, s = List.replicate n quote := ⟨s.length, List.eq_replicate_of_mem hall⟩
        have hself := lead_append_of_forall (t := []) hall
        rw [List.append_nil, List.length_replicate] at hself
        exact multiline_row hquote (n := n + 1) (by rw [hself] at hrow; exact hrow) hrest fuel soFar
      · -- another character ends the row before there are three
        simp only [not_forall] at hall
        obtain ⟨c, hc, hne⟩ := hall
        have hahead : quotesAhead quote (quote :: (body ++ (tripled quote ++ rest))) < 3 := by
          rw [quotesAhead_eq, lead_cons_self, lead_append_of_mem hc hne]
          omega
        rw [List.cons_append, multiline_quote _ _ _ hquote, if_pos hahead,
          ih fuel (quote :: soFar) (by simpa using hfuel)]
        simp

/-! ### Escapes -/

theorem escape?_shortEscape {c letter : Char} (h : shortEscape? c = some letter) (rest : List Char) :
    escape? (letter :: rest) = some (c, rest) := by
  unfold shortEscape? at h
  split at h
  case h_7 => cases h
  all_goals
    obtain rfl := Option.some.inj h
    rfl

theorem upperHex_isHexDigit : ∀ k < 16, isHexDigit (upperHex k) = true ∧ digitValue (upperHex k) = k := by
  decide

/-- The escape of a control character. -/
theorem escape?_coded {c : Char} (hc : c.toNat < 256) (rest : List Char) :
    escape? (['u', '0', '0', upperHex (c.toNat / 16), upperHex (c.toNat % 16)] ++ rest) = some (c, rest) := by
  obtain ⟨hhigh, hhighValue⟩ := upperHex_isHexDigit (c.toNat / 16) (by omega)
  obtain ⟨hlow, hlowValue⟩ := upperHex_isHexDigit (c.toNat % 16) (by omega)
  have hvalue : valueIn 16 ['0', '0', upperHex (c.toNat / 16), upperHex (c.toNat % 16)] = c.toNat := by
    simp only [valueIn, List.foldl_cons, List.foldl_nil, hhighValue, hlowValue, show digitValue '0' = 0 from rfl]
    omega
  have hdigits : (['0', '0', upperHex (c.toNat / 16), upperHex (c.toNat % 16)].all isHexDigit) = true := by
    simp [hhigh, hlow, show isHexDigit '0' = true from rfl]
  have hchar : scalarChar? c.toNat = some c := by
    rw [scalarChar?, if_pos (by simp; omega), Char.ofNat_toNat]
  show coded? 4 (['0', '0', upperHex (c.toNat / 16), upperHex (c.toNat % 16)] ++ rest) = _
  have htake : (['0', '0', upperHex (c.toNat / 16), upperHex (c.toNat % 16)] ++ rest).take 4 =
      ['0', '0', upperHex (c.toNat / 16), upperHex (c.toNat % 16)] := rfl
  rw [coded?, htake, hvalue, hchar, hdigits]
  rfl

theorem isControl_lt {c : Char} (h : isControl c = true) : c.toNat < 128 := by
  simp only [isControl, Bool.or_eq_true, decide_eq_true_eq, beq_iff_eq] at h
  omega

theorem isBarred_eq_false {c : Char} (h : isControl c = false ∨ c = '\t') : isBarred c = false := by
  obtain h | rfl := h
  · simp only [isControl, Bool.or_eq_false_iff] at h
    simp [isBarred, h.1, h.2]
  · rfl

/-- A character between double quotes, if it is neither a quote nor a line end that stands for itself. -/
theorem Spells.escaped {lines : Bool} {c : Char} {body s : List Char} (hc : c ≠ '"')
    (h : Spells '"' true lines body s) : Spells '"' true lines (escapedChar c ++ body) (c :: s) := by
  unfold escapedChar
  split
  · rename_i letter hshort
    exact .escape rfl (escape?_shortEscape hshort) h
  · rename_i hshort
    split
    · rename_i hcontrol
      exact .escape rfl (escape?_coded (Nat.lt_trans (isControl_lt hcontrol) (by decide))) h
    · rename_i hcontrol
      refine .plain hc (fun _ hbackslash => ?_) (isBarred_eq_false (.inl (by simpa using hcontrol))) h
      rw [hbackslash] at hshort
      cases hshort

theorem lead_escapedChar {c : Char} (hc : c ≠ '"') (body : List Char) : lead '"' (escapedChar c ++ body) = 0 := by
  unfold escapedChar
  split
  · exact lead_cons (by decide)
  · split
    · exact lead_cons (by decide)
    · exact lead_cons hc

theorem spells_escaped_line (s : List Char) (row : Nat) : Spells '"' true false (Toml.escaped false 0 row s) s := by
  induction s generalizing row with
  | nil => exact .nil
  | cons c s ih =>
      by_cases hc : c = '"'
      · subst hc
        exact .escape (e := ['"']) rfl (fun _ => rfl) (ih 0)
      · rw [Toml.escaped]
        · exact .escaped hc (ih 0)
        · exact hc

theorem spells_escaped_lines (s : List Char) (row : Nat) (hrow : row ≤ 2) :
    Spells '"' true true (Toml.escaped true 2 row s) s ∧ lead '"' (Toml.escaped true 2 row s) ≤ 2 - row := by
  -- the second part bounds the quotes to come by those just written, as a row of quotes needs it
  induction s generalizing row with
  | nil => exact ⟨.nil, Nat.zero_le _⟩
  | cons c s ih =>
      obtain ⟨hfresh, -⟩ := ih 0 (Nat.zero_le _)
      by_cases hc : c = '"'
      · subst hc
        by_cases hlast : row < 2
        · obtain ⟨hspells, hlead⟩ := ih (row + 1) hlast
          rw [Toml.escaped, if_pos hlast, lead_cons_self]
          exact ⟨.quote rfl (by omega) hspells, by omega⟩
        · rw [Toml.escaped, if_neg hlast]
          exact ⟨.escape (e := ['"']) rfl (fun _ => rfl) hfresh, by rw [lead_cons (by decide)]; exact Nat.zero_le _⟩
      · rw [Toml.escaped]
        · by_cases hend : c = '\n'
          · subst hend
            exact ⟨.lineEnd rfl hfresh, by simp [lead]⟩
          · rw [if_neg (by simpa using hend), lead_escapedChar hc]
            exact ⟨.escaped hc hfresh, Nat.zero_le _⟩
        · exact hc

/-! ### Text as it stands -/

theorem le_longestRun (q : Char) (s : List Char) (run most : Nat) : max run most ≤ longestRun q run most s := by
  induction s generalizing run most with
  | nil => exact Nat.le_refl _
  | cons c s ih =>
      rw [longestRun]
      split
      · have := ih (run + 1) most
        omega
      · have := ih 0 (max run most)
        omega

theorem not_mem_of_longestRun {q : Char} {s : List Char} (h : longestRun q 0 0 s = 0) : q ∉ s := by
  have hall : ∀ run most, longestRun q run most s = 0 → q ∉ s := by
    clear h
    induction s with
    | nil => exact fun _ _ _ => List.not_mem_nil
    | cons c s ih =>
        intro run most h
        rw [longestRun] at h
        split at h
        · have := le_longestRun q s (run + 1) most
          omega
        · rw [List.mem_cons, not_or]
          exact ⟨Ne.symm ‹_›, ih _ _ h⟩
  exact hall 0 0 h

/-- A text of at most two quotes in a row stands for itself between three quotes. -/
theorem spells_self (s : List Char) (hs : ∀ c ∈ s, c = '\n' ∨ isBarred c = false) (run most : Nat)
    (hrun : longestRun quote run most s < 3) : Spells quote false true s s ∧ run + lead quote s < 3 := by
  induction s generalizing run most with
  | nil =>
      have := le_longestRun quote [] run most
      exact ⟨.nil, by simp only [lead, List.takeWhile_nil, List.length_nil]; omega⟩
  | cons c s ih =>
      obtain ⟨hc, hrest⟩ := List.forall_mem_cons.mp hs
      rw [longestRun] at hrun
      by_cases hquote : c = quote
      · subst hquote
        rw [if_pos rfl] at hrun
        obtain ⟨hspells, hlead⟩ := ih hrest _ _ hrun
        rw [lead_cons_self]
        exact ⟨.quote rfl (by omega) hspells, by omega⟩
      · rw [if_neg hquote] at hrun
        obtain ⟨hspells, -⟩ := ih hrest _ _ hrun
        have := le_longestRun quote s 0 (max run most)
        refine ⟨?_, by rw [lead_cons hquote]; omega⟩
        obtain rfl | hbarred := hc
        · exact .lineEnd rfl hspells
        · exact .plain hquote nofun hbarred hspells

theorem literal_self {s : List Char} (hs : ∀ c ∈ s, isBarred c = false) (hquote : '\'' ∉ s) (rest : List Char) :
    literal (s ++ '\'' :: rest) = some (String.ofList s, rest) := by
  have hother : ∀ c ∈ s, (c != '\'') = true := by
    intro c hc
    simp only [bne_iff_ne]
    rintro rfl
    exact hquote hc
  have hbody : (s ++ '\'' :: rest).takeWhile (· != '\'') = s := takeWhile_append_of_head hother (by simp)
  have hbarred : s.any isBarred = false := by
    rw [List.any_eq_false]
    exact fun c hc => by simp [hs c hc]
  rw [literal, hbody, List.drop_left]
  simp [hbarred]

/-! ### The printer's choice -/

/-- Text without control characters, but for line ends and tabs. -/
theorem isBarred_of_obstacles (h : (obstacles s).control = false) : ∀ c ∈ s, c = '\n' ∨ isBarred c = false := by
  intro c hc
  have hcontrol : (isControl c && c != '\n' && c != '\t') = false := by
    simpa using List.any_eq_false.mp h c hc
  by_cases hend : c = '\n'
  · exact .inl hend
  · refine .inr (isBarred_eq_false ?_)
    by_cases htab : c = '\t'
    · exact .inr htab
    · exact .inl (by simpa [hend, htab] using hcontrol)

/-- Text without control characters but for tabs. -/
theorem isBarred_of_line (hend : (obstacles s).lineEnd = false) (hcontrol : (obstacles s).control = false) :
    ∀ c ∈ s, isBarred c = false := by
  intro c hc
  refine (isBarred_of_obstacles hcontrol c hc).resolve_left ?_
  rintro rfl
  exact absurd hend (by simpa [obstacles] using hc)

theorem lead_eq_zero {rest : List Char} (h : ∀ c, rest.head? = some c → c ≠ quote) : lead quote rest = 0 := by
  cases rest with
  | nil => rfl
  | cons c rest => exact lead_cons (h c rfl)

/-- What may stand behind a quoted text: no further quote. -/
def NoQuote (rest : List Char) : Prop := ∀ c, rest.head? = some c → c ≠ '"' ∧ c ≠ '\''

/-- A text on one line does not start like one between three quotes. -/
theorem not_triple {body rest : List Char} (hbody : lead quote body = 0)
    (hrest : ∀ c, rest.head? = some c → c ≠ quote) (more : List Char) :
    body ++ quote :: rest ≠ quote :: quote :: more := by
  intro h
  cases body with
  | nil =>
      rw [List.nil_append, List.cons.injEq] at h
      exact hrest quote (by rw [h.2]; rfl) rfl
  | cons c body =>
      rw [List.cons_append, List.cons.injEq] at h
      rw [h.1, lead_cons_self] at hbody
      omega

theorem lead_escaped_line (s : List Char) : lead '"' (Toml.escaped false 0 0 s) = 0 := by
  cases s with
  | nil => rfl
  | cons c s =>
      by_cases hc : c = '"'
      · subst hc
        exact lead_cons (by decide)
      · rw [Toml.escaped]
        · exact lead_escapedChar hc _
        · exact hc

theorem basic_escaped (s rest : List Char) :
    basic ((Toml.escaped false 0 0 s ++ '"' :: rest).length + 1) [] (Toml.escaped false 0 0 s ++ '"' :: rest) =
      some (String.ofList s, rest) :=
  basic_spells (spells_escaped_line s 0) rest _ [] (by simp only [List.length_append]; omega)

theorem quotedText?_line {rest : List Char} (hrest : NoQuote rest) (s : List Char) :
    quotedText? ('"' :: Toml.escaped false 0 0 s ++ '"' :: rest) = some (String.ofList s, rest) := by
  rw [List.cons_append, quotedText?, basic_escaped]
  exact not_triple (lead_escaped_line s) fun c hc => (hrest c hc).1

theorem quotedText?_literal {rest : List Char} (hrest : NoQuote rest) (hs : ∀ c ∈ s, isBarred c = false)
    (hquote : '\'' ∉ s) : quotedText? ('\'' :: s ++ '\'' :: rest) = some (String.ofList s, rest) := by
  have hlead : lead '\'' s = 0 := lead_eq_zero fun c hc h => hquote (h ▸ List.mem_of_head? hc)
  rw [List.cons_append, quotedText?, literal_self hs hquote]
  exact not_triple hlead fun c hc => (hrest c hc).2

theorem afterLineEnd?_eq_none (h : ∀ c, s.head? = some c → c ≠ '\n' ∧ c ≠ '\r') : afterLineEnd? s = none := by
  unfold afterLineEnd?
  split
  · exact absurd rfl (h '\n' rfl).1
  · exact absurd rfl (h '\r' rfl).2
  · rfl

/-- A line end at the front is taken away, so a text that has line ends gets one more. -/
theorem Spells.withoutLineEnd {escapes : Bool} {body : List Char} (h : Spells quote escapes true body s)
    (hquote : quote = '"' ∨ quote = '\'') (rest : List Char) :
    Toml.withoutLineEnd ((if s.contains '\n' then ['\n'] else []) ++ (body ++ (tripled quote ++ rest))) =
      body ++ (tripled quote ++ rest) := by
  by_cases hmem : '\n' ∈ s
  · rw [if_pos (by simpa using hmem)]
    rfl
  · rw [if_neg (by simpa using hmem), List.nil_append, Toml.withoutLineEnd, afterLineEnd?_eq_none, Option.getD_none]
    have hends : quote ≠ '\n' ∧ quote ≠ '\r' := by
      obtain rfl | rfl := hquote <;> decide
    cases h with
    | nil => exact head_cons hends _
    | plain _ _ hbarred =>
        refine head_cons ⟨?_, ?_⟩ _ <;> rintro rfl <;> exact absurd hbarred (by decide)
    | escape => exact head_cons (by decide) _
    | lineEnd => exact absurd List.mem_cons_self hmem
    | quote => exact head_cons hends _

theorem quotedText?_triples {escapes : Bool} {body rest : List Char}
    (hread : ∀ s, quotedText? (tripled quote ++ s) = multiline quote escapes (s.length + 1) [] (withoutLineEnd s))
    (hquote : quote = '"' ∨ quote = '\'') (hrest : NoQuote rest) (h : Spells quote escapes true body s) :
    quotedText? (betweenTriples quote s body ++ rest) = some (String.ofList s, rest) := by
  have hlead : lead quote rest = 0 := by
    refine lead_eq_zero fun c hc => ?_
    obtain rfl | rfl := hquote
    · exact (hrest c hc).1
    · exact (hrest c hc).2
  rw [betweenTriples, List.append_assoc, List.append_assoc, List.append_assoc, hread,
    h.withoutLineEnd hquote, multiline_spells h hquote hlead]
  · rfl
  · simp only [List.length_append]
    omega

/-- Whatever a text holds, the printer writes it so that it is read back. -/
theorem quotedText?_textOf {rest : List Char} (hrest : NoQuote rest) (s : List Char) :
    quotedText? (textOf s ++ rest) = some (String.ofList s, rest) := by
  have htriples : quotedText? (betweenTriples '"' s (Toml.escaped true 2 0 s) ++ rest) = some (String.ofList s, rest) :=
    quotedText?_triples (fun _ => rfl) (.inl rfl) hrest (spells_escaped_lines s 0 (Nat.zero_le _)).1
  have hline := quotedText?_line hrest s
  unfold textOf
  dsimp only
  split
  · rw [List.append_assoc]
    exact hline
  · split
    · rename_i hsingle
      simp only [Bool.and_eq_true, beq_iff_eq, Bool.not_eq_true'] at hsingle
      obtain ⟨⟨hrun, hend⟩, hcontrol⟩ := hsingle
      rw [List.append_assoc]
      exact quotedText?_literal hrest (isBarred_of_line hend hcontrol) (not_mem_of_longestRun hrun)
    · split
      · exact htriples
      · split
        · rename_i hsingle
          simp only [Bool.and_eq_true, decide_eq_true_eq, Bool.not_eq_true'] at hsingle
          exact quotedText?_triples (fun _ => rfl) (.inr rfl) hrest
            (spells_self s (isBarred_of_obstacles hsingle.1) 0 0 hsingle.2).1
        · split
          · exact htriples
          · rw [List.append_assoc]
            exact hline

/-! ### Keys -/

theorem keyPart?_bare {rest : List Char} (hrest : ∀ c, rest.head? = some c → isBareKeyChar c = false) (hs : s ≠ [])
    (hbare : ∀ c ∈ s, isBareKeyChar c = true) : keyPart? (s ++ rest) = some (String.ofList s, rest) := by
  rw [keyPart?, takeWhile_append_of_head hbare hrest, List.drop_left]
  · simp [hs]
  all_goals
    rintro more hmore
    cases s with
    | nil => exact hs rfl
    | cons c s =>
        obtain ⟨rfl, -⟩ := List.cons.inj hmore
        exact absurd (hbare _ List.mem_cons_self) (by decide)

/-- Every key is written so that it is read back. -/
theorem keyPart?_keyText {rest : List Char} (hrest : ∀ c, rest.head? = some c → isBareKeyChar c = false)
    (s : List Char) : keyPart? (keyText s ++ rest) = some (String.ofList s, rest) := by
  unfold keyText
  dsimp only
  split
  · rename_i hbare
    simp only [Bool.and_eq_true, Bool.not_eq_true', List.isEmpty_eq_false_iff, List.all_eq_true] at hbare
    exact keyPart?_bare hrest hbare.1 hbare.2
  · split
    · rename_i hsingle
      simp only [Bool.and_eq_true, beq_iff_eq, Bool.not_eq_true'] at hsingle
      obtain ⟨⟨⟨-, hrun⟩, hend⟩, hcontrol⟩ := hsingle
      rw [List.append_assoc]
      exact literal_self (isBarred_of_line hend hcontrol) (not_mem_of_longestRun hrun) rest
    · rw [List.append_assoc]
      exact basic_escaped s rest

end Colloquy.Toml
