import Mathlib.Data.List.Basic
import Colloquy.Proofs.Json.Members
import Colloquy.Proofs.Toml.Values

/-! Documents that are written and read again. Every header and every entry reads back as one statement, and so the
sections of a document, one after the other, as the tables that they describe (`read?_documentText`). A section that
nothing stands in the way of becomes the last entry of the table above it (`add_section`). -/

namespace Colloquy.Toml

variable {rest : List Char}

/-! ### Keys -/

/-- The characters that keys start with. -/
def startsKey (c : Char) : Bool := isBareKeyChar c || c == '"' || c == '\''

theorem keyText_head (s : List Char) : ∃ c body, keyText s = c :: body ∧ startsKey c = true := by
  unfold keyText
  dsimp only
  split
  · rename_i hbare
    simp only [Bool.and_eq_true, Bool.not_eq_true', List.isEmpty_eq_false_iff, List.all_eq_true] at hbare
    obtain ⟨c, body, rfl⟩ := List.exists_cons_of_ne_nil hbare.1
    have hc : isBareKeyChar c = true := hbare.2 c List.mem_cons_self
    exact ⟨c, body, rfl, by rw [startsKey, hc]; rfl⟩
  · split
    · exact ⟨_, _, rfl, rfl⟩
    · exact ⟨_, _, rfl, rfl⟩

theorem keyText_ne {d : Char} (hd : startsKey d = false) (s rest more : List Char) : keyText s ++ rest ≠ d :: more := by
  obtain ⟨c, body, htext, hc⟩ := keyText_head s
  rw [htext]
  exact fun h => ne_of_kind hc hd (List.cons.inj h).1

theorem not_gap {c : Char} (hspace : c ≠ ' ') (htab : c ≠ '\t') : isGap c = false := by
  rw [isGap, beq_false_of_ne hspace, beq_false_of_ne htab]
  rfl

theorem solid_keyText (s rest : List Char) : Solid (keyText s ++ rest) := by
  obtain ⟨c, body, htext, hc⟩ := keyText_head s
  have hne {d : Char} (hd : startsKey d = false) : c ≠ d := ne_of_kind hc hd
  rw [htext]
  exact solid_cons ⟨not_gap (hne (by decide)) (hne (by decide)), hne (by decide), hne (by decide), hne (by decide)⟩ _

/-- The keys of a path with dots between them. -/
def pathText (path : List String) : List Char := ['.'].intercalate (path.map (fun k => keyText k.toList))

theorem pathText_cons (key : String) (path : List String) :
    pathText (key :: path) = keyText key.toList ++ if path = [] then [] else '.' :: pathText path := by
  cases path with
  | nil => rw [pathText, List.map_singleton, List.intercalate_singleton, if_pos rfl, List.append_nil]
  | cons next path =>
      rw [pathText, List.map_cons, List.map_cons, List.intercalate_cons_cons, if_neg (List.cons_ne_nil _ _),
        List.append_assoc]
      rfl

theorem pathText_ne {d : Char} (hd : startsKey d = false) {path : List String} (hne : path ≠ [])
    (rest more : List Char) : pathText path ++ rest ≠ d :: more := by
  obtain ⟨key, path, rfl⟩ := List.exists_cons_of_ne_nil hne
  rw [pathText_cons, List.append_assoc]
  exact keyText_ne hd _ _ _

/-- A key ends where this stands: with blanks, if any, and then what is no dot. -/
structure EndsKey (behind rest : List Char) : Prop where
  not_bare : ∀ c, behind.head? = some c → isBareKeyChar c = false
  skip : behind.dropWhile isGap = rest
  not_dot : ∀ more, rest ≠ '.' :: more

theorem endsKey_equals (rest : List Char) : EndsKey (' ' :: '=' :: rest) ('=' :: rest) where
  not_bare := head_cons (by decide) _
  skip := rfl
  not_dot _ h := absurd (List.cons.inj h).1 (by decide)

theorem endsKey_bracket (rest : List Char) : EndsKey (']' :: rest) (']' :: rest) where
  not_bare := head_cons (by decide) _
  skip := rfl
  not_dot _ h := absurd (List.cons.inj h).1 (by decide)

theorem dropWhile_isGap_keyText (s rest : List Char) : (keyText s ++ rest).dropWhile isGap = keyText s ++ rest :=
  dropWhile_isGap fun c hc => (solid_keyText s rest c hc).1

theorem keyParts_last {behind : List Char} (hend : EndsKey behind rest) (limit : Nat) (key : String) :
    keyParts (limit + 1) (keyText key.toList ++ behind) = some ([key], rest) := by
  rw [keyParts, dropWhile_isGap_keyText, keyPart?_keyText hend.not_bare]
  simp only [Option.bind_eq_bind, Option.bind_some, hend.skip, String.ofList_toList]
  split
  · exact absurd rfl (hend.not_dot _)
  · rfl

theorem keyParts_dot (limit : Nat) (key : String) (s : List Char) :
    keyParts (limit + 1) (keyText key.toList ++ '.' :: s) = (keyParts limit s).map (fun r => (key :: r.1, r.2)) := by
  have hdot : ∀ c, ('.' :: s).head? = some c → isBareKeyChar c = false := head_cons (by decide) s
  rw [keyParts, dropWhile_isGap_keyText, keyPart?_keyText hdot]
  simp only [Option.bind_eq_bind, Option.bind_some, List.dropWhile_cons_of_neg (show ¬isGap '.' = true by decide),
    String.ofList_toList]
  cases keyParts limit s <;> rfl

theorem keyParts_path {behind : List Char} (hend : EndsKey behind rest) {path : List String} (hne : path ≠ [])
    {limit : Nat} (hlimit : path.length ≤ limit) : keyParts limit (pathText path ++ behind) = some (path, rest) := by
  induction path generalizing limit with
  | nil => exact absurd rfl hne
  | cons key path ih =>
      obtain ⟨limit, rfl⟩ := Nat.exists_eq_add_one_of_ne_zero (Nat.ne_zero_of_lt hlimit)
      cases path with
      | nil => rw [pathText_cons, if_pos rfl, List.append_nil, keyParts_last hend]
      | cons next path =>
          rw [pathText_cons, if_neg (List.cons_ne_nil _ _), List.append_assoc, List.cons_append, keyParts_dot,
            ih (List.cons_ne_nil _ _) (Nat.le_of_succ_le_succ hlimit)]
          rfl

theorem key?_path {behind : List Char} (hend : EndsKey behind rest) {path : List String} (last : String)
    (hlength : path.length < depthLimit) : key? (pathText (path ++ [last]) ++ behind) = some ((path, last), rest) := by
  rw [key?, keyParts_path hend (List.concat_ne_nil last path) (by rw [List.length_append]; exact hlength)]
  simp

/-! ### Statements -/

theorem solid_itemText (i : Item) (rest : List Char) : Solid (itemText i ++ rest) := by
  cases i with
  | text s => exact solid_textOf _ _
  | natural n =>
      obtain ⟨d, ds, htext⟩ := List.exists_cons_of_ne_nil (natText_ne_nil n)
      have hdigit : d.isDigit = true := isDigit_of_mem_natText (n := n) (by simp [htext])
      have hne {c : Char} (hc : c.isDigit = false) : d ≠ c := ne_of_kind hdigit hc
      rw [itemText, htext]
      refine solid_cons ⟨?_, hne (by decide), hne (by decide), hne (by decide)⟩ _
      exact not_gap (hne (by decide)) (hne (by decide))
  | boolean b => cases b <;> exact solid_cons (by decide) _
  | texts ss => obtain _ | ⟨s, _ | ⟨t, ss⟩⟩ := ss <;> exact solid_cons (by decide) _

variable {d d' : Draft}

theorem statement?_entry {e : String × Item} (he : e.2.IsHeld) (hd : d.assign [] e.1 e.2.value = some d')
    (rest : List Char) : statement? d (entryText e ++ rest) = some (d', '\n' :: rest) := by
  have htext : entryText e ++ rest = pathText ([] ++ [e.1]) ++ ' ' :: '=' :: ' ' :: (itemText e.2 ++ '\n' :: rest) := by
    simp [entryText, pathText]
  have hkey := key?_path (endsKey_equals (' ' :: (itemText e.2 ++ '\n' :: rest))) e.1
    (show [].length < depthLimit by decide)
  have hskip : gaps (' ' :: (itemText e.2 ++ '\n' :: rest)) = some (itemText e.2 ++ '\n' :: rest) :=
    congrArg some (dropWhile_isGap fun c hc => (solid_itemText _ _ c hc).1)
  have hgap (more : List Char) : gaps ('=' :: more) = some ('=' :: more) := rfl
  rw [htext, statement?, assignment?, hkey]
  · simp only [Option.bind_eq_bind, Option.bind_some, hgap, hskip, value?_itemText he, hd, Option.map_some]
  · exact fun s => pathText_ne (by decide) (List.cons_ne_nil _ _) _ _
  · exact fun s => pathText_ne (by decide) (List.cons_ne_nil _ _) _ _

/-- The line of a header. -/
def headerText (path : List String) : List Char := '[' :: pathText path ++ [']', '\n']

theorem statement?_header {path : List String} {last : String} (hlength : path.length < depthLimit)
    (hd : d.enter false path last = some d') (rest : List Char) :
    statement? d (headerText (path ++ [last]) ++ rest) = some (d', '\n' :: rest) := by
  have htext : headerText (path ++ [last]) ++ rest = '[' :: (pathText (path ++ [last]) ++ ']' :: '\n' :: rest) := by
    simp [headerText]
  have hkey := key?_path (endsKey_bracket ('\n' :: rest)) last hlength
  rw [htext, statement?, hkey]
  · simp only [Option.bind_eq_bind, Option.bind_some, hd, Option.map_some]
  · exact fun s hs => pathText_ne (by decide) (List.concat_ne_nil last path) _ _ hs

/-- A text adds to a draft, whatever comes behind it. -/
def Adds (d : Draft) (text : List Char) (d' : Draft) : Prop :=
  ∀ rest fuel, (text ++ rest).length < fuel →
    ∃ fuel', rest.length < fuel' ∧ statements fuel d (text ++ rest) = statements fuel' d' rest

theorem Adds.nil : Adds d [] d := fun _ fuel hfuel => ⟨fuel, hfuel, rfl⟩

theorem Adds.append {d'' : Draft} {text more : List Char} (h : Adds d text d') (hmore : Adds d' more d'') :
    Adds d (text ++ more) d'' := by
  intro rest fuel hfuel
  rw [List.append_assoc] at hfuel ⊢
  obtain ⟨fuel', hfuel', hfirst⟩ := h (more ++ rest) fuel hfuel
  obtain ⟨fuel'', hfuel'', hsecond⟩ := hmore rest fuel' hfuel'
  exact ⟨fuel'', hfuel'', hfirst.trans hsecond⟩

/-- A statement adds what it says, also behind empty lines. -/
theorem Adds.statement {blanks text : List Char} (hblanks : ∀ c ∈ blanks, c = ' ' ∨ c = '\n')
    (hsolid : ∀ rest, Solid (text ++ rest)) (hne : text ≠ [])
    (h : ∀ rest, statement? d (text ++ rest) = some (d', '\n' :: rest)) : Adds d (blanks ++ text) d' := by
  intro rest fuel hfuel
  obtain ⟨fuel, rfl⟩ := Nat.exists_eq_add_one_of_ne_zero (Nat.ne_zero_of_lt hfuel)
  refine ⟨fuel, ?_, ?_⟩
  · -- the statement has a character at least, and costs one step
    have hpos := List.length_pos_iff.mpr hne
    simp only [List.length_append] at hfuel
    omega
  · have hend : afterStatement? ('\n' :: rest) = some rest := rfl
    rw [List.append_assoc, statements, space_append hblanks (hsolid rest), Option.bind_eq_bind, Option.bind_some]
    split
    · rename_i hnil
      exact absurd (List.append_eq_nil_iff.mp hnil).1 hne
    · simp only [h, Option.bind_eq_bind, Option.bind_some, hend]

/-! ### Sections -/

/-- What a section says. -/
def Draft.add (d : Draft) (s : Section) : Option Draft := do
  let last ← s.path.getLast?
  let d ← d.enter false s.path.dropLast last
  s.entries.foldlM (fun d e => d.assign [] e.1 e.2.value) d

/-- A section under a header that is read, with numbers that are held. -/
structure Section.IsReadable (s : Section) : Prop where
  path_ne_nil : s.path ≠ []
  path_length : s.path.length ≤ depthLimit
  held : ∀ e ∈ s.entries, e.2.IsHeld

theorem adds_entries {es : List (String × Item)} (hheld : ∀ e ∈ es, e.2.IsHeld)
    (hd : es.foldlM (fun d e => d.assign [] e.1 e.2.value) d = some d') : Adds d (es.flatMap entryText) d' := by
  induction es generalizing d with
  | nil =>
      obtain rfl : d = d' := Option.some.inj hd
      exact .nil
  | cons e es ih =>
      obtain ⟨he, hrest⟩ := List.forall_mem_cons.mp hheld
      rw [List.foldlM_cons, Option.bind_eq_bind, Option.bind_eq_some_iff] at hd
      obtain ⟨next, hnext, hd⟩ := hd
      have hsolid (rest : List Char) : Solid (entryText e ++ rest) := by
        rw [entryText, List.append_assoc, List.append_assoc, List.append_assoc]
        exact solid_keyText _ _
      rw [List.flatMap_cons]
      exact (Adds.statement (by simp : ∀ c ∈ [], c = ' ' ∨ c = '\n') hsolid (by simp [entryText])
        (statement?_entry he hnext)).append (ih hrest hd)

theorem adds_section {blanks : List Char} (hblanks : ∀ c ∈ blanks, c = ' ' ∨ c = '\n') {s : Section}
    (hs : s.IsReadable) (hd : d.add s = some d') : Adds d (blanks ++ sectionText s) d' := by
  obtain ⟨path, entries⟩ := s
  obtain ⟨above, last, rfl⟩ := (List.eq_nil_or_concat' path).resolve_left hs.path_ne_nil
  have hlength : above.length < depthLimit := by
    have := hs.path_length
    rw [List.length_append] at this
    exact this
  simp only [Draft.add, List.getLast?_concat, List.dropLast_concat, Option.bind_eq_bind, Option.bind_some,
    Option.bind_eq_some_iff] at hd
  obtain ⟨next, hnext, hd⟩ := hd
  have htext : sectionText ⟨above ++ [last], entries⟩ = headerText (above ++ [last]) ++ entries.flatMap entryText := rfl
  rw [htext, ← List.append_assoc]
  exact (Adds.statement hblanks (fun _ => solid_cons (by decide) _) (List.cons_ne_nil _ _)
    (statement?_header hlength hnext)).append (adds_entries hs.held hd)

theorem adds_sections {blanks : List Char} (hblanks : ∀ c ∈ blanks, c = ' ' ∨ c = '\n') {sections : List Section}
    (hne : sections ≠ []) (hsections : ∀ s ∈ sections, s.IsReadable) (hd : sections.foldlM Draft.add d = some d') :
    Adds d (blanks ++ ['\n'].intercalate (sections.map sectionText)) d' := by
  induction sections generalizing d blanks with
  | nil => exact absurd rfl hne
  | cons s sections ih =>
      obtain ⟨hs, hrest⟩ := List.forall_mem_cons.mp hsections
      rw [List.foldlM_cons, Option.bind_eq_bind, Option.bind_eq_some_iff] at hd
      obtain ⟨next, hnext, hd⟩ := hd
      cases sections with
      | nil =>
          obtain rfl : next = d' := Option.some.inj hd
          rw [List.map_singleton, List.intercalate_singleton]
          exact adds_section hblanks hs hnext
      | cons following sections =>
          -- The empty line belongs to the section behind it.
          rw [List.map_cons, List.map_cons, List.intercalate_cons_cons, List.append_assoc, ← List.append_assoc]
          exact (adds_section hblanks hs hnext).append (ih (by simp) (List.cons_ne_nil _ _) hrest hd)

/-- A document reads back as the tables that its sections describe, one after the other. -/
theorem read?_documentText {sections : List Section} (hsections : ∀ s ∈ sections, s.IsReadable)
    (hd : sections.foldlM Draft.add {} = some d) :
    read? (documentText sections) = some (.table .header d.root.entries) := by
  cases sections with
  | nil =>
      obtain rfl : {} = d := Option.some.inj hd
      rfl
  | cons s sections =>
      have hblanks : ∀ c ∈ ([] : List Char), c = ' ' ∨ c = '\n' := by simp
      have hadds := adds_sections hblanks (List.cons_ne_nil _ _) hsections hd
      obtain ⟨fuel, hfuel, hstatements⟩ := hadds [] _ (Nat.lt_succ_self _)
      obtain ⟨fuel, rfl⟩ := Nat.exists_eq_add_one_of_ne_zero (Nat.ne_zero_of_lt hfuel)
      obtain ⟨body, hbody⟩ : ∃ body, ['\n'].intercalate ((s :: sections).map sectionText) = '[' :: body := by
        cases sections with
        | nil => exact ⟨_, List.intercalate_singleton⟩
        | cons following sections => exact ⟨_, List.intercalate_cons_cons⟩
      rw [List.nil_append, List.append_nil, hbody] at hstatements
      rw [read?, documentText, String.toList_ofList, hbody]
      show (statements (('[' :: body).length + 1) {} ('[' :: body)).map _ = _
      rw [hstatements]
      rfl

/-! ### Tables -/

/-- A table below others. Each of them holds the next as its last entry, under a key and behind other entries. -/
def nested : List (Entries × String) → Entries → Partial
  | [], es => ⟨.header, es⟩
  | (before, key) :: outer, es => ⟨.header, before ++ [(key, (nested outer es).toToml)]⟩

theorem nested_concat (outer : List (Entries × String)) (before : Entries) (key : String) (es : Entries) :
    nested (outer ++ [(before, key)]) es = nested outer (before ++ [(key, .table .header es)]) := by
  induction outer with
  | nil => rfl
  | cons o outer ih => rw [List.cons_append, nested, ih, nested]

theorem lookup_concat {key : String} {es : Entries} (h : key ∉ es.map Prod.fst) (value : Toml) :
    (es ++ [(key, value)]).lookup key = some value := by
  rw [List.lookup_append, lookup_fresh h]
  simp

theorem replaceEntry_concat {key : String} {es : Entries} (h : key ∉ es.map Prod.fst) (old value : Toml) :
    replaceEntry key value (es ++ [(key, old)]) = es ++ [(key, value)] := by
  induction es with
  | nil => simp [replaceEntry]
  | cons e es ih =>
      rw [List.map_cons, List.mem_cons, not_or] at h
      rw [List.cons_append, replaceEntry, if_neg (Ne.symm h.1), ih h.2, List.cons_append]

variable {outer : List (Entries × String)} {es : Entries}

/-- Every table on the way is the last of the one above it. -/
def IsWay (outer : List (Entries × String)) : Prop := ∀ o ∈ outer, o.2 ∉ o.1.map Prod.fst

theorem alterAt_nested {change : Partial → Option Partial} {changed : Entries} (houter : IsWay outer)
    (hchange : change ⟨.header, es⟩ = some ⟨.header, changed⟩) :
    alterAt false change (outer.map Prod.snd) (nested outer es) = some (nested outer changed) := by
  induction outer with
  | nil => exact hchange
  | cons o outer ih =>
      obtain ⟨before, key⟩ := o
      obtain ⟨hkey, hrest⟩ := List.forall_mem_cons.mp houter
      have hform (es : Entries) : (nested outer es).toToml = .table .header (nested outer es).entries := by
        cases outer <;> rfl
      have hself : (⟨.header, (nested outer es).entries⟩ : Partial) = nested outer es := by
        cases outer <;> rfl
      rw [List.map_cons, nested, alterAt]
      simp only [lookup_concat hkey, hform, hself, ih hrest, replaceEntry_concat hkey]
      rfl

/-- A document whose entries go to a table below others. -/
def within (outer : List (Entries × String)) (es : Entries) : Draft := ⟨nested outer es, outer.map Prod.snd⟩

theorem assign_within (houter : IsWay outer) {key : String} (hkey : key ∉ es.map Prod.fst) (value : Toml) :
    (within outer es).assign [] key value = some (within outer (es ++ [(key, value)])) := by
  have hdefine : Partial.define ⟨.header, es⟩ [] key value = some ⟨.header, es ++ [(key, value)]⟩ := by
    simp [Partial.define, alterAt, lookup_fresh hkey]
  rw [Draft.assign, within, alterAt_nested houter hdefine]
  rfl

/-- The entries with what their items stand for. -/
def valuesOf (entries : List (String × Item)) : Entries := entries.map (fun e => (e.1, e.2.value))

theorem assign_entries (houter : IsWay outer) {entries : List (String × Item)}
    (hkeys : (es.map Prod.fst ++ entries.map Prod.fst).Nodup) :
    entries.foldlM (fun d e => d.assign [] e.1 e.2.value) (within outer es) =
      some (within outer (es ++ valuesOf entries)) := by
  induction entries generalizing es with
  | nil =>
      rw [valuesOf, List.map_nil, List.append_nil]
      rfl
  | cons e entries ih =>
      have hkey : e.1 ∉ es.map Prod.fst := fun hmem =>
        (List.nodup_append.mp hkeys).2.2 _ hmem _ List.mem_cons_self rfl
      have hmore : ((es ++ [(e.1, e.2.value)]).map Prod.fst ++ entries.map Prod.fst).Nodup := by
        simpa using hkeys
      rw [List.foldlM_cons, assign_within houter hkey, Option.bind_eq_bind, Option.bind_some, ih hmore]
      simp [valuesOf]

theorem enter_nested (houter : IsWay outer) (hroot : d.root = nested outer es) {last : String}
    (hlast : last ∉ es.map Prod.fst) :
    d.enter false (outer.map Prod.snd) last = some (within (outer ++ [(es, last)]) []) := by
  have hname : d.root.nameTable (outer.map Prod.snd) last = some (nested (outer ++ [(es, last)]) []) := by
    rw [hroot, Partial.nameTable, nested_concat]
    refine alterAt_nested houter ?_
    simp only [lookup_fresh hlast]
  rw [Draft.enter, if_neg (by decide), hname, within, List.map_append]
  rfl

/-- A section becomes the last entry of the table above it. -/
theorem add_section (outer : List (Entries × String)) (houter : IsWay outer) (hroot : d.root = nested outer es)
    {last : String} (hlast : last ∉ es.map Prod.fst) {entries : List (String × Item)}
    (hkeys : (entries.map Prod.fst).Nodup) :
    ∃ d', d.add ⟨outer.map Prod.snd ++ [last], entries⟩ = some d' ∧
      d'.root = nested outer (es ++ [(last, .table .header (valuesOf entries))]) := by
  have hway : IsWay (outer ++ [(es, last)]) := List.forall_mem_append.mpr ⟨houter, by simpa using hlast⟩
  refine ⟨within (outer ++ [(es, last)]) (valuesOf entries), ?_, nested_concat _ _ _ _⟩
  simp only [Draft.add, List.getLast?_concat, List.dropLast_concat, Option.bind_eq_bind, Option.bind_some,
    enter_nested houter hroot hlast]
  exact assign_entries hway hkeys

/-! ### As JSON -/

/-- An item as JSON. -/
def Item.json : Item → Json
  | .text s => .str s
  | .natural n => .nat n
  | .boolean b => .bool b
  | .texts ss => .arr (ss.map .str)

theorem toJson?_value (i : Item) : i.value.toJson? = some i.json := by
  cases i with
  | texts ss =>
      have hitems : itemsToJson? (ss.map .text) = some (ss.map .str) := by
        induction ss with
        | nil => rfl
        | cons s ss ih =>
            rw [List.map_cons, itemsToJson?, ih]
            rfl
      rw [Item.value, toJson?, hitems]
      rfl
  | _ => rfl

/-- Entries as the members of an object. -/
def membersOf (entries : List (String × Item)) : Json.Members := entries.map (fun e => (e.1, e.2.json))

theorem entriesToJson?_valuesOf (entries : List (String × Item)) :
    entriesToJson? (valuesOf entries) = some (membersOf entries) := by
  induction entries with
  | nil => rfl
  | cons e entries ih =>
      show entriesToJson? ((e.1, e.2.value) :: valuesOf entries) = _
      rw [entriesToJson?, ih, toJson?_value]
      rfl

theorem toJson?_table (form : TableForm) (entries : List (String × Item)) :
    (Toml.table form (valuesOf entries)).toJson? = some (.ofMembers (membersOf entries)) := by
  rw [toJson?, entriesToJson?_valuesOf]
  rfl

end Colloquy.Toml
