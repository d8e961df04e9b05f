import Mathlib.Data.List.Induction
import Mathlib.Data.List.Nodup
import Colloquy.Proofs.Tool.Registry

/-! Tools registered one after another, in place or in a copy that replaces the registry. Whatever is refused on the
way, the registry holds the tools whose name none before them had, in the order they came in (`after_keeps`). -/

namespace Colloquy

variable {α : Type}

/-- The tools whose name none before them has. -/
def firstOfEachName : List (Tool α) → List (Tool α)
  | [] => []
  | t :: ts => t :: (firstOfEachName ts).filter (·.name ≠ t.name)

section

variable {tools : List (Tool α)}

theorem mem_names_firstOfEachName {name : String} :
    name ∈ (firstOfEachName tools).map Tool.name ↔ name ∈ tools.map Tool.name := by
  induction tools with
  | nil => rfl
  | cons t tools ih =>
      rw [firstOfEachName, List.map_cons, List.map_cons, List.mem_cons, List.mem_cons, ← ih]
      by_cases hname : name = t.name
      · simp only [hname, true_or]
      · simp only [hname, false_or, List.mem_map, List.mem_filter, decide_eq_true_eq, and_assoc]
        refine exists_congr fun tool => and_congr_right fun _ => and_iff_right_of_imp ?_
        rintro rfl
        exact hname

theorem firstOfEachName_concat_of_notMem {t : Tool α} (ht : t.name ∉ tools.map Tool.name) :
    firstOfEachName (tools ++ [t]) = firstOfEachName tools ++ [t] := by
  induction tools with
  | nil => rfl
  | cons first tools ih =>
      rw [List.map_cons, List.mem_cons, not_or] at ht
      rw [List.cons_append, firstOfEachName, firstOfEachName, ih ht.2, List.filter_append, List.cons_append]
      simp [ht.1]

theorem firstOfEachName_concat_of_mem {t : Tool α} (ht : t.name ∈ tools.map Tool.name) :
    firstOfEachName (tools ++ [t]) = firstOfEachName tools := by
  induction tools with
  | nil => cases ht
  | cons first tools ih =>
      rw [List.cons_append, firstOfEachName, firstOfEachName]
      by_cases hrest : t.name ∈ tools.map Tool.name
      · rw [ih hrest]
      · have hfirst : t.name = first.name := by
          rw [List.map_cons, List.mem_cons] at ht
          exact ht.resolve_right hrest
        rw [firstOfEachName_concat_of_notMem hrest, List.filter_append]
        simp [hfirst]

end

namespace Registry

/-- A tool is registered in place, or in a copy that replaces the registry unless it is refused. -/
inductive Entry (α : Type) where
  | inPlace (tool : Tool α)
  | onCopy (tool : Tool α)

def Entry.tool : Entry α → Tool α
  | inPlace t | onCopy t => t

def take (r : Registry α) : Entry α → Registry α
  | .inPlace t => (r.enter t).2
  | .onCopy t => (r.withTool t).toOption.getD r

def after (entries : List (Entry α)) : Registry α := entries.foldl take empty

/-- What a registry says and does that was offered these tools, one after another. -/
structure Keeps (r : Registry α) (offered : List (Tool α)) : Prop where
  tools : r.tools.toList = firstOfEachName offered
  distinct : r.names.Nodup
  schemas : r.schemas.map (·.name) = r.names
  lengths : r.schemas.length = r.size ∧ r.names.length = r.size
  /-- A tool is found under a name that stands at its place and nowhere else. -/
  found : ∀ name tool, r.get? name = some tool ↔
    ∃ place : Nat, r.tools[place]? = some tool ∧ ∀ i : Nat, r.names[i]? = some name ↔ i = place
  missing : ∀ name, r.get? name = none ↔ name ∉ r.names
  refused : ∀ t : Tool α, t.name ∈ r.names →
    r.enter t = (.error (.config s!"Tool '{t.name}' is already registered"), r) ∧
      r.withTool t = .error (.config s!"Tool '{t.name}' is already registered")
  /-- A tool with a new name comes last, and is the only change. -/
  added : ∀ t : Tool α, t.name ∉ r.names → ∃ larger, r.enter t = (.ok (), larger) ∧ r.withTool t = .ok larger ∧
    larger.tools = r.tools.push t ∧ larger.get? t.name = some t ∧ ∀ name ≠ t.name, larger.get? name = r.get? name

variable {r : Registry α}

theorem getElem?_names (r : Registry α) (i : Nat) : r.names[i]? = r.tools[i]?.map Tool.name := by
  rw [names, List.getElem?_map, Array.getElem?_toList]

theorem Coherent.index_iff (h : r.Coherent) (name : String) (i : Nat) :
    r.index[name]? = some i ↔ r.names[i]? = some name := by
  rw [h name i, getElem?_names, Option.map_eq_some_iff]

theorem Coherent.contains_iff (h : r.Coherent) (name : String) : r.index.contains name = true ↔ name ∈ r.names := by
  rw [Std.HashMap.contains_eq_isSome_getElem?, Option.isSome_iff_exists, List.mem_iff_getElem?]
  exact exists_congr (h.index_iff name)

theorem Coherent.place_unique (h : r.Coherent) {name : String} {i j : Nat} (hi : r.names[i]? = some name)
    (hj : r.names[j]? = some name) : i = j := by
  rw [← h.index_iff] at hi hj
  rw [hi] at hj
  exact Option.some.inj hj

theorem Coherent.nodup_names (h : r.Coherent) : r.names.Nodup := by
  rw [List.nodup_iff_getElem?_ne_getElem?]
  intro i j hij hj hsame
  rw [List.getElem?_eq_getElem hj] at hsame
  exact Nat.ne_of_lt hij (h.place_unique hsame (List.getElem?_eq_getElem hj))

theorem Coherent.get?_eq_some_iff (h : r.Coherent) (name : String) (tool : Tool α) : r.get? name = some tool ↔
    ∃ place : Nat, r.tools[place]? = some tool ∧ ∀ i : Nat, r.names[i]? = some name ↔ i = place := by
  rw [get?, Option.bind_eq_some_iff]
  refine exists_congr fun place => ?_
  rw [h.index_iff, and_comm]
  refine and_congr_right fun htool => ⟨fun hplace i => ⟨?_, ?_⟩, fun hplace => (hplace place).mpr rfl⟩
  · intro hi
    exact h.place_unique hi hplace
  · rintro rfl
    exact hplace

theorem Coherent.get?_eq_none_iff (h : r.Coherent) (name : String) : r.get? name = none ↔ name ∉ r.names := by
  have hnames : (∃ s ∈ r.schemas, s.name = name) ↔ name ∈ r.names := by
    simp [schemas, names, Tool.name]
  rw [← hnames, ← h.isSome_get?_iff, Option.not_isSome_iff_eq_none]

theorem Coherent.register_taken (h : r.Coherent) {t : Tool α} (ht : t.name ∈ r.names) :
    r.register t = .error ⟨t.name⟩ := by
  rw [Registry.register, if_pos ((h.contains_iff t.name).mpr ht)]

theorem Coherent.register_fresh (h : r.Coherent) {t : Tool α} (ht : t.name ∉ r.names) :
    r.register t = .ok ⟨r.tools.push t, r.index.insert t.name r.tools.size⟩ := by
  rw [Registry.register, if_neg ((h.contains_iff t.name).not.mpr ht)]

theorem get?_push_self (r : Registry α) (t : Tool α) :
    get? ⟨r.tools.push t, r.index.insert t.name r.tools.size⟩ t.name = some t := by
  simp [get?]

theorem Coherent.get?_push_of_ne (h : r.Coherent) {t : Tool α} {name : String} (hname : name ≠ t.name) :
    Registry.get? ⟨r.tools.push t, r.index.insert t.name r.tools.size⟩ name = r.get? name := by
  have hplace (i : Nat) (hi : r.index[name]? = some i) : i < r.tools.size := by
    obtain ⟨tool, htool, -⟩ := (h name i).mp hi
    exact (Array.getElem?_eq_some_iff.mp htool).1
  rw [Registry.get?, Registry.get?, Std.HashMap.getElem?_insert, if_neg (by simpa using hname.symm)]
  refine Option.bind_congr fun i hi => ?_
  rw [Array.getElem?_push, if_neg (Nat.ne_of_lt (hplace i hi))]

/-- Both ways of registering do the same. -/
theorem take_eq (r : Registry α) (entry : Entry α) : r.take entry = (r.register entry.tool).toOption.getD r := by
  cases entry with
  | inPlace t =>
      rw [take, enter, Entry.tool]
      cases r.register t <;> rfl
  | onCopy t =>
      rw [take, withTool, Entry.tool]
      cases r.register t <;> rfl

/-! ### What a registry holds -/

/-- The index is right, and the tools are the first of each name. -/
def Holds (offered : List (Tool α)) (r : Registry α) : Prop := r.Coherent ∧ r.tools.toList = firstOfEachName offered

theorem Holds.mem_names {offered : List (Tool α)} (h : Holds offered r) {name : String} :
    name ∈ r.names ↔ name ∈ offered.map Tool.name := by
  rw [names, h.2, mem_names_firstOfEachName]

theorem Holds.take {offered : List (Tool α)} (h : Holds offered r) (entry : Entry α) :
    Holds (offered ++ [entry.tool]) (r.take entry) := by
  rw [take_eq]
  by_cases hname : entry.tool.name ∈ r.names
  · rw [h.1.register_taken hname]
    refine ⟨h.1, ?_⟩
    rw [firstOfEachName_concat_of_mem (h.mem_names.mp hname)]
    exact h.2
  · have hregister := h.1.register_fresh hname
    have hcoherent := h.1.register hregister
    rw [hregister]
    refine ⟨hcoherent, ?_⟩
    rw [firstOfEachName_concat_of_notMem (h.mem_names.not.mp hname), ← h.2]
    exact Array.toList_push

theorem holds_after (entries : List (Entry α)) : Holds (entries.map Entry.tool) (after entries) := by
  induction entries using List.reverseRecOn with
  | nil => exact ⟨empty_coherent, rfl⟩
  | append_singleton entries entry ih =>
      rw [after, List.foldl_append, List.map_append]
      exact ih.take entry

/-- A registry that tools were registered in, in whatever way and however often one was refused, keeps the first of
each name in their order, and finds them and nothing else. A name that is taken is refused, and nothing changes. -/
theorem after_keeps (entries : List (Entry α)) : (after entries).Keeps (entries.map Entry.tool) := by
  have hholds := holds_after entries
  generalize after entries = r at hholds
  obtain ⟨hcoherent, htools⟩ := hholds
  refine ⟨htools, hcoherent.nodup_names, ?_, ⟨?_, ?_⟩, hcoherent.get?_eq_some_iff, hcoherent.get?_eq_none_iff, ?_, ?_⟩
  · rw [schemas, names, List.map_map]
    rfl
  · simp [schemas, size]
  · simp [names, size]
  · intro t ht
    rw [enter, withTool, hcoherent.register_taken ht]
    exact ⟨rfl, rfl⟩
  · intro t ht
    rw [enter, withTool, hcoherent.register_fresh ht]
    exact ⟨_, rfl, rfl, rfl, r.get?_push_self t, fun name hname => hcoherent.get?_push_of_ne hname⟩

end Registry

end Colloquy
