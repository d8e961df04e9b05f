import Mathlib.Algebra.Group.Nat.Defs
import Mathlib.Data.Option.Basic
import Colloquy.Config.Store
import Colloquy.Proofs.Decode.Record
import Colloquy.Proofs.Json.Members
import Colloquy.Proofs.Text.Lines
import Colloquy.Proofs.Toml.Document

/-! A configuration that is saved and opened again. The file holds every field that there is something to write for
(`read?_fileText`), and what it does not hold has its default when it is read. So the configuration comes back as it
was saved (`ofText_fileText`), but for a key variable that is not named: its place is taken by the default one. -/

namespace Colloquy

/-- The same server, whatever the order of its variables. -/
structure ServerConfig.Same (a b : ServerConfig) : Prop where
  command : a.command = b.command
  args : a.args = b.args
  env : a.env.Perm b.env

/-- The same configuration. The variables of its server have no order. -/
structure Config.Same (a b : Config) : Prop where
  provider : a.provider = b.provider
  orchestration : a.orchestration = b.orchestration
  mcp : Option.Rel ServerConfig.Same a.mcp b.mcp

/-- What the types of the fields say of a configuration: numbers of 32 and of 64 bits, and no variable twice. -/
structure Config.Typed (c : Config) : Prop where
  maxTokens : c.provider.maxTokens < 2 ^ 32
  maxRequestChars : c.provider.maxRequestChars < 2 ^ 64
  maxRounds : c.orchestration.maxRounds < 2 ^ 64
  toolTimeoutSecs : c.orchestration.toolTimeoutSecs < 2 ^ 64
  env : ∀ m, c.mcp = some m → (m.env.map Prod.fst).Nodup

open Decode Toml

namespace Config

/-! ### Reading the sections -/

theorem keys_membersOf (entries : List (String × Item)) : (membersOf entries).map Prod.fst = entries.map Prod.fst := by
  simp [membersOf, Function.comp_def]

section Slots

/-- The entries of a section as they are read. -/
def slotsOf (entries : List (String × Item)) : Slots := .named (Json.arranged (membersOf entries))

variable {entries : List (String × Item)} (hkeys : (entries.map Prod.fst).Nodup) {key : String} {index : Nat}
include hkeys

theorem find?_slotsOf (key : String) (index : Nat) :
    (slotsOf entries).find? key index = (entries.lookup key).map Item.json := by
  rw [← keys_membersOf] at hkeys
  exact (Json.lookup_arranged hkeys key).trans (lookup_mapped Item.json key)

theorem run_entry {α : Type} {read : Json → Result α} {i : Item} {a default : α} (hentry : entries.lookup key = some i)
    (hread : read i.json = .ok a) : (defaulted key index read default).run (slotsOf entries) = .ok a :=
  run_defaulted (by rw [find?_slotsOf hkeys, hentry, Option.map_some]) hread

/-- An entry that is left out leaves the default. -/
theorem run_optionalEntry {value default : Option String} (hentry : entries.lookup key = value.map .text) :
    (defaulted key index (nullable text) default).run (slotsOf entries) = .ok (value.or default) := by
  cases value with
  | none => exact run_defaulted_absent (by rw [find?_slotsOf hkeys, hentry]; rfl)
  | some v => exact run_entry hkeys hentry (nullable_ok (text_str v) rfl)

end Slots

theorem keys_providerSection (p : ProviderConfig) : ((providerSection p).entries.map Prod.fst).Nodup := by
  obtain ⟨_, _, _ | _, _ | _, _, _⟩ := p <;> simp [providerSection, optionalEntry]

theorem keys_turnSection (c : TurnConfig) : ((turnSection c).entries.map Prod.fst).Nodup := by
  obtain ⟨_, _, _, _, _, _ | _⟩ := c <;> simp [turnSection, optionalEntry]

theorem decode_providerSection {p : ProviderConfig} (htokens : p.maxTokens < 2 ^ 32)
    (hchars : p.maxRequestChars < 2 ^ 64) : ProviderConfig.decode (.ofMembers (membersOf (providerSection p).entries)) =
      .ok { p with apiKeyEnv := some (p.apiKeyEnv.getD "OPENAI_API_KEY") } := by
  have hkeys := keys_providerSection p
  have htype : (providerSection p).entries.lookup "provider_type" = some (.text p.providerType) := rfl
  have hmodel : (providerSection p).entries.lookup "model" = some (.text p.model) := rfl
  -- where these stand depends on which of the optional entries are there
  have hkey : (providerSection p).entries.lookup "api_key" = p.apiKey.map .text := by
    obtain ⟨_, _, _ | _, _ | _, _, _⟩ := p <;> rfl
  have hvariable : (providerSection p).entries.lookup "api_key_env" = p.apiKeyEnv.map .text := by
    obtain ⟨_, _, _ | _, _ | _, _, _⟩ := p <;> rfl
  have hmaxTokens : (providerSection p).entries.lookup "max_tokens" = some (.natural p.maxTokens) := by
    obtain ⟨_, _, _ | _, _ | _, _, _⟩ := p <;> rfl
  have hmaxChars : (providerSection p).entries.lookup "max_request_chars" = some (.natural p.maxRequestChars) := by
    obtain ⟨_, _, _ | _, _ | _, _, _⟩ := p <;> rfl
  have hread : ProviderConfig.decode (.ofMembers (membersOf (providerSection p).entries)) = .ok
      ⟨p.providerType, p.model, p.apiKey.or none, p.apiKeyEnv.or (some "OPENAI_API_KEY"), p.maxTokens,
        p.maxRequestChars⟩ :=
    record_obj (run_seq (run_seq (run_seq (run_seq (run_seq (run_map (run_entry hkeys htype (text_str _)))
      (run_entry hkeys hmodel (text_str _))) (run_optionalEntry hkeys hkey)) (run_optionalEntry hkeys hvariable))
      (run_entry hkeys hmaxTokens (natural_nat htokens))) (run_entry hkeys hmaxChars (natural_nat hchars)))
  rw [hread, Option.or_none, Option.or_some]

theorem decode_turnSection {c : TurnConfig} (hrounds : c.maxRounds < 2 ^ 64) (htimeout : c.toolTimeoutSecs < 2 ^ 64) :
    TurnConfig.decode (.ofMembers (membersOf (turnSection c).entries)) = .ok c := by
  have hkeys := keys_turnSection c
  have hmaxRounds : (turnSection c).entries.lookup "max_rounds" = some (.natural c.maxRounds) := rfl
  have hlimit : (turnSection c).entries.lookup "round_limit" = some (.text c.roundLimit.name) := rfl
  have hchoice : choice RoundLimit.known (.str c.roundLimit.name) = .ok c.roundLimit := by
    cases c.roundLimit <;> rfl
  have hoffer : (turnSection c).entries.lookup "offer_tools_on_final_round" =
      some (.boolean c.offerToolsOnFinalRound) := rfl
  have hparallel : (turnSection c).entries.lookup "parallel_tools" = some (.boolean c.parallelTools) := rfl
  have hsecs : (turnSection c).entries.lookup "tool_timeout_secs" = some (.natural c.toolTimeoutSecs) := rfl
  have hprompt : (turnSection c).entries.lookup "system_prompt" = c.systemPrompt.map .text := by
    obtain ⟨_, _, _, _, _, _ | _⟩ := c <;> rfl
  have hread : TurnConfig.decode (.ofMembers (membersOf (turnSection c).entries)) = .ok
      ⟨c.maxRounds, c.roundLimit, c.offerToolsOnFinalRound, c.parallelTools, c.toolTimeoutSecs,
        c.systemPrompt.or none⟩ :=
    record_obj (run_seq (run_seq (run_seq (run_seq (run_seq (run_map (run_entry hkeys hmaxRounds (natural_nat hrounds)))
      (run_entry hkeys hlimit hchoice)) (run_entry hkeys hoffer (boolean_bool _)))
      (run_entry hkeys hparallel (boolean_bool _))) (run_entry hkeys hsecs (natural_nat htimeout)))
      (run_optionalEntry hkeys hprompt))
  rw [hread, Option.or_none]

/-- The environment of a server as entries. -/
def envEntries (env : List (String × String)) : List (String × Item) := env.map (fun e => (e.1, .text e.2))

/-- A variable as a member. -/
def envMember (e : String × String) : String × Json := (e.1, .str e.2)

theorem decodeTexts_map (env : List (String × String)) : decodeTexts (.obj (env.map envMember)) = .ok env := by
  show (env.map envMember).mapM _ = _
  induction env with
  | nil => rfl
  | cons e env ih =>
      rw [List.map_cons, List.mapM_cons, ih]
      rfl

/-- The variables come back in the order of their names. -/
theorem decodeTexts_envEntries {env : List (String × String)} (hkeys : (env.map Prod.fst).Nodup) :
    ∃ env', env'.Perm env ∧ decodeTexts (.ofMembers (membersOf (envEntries env))) = .ok env' := by
  have hmembers : membersOf (envEntries env) = env.map envMember := by
    simp [membersOf, envEntries, envMember, Item.json]
  have hperm : (Json.arranged (env.map envMember)).Perm (env.map envMember) :=
    Json.arranged_perm (by simpa [envMember, Function.comp_def] using hkeys)
  obtain ⟨env', harranged, henv⟩ :
      Relation.Comp (· = List.map envMember ·) List.Perm (Json.arranged (env.map envMember)) env := by
    rw [List.eq_map_comp_perm]
    exact hperm
  exact ⟨env', henv, by rw [hmembers, Json.ofMembers_eq, harranged, decodeTexts_map]⟩

/-- The entries of the server's own section. -/
def serverEntries (m : ServerConfig) : List (String × Item) := [("command", .text m.command), ("args", .texts m.args)]

/-- The server as JSON. -/
def serverMembers (m : ServerConfig) : Json.Members :=
  membersOf (serverEntries m) ++ [("env", .ofMembers (membersOf (envEntries m.env)))]

theorem decode_serverMembers {m : ServerConfig} (hkeys : (m.env.map Prod.fst).Nodup) :
    ∃ m', m'.Same m ∧ ServerConfig.decode (.ofMembers (serverMembers m)) = .ok m' := by
  obtain ⟨env, henv, hread⟩ := decodeTexts_envEntries hkeys
  have hmembers : ((serverMembers m).map Prod.fst).Nodup := show ["command", "args", "env"].Nodup by decide
  have hfind (key : String) (index : Nat) : Slots.find? (.named (Json.arranged (serverMembers m))) key index =
      (serverMembers m).lookup key := Json.lookup_arranged hmembers key
  exact ⟨⟨m.command, m.args, env⟩, ⟨rfl, rfl, henv⟩, record_obj (run_seq (run_seq (run_map
    (run_required (hfind _ _) (text_str _))) (run_defaulted (hfind _ _) (list_map text_str _)))
    (run_defaulted (hfind _ _) hread))⟩

/-! ### Reading the file -/

/-- The tables of a file. -/
def documentEntries (c : Config) : Entries :=
  [("provider", .table .header (valuesOf (providerSection c.provider).entries)),
    ("orchestration", .table .header (valuesOf (turnSection c.orchestration).entries))] ++
  c.mcp.elim [] (fun m => [("mcp", .table .header
    (valuesOf (serverEntries m) ++ [("env", .table .header (valuesOf (envEntries m.env)))]))])

/-- A file as JSON. -/
def documentMembers (c : Config) : Json.Members :=
  [("provider", .ofMembers (membersOf (providerSection c.provider).entries)),
    ("orchestration", .ofMembers (membersOf (turnSection c.orchestration).entries))] ++
  c.mcp.elim [] (fun m => [("mcp", .ofMembers (serverMembers m))])

theorem providerSection_readable {p : ProviderConfig} (htokens : p.maxTokens < 2 ^ 32)
    (hchars : p.maxRequestChars < 2 ^ 64) : (providerSection p).IsReadable where
  path_ne_nil := List.cons_ne_nil _ _
  path_length := show 1 ≤ depthLimit by decide
  held := by
    have hheld : p.maxTokens < 2 ^ 128 ∧ p.maxRequestChars < 2 ^ 128 := by omega
    obtain ⟨_, _, _ | _, _ | _, _, _⟩ := p <;> simpa [providerSection, optionalEntry, Item.IsHeld] using hheld

theorem turnSection_readable {c : TurnConfig} (hrounds : c.maxRounds < 2 ^ 64) (htimeout : c.toolTimeoutSecs < 2 ^ 64) :
    (turnSection c).IsReadable where
  path_ne_nil := List.cons_ne_nil _ _
  path_length := show 1 ≤ depthLimit by decide
  held := by
    have hheld : c.maxRounds < 2 ^ 128 ∧ c.toolTimeoutSecs < 2 ^ 128 := by omega
    obtain ⟨_, _, _, _, _, _ | _⟩ := c <;> simpa [turnSection, optionalEntry, Item.IsHeld] using hheld

theorem serverSections_readable (m : ServerConfig) : ∀ s ∈ serverSections m, s.IsReadable := by
  have hown : Section.IsReadable ⟨["mcp"], serverEntries m⟩ :=
    ⟨List.cons_ne_nil _ _, show 1 ≤ depthLimit by decide, by simp [serverEntries, Item.IsHeld]⟩
  have hvariables : ∀ e ∈ envEntries m.env, e.2.IsHeld := by
    intro e he
    obtain ⟨_, _, rfl⟩ := List.mem_map.mp he
    exact trivial
  intro s hs
  obtain _ | ⟨_, _ | ⟨_, ⟨⟩⟩⟩ := hs
  · exact hown
  · exact ⟨List.cons_ne_nil _ _, show 2 ≤ depthLimit by decide, hvariables⟩

theorem read?_fileText {c : Config} (hc : c.Typed) :
    read? (fileText c) = some (.table .header (documentEntries c)) := by
  have hreadable : ∀ s ∈ [providerSection c.provider, turnSection c.orchestration], s.IsReadable := by
    intro s hs
    obtain _ | ⟨_, _ | ⟨_, ⟨⟩⟩⟩ := hs
    · exact providerSection_readable hc.maxTokens hc.maxRequestChars
    · exact turnSection_readable hc.maxRounds hc.toolTimeoutSecs
  obtain ⟨afterProvider, hprovider, hproviderRoot⟩ : ∃ d', Draft.add {} (providerSection c.provider) = some d' ∧ _ :=
    add_section [] nofun rfl List.not_mem_nil (keys_providerSection c.provider)
  obtain ⟨afterTurn, hturn, hturnRoot⟩ : ∃ d', afterProvider.add (turnSection c.orchestration) = some d' ∧ _ :=
    add_section [] nofun hproviderRoot (show "orchestration" ∉ ["provider"] by decide)
      (keys_turnSection c.orchestration)
  have hboth : [providerSection c.provider, turnSection c.orchestration].foldlM Draft.add {} = some afterTurn := by
    rw [List.foldlM_cons, hprovider, Option.bind_eq_bind, Option.bind_some, List.foldlM_cons, hturn]
    rfl
  rw [fileText, documentEntries]
  cases hmcp : c.mcp with
  | none =>
      rw [Option.elim_none, Option.elim_none, List.append_nil, List.append_nil, read?_documentText hreadable hboth,
        hturnRoot]
      rfl
  | some m =>
      have hkeys : ((envEntries m.env).map Prod.fst).Nodup := by
        simpa [envEntries, Function.comp_def] using hc.env m hmcp
      obtain ⟨afterServer, hserver, hserverRoot⟩ : ∃ d', afterTurn.add ⟨["mcp"], serverEntries m⟩ = some d' ∧ _ :=
        add_section [] nofun hturnRoot (show "mcp" ∉ ["provider", "orchestration"] by decide)
          (show ["command", "args"].Nodup by decide)
      -- The variables go to a table below the server's, the last one so far.
      obtain ⟨afterEnv, henv, henvRoot⟩ : ∃ d', afterServer.add ⟨["mcp", "env"], envEntries m.env⟩ = some d' ∧ _ := by
        refine add_section [(_, "mcp")] (List.forall_mem_singleton.mpr ?_) hserverRoot
          (show "env" ∉ ["command", "args"] by decide) hkeys
        exact (show "mcp" ∉ ["provider", "orchestration"] by decide)
      have hserverSections : (serverSections m).foldlM Draft.add afterTurn = some afterEnv := by
        show [(⟨["mcp"], serverEntries m⟩ : Section), ⟨["mcp", "env"], envEntries m.env⟩].foldlM Draft.add afterTurn = _
        rw [List.foldlM_cons, hserver, Option.bind_eq_bind, Option.bind_some, List.foldlM_cons, henv]
        rfl
      rw [Option.elim_some, read?_documentText (List.forall_mem_append.mpr ⟨hreadable, serverSections_readable m⟩)
        (by rw [List.foldlM_append, hboth, Option.bind_eq_bind, Option.bind_some, hserverSections]), henvRoot]
      rfl

theorem trimmed_documentEntries (c : Config) :
    trimmed (.table .header (documentEntries c)) = .table .header (documentEntries c) := by
  obtain ⟨_, _, _ | m⟩ := c <;> rfl

theorem toJson?_documentEntries (c : Config) :
    (Toml.table .header (documentEntries c)).toJson? = some (.ofMembers (documentMembers c)) := by
  have hserver (m : ServerConfig) : (Toml.table .header (valuesOf (serverEntries m) ++
      [("env", .table .header (valuesOf (envEntries m.env)))])).toJson? = some (.ofMembers (serverMembers m)) := by
    show ((entriesToJson? [("command", Item.value (.text m.command)), ("args", Item.value (.texts m.args)),
      ("env", .table .header (valuesOf (envEntries m.env)))]).map Json.ofMembers) = _
    simp only [entriesToJson?, toJson?_value, toJson?_table]
    rfl
  obtain ⟨provider, turn, _ | m⟩ := c
  · show ((entriesToJson? [("provider", _), ("orchestration", _)]).map Json.ofMembers) = _
    simp only [entriesToJson?, toJson?_table]
    rfl
  · show ((entriesToJson? [("provider", _), ("orchestration", _), ("mcp", _)]).map Json.ofMembers) = _
    simp only [entriesToJson?, toJson?_table, hserver]
    rfl

theorem changeMember_self {key : String} {change : Json → Json} {ms : Json.Members}
    (h : ∀ m ∈ ms, m.1 = key → change m.2 = m.2) : changeMember key change ms = ms := by
  rw [changeMember]
  refine (List.map_congr_left fun m hm => ?_).trans (List.map_id' ms)
  split
  · rename_i hkey
    rw [h m hm hkey]
  · rfl

theorem plainTurn_section {entries : List (String × Item)} (hkeys : (entries.map Prod.fst).Nodup) :
    plainTurn (.ofMembers (membersOf entries)) = .ofMembers (membersOf entries) := by
  rw [← keys_membersOf] at hkeys
  -- a choice that is written as a plain name is not touched
  have hitem (i : Item) : plainChoice i.json = i.json := by
    cases i <;> rfl
  refine congrArg Json.obj (changeMember_self fun m hm _ => ?_)
  obtain ⟨e, -, rfl⟩ := List.mem_map.mp ((Json.arranged_perm hkeys).mem_iff.mp hm)
  exact hitem e.2

theorem keys_documentMembers (c : Config) : ((documentMembers c).map Prod.fst).Nodup := by
  obtain ⟨_, _, _ | _⟩ := c <;> simp [documentMembers]

theorem plain_documentMembers (c : Config) :
    plain (.ofMembers (documentMembers c)) = .ofMembers (documentMembers c) := by
  refine congrArg Json.obj (changeMember_self fun m hm hkey => ?_)
  have hmember : m ∈ documentMembers c := (Json.arranged_perm (keys_documentMembers c)).mem_iff.mp hm
  rw [documentMembers] at hmember
  obtain _ | ⟨_, _ | ⟨_, hserver⟩⟩ := hmember
  · exact absurd hkey (show "provider" ≠ "orchestration" by decide)
  · exact plainTurn_section (keys_turnSection c.orchestration)
  · cases hmcp : c.mcp with
    | none =>
        rw [hmcp] at hserver
        cases hserver
    | some s =>
        rw [hmcp] at hserver
        obtain rfl := List.mem_singleton.mp hserver
        exact absurd hkey (show "mcp" ≠ "orchestration" by decide)

/-- The configuration as it is when its file is opened: a key variable that is not named is the default one. -/
def reopened (c : Config) : Config :=
  { c with provider.apiKeyEnv := some (c.provider.apiKeyEnv.getD "OPENAI_API_KEY") }

theorem decode_documentMembers {c : Config} (hc : c.Typed) :
    ∃ c', c'.Same c.reopened ∧
      Config.decode (.ofMembers (documentMembers c)) = .ok c' := by
  have hfind (key : String) (index : Nat) : Slots.find? (.named (Json.arranged (documentMembers c))) key index =
      (documentMembers c).lookup key := Json.lookup_arranged (keys_documentMembers c) key
  have hprovider := decode_providerSection hc.maxTokens hc.maxRequestChars
  have hturn := decode_turnSection hc.maxRounds hc.toolTimeoutSecs
  cases hmcp : c.mcp with
  | none =>
      have habsent : (documentMembers c).lookup "mcp" = none := by
        rw [documentMembers, hmcp]
        rfl
      refine ⟨⟨_, c.orchestration, none⟩, ⟨rfl, rfl, by rw [reopened, hmcp]; exact .none⟩, ?_⟩
      exact record_obj (run_seq (run_seq (run_map (run_defaulted (hfind _ _) hprovider))
        (run_defaulted (hfind _ _) hturn)) (run_defaulted_absent ((hfind _ _).trans habsent)))
  | some m =>
      obtain ⟨m', hsame, hserver⟩ := decode_serverMembers (hc.env m hmcp)
      have hgiven : (documentMembers c).lookup "mcp" = some (.ofMembers (serverMembers m)) := by
        rw [documentMembers, hmcp]
        rfl
      refine ⟨⟨_, c.orchestration, some m'⟩, ⟨rfl, rfl, by rw [reopened, hmcp]; exact .some hsame⟩, ?_⟩
      exact record_obj (run_seq (run_seq (run_map (run_defaulted (hfind _ _) hprovider))
        (run_defaulted (hfind _ _) hturn)) (run_defaulted ((hfind _ _).trans hgiven) (nullable_ok hserver rfl)))

theorem ofText_fileText {c : Config} (hc : c.Typed) (hvalid : c.orchestration.validate = .ok ()) :
    ∃ c', c'.Same c.reopened ∧ ofText (fileText c) = .ok c' := by
  obtain ⟨c', hsame, hdecode⟩ := decode_documentMembers hc
  refine ⟨c', hsame, ?_⟩
  have hlimits : c'.orchestration.validate = .ok () := by
    rw [hsame.orchestration]
    exact hvalid
  rw [ofText, read?_fileText hc, Option.bind_some, trimmed_documentEntries, toJson?_documentEntries]
  simp only [plain_documentMembers, hdecode, hlimits]
  rfl

/-! ### Saving -/

namespace Store

theorem openAt_saved {s saved : Store} (hc : s.config.Typed) (hvalid : s.config.orchestration.validate = .ok ())
    (hsave : s.save = .ok saved) : ∃ c, c.Same s.config.reopened ∧ openAt saved.place = .ok ⟨saved.place, c⟩ := by
  obtain ⟨c, hsame, htext⟩ := ofText_fileText hc hvalid
  refine ⟨c, hsame, ?_⟩
  have hfound : saved.place.found = .bytes (Text.utf8Bytes (fileText s.config)) := by
    unfold save at hsave
    split at hsave
    · cases hsave
    · split at hsave
      · cases hsave
      · obtain rfl := Except.ok.inj hsave
        rfl
  simp only [openAt, hfound, load, Text.utf8Text_utf8Bytes, htext]
  rfl

theorem same_iff_of_reopened {c saved : Config} (hsame : c.Same saved.reopened) :
    c.Same saved ↔ saved.provider.apiKeyEnv ≠ none := by
  constructor
  · intro h habsent
    have hprovider : saved.provider = saved.reopened.provider := h.provider.symm.trans hsame.provider
    have hvariable : saved.provider.apiKeyEnv = some (saved.provider.apiKeyEnv.getD "OPENAI_API_KEY") :=
      congrArg ProviderConfig.apiKeyEnv hprovider
    rw [habsent] at hvariable
    cases hvariable
  · intro hnamed
    obtain ⟨name, hname⟩ := Option.ne_none_iff_exists'.mp hnamed
    have hreopened : saved.reopened = saved := by
      obtain ⟨⟨_, _, _, _, _, _⟩, _, _⟩ := saved
      obtain rfl := hname
      rfl
    rwa [hreopened] at hsame

/-- A configuration that is saved and opened again is the same, unless it does not name its key variable: then it
comes back with the default one, and is the same in all else. -/
theorem saved_then_opened {s saved : Store} (hc : s.config.Typed) (hvalid : s.config.orchestration.validate = .ok ())
    (hsave : s.save = .ok saved) : ∃ c, openAt saved.place = .ok ⟨saved.place, c⟩ ∧
      c.Same { s.config with provider.apiKeyEnv := some (s.config.provider.apiKeyEnv.getD "OPENAI_API_KEY") } ∧
      (c.Same s.config ↔ s.config.provider.apiKeyEnv ≠ none) := by
  obtain ⟨c, hsame, hopen⟩ := openAt_saved hc hvalid hsave
  exact ⟨c, hopen, hsame, same_iff_of_reopened hsame⟩

/-- A configuration with a server and its variables, where no file is yet. -/
def withServer : Store :=
  ⟨{}, { mcp := some { command := "serve", args := ["--quiet"], env := [("TOKEN", "t"), ("HOME", "/srv")] } }⟩

theorem withServer_typed : withServer.config.Typed where
  maxTokens := by decide
  maxRequestChars := by decide
  maxRounds := by decide
  toolTimeoutSecs := by decide
  env m hm := by
    obtain rfl := Option.some.inj hm
    decide

theorem saved_then_opened_sample : withServer.config.Typed ∧ withServer.config.orchestration.validate = .ok () ∧
    ∃ saved, withServer.save = .ok saved ∧
      ∃ c, openAt saved.place = .ok ⟨saved.place, c⟩ ∧ c.Same withServer.config := by
  obtain ⟨c, hopen, -, hsame⟩ := saved_then_opened withServer_typed rfl (show withServer.save = .ok _ from rfl)
  exact ⟨withServer_typed, rfl, _, rfl, c, hopen, hsame.mpr (by decide)⟩

/-- The defaults after a switch to a provider with another key variable, which the switch leaves to convention. -/
def switched : Store := ⟨{}, { provider := ({} : ProviderConfig).switchTo "anthropic" }⟩

/-- The key is looked up in another variable once the configuration was saved and opened again. -/
theorem key_variable_replaced : switched.config.orchestration.validate = .ok () ∧
    switched.config.provider.keyVariable? = some "ANTHROPIC_API_KEY" ∧
    ∃ saved c, switched.save = .ok saved ∧ openAt saved.place = .ok ⟨saved.place, c⟩ ∧ ¬c.Same switched.config ∧
      c.provider.keyVariable? = some "OPENAI_API_KEY" := by
  have hc : switched.config.Typed := ⟨by decide, by decide, by decide, by decide, nofun⟩
  obtain ⟨c, hsame, hopen⟩ := openAt_saved hc rfl (show switched.save = .ok _ from rfl)
  have habsent : switched.config.provider.apiKeyEnv = none := by decide
  refine ⟨rfl, by decide, _, c, rfl, hopen, fun h => (same_iff_of_reopened hsame).mp h habsent, ?_⟩
  rw [hsame.provider]
  decide

end Store

end Config

end Colloquy
