import Colloquy.Console.Isolated
import Colloquy.Proofs.Decode.Record
import Colloquy.Proofs.Json.Members

/-! The key that a run takes for its provider. A provider that the command line switches to is asked with the key in
its own conventional variable. A provider that only the file names, without a key, is asked with the key in the
default variable (`Config.Keyless.provider`), which is the conventional one of a single provider. -/

namespace Colloquy

open Decode

namespace ProviderConfig

/-! ### Keys -/

/-- The non-empty value of a variable. -/
def keyIn? (name : String) (env : Environment) : Option String := (env.lookup name).bind Text.nonEmpty?

/-- The key that a provider has by convention. -/
def conventionalKey? (providerType : String) (env : Environment) : Option String :=
  (defaultKeyVariable? providerType).bind (keyIn? · env)

variable {p : ProviderConfig} {env : Environment} {name : String}

/-- With neither a key nor a variable, the key is the conventional one. -/
theorem key?_conventional (hkey : p.apiKey = none) (hvariable : p.apiKeyEnv = none) :
    p.key? env = conventionalKey? p.providerType env := by
  rw [key?, keyVariable?, hkey, hvariable, Option.bind_none, Option.none_or, Option.none_or, Option.bind_assoc]
  rfl

/-- With a variable and no key, the key is that of the variable. -/
theorem key?_named (hkey : p.apiKey = none) (hvariable : p.apiKeyEnv = some name) : p.key? env = keyIn? name env := by
  rw [key?, keyVariable?, hkey, hvariable, Option.bind_none, Option.none_or, Option.some_or, Option.bind_some]
  rfl

theorem defaultKeyVariable?_eq_openai {providerType : String} :
    defaultKeyVariable? providerType = some "OPENAI_API_KEY" ↔ providerType = "openai" := by
  refine ⟨fun h => ?_, fun h => h ▸ rfl⟩
  unfold defaultKeyVariable? providerFacts? at h
  split at h <;> simp_all

/-- The default variable is the conventional one of no other provider. -/
theorem keyIn?_eq_conventional_iff {providerType : String} :
    (∀ env, keyIn? "OPENAI_API_KEY" env = conventionalKey? providerType env) ↔ providerType = "openai" := by
  constructor
  · intro h
    -- an environment in which no other variable has a value
    have hkey : conventionalKey? providerType [("OPENAI_API_KEY", "k")] = some "k" := (h _).symm
    obtain ⟨conventional, hconventional, hin⟩ := Option.bind_eq_some_iff.mp hkey
    obtain ⟨found, hfound, -⟩ := Option.bind_eq_some_iff.mp hin
    rw [lookup_cons, List.lookup_nil] at hfound
    split at hfound
    · next heq => exact defaultKeyVariable?_eq_openai.mp (hconventional.trans (congrArg some heq))
    · cases hfound
  · rintro rfl env
    rfl

/-- A key that is not given is absent, and a variable that is not given is the default one. -/
theorem of_decode {j : Json} (hread : decode j = .ok p) : (field? j "api_key" 2 = none → p.apiKey = none) ∧
    (field? j "api_key_env" 3 = none → p.apiKeyEnv = some "OPENAI_API_KEY") := by
  obtain ⟨slots, hslots, hfields⟩ := record_eq_ok hread
  obtain ⟨_, _, hfive, -, rfl⟩ := seq_eq_ok.mp hfields
  obtain ⟨_, _, hfour, -, rfl⟩ := seq_eq_ok.mp hfive
  obtain ⟨_, _, hthree, hvariable, rfl⟩ := seq_eq_ok.mp hfour
  obtain ⟨_, _, htwo, hkey, rfl⟩ := seq_eq_ok.mp hthree
  obtain ⟨_, _, hone, -, rfl⟩ := seq_eq_ok.mp htwo
  obtain ⟨_, -, rfl⟩ := map_eq_ok.mp hone
  exact ⟨fun habsent => eq_default_of_absent hkey ((hslots _ _).trans habsent),
    fun habsent => eq_default_of_absent hvariable ((hslots _ _).trans habsent)⟩

end ProviderConfig

/-! ### Files -/

namespace Config

/-- The document in a file. -/
def document? : FileFound → Option Json
  | .bytes content => (Text.utf8Text content).toOption.bind fun text =>
    (Toml.read? text).bind fun document => (trimmed document).toJson?
  | .nothing | .directory => none

/-- What a file gives for a field of the provider. -/
def given? (found : FileFound) (key : String) (index : Nat) : Option Json :=
  (document? found).bind fun document => (field? document "provider" 0).bind (field? · key index)

/-- A file gives neither a key nor a variable for it. -/
structure Keyless (found : FileFound) : Prop where
  key : given? found "api_key" 2 = none
  keyVariable : given? found "api_key_env" 3 = none

variable {found : FileFound} {c : Config}

theorem lookup_changeMember {key other : String} (change : Json → Json) (hother : other ≠ key) (members : Json.Members) :
    (changeMember key change members).lookup other = members.lookup other := by
  induction members with
  | nil => rfl
  | cons m members ih =>
      rw [changeMember] at ih ⊢
      rw [List.map_cons, lookup_cons, lookup_cons, ih]
      by_cases hm : m.1 = key
      · rw [if_pos hm, if_neg (hm ▸ hother), if_neg (hm ▸ hother)]
      · rw [if_neg hm]

theorem field?_plain (document : Json) : field? (plain document) "provider" 0 = field? document "provider" 0 := by
  cases document with
  | obj members => exact lookup_changeMember plainTurn (by decide) members
  | _ => rfl

theorem document_of_ofText {text : String} (hread : ofText text = .ok c) :
    ∃ document, (Toml.read? text).bind (fun document => (trimmed document).toJson?) = some document ∧
      Config.decode (plain document) = .ok c := by
  unfold ofText at hread
  split at hread
  · cases hread
  · next document hdocument =>
      split at hread
      · cases hread
      · next config hdecode =>
          have hvalid : config = c := by
            cases hlimits : config.orchestration.validate with
            | error e => simp [hlimits, Except.map] at hread
            | ok _ => simpa [hlimits, Except.map] using hread
          exact ⟨document, hdocument, hvalid ▸ hdecode⟩

/-- A configuration that is loaded is that of the document in the file, or the default one where there is no file. -/
theorem document_of_load (hload : load found = .ok c) :
    found = .nothing ∧ c = {} ∨ ∃ document, document? found = some document ∧ Config.decode (plain document) = .ok c := by
  cases found with
  | nothing => exact Or.inl ⟨rfl, (Except.ok.inj hload).symm⟩
  | directory => cases hload
  | bytes content =>
      simp only [load] at hload
      split at hload
      · cases hload
      · next text htext =>
          obtain ⟨document, hdocument, hdecode⟩ := document_of_ofText hload
          exact Or.inr ⟨document, by rw [document?, htext]; exact hdocument, hdecode⟩

/-- A file without a key leaves the provider without one, and with the default variable. -/
theorem Keyless.provider (hfile : Keyless found) (hload : load found = .ok c) :
    c.provider.apiKey = none ∧ c.provider.apiKeyEnv = some "OPENAI_API_KEY" := by
  obtain ⟨rfl, rfl⟩ | ⟨document, hdocument, hdecode⟩ := document_of_load hload
  · exact ⟨rfl, rfl⟩
  · obtain ⟨slots, hslots, hfields⟩ := record_eq_ok hdecode
    obtain ⟨_, _, htwo, -, rfl⟩ := seq_eq_ok.mp hfields
    obtain ⟨_, _, hone, -, rfl⟩ := seq_eq_ok.mp htwo
    obtain ⟨provider, hprovider, rfl⟩ := map_eq_ok.mp hone
    have hfind : slots.find? "provider" 0 = field? document "provider" 0 := (hslots _ _).trans (field?_plain document)
    obtain ⟨hkey, hvariable⟩ := hfile
    rw [given?, hdocument, Option.bind_some, ← hfind] at hkey hvariable
    cases hgiven : slots.find? "provider" 0 with
    | none =>
        obtain rfl := eq_default_of_absent hprovider hgiven
        exact ⟨rfl, rfl⟩
    | some j =>
        rw [hgiven, Option.bind_some] at hkey hvariable
        simp only [defaulted, hgiven] at hprovider
        obtain ⟨hnoKey, hdefault⟩ := ProviderConfig.of_decode (given_eq_ok.mp hprovider)
        exact ⟨hnoKey hkey, hdefault hvariable⟩

end Config

/-! ### Runs -/

namespace Console

open ProviderConfig

variable {o : Options} {file c : Config}

/-- The command line names another provider than the file does. -/
def Options.Switches (o : Options) (file : Config) : Prop := ∃ t, o.provider = some t ∧ t ≠ file.provider.providerType

theorem provider_switched (hswitch : o.Switches file) : o.provider = some (o.applyTo file).provider.providerType ∧
    (o.applyTo file).provider.apiKey = none ∧ (o.applyTo file).provider.apiKeyEnv = none := by
  obtain ⟨t, ht, hne⟩ := hswitch
  simp only [Options.applyTo, ht, switchTo, if_neg (Ne.symm hne)]
  trivial

theorem provider_unswitched (hsame : ¬o.Switches file) :
    (o.applyTo file).provider = { file.provider with model := o.model.getD file.provider.model } := by
  cases ht : o.provider with
  | none => simp only [Options.applyTo, ht]
  | some t =>
      have heq : file.provider.providerType = t := by_contra fun hne => hsame ⟨t, ht, Ne.symm hne⟩
      simp only [Options.applyTo, ht, switchTo, if_pos heq]

theorem settings_eq_ok_iff {ω : Type} {outside : Outside ω} : outside.settings o = .ok c ↔
    ∃ path file, o.config.elim (defaultConfigPath outside.environment outside.account) .ok = .ok path ∧
      Config.load (outside.found path) = .ok file ∧ o.applyTo file = c := by
  unfold Outside.settings
  cases hpath : o.config.elim (defaultConfigPath outside.environment outside.account) .ok with
  | error e => simp [bind, Except.bind]
  | ok path => cases hload : Config.load (outside.found path) <;> simp [bind, Except.bind, hload]

/-- A provider that the command line switches to is asked with its conventional key. One that is not switched to, of a
file without a key, is asked with the key in the default variable; that is its conventional key if it is the provider
whose variable this is, and for no other. -/
theorem key_of_settings {ω : Type} {outside : Outside ω} (hsettings : outside.settings o = .ok c) :
    ∃ path file, o.config.elim (defaultConfigPath outside.environment outside.account) .ok = .ok path ∧
      Config.load (outside.found path) = .ok file ∧
      (o.Switches file → o.provider = some c.provider.providerType ∧
        ∀ env, c.provider.key? env = conventionalKey? c.provider.providerType env) ∧
      (¬o.Switches file → Config.Keyless (outside.found path) →
        c.provider.providerType = file.provider.providerType ∧
        (∀ env, c.provider.key? env = keyIn? "OPENAI_API_KEY" env) ∧
        ((∀ env, c.provider.key? env = conventionalKey? c.provider.providerType env) ↔
          c.provider.providerType = "openai")) := by
  obtain ⟨path, file, hpath, hload, rfl⟩ := settings_eq_ok_iff.mp hsettings
  refine ⟨path, file, hpath, hload, fun hswitch => ?_, fun hsame hfile => ?_⟩
  · obtain ⟨htype, hkey, hvariable⟩ := provider_switched hswitch
    exact ⟨htype, fun env => key?_conventional hkey hvariable⟩
  · obtain ⟨hkey, hvariable⟩ := hfile.provider hload
    rw [provider_unswitched hsame]
    have hdefault (env : Environment) : key? { file.provider with model := o.model.getD file.provider.model } env =
        keyIn? "OPENAI_API_KEY" env := key?_named hkey hvariable
    refine ⟨rfl, hdefault, ?_⟩
    simp only [hdefault]
    exact keyIn?_eq_conventional_iff

/-- A file that names a provider and its model, and no key. -/
def keylessFile : FileFound :=
  .bytes (Text.utf8Bytes "[provider]\nprovider_type = \"anthropic\"\nmodel = \"claude-3-5-haiku-latest\"\n")

theorem load_keylessFile : Config.load keylessFile =
    .ok { provider := { providerType := "anthropic", model := "claude-3-5-haiku-latest" } } := by
  decide +kernel

/-- Keys of two providers. -/
def twoKeys : Environment := [("ANTHROPIC_API_KEY", "k-ant"), ("OPENAI_API_KEY", "k-oai")]

def withKeylessFile : Outside Unit := outsideWith true twoKeys [("parley.toml", keylessFile)]

def switching : Options := { config := some "parley.toml", provider := some "groq" }

theorem key_of_settings_sample : ∃ c, withKeylessFile.settings switching = .ok c ∧
    ∀ env, c.provider.key? env = conventionalKey? "groq" env := by
  have hsettings : withKeylessFile.settings switching = .ok (switching.applyTo _) :=
    settings_eq_ok_iff.mpr ⟨"parley.toml", _, rfl, load_keylessFile, rfl⟩
  refine ⟨_, hsettings, ?_⟩
  obtain ⟨path, file, hpath, hload, hswitched, -⟩ := key_of_settings hsettings
  obtain rfl := Except.ok.inj hpath
  obtain rfl := Except.ok.inj (load_keylessFile.symm.trans hload)
  exact (hswitched ⟨"groq", rfl, by decide⟩).2

/-- The key of another provider is taken for a provider that the file names. -/
theorem foreign_key_taken : Config.Keyless keylessFile ∧
    ∃ c, withKeylessFile.settings { config := some "parley.toml" } = .ok c ∧ c.provider.providerType = "anthropic" ∧
      c.provider.key? twoKeys = some "k-oai" ∧ conventionalKey? "anthropic" twoKeys = some "k-ant" := by
  have hkeyless : (Config.given? keylessFile "api_key" 2).isNone ∧ (Config.given? keylessFile "api_key_env" 3).isNone := by
    decide +kernel
  simp only [Option.isNone_iff_eq_none] at hkeyless
  exact ⟨⟨hkeyless.1, hkeyless.2⟩, _, settings_eq_ok_iff.mpr ⟨"parley.toml", _, rfl, load_keylessFile, rfl⟩, rfl, rfl, rfl⟩

end Console

end Colloquy
