import Mathlib.Data.List.Basic
import ObjectDocument.Config
import ObjectDocument.Proofs.Outcome
import ObjectDocument.Proofs.Text.Split

/-!
# Configuration texts

A configuration text is a list of settings between commas. Main statement: a text is read exactly if
each of its parts is a setting, the last setting of a key counts, and the first part that is no
setting is reported. Reading one text after another, joined by a comma, is applying its settings over
the configuration that the first one gives.
-/

namespace ObjectDocument

namespace Config

/-- What stands between the commas of a text, without the empty parts. -/
def parts (s : String) : List String :=
  ((s.toList.splitOn ',').filter (!·.isEmpty)).map String.ofList

/-- The parts that are settings. -/
inductive Spells : String → Setting → Prop
  | identity : Spells "naming=identity" (.naming .identity)
  | propertyName : Spells "naming=property_name" (.naming .identity)
  | snakeCase : Spells "naming=snake_case" (.naming .snakeCase)
  | strict : Spells "strict=true" (.strict true)
  | lenient : Spells "strict=false" (.strict false)

/-- What is reported of a part that is no setting. Its key is told apart up to the first `=`, so a
value may hold more of them. -/
inductive Misspells : String → ParameterFault → Prop
  | naming {value : String} (h : value ∉ ["identity", "property_name", "snake_case"]) :
      Misspells ("naming=" ++ value) (.unknownNaming value)
  | strict {value : String} (h : value ∉ ["true", "false"]) :
      Misspells ("strict=" ++ value) (.invalidStrict value)
  | unknown {part : String} (hnaming : ∀ value, part ≠ "naming=" ++ value)
      (hstrict : ∀ value, part ≠ "strict=" ++ value) : Misspells part (.unknownParameter part)

/-- What is reported of parts: what is wrong with the first that is no setting. -/
inductive FirstMisspelt : List String → ParameterFault → Prop
  | here {part : String} {rest : List String} {fault : ParameterFault}
      (h : Misspells part fault) : FirstMisspelt (part :: rest) fault
  | later {part : String} {rest : List String} {fault : ParameterFault}
      (hpart : ∃ setting, Spells part setting) (h : FirstMisspelt rest fault) :
      FirstMisspelt (part :: rest) fault

/-- What parts set a key to: the value of the last that sets it, and the default if none does. -/
inductive LastSet {α : Type} (key : α → Setting) (default : α) : List String → α → Prop
  | set {before after : List String} {part : String} {value : α} (hpart : Spells part (key value))
      (hafter : ∀ later ∈ after, ∀ other, ¬Spells later (key other)) :
      LastSet key default (before ++ part :: after) value
  | unset {parts : List String} (h : ∀ part ∈ parts, ∀ other, ¬Spells part (key other)) :
      LastSet key default parts default

/-- What a setting assigns to. -/
inductive Key where
  | naming
  | strict
deriving DecidableEq

def Setting.key : Setting → Key
  | .naming _ => .naming
  | .strict _ => .strict

def Setting.strategy? : Setting → Option NamingStrategy
  | .naming strategy => some strategy
  | .strict _ => none

def Setting.flag? : Setting → Option Bool
  | .naming _ => none
  | .strict on => some on

/-- Apply the settings of a text over a configuration. -/
def override (config : Config) (s : String) : Except ParameterFault Config :=
  (settings s).map (·.foldl set config)

/-! ## One part -/

theorem parse_naming (value : String) : Setting.parse ("naming=" ++ value).toList =
    match naming? value with
    | some strategy => .ok (.naming strategy)
    | none => .error (.unknownNaming value) := by
  have hprefix : "naming=".toList.isPrefixOf? ("naming=" ++ value).toList = some value.toList := by
    rw [List.isPrefixOf?_eq_some_iff_append_eq, String.toList_append]
  rw [Setting.parse, hprefix]
  cases hvalue : naming? value with
  | some strategy => simp [hvalue]
  | none => simp [hvalue]

theorem parse_strict (value : String) : Setting.parse ("strict=" ++ value).toList =
    match strict? value with
    | some on => .ok (.strict on)
    | none => .error (.invalidStrict value) := by
  have hprefix : "strict=".toList.isPrefixOf? ("strict=" ++ value).toList = some value.toList := by
    rw [List.isPrefixOf?_eq_some_iff_append_eq, String.toList_append]
  have hnaming : "naming=".toList.isPrefixOf? ("strict=" ++ value).toList = none := by
    rw [String.toList_append]
    rfl
  rw [Setting.parse, hnaming, hprefix]
  cases hvalue : strict? value with
  | some on => simp [hvalue]
  | none => simp [hvalue]

theorem parse_unknown {part : String} (hnaming : ∀ value, part ≠ "naming=" ++ value)
    (hstrict : ∀ value, part ≠ "strict=" ++ value) :
    Setting.parse part.toList = .error (.unknownParameter part) := by
  have hnone {key : String} (hkey : ∀ value, part ≠ key ++ value) :
      key.toList.isPrefixOf? part.toList = none := by
    rw [Option.eq_none_iff_forall_ne_some]
    intro value hvalue
    rw [List.isPrefixOf?_eq_some_iff_append_eq] at hvalue
    apply hkey (String.ofList value)
    rw [← String.toList_inj, String.toList_append, String.toList_ofList, hvalue]
  rw [Setting.parse, hnone hnaming, hnone hstrict, String.ofList_toList]

theorem parse_of_spells {part : String} {setting : Setting} (h : Spells part setting) :
    Setting.parse part.toList = .ok setting := by
  cases h with
  | identity => exact parse_naming "identity"
  | propertyName => exact parse_naming "property_name"
  | snakeCase => exact parse_naming "snake_case"
  | strict => exact parse_strict "true"
  | lenient => exact parse_strict "false"

theorem parse_of_misspells {part : String} {fault : ParameterFault} (h : Misspells part fault) :
    Setting.parse part.toList = .error fault := by
  cases h with
  | naming h =>
      simp only [List.mem_cons, List.not_mem_nil, or_false, not_or] at h
      rw [parse_naming, naming?]
      simp [h]
  | strict h =>
      simp only [List.mem_cons, List.not_mem_nil, or_false, not_or] at h
      rw [parse_strict, strict?]
      simp [h]
  | unknown hnaming hstrict => exact parse_unknown hnaming hstrict

theorem Spells.unique {part : String} {setting other : Setting} (h : Spells part setting)
    (hother : Spells part other) : setting = other :=
  Except.ok.inj ((parse_of_spells h).symm.trans (parse_of_spells hother))

theorem spells_or_misspells (part : String) :
    (∃ setting, Spells part setting) ∨ ∃ fault, Misspells part fault := by
  by_cases hnaming : ∃ value, part = "naming=" ++ value
  · obtain ⟨value, rfl⟩ := hnaming
    by_cases h : value ∈ ["identity", "property_name", "snake_case"]
    · simp only [List.mem_cons, List.not_mem_nil, or_false] at h
      rcases h with rfl | rfl | rfl
      · exact .inl ⟨_, .identity⟩
      · exact .inl ⟨_, .propertyName⟩
      · exact .inl ⟨_, .snakeCase⟩
    · exact .inr ⟨_, .naming h⟩
  · by_cases hstrict : ∃ value, part = "strict=" ++ value
    · obtain ⟨value, rfl⟩ := hstrict
      by_cases h : value ∈ ["true", "false"]
      · simp only [List.mem_cons, List.not_mem_nil, or_false] at h
        rcases h with rfl | rfl
        · exact .inl ⟨_, .strict⟩
        · exact .inl ⟨_, .lenient⟩
      · exact .inr ⟨_, .strict h⟩
    · exact .inr ⟨_, .unknown (not_exists.mp hnaming) (not_exists.mp hstrict)⟩

/-- A part is read if it is a setting, and reported if it is none. -/
theorem setting_parse_eq_ok_iff {part : String} {setting : Setting} :
    Setting.parse part.toList = .ok setting ↔ Spells part setting := by
  refine ⟨fun h => ?_, parse_of_spells⟩
  rcases spells_or_misspells part with ⟨found, hfound⟩ | ⟨fault, hfault⟩
  · rw [parse_of_spells hfound] at h
    cases h
    exact hfound
  · rw [parse_of_misspells hfault] at h
    cases h

theorem setting_parse_eq_error_iff {part : String} {fault : ParameterFault} :
    Setting.parse part.toList = .error fault ↔ Misspells part fault := by
  refine ⟨fun h => ?_, parse_of_misspells⟩
  rcases spells_or_misspells part with ⟨setting, hsetting⟩ | ⟨found, hfound⟩
  · rw [parse_of_spells hsetting] at h
    cases h
  · rw [parse_of_misspells hfound] at h
    cases h
    exact hfound

/-! ## All parts -/

theorem settings_eq (s : String) :
    settings s = (parts s).mapM fun part => Setting.parse part.toList := by
  have hsplit : Text.splitWhere (· == ',') s.toList = s.toList.splitOn ',' :=
    (Text.splitWhere_eq_splitOnP _ s.toList).trans List.splitOn_eq_splitOnP.symm
  have hparse : Setting.parse = (fun part => Setting.parse part.toList) ∘ String.ofList := by
    funext part
    rw [Function.comp_apply, String.toList_ofList]
  rw [settings, parts, hsplit, List.mapM_map, ← hparse]

/-- The parts of texts that are joined by a comma are those of the one and the other. -/
theorem parts_append (s t : String) : parts (s ++ "," ++ t) = parts s ++ parts t := by
  have hcomma : (s ++ "," ++ t).toList = s.toList ++ ',' :: t.toList := by
    simp [String.toList_append]
  rw [parts, hcomma, List.splitOn_eq_splitOnP, List.splitOnP_append_cons _ _ (by simp),
    List.filter_append, List.map_append, ← List.splitOn_eq_splitOnP, ← List.splitOn_eq_splitOnP,
    parts, parts]

theorem settings_append (s t : String) : settings (s ++ "," ++ t) = do
    let ss ← settings s
    let ts ← settings t
    return ss ++ ts := by
  rw [settings_eq, parts_append, List.mapM_append, settings_eq, settings_eq]

/-- The settings of joined texts are applied one after another. -/
theorem override_append (config : Config) (s t : String) :
    config.override (s ++ "," ++ t) = config.override s >>= fun c => c.override t := by
  rw [override, settings_append, override]
  cases settings s with
  | error fault => rfl
  | ok ss =>
      cases ht : settings t with
      | error fault => simp [bind, Except.bind, Except.map, override, ht]
      | ok ts => simp [bind, Except.bind, Except.map, override, ht, pure, Except.pure]

theorem exists_parse_iff (s : String) :
    (∃ config, parse s = .ok config) ↔ ∀ part ∈ parts s, ∃ setting, Spells part setting := by
  rw [parse, exists_map_eq_ok_iff, settings_eq, exists_mapM_eq_ok_iff]
  simp only [setting_parse_eq_ok_iff]

theorem settings_eq_ok_iff {s : String} {ss : List Setting} :
    settings s = .ok ss ↔ List.Forall₂ Spells (parts s) ss := by
  rw [settings_eq, mapM_eq_ok]
  simp only [setting_parse_eq_ok_iff]

theorem firstMisspelt_cons_iff {part : String} {rest : List String} {fault : ParameterFault} :
    FirstMisspelt (part :: rest) fault ↔
      Misspells part fault ∨ (∃ setting, Spells part setting) ∧ FirstMisspelt rest fault := by
  constructor
  · intro h
    cases h with
    | here h => exact .inl h
    | later hpart h => exact .inr ⟨hpart, h⟩
  · rintro (h | ⟨hpart, h⟩)
    · exact .here h
    · exact .later hpart h

theorem mapM_parse_eq_error_iff {ps : List String} {fault : ParameterFault} :
    (ps.mapM fun part => Setting.parse part.toList) = .error fault ↔ FirstMisspelt ps fault := by
  induction ps with
  | nil =>
      refine iff_of_false (by simp [pure, Except.pure]) ?_
      rintro ⟨⟩
  | cons part rest ih =>
      rw [List.mapM_cons, firstMisspelt_cons_iff, ← ih]
      simp only [← setting_parse_eq_ok_iff, ← setting_parse_eq_error_iff]
      cases Setting.parse part.toList with
      | error found => simp [bind, Except.bind]
      | ok setting =>
          cases rest.mapM fun part => Setting.parse part.toList with
          | error first => simp [bind, Except.bind]
          | ok settings => simp [bind, Except.bind, pure, Except.pure]

/-- The first part that is no setting is reported. -/
theorem parse_eq_error_iff (s : String) {fault : ParameterFault} :
    parse s = .error fault ↔ FirstMisspelt (parts s) fault := by
  rw [← mapM_parse_eq_error_iff, ← settings_eq, parse]
  cases settings s with
  | error first => simp [Except.map]
  | ok ss => simp [Except.map]

/-! ## Configurations -/

section Values

variable {α : Type} {key : α → Setting} {value? : Setting → Option α} {get : Config → α}
  (hkey : ∀ setting value, value? setting = some value ↔ setting = key value)
  (hget : ∀ config setting, get (config.set setting) = (value? setting).getD (get config))

include hget

/-- Of the settings of a key the last one counts. -/
theorem get_foldl_set (config : Config) (ss : List Setting) :
    get (ss.foldl set config) = (ss.reverse.findSome? value?).getD (get config) := by
  induction ss generalizing config with
  | nil => rfl
  | cons setting ss ih =>
      rw [List.foldl_cons, ih, hget, List.reverse_cons, List.findSome?_append]
      cases ss.reverse.findSome? value? <;> simp

include hkey

theorem lastSet_foldl_set {ps : List String} {ss : List Setting}
    (h : List.Forall₂ Spells ps ss) (config : Config) :
    LastSet key (get config) ps (get (ss.foldl set config)) := by
  induction h generalizing config with
  | nil => exact .unset (by simp)
  | @cons part setting ps ss hpart hps ih =>
      have hlast := ih (config.set setting)
      rw [List.foldl_cons]
      generalize get (ss.foldl set (config.set setting)) = last at hlast ⊢
      cases hlast with
      | @set before after later _ hlater hafter =>
          exact @LastSet.set _ _ _ (part :: before) after later _ hlater hafter
      | unset hps =>
          rw [hget]
          cases hvalue : value? setting with
          | some value =>
              rw [(hkey setting value).mp hvalue] at hpart
              exact @LastSet.set _ _ _ [] ps _ value hpart hps
          | none =>
              refine .unset (List.forall_mem_cons.mpr ⟨fun other hother => ?_, hps⟩)
              rw [(hkey setting other).mpr (hpart.unique hother)] at hvalue
              cases hvalue

end Values

theorem strategy?_eq_some_iff (setting : Setting) (strategy : NamingStrategy) :
    setting.strategy? = some strategy ↔ setting = .naming strategy := by
  cases setting <;> simp [Setting.strategy?]

theorem flag?_eq_some_iff (setting : Setting) (on : Bool) :
    setting.flag? = some on ↔ setting = .strict on := by
  cases setting <;> simp [Setting.flag?]

theorem naming_set (config : Config) (setting : Setting) :
    (config.set setting).naming = setting.strategy?.getD config.naming := by
  cases setting <;> rfl

theorem strict_set (config : Config) (setting : Setting) :
    (config.set setting).strict = setting.flag?.getD config.strict := by
  cases setting <;> rfl

theorem foldl_set_eq (config : Config) (ss : List Setting) : ss.foldl set config =
    ⟨(ss.reverse.findSome? Setting.strategy?).getD config.naming,
      (ss.reverse.findSome? Setting.flag?).getD config.strict⟩ := by
  rw [← get_foldl_set naming_set, ← get_foldl_set strict_set]

/-- Settings that are applied again later need not have been applied before. -/
theorem foldl_set_again (config : Config) (ss ts : List Setting) :
    ss.foldl set (ts.foldl set (ss.foldl set config)) = ss.foldl set (ts.foldl set config) := by
  simp only [foldl_set_eq]
  cases ss.reverse.findSome? Setting.strategy? <;> cases ss.reverse.findSome? Setting.flag? <;> rfl

theorem set_comm (config : Config) {setting other : Setting} (h : setting.key ≠ other.key) :
    (config.set setting).set other = (config.set other).set setting := by
  cases setting with
  | naming strategy =>
      cases other with
      | naming _ => exact absurd rfl h
      | strict _ => rfl
  | strict on =>
      cases other with
      | naming _ => rfl
      | strict _ => exact absurd rfl h

theorem foldl_set_set (config : Config) {setting : Setting} {ts : List Setting}
    (h : ∀ other ∈ ts, setting.key ≠ other.key) :
    ts.foldl set (config.set setting) = (ts.foldl set config).set setting := by
  induction ts generalizing config with
  | nil => rfl
  | cons other ts ih =>
      obtain ⟨hother, hts⟩ := List.forall_mem_cons.mp h
      rw [List.foldl_cons, List.foldl_cons, set_comm config hother, ih _ hts]

/-- Settings of different keys are applied in either order. -/
theorem foldl_set_comm (config : Config) {ss ts : List Setting}
    (h : ∀ setting ∈ ss, ∀ other ∈ ts, setting.key ≠ other.key) :
    ts.foldl set (ss.foldl set config) = ss.foldl set (ts.foldl set config) := by
  induction ss generalizing config with
  | nil => rfl
  | cons setting ss ih =>
      obtain ⟨hsetting, hss⟩ := List.forall_mem_cons.mp h
      rw [List.foldl_cons, List.foldl_cons, ih _ hss, foldl_set_set config hsetting]

/-! ## Texts -/

theorem override_of_settings (config : Config) {s : String} {ss : List Setting}
    (hs : settings s = .ok ss) : config.override s = .ok (ss.foldl set config) := by
  rw [override, hs]
  rfl

theorem override_of_fault (config : Config) {s : String} {fault : ParameterFault}
    (hs : settings s = .error fault) : config.override s = .error fault := by
  rw [override, hs]
  rfl

theorem lastSet_of_parse {s : String} {config : Config} (h : parse s = .ok config) :
    LastSet .naming .identity (parts s) config.naming ∧
      LastSet .strict false (parts s) config.strict := by
  obtain ⟨ss, hss, rfl⟩ := map_eq_ok_iff.mp h
  have hspells := settings_eq_ok_iff.mp hss
  exact ⟨lastSet_foldl_set strategy?_eq_some_iff naming_set hspells {},
    lastSet_foldl_set flag?_eq_some_iff strict_set hspells {}⟩

theorem override_twice (config : Config) (s : String) :
    (config.override s >>= fun c => c.override s) = config.override s := by
  cases hs : settings s with
  | error fault =>
      rw [override_of_fault config hs]
      rfl
  | ok ss =>
      rw [override_of_settings config hs]
      exact (override_of_settings _ hs).trans (congrArg _ (foldl_set_again config ss []))

/-- Settings need not be applied if they are applied again after another text. -/
theorem override_again (config : Config) {s : String} {ss : List Setting} (hs : settings s = .ok ss)
    (m : String) : (config.override s >>= fun c => c.override m >>= fun c => c.override s) =
      config.override m >>= fun c => c.override s := by
  rw [override_of_settings config hs]
  change ((ss.foldl set config).override m >>= _) = _
  cases hm : settings m with
  | error fault => rw [override_of_fault _ hm, override_of_fault _ hm]
  | ok ms =>
      rw [override_of_settings _ hm, override_of_settings _ hm]
      change Config.override _ s = Config.override _ s
      rw [override_of_settings _ hs, override_of_settings _ hs, foldl_set_again]

theorem override_comm (config : Config) {s t : String} {ss ts : List Setting}
    (hs : settings s = .ok ss) (ht : settings t = .ok ts)
    (hkeys : ∀ setting ∈ ss, ∀ other ∈ ts, setting.key ≠ other.key) :
    (config.override s >>= fun c => c.override t) =
      config.override t >>= fun c => c.override s := by
  rw [override_of_settings config hs, override_of_settings config ht]
  change Config.override _ t = Config.override _ s
  rw [override_of_settings _ ht, override_of_settings _ hs, foldl_set_comm config hkeys]

/-- A configuration text is read exactly if every part is a setting, each key has the last value it
is set to, and the first part that is no setting is reported. A text after another one is applied over
what that one gives, so neither settings that come again later nor the order of settings of different
keys matter. -/
theorem parses_exactly :
    (∀ s, (∃ config, parse s = .ok config) ↔ ∀ part ∈ parts s, ∃ setting, Spells part setting) ∧
    (∀ s config, parse s = .ok config → LastSet .naming .identity (parts s) config.naming ∧
      LastSet .strict false (parts s) config.strict) ∧
    (∀ s fault, parse s = .error fault ↔ FirstMisspelt (parts s) fault) ∧
    (∀ s t, parse (s ++ "," ++ t) = parse s >>= fun config => config.override t) ∧
    (∀ a s b, parse (a ++ "," ++ s ++ "," ++ s ++ "," ++ b) = parse (a ++ "," ++ s ++ "," ++ b)) ∧
    (∀ a s m b ss, settings s = .ok ss →
      parse (a ++ "," ++ s ++ "," ++ m ++ "," ++ s ++ "," ++ b) =
        parse (a ++ "," ++ m ++ "," ++ s ++ "," ++ b)) ∧
    ∀ a s t b ss ts, settings s = .ok ss → settings t = .ok ts →
      (∀ setting ∈ ss, ∀ other ∈ ts, setting.key ≠ other.key) →
        parse (a ++ "," ++ s ++ "," ++ t ++ "," ++ b) =
          parse (a ++ "," ++ t ++ "," ++ s ++ "," ++ b) := by
  have happend (s t : String) : parse (s ++ "," ++ t) = parse s >>= fun config => config.override t :=
    override_append {} s t
  refine ⟨exists_parse_iff, fun s config => lastSet_of_parse, fun s fault => parse_eq_error_iff s,
    happend, fun a s b => ?_, fun a s m b ss hs => ?_, fun a s t b ss ts hs ht hkeys => ?_⟩
  · simp only [happend, bind_assoc]
    refine bind_congr fun config => ?_
    rw [← bind_assoc, override_twice]
  · simp only [happend, bind_assoc]
    refine bind_congr fun config => ?_
    have hagain := congrArg (· >>= fun c => c.override b) (override_again config hs m)
    simpa only [bind_assoc] using hagain
  · simp only [happend, bind_assoc]
    refine bind_congr fun config => ?_
    rw [← bind_assoc, override_comm config hs ht hkeys, bind_assoc]

/-- Naming is set twice and given back in the end, while strict mode is turned on once. -/
def renamedBack : String :=
  "naming=snake_case,,strict=true,naming=property_name"

theorem parse_renamedBack : parse renamedBack = .ok ⟨.identity, true⟩ := by
  rfl

theorem parses_exactly_renamedBack :
    (∀ part ∈ parts renamedBack, ∃ setting, Spells part setting) ∧
    LastSet .naming .identity (parts renamedBack) .identity ∧
    LastSet .strict false (parts renamedBack) true ∧
    parse (renamedBack ++ "," ++ "strict=true" ++ "," ++ "naming=snake_case" ++ "," ++ "strict") =
      parse (renamedBack ++ "," ++ "naming=snake_case" ++ "," ++ "strict=true" ++ "," ++ "strict") ∧
    parse ("" ++ "," ++ renamedBack ++ "," ++ "strict=false" ++ "," ++ renamedBack ++ "," ++ "") =
      parse ("" ++ "," ++ "strict=false" ++ "," ++ renamedBack ++ "," ++ "") := by
  obtain ⟨hreads, hlast, -, -, -, hagain, hcomm⟩ := parses_exactly
  obtain ⟨hnaming, hstrict⟩ := hlast _ _ parse_renamedBack
  have hsettings : settings renamedBack =
      .ok [.naming .snakeCase, .strict true, .naming .identity] := by
    rfl
  refine ⟨(hreads _).mp ⟨_, parse_renamedBack⟩, hnaming, hstrict, ?_, hagain _ _ _ _ _ hsettings⟩
  refine hcomm _ _ _ _ [.strict true] [.naming .snakeCase] rfl rfl ?_
  simp [Setting.key]

end Config

end ObjectDocument
