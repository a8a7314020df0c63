import ObjectDocument.Naming

/-!
# Configuration

The configuration of a mapping context, and its textual form: comma-separated settings such as
`naming=snake_case,strict=true`. Empty parts are skipped, a later setting of a key wins, and the
first part that is not a setting is reported.
-/

namespace ObjectDocument

/-- What all entity types of one context share. -/
structure Config where
  /-- How wire names are computed. -/
  naming : NamingStrategy := .identity
  /-- Whether diagnostics about field names fail the build. -/
  strict : Bool := false

/-- Why a part of a configuration text is not a setting. -/
inductive ParameterFault where
  | unknownNaming (value : String)
  | invalidStrict (value : String)
  | unknownParameter (part : String)
deriving DecidableEq, Repr

def ParameterFault.message : ParameterFault → String
  | unknownNaming value => "unknown naming: " ++ value
  | invalidStrict value => "invalid strict value: " ++ value
  | unknownParameter part => "unknown parameter: " ++ part

namespace Config

/-- One assignment of a configuration text. -/
inductive Setting where
  | naming (strategy : NamingStrategy)
  | strict (on : Bool)

/-- The strategy that a value of the key `naming` stands for. -/
def naming? (value : String) : Option NamingStrategy :=
  if value = "identity" ∨ value = "property_name" then some .identity
  else if value = "snake_case" then some .snakeCase
  else none

/-- The flag that a value of the key `strict` stands for. -/
def strict? (value : String) : Option Bool :=
  if value = "true" then some true else if value = "false" then some false else none

def Setting.parse (part : List Char) : Except ParameterFault Setting :=
  match "naming=".toList.isPrefixOf? part with
  | some value =>
    match naming? (String.ofList value) with
    | some strategy => .ok (.naming strategy)
    | none => .error (.unknownNaming (String.ofList value))
  | none =>
    match "strict=".toList.isPrefixOf? part with
    | some value =>
      match strict? (String.ofList value) with
      | some on => .ok (.strict on)
      | none => .error (.invalidStrict (String.ofList value))
    | none => .error (.unknownParameter (String.ofList part))

def set (config : Config) : Setting → Config
  | .naming strategy => { config with naming := strategy }
  | .strict on => { config with strict := on }

/-- The settings of a configuration text, in order, or the fault of the first bad part. -/
def settings (s : String) : Except ParameterFault (List Setting) :=
  ((Text.splitWhere (· == ',') s.toList).filter (!·.isEmpty)).mapM Setting.parse

/-- Read a configuration: its settings, applied in order to the default. -/
def parse (s : String) : Except ParameterFault Config :=
  (settings s).map (·.foldl set {})

end Config

end ObjectDocument
