import GssApi.Config.Toml
import GssApi.Config.Settings
import GssApi.Error
/-! Loading settings.

Settings are read from a TOML document: the table `krb5` may set `clock_skew_secs`,
`default_lifetime_secs` (non-negative integers) and `initial_sequence` (`"random"` or
`"zero"`), and the table `logging` may set `level` (a string). Missing tables and keys keep
their defaults and unknown ones are ignored; a value of the wrong kind fails the whole
document. A settings table may also be written as an array holding its values in order,
missing trailing values keeping their defaults; a choice may also be written as a table with
the chosen name as its only key, holding an empty table or array. A date or time is handed
over as a table with one key of its own, so in place of a settings table it keeps the
defaults. Every fault reads as "Failed to parse config".

The environment then overrides: `GSS_KRB5_CLOCK_SKEW` and `GSS_KRB5_LIFETIME` when they are
unsigned decimal numerals below 2^64 (an optional `+` allowed), and `GSS_LOG` always. -/
namespace GssApi

namespace Toml

/-- The key under which a date or time is handed over as a table. It names no setting, so
a date or time read as a settings table keeps every default, and read as a choice names no
choice. -/
def datetimeKey : String := "$__toml_private_datetime"

/-- The entries of a table, inline or not; a date or time is a table with one entry. -/
def Item.entries? : Item → Option (List (String × Item))
  | .table _ _ es => some es
  | .value (.inline es) => some es
  | .value .datetime => some [(datetimeKey, .value .datetime)]
  | _ => none

/-- The items of an array, or the tables of an array of tables. -/
def Item.sequence? : Item → Option (List Item)
  | .value (.array vs) => some (vs.map .value)
  | .tables ts => some (ts.map (.table false false ·))
  | _ => none

/-- Whether an item is an empty table or an empty array. -/
def Item.isEmptyContainer (i : Item) : Bool :=
  (i.entries?.map List.isEmpty).getD false || (i.sequence?.map List.isEmpty).getD false

/-- A non-negative integer below 2^64. -/
def readU64 : Item → Except String UInt64
  | .value (.integer n) => if 0 ≤ n ∧ n < Int.pow 2 64 then .ok n.toNat.toUInt64 else .error "out of range"
  | _ => .error "expected an unsigned integer"

def readString : Item → Except String String
  | .value (.string s) => .ok s
  | _ => .error "expected a string"

/-- A choice of a first sequence number. -/
def readInitialSequence (i : Item) : Except String InitialSequence :=
  match i with
  | .value (.string s) =>
    match InitialSequence.ofName? s with
    | some c => .ok c
    | none => .error ("unknown variant " ++ s)
  | _ =>
    match i.entries? with
    | some [(name, content)] =>
      match InitialSequence.ofName? name with
      | some c => if content.isEmptyContainer then .ok c else .error "expected an empty table"
      | none => .error ("unknown variant " ++ name)
    | _ => .error "expected a string or a table with one key"

/-- A field of a table, or its default. -/
def field (es : List (String × Item)) (name : String) (read : Item → Except String α)
    (default : α) : Except String α :=
  match es.lookup name with
  | some i => read i
  | none => .ok default

/-- A value of an array at a position, or its default. -/
def element (xs : List Item) (n : Nat) (read : Item → Except String α) (default : α) :
    Except String α :=
  match xs[n]? with
  | some i => read i
  | none => .ok default

def readKrb5 (i : Item) : Except String Krb5Config :=
  let d : Krb5Config := {}
  match i.entries?, i.sequence? with
  | some es, _ => do
    pure ⟨← field es "clock_skew_secs" readU64 d.clockSkew,
      ← field es "default_lifetime_secs" readU64 d.defaultLifetime,
      ← field es "initial_sequence" readInitialSequence d.initialSequence⟩
  | none, some xs => do
    pure ⟨← element xs 0 readU64 d.clockSkew, ← element xs 1 readU64 d.defaultLifetime,
      ← element xs 2 readInitialSequence d.initialSequence⟩
  | none, none => .error "expected a table"

def readLogging (i : Item) : Except String LoggingConfig :=
  let d : LoggingConfig := {}
  match i.entries?, i.sequence? with
  | some es, _ => do pure ⟨← field es "level" readString d.level⟩
  | none, some xs => do pure ⟨← element xs 0 readString d.level⟩
  | none, none => .error "expected a table"

/-- The settings of a document's root table. -/
def readConfig (root : List (String × Item)) : Except String Config := do
  pure ⟨← field root "krb5" readKrb5 {}, ← field root "logging" readLogging {}⟩

end Toml

namespace Config

/-- Settings from the text of a configuration file. -/
def parse (text : String) : Except GssError Config :=
  match Toml.parse text >>= Toml.readConfig with
  | .ok c => .ok c
  | .error _ => .error (.config "Failed to parse config")

/-- Settings with the overrides of an environment, given as a lookup of its variables. -/
def withEnvOverrides (c : Config) (env : String → Option String) : Config :=
  let number (name : String) : Option UInt64 := do
    let n ← Text.parseU64? (← env name)
    pure n.toUInt64
  { krb5 := { c.krb5 with
      clockSkew := (number "GSS_KRB5_CLOCK_SKEW").getD c.krb5.clockSkew
      defaultLifetime := (number "GSS_KRB5_LIFETIME").getD c.krb5.defaultLifetime }
    logging := { level := (env "GSS_LOG").getD c.logging.level } }

end Config

end GssApi
