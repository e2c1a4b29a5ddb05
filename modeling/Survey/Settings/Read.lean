import Survey.Settings.Basic
import Survey.Text.Basic
import Survey.Yaml.Node

/-!
Settings from the text of a settings file. Everything has a default; keys that mean nothing are
passed over, a key that means something may stand once.
-/
namespace Survey

namespace Yaml.Node

def text? : Node → Option String
  | .scalar text _ _ => some text
  | _ => none

def isBlank : Node → Bool
  | .scalar text style _ => text == "" && style == .plain
  | _ => false

/-- The text of a scalar that is no string by its form: a plain one, or a block of lines with the
tag of the type. -/
def literal? (tag : String) : Node → Option String
  | .scalar text .plain _ => some text
  | .scalar text .literal (some t) => if t == "tag:yaml.org,2002:" ++ tag then some text else none
  | _ => none

def bool? (n : Node) : Option Bool := do
  let text ← n.literal? "bool"
  if ["true", "True", "TRUE"].contains text then some true
  else if ["false", "False", "FALSE"].contains text then some false
  else none

def digit? (base : Nat) (c : Char) : Option Nat :=
  (Json.hexDigit? c).filter (· < base)

/-- Digits in a base as a number of 64 bits. -/
def digits? (base : Nat) (digits : List Char) : Option Nat := do
  let values ← digits.mapM (digit? base)
  let n := values.foldl (fun n d => base * n + d) 0
  if digits.isEmpty || Nat.pow 2 64 ≤ n then none else some n

/-- A natural number: decimal without zeros in front, or in base 16, 8 or 2. -/
def natural? (n : Node) : Option Nat := do
  let text ← n.literal? "int"
  let body :=
    match text.toList with
    | '+' :: rest => rest
    | cs => cs
  match body with
  | '0' :: 'x' :: digits => digits? 16 digits
  | '0' :: 'o' :: digits => digits? 8 digits
  | '0' :: 'b' :: digits => digits? 2 digits
  | '0' :: _ :: _ => none
  | digits => digits? 10 digits

/-- A value that may be missing, written as nothing, a tilde or a null. -/
def optional? {α : Type} (read : Node → Option α) (n : Node) : Option (Option α) :=
  match n with
  | .scalar text .plain tag =>
    let isNull := ["", "~", "null", "Null", "NULL"].contains text
    match tag with
    | none => if isNull then some none else (read n).map some
    | some t =>
      if t == "tag:yaml.org,2002:null" then (if isNull && text != "" then some none else none)
      else (read n).map some
  | .endless => none
  | n => (read n).map some

/-- A list; nothing is the empty list. -/
def list? {α : Type} (read : Node → Option α) : Node → Option (List α)
  | .sequence items => items.mapM read
  | n => if n.isBlank then some [] else none

/-- A value by its name, written as a scalar or as a tag alone. -/
def choice? {α : Type} (ofName? : String → Option α) : Node → Option α
  | .scalar text style (some tag) =>
    match Text.dropLeading? "!" tag with
    | some name =>
      if style == .plain && ["", "~", "null", "Null", "NULL"].contains text then ofName? name
      else none
    | none => ofName? text
  | .scalar text _ none => ofName? text
  | _ => none

/-- The values under some names; none when one stands twice. Nothing is a record without any. -/
def record? (names : List String) : Node → Option (List (String × Node))
  | .mapping entries => do
    let entries ← entries.mapM fun (key, value) => key.text?.map (·, value)
    let known := entries.filter fun (key, _) => names.contains key
    if (known.map Prod.fst).Nodup then some known else none
  | n => if n.isBlank then some [] else none

end Yaml.Node

namespace Settings

open Survey.Yaml

def field {α : Type} (record : List (String × Node)) (name : String) (default : α)
    (read : Node → Option α) : Option α :=
  match record.lookup name with
  | some n => read n
  | none => some default

def thresholdsOf? (n : Node) : Option Thresholds := do
  let d : Thresholds := {}
  let record ← n.record? (d.entries.map Prod.fst)
  let limit (name : String) (value : Nat) : Option Nat := field record name value Node.natural?
  return {
    maxLines := ← limit "max_line_count" d.maxLines
    maxDependencies := ← limit "max_dependencies" d.maxDependencies
    maxPageComponents := ← limit "max_page_components" d.maxPageComponents
    maxPageImports := ← limit "max_page_imports" d.maxPageImports
    maxPageCalls := ← limit "max_api_calls_per_page" d.maxPageCalls
    maxRenders := ← limit "max_component_renders" d.maxRenders
    maxFanIn := ← limit "max_fan_in" d.maxFanIn
    maxFanOut := ← limit "max_fan_out" d.maxFanOut
    bridgeDegree := ← limit "bridge_degree" d.bridgeDegree
    hubUsers := ← limit "hub_used_by" d.hubUsers
    hubRenders := ← limit "hub_renders" d.hubRenders
    barrelFiles := ← limit "barrel_min_files" d.barrelFiles }

def schemaOf? (n : Node) : Option SchemaSettings := do
  let record ← n.record? ["provider", "path"]
  return {
    provider := ← field record "provider" .auto (Node.choice? SchemaProvider.ofName?)
    path := ← field record "path" none (Node.optional? Node.text?) }

def inspectionOf? (n : Node) : Option InspectionSettings := do
  let d : InspectionSettings := {}
  let record ← n.record? ["enabled", "license", "exclude", "public_env_prefixes", "thresholds"]
  return {
    enabled := ← field record "enabled" d.enabled Node.bool?
    license := ← field record "license" none (Node.optional? Node.text?)
    exclude := ← field record "exclude" d.exclude (Node.list? Node.text?)
    publicEnvPrefixes :=
      ← field record "public_env_prefixes" d.publicEnvPrefixes (Node.list? Node.text?)
    thresholds := ← field record "thresholds" d.thresholds thresholdsOf? }

def ofNode? (n : Node) : Option Settings := do
  let d : Settings := {}
  let record ← n.record? ["output", "framework", "exclude", "include_vue", "schema", "agents"]
  return {
    output := ← field record "output" d.output Node.text?
    framework := ← field record "framework" d.framework (Node.choice? Framework.ofName?)
    exclude := ← field record "exclude" d.exclude (Node.list? Node.text?)
    includeVue := ← field record "include_vue" d.includeVue Node.bool?
    schema := ← field record "schema" d.schema schemaOf?
    inspection := ← field record "agents" d.inspection inspectionOf? }

/-- Settings from a text. A text without a document leaves all defaults. -/
def parse? (text : String) : Option Settings := do
  match ← document? text with
  | some root => ofNode? root
  | none => return {}

end Settings

end Survey
