import Survey.Calendar.Date
import Survey.Digest.Hmac
import Survey.Inspection.Finding
import Survey.Text.Basic
import Survey.Text.Utf8

/-!
License keys. A key is a payload signed with a secret; a payload that begins with eight digits names
the last day on which the key holds.
-/
namespace Survey.License

inductive Fault where
  | missing
  | format
  | signature
  | date
  | expired (lastDay : Date)
  deriving DecidableEq

def Fault.message : Fault → String
  | .missing => "No license key provided"
  | .format => "Invalid license format"
  | .signature => "Invalid license key"
  | .date => "Invalid license expiry date"
  | .expired _ => "License expired"

/-- What a key is worth: a license, perhaps up to a last day, or none for a reason. -/
inductive Standing where
  | granted (lastDay : Option Date)
  | refused (fault : Fault)
  deriving DecidableEq

namespace Standing

def isValid : Standing → Bool
  | .granted _ => true
  | .refused _ => false

def tier : Standing → Tier
  | .granted _ => .pro
  | .refused _ => .free

def lastDay : Standing → Option Date
  | .granted d => d
  | .refused (.expired d) => some d
  | .refused _ => none

def message : Standing → Option String
  | .granted _ => none
  | .refused fault => some fault.message

end Standing

def lead : String :=
  "AL-PRO-"

def secret : String :=
  "archlens-license-v1"

def code (payload : String) : List UInt8 :=
  Digest.hmac (Text.Utf8.encode secret) (Text.Utf8.encode payload)

/-- The signature of a payload: the first eight bytes of its code. -/
def signature (payload : String) : String :=
  Text.hex ((code payload).take 8)

/-- Whether a text signs a payload: sixteen bytes of digits, in any case, that write the first bytes
of its code. -/
def signs (sign payload : String) : Bool :=
  (Text.Utf8.encode sign).length == 16 &&
    match Text.unhex? (Text.lowercaseAscii sign).toList with
    | some tag => tag.isPrefixOf (code payload)
    | none => false

def keyOf (payload : String) : String :=
  lead ++ payload ++ "-" ++ signature payload

/-- The payload and the signature of a key. -/
def parts? (key : String) : Option (String × String) :=
  match (Text.dropLeading? lead key).bind fun rest => Text.cutLast? (· = '-') rest.toList with
  | some (payload, sign) =>
    if payload.isEmpty then none else some (String.ofList payload, String.ofList sign)
  | none => none

/-- The eight digits that a dated payload begins with. -/
def dateDigits? (payload : String) : Option (List Char) :=
  let digits := payload.toList.take 8
  if digits.length = 8 ∧ digits.all Char.isDigit then some digits else none

/-- What a signed payload is worth on a day. -/
def grant (payload : String) (today : Date) : Standing :=
  match dateDigits? payload with
  | none => .granted none
  | some digits =>
    match Date.ofDigits? digits with
    | none => .refused .date
    | some lastDay =>
      if lastDay.before today then .refused (.expired lastDay) else .granted (some lastDay)

def check (key : Option String) (today : Date) : Standing :=
  let key := Text.trimmed (key.getD "")
  if key = "" then .refused .missing
  else
    match parts? key with
    | none => .refused .format
    | some (payload, sign) =>
      if signs sign payload then grant payload today else .refused .signature

end Survey.License
