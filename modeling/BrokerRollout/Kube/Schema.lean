import BrokerRollout.Json.Shape
import BrokerRollout.Kube.Timestamp

/-!
# Shapes of API documents

What the documents of an API server look like, as far as somebody looks at them: objects with their
metadata, refusals, and the statuses that end commands and deletions.
-/

namespace BrokerRollout.Kube.Schema

/-! ### Fields -/

/-- A field that may be missing or null. -/
def optional (name : String) (shape : Json.Shape) : Json.Field Json.Shape :=
  ⟨name, shape, .optional⟩

def text (name : String) : Json.Field Json.Shape := optional name .text

def texts (names : List String) : List (Json.Field Json.Shape) := names.map text

def int32 : Json.Shape := .integer Int32.minValue.toInt Int32.maxValue.toInt "i32"

def int64 : Json.Shape := .integer Int64.minValue.toInt Int64.maxValue.toInt "i64"

def uint16 : Json.Shape := .integer 0 (UInt16.size - 1) "u16"

def uint32 : Json.Shape := .integer 0 (UInt32.size - 1) "u32"

def timestamp : Json.Shape :=
  .checked "an RFC 3339 formatted date and time string" fun s =>
    (Timestamp.fault? s).map Timestamp.Fault.message

/-! ### Objects -/

/-- A part of an object: of repeated fields the last one counts, and a list is no part. -/
def part (name : String) (fields : List (Json.Field Json.Shape)) : Json.Shape :=
  .record name { onList := .entered, once := false } fields

def owner : Json.Shape :=
  part "OwnerReference" ([
    optional "blockOwnerDeletion" .boolean,
    optional "controller" .boolean]
    ++ texts ["apiVersion", "kind", "name", "uid"])

def managedFields : Json.Shape :=
  part "ManagedFieldsEntry" ([
    optional "fieldsV1" .anything,
    optional "time" timestamp]
    ++ texts ["apiVersion", "fieldsType", "manager", "operation", "subresource"])

def metadata : Json.Shape :=
  part "ObjectMeta" ([
    optional "annotations" (.map .text),
    optional "creationTimestamp" timestamp,
    optional "deletionGracePeriodSeconds" int64,
    optional "deletionTimestamp" timestamp,
    optional "finalizers" (.list .text),
    optional "generation" int64,
    optional "labels" (.map .text),
    optional "managedFields" (.list managedFields),
    optional "ownerReferences" (.list owner)]
    ++ texts ["generateName", "name", "namespace", "resourceVersion", "selfLink", "uid"])

/-- An object of any kind; only its metadata have a shape. -/
def object : Json.Shape :=
  .record "struct DynamicObject" { onList := .refused, keepsOthers := true }
    [⟨"metadata", metadata, .missable⟩]

/-! ### Statuses -/

/-- The body of a response that refuses a request. -/
def refusal : Json.Shape :=
  .record "struct ErrorResponse" { onList := .fields } [
    ⟨"status", .text, .required⟩,
    ⟨"message", .text, .missable⟩,
    ⟨"reason", .text, .missable⟩,
    ⟨"code", uint16, .required⟩]

/-- The status that ends a command. -/
def commandStatus : Json.Shape :=
  part "Status" ([
    ⟨"apiVersion", .text, .only "v1"⟩,
    ⟨"kind", .text, .only "Status"⟩,
    optional "code" int32,
    optional "details" (part "StatusDetails" ([
      optional "causes" (.list (part "StatusCause" (texts ["field", "message", "reason"]))),
      optional "retryAfterSeconds" int32]
      ++ texts ["group", "kind", "name", "uid"])),
    optional "metadata" (part "ListMeta" (
      optional "remainingItemCount" int64 :: texts ["continue", "resourceVersion", "selfLink"]))]
    ++ texts ["message", "reason", "status"])

/-- The status that answers a deletion. -/
def deletionStatus : Json.Shape :=
  .record "struct Status" { onList := .fields } [
    optional "status" (.choice ["Success", "Failure"]),
    ⟨"code", uint16, .missable⟩,
    ⟨"message", .text, .missable⟩,
    ⟨"reason", .text, .missable⟩,
    optional "details" (.record "struct StatusDetails" { onList := .fields } [
      ⟨"name", .text, .missable⟩,
      ⟨"group", .text, .missable⟩,
      ⟨"kind", .text, .missable⟩,
      ⟨"uid", .text, .missable⟩,
      ⟨"causes", .list (.record "struct StatusCause" { onList := .fields } [
        ⟨"reason", .text, .missable⟩,
        ⟨"message", .text, .missable⟩,
        ⟨"field", .text, .missable⟩]), .missable⟩,
      ⟨"retryAfterSeconds", uint32, .missable⟩])]

end BrokerRollout.Kube.Schema
