import RedisKeeper.Api.Shape.Basic

/-
The shape of the account that the API gives of what it did.
-/
namespace RedisKeeper
namespace Api
namespace Shape

open Json

def outcomeCause : Json.Shape := .object "StatusCause" [
  ("field", .anyText), ("message", .anyText), ("reason", .anyText)]

def outcomeDetails : Json.Shape := .object "StatusDetails" [
  ("causes", .list outcomeCause), ("group", .anyText), ("kind", .anyText), ("name", .anyText),
  ("retryAfterSeconds", .int32), ("uid", .anyText)]

def listMetadata : Json.Shape := .object "ListMeta" [
  ("continue", .anyText), ("remainingItemCount", .int64), ("resourceVersion", .anyText),
  ("selfLink", .anyText)]

def outcome : Json.Shape := .record "Status" .lenient [
  ("apiVersion", .defaulted, .only "v1"),
  ("kind", .defaulted, .only "Status"),
  ("code", .optional, .int32),
  ("details", .optional, outcomeDetails),
  ("message", .optional, .anyText),
  ("metadata", .optional, listMetadata),
  ("reason", .optional, .anyText),
  ("status", .optional, .anyText)]

end Shape
end Api
end RedisKeeper
