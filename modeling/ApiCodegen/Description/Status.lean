/-!
# Response statuses

A response is declared with a tag such as `not_found`; the table gives the tags that exist and their
codes.
-/

namespace ApiCodegen

/-- The status tags and their codes. -/
def statusCodes : List (String × Nat) :=
  [("ok", 200), ("created", 201), ("accepted", 202), ("non_authoritative_info", 203),
    ("no_content", 204), ("reset_content", 205), ("partial_content", 206),
    ("multiple_choices", 300), ("moved_permanently", 301), ("found", 302), ("see_other", 303),
    ("not_modified", 304), ("temporary_redirect", 307), ("permanent_redirect", 308),
    ("bad_request", 400), ("unauthorized", 401), ("payment_required", 402), ("forbidden", 403),
    ("not_found", 404), ("method_not_allowed", 405), ("not_acceptable", 406),
    ("request_timeout", 408), ("conflict", 409), ("gone", 410), ("length_required", 411),
    ("precondition_failed", 412), ("request_entity_too_large", 413),
    ("unsupported_media_type", 415), ("unprocessable_entity", 422), ("locked", 423),
    ("too_many_requests", 429), ("internal_server_error", 500), ("not_implemented", 501),
    ("bad_gateway", 502), ("service_unavailable", 503), ("gateway_timeout", 504)]

/-- The code of a status tag. -/
def statusCode? (tag : String) : Option Nat :=
  statusCodes.lookup tag

end ApiCodegen
