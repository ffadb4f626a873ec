/-!
# Support modules of the service

The modules through which generated handlers read requests and write responses. Each is the list of
its lines.
-/

namespace ApiCodegen.Support

/-- Checks of request headers. -/
def contentTypeModule : List String := [
  "//! Request header helpers.",
  "",
  "use super::errmodels::\x7bBadRequestError, ErrorLocation, ValidationError\x7d;",
  "use super::params::MISSING;",
  "use super::respond::\x7bself, LogFields\x7d;",
  "use axum::http::\x7bHeaderMap, header\x7d;",
  "use axum::response::Response;",
  "",
  "/// Verifies that the request declares the `expected` content type.",
  "///",
  "/// # Errors",
  "///",
  "/// Returns the 400 response to send back when the header does not match.",
  "pub fn check(log: &LogFields, headers: &HeaderMap, expected: &str) -> Result<(), Response> \x7b",
  "    let found = headers",
  "        .get(header::CONTENT_TYPE)",
  "        .and_then(|value| value.to_str().ok())",
  "        .unwrap_or_default();",
  "    if found.contains(expected) \x7b",
  "        return Ok(());",
  "    \x7d",
  "",
  "    let message = format!(",
  "        \"Expected Content-Type header: '\x7bexpected\x7d' was not provided, found: '\x7bfound\x7d'\"",
  "    );",
  "    let error = BadRequestError::new(",
  "        ErrorLocation::Header,",
  "        \"Failed to parse header\",",
  "        vec![ValidationError \x7b",
  "            path: \"Content-Type\".to_string(),",
  "            code: MISSING.to_string(),",
  "            message: Some(message),",
  "        \x7d],",
  "    );",
  "    Err(respond::bad_request(log, error))",
  "\x7d",
  "",
  "/// Flattens headers into wire pairs, skipping values that are not visible ASCII.",
  "#[must_use]",
  "pub fn header_pairs(headers: &HeaderMap) -> Vec<(String, String)> \x7b",
  "    headers",
  "        .iter()",
  "        .filter_map(|(name, value)| \x7b",
  "            value",
  "                .to_str()",
  "                .ok()",
  "                .map(|value| (name.as_str().to_string(), value.to_string()))",
  "        \x7d)",
  "        .collect()",
  "\x7d"
]

/-- From parameter faults to validation errors. -/
def convertModule : List String := [
  "//! Conversion of parameter failures into validation errors.",
  "",
  "use super::errmodels::ValidationError;",
  "use super::params::ParsingError;",
  "",
  "impl From<ParsingError> for ValidationError \x7b",
  "    fn from(error: ParsingError) -> Self \x7b",
  "        Self \x7b",
  "            path: error.path,",
  "            code: error.code,",
  "            message: Some(error.message),",
  "        \x7d",
  "    \x7d",
  "\x7d",
  "",
  "/// Converts every parsing failure of a parameter group.",
  "#[must_use]",
  "pub fn validation_errors(errors: Vec<ParsingError>) -> Vec<ValidationError> \x7b",
  "    errors.into_iter().map(ValidationError::from).collect()",
  "\x7d"
]

/-- Reading of forms. -/
def formModule : List String := [
  "//! Form body decoding.",
  "",
  "use super::errmodels::\x7bBadRequestError, ErrorLocation\x7d;",
  "use axum::extract::Multipart;",
  "use axum::extract::multipart::MultipartRejection;",
  "",
  "/// Splits an `application/x-www-form-urlencoded` body into pairs.",
  "#[must_use]",
  "pub fn urlencoded_pairs(body: &[u8]) -> Vec<(String, String)> \x7b",
  "    url::form_urlencoded::parse(body).into_owned().collect()",
  "\x7d",
  "",
  "/// Collects the text fields of a `multipart/form-data` body.",
  "///",
  "/// # Errors",
  "///",
  "/// Returns the bad request to send back when the body is not valid multipart.",
  "pub async fn multipart_pairs(",
  "    multipart: Result<Multipart, MultipartRejection>,",
  ") -> Result<Vec<(String, String)>, BadRequestError> \x7b",
  "    let mut multipart = multipart.map_err(|error| body_error(&error))?;",
  "    let mut pairs = Vec::new();",
  "    while let Some(field) = multipart",
  "        .next_field()",
  "        .await",
  "        .map_err(|error| body_error(&error))?",
  "    \x7b",
  "        let name = field.name().unwrap_or_default().to_string();",
  "        let value = field.text().await.map_err(|error| body_error(&error))?;",
  "        pairs.push((name, value));",
  "    \x7d",
  "    Ok(pairs)",
  "\x7d",
  "",
  "fn body_error(error: &dyn std::fmt::Display) -> BadRequestError \x7b",
  "    BadRequestError::new(",
  "        ErrorLocation::Body,",
  "        format!(\"Reading request body failed: \x7berror\x7d\"),",
  "        Vec::new(),",
  "    )",
  "\x7d"
]

/-- Reading of JSON bodies. -/
def jsonModule : List String := [
  "//! JSON request body decoding.",
  "",
  "use super::errmodels::\x7bBadRequestError, ErrorLocation, ValidationError\x7d;",
  "use super::params::PARSING_FAILED;",
  "use serde::de::DeserializeOwned;",
  "",
  "const FAILED_TO_PARSE_BODY: &str = \"Failed to parse body\";",
  "",
  "/// Decodes a JSON body.",
  "///",
  "/// A value of the wrong shape yields one validation error naming the",
  "/// offending field; malformed JSON yields an error without field detail.",
  "///",
  "/// # Errors",
  "///",
  "/// Returns the bad request to send back when the body does not decode.",
  "pub fn decode<T: DeserializeOwned>(body: &[u8]) -> Result<T, BadRequestError> \x7b",
  "    let mut deserializer = serde_json::Deserializer::from_slice(body);",
  "    let value: T = serde_path_to_error::deserialize(&mut deserializer).map_err(|error| \x7b",
  "        if error.inner().is_data() \x7b",
  "            let path = field_path(&error);",
  "            let message = format!(\"Failed to parse JSON, field: \x7bpath\x7d\");",
  "            let detail = ValidationError \x7b",
  "                path,",
  "                code: PARSING_FAILED.to_string(),",
  "                message: Some(message),",
  "            \x7d;",
  "            BadRequestError::new(ErrorLocation::Body, FAILED_TO_PARSE_BODY, vec![detail])",
  "        \x7d else \x7b",
  "            BadRequestError::new(ErrorLocation::Body, FAILED_TO_PARSE_BODY, Vec::new())",
  "        \x7d",
  "    \x7d)?;",
  "    deserializer",
  "        .end()",
  "        .map_err(|_| BadRequestError::new(ErrorLocation::Body, FAILED_TO_PARSE_BODY, Vec::new()))?;",
  "    Ok(value)",
  "\x7d",
  "",
  "fn field_path(error: &serde_path_to_error::Error<serde_json::Error>) -> String \x7b",
  "    let parent = error.path().to_string();",
  "    let message = error.inner().to_string();",
  "    let missing = message",
  "        .strip_prefix(\"missing field `\")",
  "        .and_then(|rest| rest.split('`').next());",
  "    match missing \x7b",
  "        Some(field) if parent.is_empty() || parent == \".\" => field.to_string(),",
  "        Some(field) => format!(\"\x7bparent\x7d.\x7bfield\x7d\"),",
  "        None => parent,",
  "    \x7d",
  "\x7d"
]

/-- Writing of responses. -/
def respondModule : List String := [
  "//! Response writers for generated handlers.",
  "//!",
  "//! Every writer logs the outcome with the [`LogFields`] of the operation.",
  "",
  "use super::errmodels::\x7bBadRequestError, InternalServerError, NotFoundError\x7d;",
  "use axum::http::\x7bStatusCode, header\x7d;",
  "use axum::response::\x7bIntoResponse, Response\x7d;",
  "use serde::Serialize;",
  "",
  "/// Identifies the operation in every log line of a request.",
  "#[derive(Debug, Clone, Copy, PartialEq, Eq)]",
  "pub struct LogFields \x7b",
  "    /// `<api>.<operation>`",
  "    pub operation_id: &'static str,",
  "    /// HTTP method",
  "    pub method: &'static str,",
  "    /// URL template",
  "    pub url: &'static str,",
  "\x7d",
  "",
  "impl LogFields \x7b",
  "    /// Creates the log fields of an operation.",
  "    #[must_use]",
  "    pub const fn new(operation_id: &'static str, method: &'static str, url: &'static str) -> Self \x7b",
  "        Self \x7b",
  "            operation_id,",
  "            method,",
  "            url,",
  "        \x7d",
  "    \x7d",
  "",
  "    /// Logs the arrival of a request.",
  "    pub fn received(&self) \x7b",
  "        tracing::info!(",
  "            operation_id = self.operation_id,",
  "            method = self.method,",
  "            url = self.url,",
  "            \"Received request\"",
  "        );",
  "    \x7d",
  "",
  "    fn completed(&self, status: u16) \x7b",
  "        tracing::info!(",
  "            operation_id = self.operation_id,",
  "            method = self.method,",
  "            url = self.url,",
  "            status,",
  "            \"Completed request\"",
  "        );",
  "    \x7d",
  "\x7d",
  "",
  "/// Writes a JSON body.",
  "pub fn json<T: Serialize>(log: &LogFields, status: u16, data: &T) -> Response \x7b",
  "    match serde_json::to_vec(data) \x7b",
  "        Ok(body) => \x7b",
  "            log.completed(status);",
  "            with_body(status, \"application/json\", body)",
  "        \x7d",
  "        Err(error) => \x7b",
  "            internal_server_error(log, format!(\"Failed to serialize response body: \x7berror\x7d\"))",
  "        \x7d",
  "    \x7d",
  "\x7d",
  "",
  "/// Writes a plain text body.",
  "pub fn text(log: &LogFields, status: u16, data: impl Into<String>) -> Response \x7b",
  "    log.completed(status);",
  "    with_body(status, \"text/plain\", data.into().into_bytes())",
  "\x7d",
  "",
  "/// Writes a response without a body.",
  "pub fn empty(log: &LogFields, status: u16) -> Response \x7b",
  "    log.completed(status);",
  "    status_code(status).into_response()",
  "\x7d",
  "",
  "/// Writes a 400 response.",
  "pub fn bad_request(log: &LogFields, error: BadRequestError) -> Response \x7b",
  "    tracing::warn!(",
  "        operation_id = log.operation_id,",
  "        location = ?error.location,",
  "        message = %error.message,",
  "        errors = error.errors.len(),",
  "        \"Bad request\"",
  "    );",
  "    json(log, 400, &error)",
  "\x7d",
  "",
  "/// Writes a 404 response.",
  "pub fn not_found(log: &LogFields, message: impl Into<String>) -> Response \x7b",
  "    let error = NotFoundError \x7b",
  "        message: message.into(),",
  "    \x7d;",
  "    tracing::warn!(operation_id = log.operation_id, message = %error.message, \"Not found\");",
  "    json(log, 404, &error)",
  "\x7d",
  "",
  "/// Writes a 500 response.",
  "pub fn internal_server_error(log: &LogFields, message: impl Into<String>) -> Response \x7b",
  "    let error = InternalServerError \x7b",
  "        message: message.into(),",
  "    \x7d;",
  "    tracing::error!(operation_id = log.operation_id, message = %error.message, \"Internal server error\");",
  "    let body = serde_json::to_vec(&error).unwrap_or_default();",
  "    log.completed(500);",
  "    with_body(500, \"application/json\", body)",
  "\x7d",
  "",
  "fn status_code(status: u16) -> StatusCode \x7b",
  "    StatusCode::from_u16(status).unwrap_or(StatusCode::INTERNAL_SERVER_ERROR)",
  "\x7d",
  "",
  "fn with_body(status: u16, content_type: &'static str, body: Vec<u8>) -> Response \x7b",
  "    (status_code(status), [(header::CONTENT_TYPE, content_type)], body).into_response()",
  "\x7d"
]

end ApiCodegen.Support
