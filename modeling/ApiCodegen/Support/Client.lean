/-!
# Support modules of the client

The module through which generated clients read responses. Each is the list of its lines.
-/

namespace ApiCodegen.Support

/-- Reading of response bodies. -/
def responseModule : List String := [
  "//! Response decoding for generated clients.",
  "",
  "use reqwest::blocking::Response;",
  "use serde::de::DeserializeOwned;",
  "use thiserror::Error;",
  "",
  "/// Failure to consume a response body.",
  "#[derive(Error, Debug)]",
  "pub enum ResponseError \x7b",
  "    /// The body could not be read.",
  "    #[error(\"Failed to read response body: \x7b0\x7d\")]",
  "    Read(#[source] reqwest::Error),",
  "",
  "    /// The body is not the expected JSON document.",
  "    #[error(\"Failed to parse response body: \x7b0\x7d\")]",
  "    Decode(#[source] serde_json::Error),",
  "\x7d",
  "",
  "/// Decodes a JSON body.",
  "///",
  "/// # Errors",
  "///",
  "/// Returns [`ResponseError`] when the body cannot be read or decoded.",
  "pub fn json<T: DeserializeOwned>(response: Response) -> Result<T, ResponseError> \x7b",
  "    let body = response.bytes().map_err(ResponseError::Read)?;",
  "    serde_json::from_slice(&body).map_err(ResponseError::Decode)",
  "\x7d",
  "",
  "/// Reads a plain text body.",
  "///",
  "/// # Errors",
  "///",
  "/// Returns [`ResponseError::Read`] when the body cannot be read.",
  "pub fn text(response: Response) -> Result<String, ResponseError> \x7b",
  "    response.text().map_err(ResponseError::Read)",
  "\x7d",
  "",
  "/// Drains a body that carries no content.",
  "///",
  "/// # Errors",
  "///",
  "/// Returns [`ResponseError::Read`] when the body cannot be read.",
  "pub fn empty(response: Response) -> Result<(), ResponseError> \x7b",
  "    response.bytes().map(drop).map_err(ResponseError::Read)",
  "\x7d"
]

end ApiCodegen.Support
