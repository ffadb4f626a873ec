/-!
# Support modules of every run

The modules that hold the value without content, the standard error models and the parameters.
Generated code calls them; the client and the service share them. Each is the list of its lines.
-/

namespace ApiCodegen.Support

/-- The type of values without content. -/
def emptyModule : List String := [
  "//! Marker type for operations without a payload.",
  "",
  "use serde::de::\x7bDeserialize, Deserializer, IgnoredAny\x7d;",
  "use serde::ser::\x7bSerialize, SerializeMap, Serializer\x7d;",
  "",
  "/// No content.",
  "///",
  "/// Serializes as `\x7b\x7d` and accepts any document when deserializing.",
  "#[derive(Debug, Clone, Copy, Default, PartialEq, Eq, Hash)]",
  "pub struct Empty;",
  "",
  "impl Serialize for Empty \x7b",
  "    fn serialize<S: Serializer>(&self, serializer: S) -> Result<S::Ok, S::Error> \x7b",
  "        serializer.serialize_map(Some(0))?.end()",
  "    \x7d",
  "\x7d",
  "",
  "impl<'de> Deserialize<'de> for Empty \x7b",
  "    fn deserialize<D: Deserializer<'de>>(deserializer: D) -> Result<Self, D::Error> \x7b",
  "        IgnoredAny::deserialize(deserializer)?;",
  "        Ok(Self)",
  "    \x7d",
  "\x7d"
]

/-- The standard error models. -/
def errorModelsModule : List String := [
  "//! Error response models shared by every API.",
  "",
  "use serde::\x7bDeserialize, Serialize\x7d;",
  "use std::fmt;",
  "",
  "/// Part of the request that failed to parse.",
  "#[derive(Debug, Clone, Copy, PartialEq, Eq, Hash, Serialize, Deserialize)]",
  "#[serde(rename_all = \"lowercase\")]",
  "pub enum ErrorLocation \x7b",
  "    /// Query string",
  "    Query,",
  "    /// Request headers",
  "    Header,",
  "    /// Request body",
  "    Body,",
  "\x7d",
  "",
  "/// A single field-level failure.",
  "#[derive(Debug, Clone, PartialEq, Eq, Serialize, Deserialize)]",
  "pub struct ValidationError \x7b",
  "    /// Wire path of the offending field",
  "    pub path: String,",
  "    /// Machine-readable failure code",
  "    pub code: String,",
  "    /// Human-readable detail",
  "    #[serde(default, skip_serializing_if = \"Option::is_none\")]",
  "    pub message: Option<String>,",
  "\x7d",
  "",
  "/// Body of a 400 response.",
  "#[derive(Debug, Clone, PartialEq, Eq, Serialize, Deserialize)]",
  "pub struct BadRequestError \x7b",
  "    /// Where parsing failed",
  "    pub location: ErrorLocation,",
  "    /// Summary",
  "    pub message: String,",
  "    /// Per-field failures",
  "    #[serde(default)]",
  "    pub errors: Vec<ValidationError>,",
  "\x7d",
  "",
  "impl BadRequestError \x7b",
  "    /// Creates a bad request error.",
  "    #[must_use]",
  "    pub fn new(",
  "        location: ErrorLocation,",
  "        message: impl Into<String>,",
  "        errors: Vec<ValidationError>,",
  "    ) -> Self \x7b",
  "        Self \x7b",
  "            location,",
  "            message: message.into(),",
  "            errors,",
  "        \x7d",
  "    \x7d",
  "\x7d",
  "",
  "impl fmt::Display for BadRequestError \x7b",
  "    fn fmt(&self, f: &mut fmt::Formatter<'_>) -> fmt::Result \x7b",
  "        f.write_str(&self.message)",
  "    \x7d",
  "\x7d",
  "",
  "/// Body of a 404 response.",
  "#[derive(Debug, Clone, PartialEq, Eq, Serialize, Deserialize)]",
  "pub struct NotFoundError \x7b",
  "    /// Summary",
  "    pub message: String,",
  "\x7d",
  "",
  "impl fmt::Display for NotFoundError \x7b",
  "    fn fmt(&self, f: &mut fmt::Formatter<'_>) -> fmt::Result \x7b",
  "        f.write_str(&self.message)",
  "    \x7d",
  "\x7d",
  "",
  "/// Body of a 500 response.",
  "#[derive(Debug, Clone, PartialEq, Eq, Serialize, Deserialize)]",
  "pub struct InternalServerError \x7b",
  "    /// Diagnostic message",
  "    pub message: String,",
  "\x7d",
  "",
  "impl fmt::Display for InternalServerError \x7b",
  "    fn fmt(&self, f: &mut fmt::Formatter<'_>) -> fmt::Result \x7b",
  "        f.write_str(&self.message)",
  "    \x7d",
  "\x7d"
]

/-- Reading and writing of parameters. -/
def paramsModule : List String := [
  "//! Parameter parsing and rendering.",
  "//!",
  "//! [`ParamsParser`] decodes URL, query, header and form values from their",
  "//! wire pairs and aggregates every failure instead of stopping at the first",
  "//! one. [`ParamsWriter`] renders values back into wire pairs; for every",
  "//! primitive the two are inverse.",
  "",
  "use std::fmt::Display;",
  "use std::str::FromStr;",
  "",
  "/// Code of a failure caused by an absent required value.",
  "pub const MISSING: &str = \"missing\";",
  "",
  "/// Code of a failure caused by a value that does not decode.",
  "pub const PARSING_FAILED: &str = \"parsing_failed\";",
  "",
  "/// A single parameter failure.",
  "#[derive(Debug, Clone, PartialEq, Eq)]",
  "pub struct ParsingError \x7b",
  "    /// Wire name of the parameter; URL parameters are prefixed with `:`",
  "    pub path: String,",
  "    /// [`MISSING`] or [`PARSING_FAILED`]",
  "    pub code: String,",
  "    /// Human-readable detail",
  "    pub message: String,",
  "\x7d",
  "",
  "#[derive(Debug, Clone, Copy, PartialEq, Eq)]",
  "enum Source \x7b",
  "    Url,",
  "    Query,",
  "    Header,",
  "    Form,",
  "\x7d",
  "",
  "/// Decoder over the wire pairs of one parameter group.",
  "///",
  "/// Every accessor returns `None` when the value could not be produced and",
  "/// records why; inspect the failures with [`ParamsParser::errors`] once all",
  "/// parameters of the group have been read.",
  "#[derive(Debug)]",
  "pub struct ParamsParser \x7b",
  "    values: Vec<(String, String)>,",
  "    source: Source,",
  "    errors: Vec<ParsingError>,",
  "\x7d",
  "",
  "impl ParamsParser \x7b",
  "    fn new(values: Vec<(String, String)>, source: Source) -> Self \x7b",
  "        Self \x7b",
  "            values,",
  "            source,",
  "            errors: Vec::new(),",
  "        \x7d",
  "    \x7d",
  "",
  "    /// Parser for URL template values.",
  "    #[must_use]",
  "    pub fn url(values: Vec<(String, String)>) -> Self \x7b",
  "        Self::new(values, Source::Url)",
  "    \x7d",
  "",
  "    /// Parser for query string pairs.",
  "    #[must_use]",
  "    pub fn query(values: Vec<(String, String)>) -> Self \x7b",
  "        Self::new(values, Source::Query)",
  "    \x7d",
  "",
  "    /// Parser for headers; names match case-insensitively.",
  "    #[must_use]",
  "    pub fn header(values: Vec<(String, String)>) -> Self \x7b",
  "        Self::new(values, Source::Header)",
  "    \x7d",
  "",
  "    /// Parser for form fields.",
  "    #[must_use]",
  "    pub fn form(values: Vec<(String, String)>) -> Self \x7b",
  "        Self::new(values, Source::Form)",
  "    \x7d",
  "",
  "    /// Reads a required value.",
  "    pub fn required<T: FromStr>(&mut self, name: &str) -> Option<T> \x7b",
  "        self.required_value(name, None)",
  "    \x7d",
  "",
  "    /// Reads a value that may be absent.",
  "    pub fn optional<T: FromStr>(&mut self, name: &str) -> Option<Option<T>> \x7b",
  "        self.optional_value(name, None)",
  "    \x7d",
  "",
  "    /// Reads a value, decoding `default` when it is absent.",
  "    pub fn with_default<T: FromStr>(&mut self, name: &str, default: &str) -> Option<T> \x7b",
  "        self.default_value(name, default, None)",
  "    \x7d",
  "",
  "    /// Reads every occurrence of a repeated value.",
  "    pub fn array<T: FromStr>(&mut self, name: &str) -> Option<Vec<T>> \x7b",
  "        self.array_value(name, None)",
  "    \x7d",
  "",
  "    /// Reads a required value restricted to `allowed`.",
  "    pub fn required_enum<T: FromStr>(&mut self, name: &str, allowed: &[&str]) -> Option<T> \x7b",
  "        self.required_value(name, Some(allowed))",
  "    \x7d",
  "",
  "    /// Reads an optional value restricted to `allowed`.",
  "    pub fn optional_enum<T: FromStr>(",
  "        &mut self,",
  "        name: &str,",
  "        allowed: &[&str],",
  "    ) -> Option<Option<T>> \x7b",
  "        self.optional_value(name, Some(allowed))",
  "    \x7d",
  "",
  "    /// Reads a defaulted value restricted to `allowed`.",
  "    pub fn enum_with_default<T: FromStr>(",
  "        &mut self,",
  "        name: &str,",
  "        default: &str,",
  "        allowed: &[&str],",
  "    ) -> Option<T> \x7b",
  "        self.default_value(name, default, Some(allowed))",
  "    \x7d",
  "",
  "    /// Reads a repeated value restricted to `allowed`.",
  "    pub fn enum_array<T: FromStr>(&mut self, name: &str, allowed: &[&str]) -> Option<Vec<T>> \x7b",
  "        self.array_value(name, Some(allowed))",
  "    \x7d",
  "",
  "    /// Failures recorded so far.",
  "    #[must_use]",
  "    pub fn errors(&self) -> &[ParsingError] \x7b",
  "        &self.errors",
  "    \x7d",
  "",
  "    /// Consumes the parser, returning its failures.",
  "    #[must_use]",
  "    pub fn into_errors(self) -> Vec<ParsingError> \x7b",
  "        self.errors",
  "    \x7d",
  "",
  "    fn required_value<T: FromStr>(&mut self, name: &str, allowed: Option<&[&str]>) -> Option<T> \x7b",
  "        let Some(raw) = self.first(name) else \x7b",
  "            let error = self.error(name, MISSING, format!(\"Parameter '\x7bname\x7d' is required\"));",
  "            self.errors.push(error);",
  "            return None;",
  "        \x7d;",
  "        self.decode(name, &raw, allowed)",
  "    \x7d",
  "",
  "    fn optional_value<T: FromStr>(",
  "        &mut self,",
  "        name: &str,",
  "        allowed: Option<&[&str]>,",
  "    ) -> Option<Option<T>> \x7b",
  "        match self.first(name) \x7b",
  "            None => Some(None),",
  "            Some(raw) => self.decode(name, &raw, allowed).map(Some),",
  "        \x7d",
  "    \x7d",
  "",
  "    fn default_value<T: FromStr>(",
  "        &mut self,",
  "        name: &str,",
  "        default: &str,",
  "        allowed: Option<&[&str]>,",
  "    ) -> Option<T> \x7b",
  "        let raw = self.first(name).unwrap_or_else(|| default.to_string());",
  "        self.decode(name, &raw, allowed)",
  "    \x7d",
  "",
  "    fn array_value<T: FromStr>(",
  "        &mut self,",
  "        name: &str,",
  "        allowed: Option<&[&str]>,",
  "    ) -> Option<Vec<T>> \x7b",
  "        let raws: Vec<String> = self.all(name);",
  "        let mut decoded = Vec::with_capacity(raws.len());",
  "        let mut valid = true;",
  "        for raw in &raws \x7b",
  "            match self.decode(name, raw, allowed) \x7b",
  "                Some(value) => decoded.push(value),",
  "                None => valid = false,",
  "            \x7d",
  "        \x7d",
  "        valid.then_some(decoded)",
  "    \x7d",
  "",
  "    fn decode<T: FromStr>(&mut self, name: &str, raw: &str, allowed: Option<&[&str]>) -> Option<T> \x7b",
  "        if let Some(allowed) = allowed \x7b",
  "            if !allowed.contains(&raw) \x7b",
  "                let message = format!(",
  "                    \"Value '\x7braw\x7d' is not one of: \x7b\x7d\",",
  "                    allowed.join(\", \")",
  "                );",
  "                let error = self.error(name, PARSING_FAILED, message);",
  "                self.errors.push(error);",
  "                return None;",
  "            \x7d",
  "        \x7d",
  "        if let Ok(value) = raw.parse::<T>() \x7b",
  "            Some(value)",
  "        \x7d else \x7b",
  "            let error = self.error(",
  "                name,",
  "                PARSING_FAILED,",
  "                format!(\"Failed to parse parameter '\x7bname\x7d' from '\x7braw\x7d'\"),",
  "            );",
  "            self.errors.push(error);",
  "            None",
  "        \x7d",
  "    \x7d",
  "",
  "    fn matches(&self, key: &str, name: &str) -> bool \x7b",
  "        match self.source \x7b",
  "            Source::Header => key.eq_ignore_ascii_case(name),",
  "            Source::Url | Source::Query | Source::Form => key == name,",
  "        \x7d",
  "    \x7d",
  "",
  "    fn first(&self, name: &str) -> Option<String> \x7b",
  "        self.values",
  "            .iter()",
  "            .find(|(key, _)| self.matches(key, name))",
  "            .map(|(_, value)| value.clone())",
  "    \x7d",
  "",
  "    fn all(&self, name: &str) -> Vec<String> \x7b",
  "        self.values",
  "            .iter()",
  "            .filter(|(key, _)| self.matches(key, name))",
  "            .map(|(_, value)| value.clone())",
  "            .collect()",
  "    \x7d",
  "",
  "    fn error(&self, name: &str, code: &str, message: String) -> ParsingError \x7b",
  "        let path = match self.source \x7b",
  "            Source::Url => format!(\":\x7bname\x7d\"),",
  "            Source::Query | Source::Header | Source::Form => name.to_string(),",
  "        \x7d;",
  "        ParsingError \x7b",
  "            path,",
  "            code: code.to_string(),",
  "            message,",
  "        \x7d",
  "    \x7d",
  "\x7d",
  "",
  "/// Encoder of parameter values into wire pairs.",
  "#[derive(Debug, Default, Clone)]",
  "pub struct ParamsWriter \x7b",
  "    pairs: Vec<(String, String)>,",
  "\x7d",
  "",
  "impl ParamsWriter \x7b",
  "    /// Creates an empty writer.",
  "    #[must_use]",
  "    pub fn new() -> Self \x7b",
  "        Self::default()",
  "    \x7d",
  "",
  "    /// Appends a value.",
  "    pub fn add(&mut self, name: &str, value: impl Display) \x7b",
  "        self.pairs.push((name.to_string(), value.to_string()));",
  "    \x7d",
  "",
  "    /// Appends a value if present.",
  "    pub fn add_optional(&mut self, name: &str, value: Option<impl Display>) \x7b",
  "        if let Some(value) = value \x7b",
  "            self.add(name, value);",
  "        \x7d",
  "    \x7d",
  "",
  "    /// Appends one pair per value.",
  "    pub fn add_array<I>(&mut self, name: &str, values: I)",
  "    where",
  "        I: IntoIterator,",
  "        I::Item: Display,",
  "    \x7b",
  "        for value in values \x7b",
  "            self.add(name, value);",
  "        \x7d",
  "    \x7d",
  "",
  "    /// Rendered pairs in insertion order.",
  "    #[must_use]",
  "    pub fn pairs(&self) -> &[(String, String)] \x7b",
  "        &self.pairs",
  "    \x7d",
  "",
  "    /// Consumes the writer, returning its pairs.",
  "    #[must_use]",
  "    pub fn into_pairs(self) -> Vec<(String, String)> \x7b",
  "        self.pairs",
  "    \x7d",
  "\x7d"
]

end ApiCodegen.Support
