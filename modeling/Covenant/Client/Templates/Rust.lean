import Covenant.Client.Template
/-!
# Templates of Rust clients

The texts from which a Rust project is made, piece by piece; one row is one line of text.
-/

namespace Covenant.Client

/-- The client module: types, the client and its helpers. -/
def rustClient : Template := [
  .text "// Generated by apiforge from ", .slot "title", .text " ", .slot "version",
    .text ". Do not edit.\n",
  .text "// apiforge:network-client\n",
  .text "\n",
  .text "#![allow(dead_code, unused_mut)]\n",
  .text "\n",
  .text "use std::collections::HashMap;\n",
  .text "use std::fmt;\n",
  .text "\n",
  .text "use reqwest::Method;\n",
  .text "use reqwest::StatusCode;\n",
  .text "use reqwest::blocking::Client;\n",
  .text "use reqwest::header::CONTENT_TYPE;\n",
  .text "\n",
  .slot "aliases", .text "/// Error returned by client calls.\n",
  .text "#[derive(Debug)]\n",
  .text "pub enum ApiError \x7b\n",
  .text "    /// The server answered with a non-2xx status.\n",
  .text "    Status \x7b\n",
  .text "        /// HTTP status code.\n",
  .text "        status: u16,\n",
  .text "        /// Response body text.\n",
  .text "        body: String,\n",
  .text "    \x7d,\n",
  .text "    /// The request failed before a response arrived.\n",
  .text "    Transport(reqwest::Error),\n",
  .text "    /// A request or response body was not valid JSON.\n",
  .text "    Json(serde_json::Error),\n",
  .text "\x7d\n",
  .text "\n",
  .text "impl fmt::Display for ApiError \x7b\n",
  .text "    fn fmt(&self, f: &mut fmt::Formatter<'_>) -> fmt::Result \x7b\n",
  .text "        match self \x7b\n",
  .text "            Self::Status \x7b status, body \x7d => \x7b\n",
  .text "                write!(f, \"request failed with status \x7bstatus\x7d: \x7bbody\x7d\")\n",
  .text "            \x7d\n",
  .text "            Self::Transport(err) => write!(f, \"request failed: \x7berr\x7d\"),\n",
  .text "            Self::Json(err) => write!(f, \"invalid json body: \x7berr\x7d\"),\n",
  .text "        \x7d\n",
  .text "    \x7d\n",
  .text "\x7d\n",
  .text "\n",
  .text "impl std::error::Error for ApiError \x7b\x7d\n",
  .text "\n",
  .text "/// Client for the ", .slot "title", .text " API.\n",
  .text "pub struct ", .slot "class_name", .text " \x7b\n",
  .text "    base_url: String,\n",
  .text "    http: Client,\n",
  .text "\x7d\n",
  .text "\n",
  .text "impl ", .slot "class_name", .text " \x7b\n",
  .text "    /// Base URL declared by the contract.\n",
  .text "    pub const DEFAULT_BASE_URL: &'static str = \"", .slot "base_url", .text "\";\n",
  .text "\n",
  .text "    /// Creates a client for `base_url`.\n",
  .text "    pub fn new(base_url: impl Into<String>) -> Self \x7b\n",
  .text "        let base_url: String = base_url.into();\n",
  .text "        Self \x7b\n",
  .text "            base_url: base_url.trim_end_matches('/').to_string(),\n",
  .text "            http: Client::new(),\n",
  .text "        \x7d\n",
  .text "    \x7d\n",
  .text "\n",
  .text "    /// Returns the base URL requests are sent to.\n",
  .text "    pub fn base_url(&self) -> &str \x7b\n",
  .text "        &self.base_url\n",
  .text "    \x7d\n",
  .text "\n",
  .slot "methods", .text "\n",
  .text "\n",
  .text "    fn send(\n",
  .text "        &self,\n",
  .text "        method: Method,\n",
  .text "        path: &str,\n",
  .text "        body: Option<serde_json::Value>,\n",
  .text "        headers: &HashMap<&'static str, String>,\n",
  .text "    ) -> Result<Option<String>, ApiError> \x7b\n",
  .text "        let mut request = self.http.request(method, format!(\"\x7b\x7d\x7b\x7d\", self.base_url, path));\n",
  .text "        for (name, value) in headers \x7b\n",
  .text "            request = request.header(*name, value.as_str());\n",
  .text "        \x7d\n",
  .text "        if let Some(body) = body \x7b\n",
  .text "            request = request.header(CONTENT_TYPE, \"application/json\").body(body.to_string());\n",
  .text "        \x7d\n",
  .text "        let response = request.send().map_err(ApiError::Transport)?;\n",
  .text "        let status = response.status();\n",
  .text "        let text = response.text().map_err(ApiError::Transport)?;\n",
  .text "        if !status.is_success() \x7b\n",
  .text "            return Err(ApiError::Status \x7b\n",
  .text "                status: status.as_u16(),\n",
  .text "                body: text,\n",
  .text "            \x7d);\n",
  .text "        \x7d\n",
  .text "        if status == StatusCode::NO_CONTENT \x7b\n",
  .text "            return Ok(None);\n",
  .text "        \x7d\n",
  .text "        Ok(Some(text))\n",
  .text "    \x7d\n",
  .text "\n",
  .text "    fn request_json<T: serde::de::DeserializeOwned>(\n",
  .text "        &self,\n",
  .text "        method: Method,\n",
  .text "        path: &str,\n",
  .text "        body: Option<serde_json::Value>,\n",
  .text "        headers: &HashMap<&'static str, String>,\n",
  .text "    ) -> Result<Option<T>, ApiError> \x7b\n",
  .text "        match self.send(method, path, body, headers)? \x7b\n",
  .text "            Some(text) if !text.is_empty() => \x7b\n",
  .text "                serde_json::from_str(&text).map(Some).map_err(ApiError::Json)\n",
  .text "            \x7d\n",
  .text "            _ => Ok(None),\n",
  .text "        \x7d\n",
  .text "    \x7d\n",
  .text "\n",
  .text "    fn request_text(\n",
  .text "        &self,\n",
  .text "        method: Method,\n",
  .text "        path: &str,\n",
  .text "        body: Option<serde_json::Value>,\n",
  .text "        headers: &HashMap<&'static str, String>,\n",
  .text "    ) -> Result<Option<String>, ApiError> \x7b\n",
  .text "        self.send(method, path, body, headers)\n",
  .text "    \x7d\n",
  .text "\x7d\n",
  .text "\n",
  .text "/// Renders a parameter value as plain text.\n",
  .text "fn param_text<T: serde::Serialize>(value: &T) -> String \x7b\n",
  .text "    match serde_json::to_value(value) \x7b\n",
  .text "        Ok(serde_json::Value::String(text)) => text,\n",
  .text "        Ok(other) => other.to_string(),\n",
  .text "        Err(_) => String::new(),\n",
  .text "    \x7d\n",
  .text "\x7d\n",
  .text "\n",
  .text "/// Percent-encodes a query component.\n",
  .text "fn encode_component(text: &str) -> String \x7b\n",
  .text "    let mut out = String::with_capacity(text.len());\n",
  .text "    for byte in text.bytes() \x7b\n",
  .text "        if byte.is_ascii_alphanumeric() || matches!(byte, b'-' | b'_' | b'.' | b'~') \x7b\n",
  .text "            out.push(char::from(byte));\n",
  .text "        \x7d else \x7b\n",
  .text "            out.push_str(&format!(\"%\x7bbyte:02X\x7d\"));\n",
  .text "        \x7d\n",
  .text "    \x7d\n",
  .text "    out\n",
  .text "\x7d\n"]

/-- One method of the client. -/
def rustMethod : Template := [
  .text "    /// ", .slot "doc", .text "\n",
  .text "    pub fn ", .slot "name", .text "(&self", .slot "params", .text ") -> Result<Option<",
    .slot "returns", .text ">, ApiError> \x7b\n",
  .text "        let mut path = String::from(\"", .slot "path", .text "\");\n",
  .slot "path_params",
  .choice "has_query"
    [.text "        let mut query: Vec<String> = Vec::new();\n",
     .slot "query_params", .text "        if !query.is_empty() \x7b\n",
     .text "            path.push('?');\n",
     .text "            path.push_str(&query.join(\"&\"));\n",
     .text "        \x7d\n"]
    [],
  .text "        let mut headers: HashMap<&'static str, String> = HashMap::new();\n",
  .slot "header_params", .slot "body_prelude", .text "        self.", .slot "dispatch",
    .text "(Method::", .slot "verb", .text ", &path, ", .slot "body", .text ", &headers)\n",
  .text "    \x7d\n"]

/-- The statement that puts an argument into the path. -/
def rustPathParam : Template := [
  .text "        path = path.replace(\"", .slot "placeholder", .text "\", &param_text(&",
    .slot "ident", .text "));\n"]

/-- The statement that adds an argument to the query. -/
def rustQueryParam : Template := [
  .choice "optional"
    [.text "        if let Some(value) = &", .slot "ident", .text " \x7b\n",
     .text "            query.push(format!(\"\x7b\x7d=\x7b\x7d\", \"", .slot "wire",
       .text "\", encode_component(&param_text(value))));\n",
     .text "        \x7d\n"]
    [.text "        query.push(format!(\"\x7b\x7d=\x7b\x7d\", \"", .slot "wire",
       .text "\", encode_component(&param_text(&", .slot "ident", .text "))));\n"]]

/-- The statement that sends an argument as a header. -/
def rustHeaderParam : Template := [
  .choice "optional"
    [.text "        if let Some(value) = &", .slot "ident", .text " \x7b\n",
     .text "            headers.insert(\"", .slot "wire", .text "\", param_text(value));\n",
     .text "        \x7d\n"]
    [.text "        headers.insert(\"", .slot "wire", .text "\", param_text(&", .slot "ident",
       .text "));\n"]]

/-- The program that uses the client. -/
def rustEntry : Template := [
  .text "// Generated by apiforge from ", .slot "title", .text " ", .slot "version", .text ".\n",
  .text "// Entry point for ", .slot "service_name", .text ".\n",
  .text "//\n",
  .text "// Operations available on client::", .slot "class_name", .text ":\n",
  .slot "operations", .text "\n",
  .text "\n",
  .text "mod client;\n",
  .text "\n",
  .text "fn main() \x7b\n",
  .text "    let api = client::", .slot "class_name", .text "::new(client::", .slot "class_name",
    .text "::DEFAULT_BASE_URL);\n",
  .text "    println!(\"", .slot "service_name",
    .text " client ready at \x7b\x7d\", api.base_url());\n",
  .text "\x7d\n"]

/-- The build file of the project. -/
def rustManifest : Template := [
  .text "[package]\n",
  .text "name = \"", .slot "package", .text "\"\n",
  .text "version = \"0.1.0\"\n",
  .text "edition = \"2021\"\n",
  .text "\n",
  .text "[dependencies]\n",
  .text "reqwest = \x7b version = \"0.12\", default-features = false, features = [\"blocking\", \"rustls-tls\"] \x7d\n",
  .text "serde = \"1\"\n",
  .text "serde_json = \"1\"\n"]

end Covenant.Client
