import BotBindings.Code.Listing

namespace BotBindings.Crate

open Code (Listing)

/-- What the module is for and what it uses. -/
def clientHead : List Listing := [
  "//! Bot client and shared runtime types.",
  "use std::collections::HashMap;",
  "use std::path::Path;",
  "use serde::Deserialize;"]

/-- The form parameters of a request and the files that go with it. -/
def paramsType : List Listing := [
  "/// Form parameters of one request, keyed by wire name.",
  "pub type Params = HashMap<String, String>;",
  "/// A file staged for multipart upload.",
  "#[derive(Debug, Clone, PartialEq, Eq)]",
  .block "pub struct Attachment" [
    "/// Multipart field name; referenced as `attach://<field>`.",
    "pub field: String,",
    "pub file_name: String,",
    "pub data: Vec<u8>,"]]

/-- The errors of a call. -/
def errorType : List Listing := [
  "/// Errors that can occur when calling the Bot API.",
  "#[derive(Debug, thiserror::Error)]",
  .block "pub enum BotError" [
    "/// HTTP request failed (network error, timeout, etc.).",
    "#[error(\"HTTP request failed: \x7b0\x7d\")]",
    "Http(#[from] reqwest::Error),",
    "/// Failed to encode a parameter or decode a result.",
    "#[error(\"JSON serialization failed: \x7b0\x7d\")]",
    "Serialization(#[from] serde_json::Error),",
    "/// Failed to read a local file staged for upload.",
    "#[error(\"Failed to read upload '\x7bpath\x7d': \x7bsource\x7d\")]",
    "Io \x7b path: String, #[source] source: std::io::Error \x7d,",
    "/// The API rejected the call.",
    "#[error(\"API error \x7bcode\x7d: \x7bdescription\x7d\")]",
    .closed "Api" "," [
      "/// `error_code` from the response envelope.",
      "code: i64,",
      "description: String,"],
    "/// An upload value of a shape the API cannot take.",
    "#[error(\"Unsupported input file for parameter '\x7b0\x7d'\")]",
    "UnsupportedInputFile(String),"]]

/-- The values of a file parameter, and how they are staged. -/
def inputFile : List Listing := [
  "/// A file parameter: a local path, a remote file id, or raw bytes.",
  "#[derive(Debug, Clone, PartialEq, Eq)]",
  .block "pub enum InputFile" [
    "/// A local path if one exists, otherwise a file id or URL.",
    "Text(String),",
    "/// In-memory contents uploaded under `name`.",
    "Memory \x7b name: String, data: Vec<u8> \x7d,"],
  .block "impl InputFile" [
    "/// Resolves the value sent for parameter `field`, staging local",
    "/// contents into `files`.",
    "///",
    "/// ## Errors",
    "///",
    "/// Returns `BotError::UnsupportedInputFile` for a path that exists",
    "/// but is not a regular file, and `BotError::Io` if the file cannot",
    "/// be read.",
    "pub fn stage(",
    .nest [
      "&self,",
      "field: &str,",
      "files: &mut Vec<Attachment>,"],
    .block ") -> Result<String, BotError>" [
      .block "match self" [
        .block "Self::Text(value) =>" [
          "let path = Path::new(value);",
          .block "if !path.exists()" [
            "return Ok(value.clone());"],
          .block "if !path.is_file()" [
            "return Err(BotError::UnsupportedInputFile(field.to_string()));"],
          "let data = std::fs::read(path)",
          .nest [
            .closed ".map_err(|source| BotError::Io" ")?;" [
              "path: value.clone(),",
              "source,"]],
          "let file_name = path",
          .nest [
            ".file_name()",
            ".map(|name| name.to_string_lossy().into_owned())",
            ".unwrap_or_else(|| field.to_string());"],
          "files",
          .nest [
            .closed ".push(Attachment" ");" [
              "field: field.to_string(),",
              "file_name,",
              "data,"]]],
        .block "Self::Memory \x7b name, data \x7d =>" [
          "files",
          .nest [
            .closed ".push(Attachment" ");" [
              "field: field.to_string(),",
              "file_name: name.clone(),",
              "data: data.clone(),"]]]],
      "Ok(format!(\"attach://\x7bfield\x7d\"))"]],
  .block "impl From<&str> for InputFile" [
    .block "fn from(value: &str) -> Self" [
      "Self::Text(value.to_string())"]],
  .block "impl From<String> for InputFile" [
    .block "fn from(value: String) -> Self" [
      "Self::Text(value)"]],
  .block "impl From<&Path> for InputFile" [
    .block "fn from(path: &Path) -> Self" [
      "Self::Text(path.to_string_lossy().into_owned())"]]]

/-- The client with its constructors. -/
def botStruct : List Listing := [
  "/// Bot API client.",
  "#[derive(Debug, Clone)]",
  .block "pub struct Bot" [
    "client: reqwest::Client,",
    "token: String,",
    "base_url: String,"],
  .block "impl Bot" [
    "/// Default API endpoint.",
    "pub const BASE_URL: &str = \"https://api.telegram.org\";",
    "/// Creates a client for `token` against the default endpoint.",
    .block "pub fn new(token: impl Into<String>) -> Self" [
      "Self::with_base_url(token, Self::BASE_URL)"],
    "/// Creates a client against a custom endpoint, such as a local",
    "/// Bot API server.",
    .block "pub fn with_base_url(token: impl Into<String>, base_url: impl Into<String>) -> Self" [
      .block "Self" [
        "client: reqwest::Client::new(),",
        "token: token.into(),",
        "base_url: base_url.into(),"]],
    .block "pub fn token(&self) -> &str" [
      "&self.token"]]]

/-- The calls that all methods go through. -/
def requestMethods : List Listing := [
  "#[derive(Debug, Deserialize)]",
  .block "struct Envelope" [
    "ok: bool,",
    "#[serde(default)]",
    "result: Option<serde_json::Value>,",
    "#[serde(default)]",
    "error_code: Option<i64>,",
    "#[serde(default)]",
    "description: Option<String>,"],
  .block "impl Bot" [
    "/// Calls `method` with form parameters and returns the raw result.",
    "///",
    "/// ## Errors",
    "///",
    "/// Returns an error if:",
    "/// - The HTTP request fails",
    "/// - The response is not a JSON envelope",
    "/// - The envelope reports `ok: false`",
    "pub async fn request(",
    .nest [
      "&self,",
      "method: &str,",
      "params: Params,"],
    .block ") -> Result<serde_json::Value, BotError>" [
      "self.request_with_files(method, params, Vec::new()).await"],
    "/// Calls `method`, uploading `files` alongside the parameters.",
    "///",
    "/// ## Errors",
    "///",
    "/// Same as [`Bot::request`].",
    "pub async fn request_with_files(",
    .nest [
      "&self,",
      "method: &str,",
      "params: Params,",
      "files: Vec<Attachment>,"],
    .block ") -> Result<serde_json::Value, BotError>" [
      "let url = format!(\"\x7b\x7d/bot\x7b\x7d/\x7b\x7d\", self.base_url, self.token, method);",
      .choice "let builder = if files.is_empty()" ";" [
        "self.client.post(&url).form(&params)"] [
        "let mut form = reqwest::multipart::Form::new();",
        .block "for (key, value) in params" [
          "form = form.text(key, value);"],
        .block "for file in files" [
          "let part = reqwest::multipart::Part::bytes(file.data)",
          .nest [
            ".file_name(file.file_name);"],
          "form = form.part(file.field, part);"],
        "self.client.post(&url).multipart(form)"],
      "let envelope: Envelope = builder.send().await?.json().await?;",
      .block "if !envelope.ok" [
        .closed "return Err(BotError::Api" ");" [
          "code: envelope.error_code.unwrap_or_default(),",
          "description: envelope.description.unwrap_or_default(),"]],
      "Ok(envelope.result.unwrap_or(serde_json::Value::Null))"]]]

def clientModule : List Listing :=
  clientHead ++ paramsType ++ errorType ++ inputFile ++ botStruct ++ requestMethods

end BotBindings.Crate
