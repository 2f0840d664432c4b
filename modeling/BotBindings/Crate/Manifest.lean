namespace BotBindings.Crate

def defaultPackage : String := "tgbind-bindings"

def manifest (package : String) : String :=
  "\n".intercalate [
    "[package]",
    s!"name = \"{package}\"",
    "version = \"0.1.0\"",
    "edition = \"2024\"",
    "description = \"Generated Telegram Bot API client bindings\"",
    "",
    "# This file was automatically generated by tgbind.",
    "# Do not edit manually - changes will be overwritten.",
    "",
    "[dependencies]",
    "reqwest = \x7b version = \"0.12\", default-features = false, " ++
      "features = [\"json\", \"multipart\", \"rustls-tls\"] \x7d",
    "serde = \x7b version = \"1.0\", features = [\"derive\"] \x7d",
    "serde_json = \"1.0\"",
    "thiserror = \"2.0\"",
    "tokio = \x7b version = \"1.48\", features = [\"rt\", \"macros\"] \x7d",
    "",
    "[dev-dependencies]",
    "wiremock = \"0.6\"",
    ""]

end BotBindings.Crate
