import Flowline.Log.Threshold
import Flowline.Schema.Checked

/-!
Settings of the program: how it logs, how it sends requests, and the Telegram bot and chat of notifiers
that name none.
-/

namespace Flowline

inductive LogFormat where
  | json
  | text
  deriving DecidableEq, Repr

def LogFormat.name : LogFormat → String
  | json => "json"
  | text => "text"

structure Settings where
  logLevel : Log.Threshold
  logFormat : LogFormat
  httpTimeout : Binary64
  userAgent : String
  telegramToken : String
  telegramChatId : String
  telegramBaseUrl : String
  deriving DecidableEq

namespace Settings

/-- The settings where nothing is given. -/
def standard : Settings where
  logLevel := .warning
  logFormat := .json
  httpTimeout := .ofInt 30
  userAgent := "m7m"
  telegramToken := ""
  telegramChatId := ""
  telegramBaseUrl := "https://api.telegram.org"

/-- The names of the settings, in order. -/
def names : List String :=
  ["log_level", "log_format", "http_timeout_seconds", "user_agent", "telegram_token",
    "telegram_chat_id", "telegram_base_url"]

open Schema

def checkLevel (v : Value) : Checked Log.Threshold :=
  (text v).andThen fun name => match Log.Threshold.ofText? name with
    | some threshold => .valid threshold
    | none => .fail (.valueError ("Unknown log level: " ++ name))

def checkFormat (v : Value) : Checked LogFormat :=
  (literalOf [LogFormat.json.name, LogFormat.text.name] v).map fun name =>
    if name = LogFormat.text.name then .text else .json

/-- The settings that entries give, by their names; what is not given is as it is by itself, and other
names are passed over. -/
def check (entries : Entries) : Checked Settings :=
  Settings.mk <$> optional entries "log_level" standard.logLevel checkLevel <*>
    optional entries "log_format" standard.logFormat checkFormat <*>
    optional entries "http_timeout_seconds" standard.httpTimeout
      (fun v => (real v).andThen (realAbove 0)) <*>
    optional entries "user_agent" standard.userAgent text <*>
    optional entries "telegram_token" standard.telegramToken text <*>
    optional entries "telegram_chat_id" standard.telegramChatId text <*>
    optional entries "telegram_base_url" standard.telegramBaseUrl text

end Settings

end Flowline
