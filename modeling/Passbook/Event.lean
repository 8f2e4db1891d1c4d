import Passbook.Document.Json
import Passbook.Instant

/-! # Log events

An event is a level and a message. Events are kept as data; a filter decides which of them are
shown, and a line is rendered either as plain text or as a JSON object.
-/
namespace Passbook

open Text

inductive Level
  | error
  | warn
  | info
  | debug
  | trace
deriving DecidableEq, Repr

namespace Level

def name : Level → String
  | .error => "ERROR"
  | .warn => "WARN"
  | .info => "INFO"
  | .debug => "DEBUG"
  | .trace => "TRACE"

/-- Higher is more talkative. -/
def rank : Level → Nat
  | .error => 1
  | .warn => 2
  | .info => 3
  | .debug => 4
  | .trace => 5

end Level

structure Event where
  level : Level
  message : String
deriving DecidableEq, Repr

namespace Event

def text (e : Event) : String := e.level.name ++ " " ++ e.message

/-- Terminal control characters are made visible in plain log lines. -/
def sanitize (c : Char) : List Char :=
  let n := c.toNat
  if n = 0x1B || n = 0x07 || n = 0x08 || n = 0x0C || n = 0x7F then
    ['\\', 'x', hexChar (n / 16), hexChar (n % 16)]
  else if 0x80 ≤ n && n ≤ 0x9F then ['\\', 'u', '{'] ++ hexDigits n ++ ['}']
  else [c]

/-- A plain log line: time, level right-aligned to five, message. -/
def plainLine (now : Instant) (e : Event) : String :=
  let pad := String.ofList (List.replicate (5 - e.level.name.length) ' ')
  now.textMicros ++ " " ++ pad ++ e.level.name ++ " " ++ String.ofList (e.message.toList.flatMap sanitize)

def jsonLine (now : Instant) (e : Event) : String :=
  Json.compact (.table [
    ("timestamp", .text now.textMicros),
    ("level", .text e.level.name),
    ("fields", .table [("message", .text e.message)])])

end Event

/-- The most talkative level shown for the parts of a program whose name starts with `target`. -/
structure Directive where
  target : String
  rank : Nat
deriving DecidableEq, Repr

abbrev Filter := List Directive

namespace Filter

def programName : String := "small_bank"

def rankOf? (s : String) : Option Nat :=
  match String.ofList (lower s.toList) with
  | "off" | "0" => some 0
  | "error" | "1" => some 1
  | "warn" | "2" => some 2
  | "info" | "3" => some 3
  | "debug" | "4" => some 4
  | "trace" | "5" => some 5
  | _ => none

def directive? (s : String) : Option Directive :=
  match splitFirst '=' s.toList with
  | none =>
    match rankOf? s with
    | some rank => some ⟨"", rank⟩
    | none => some ⟨s, 5⟩
  | some (target, level) => (rankOf? (String.ofList level)).map (⟨String.ofList target, ·⟩)

/-- Directives separated by commas. A text without any shows errors only. -/
def read? (s : String) : Option Filter :=
  let parts := (s.toList.splitOn ',').filter (!·.isEmpty)
  if parts.isEmpty then some [⟨"", 1⟩] else parts.mapM fun cs => directive? (String.ofList cs)

def standard (verbose : Bool) : Filter :=
  if verbose then [⟨programName, 4⟩, ⟨"", 3⟩] else [⟨programName, 3⟩]

/-- The more specific of two directives, the later one if they are equally specific. -/
def prefer (best : Option Directive) (d : Directive) : Option Directive :=
  match best with
  | none => some d
  | some b => if b.target.length ≤ d.target.length then some d else some b

def rank (f : Filter) : Nat :=
  match (f.filter fun d => d.target.toList.isPrefixOf programName.toList).foldl prefer none with
  | some d => d.rank
  | none => 0

def shows (f : Filter) (e : Event) : Bool := e.level.rank ≤ f.rank

end Filter

end Passbook
