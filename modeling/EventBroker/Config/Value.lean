import EventBroker.Binary64
import EventBroker.Text.Integer
import EventBroker.Config

/-!
Settings before they are read: tables of values that sources lay over one another. Values convert
into each other where the setting admits it.
-/

namespace EventBroker.Config

inductive Value
  | null
  | bool (b : Bool)
  | int (n : Int)
  | float (x : Binary64)
  | text (s : String)
  | list (items : List Value)
  | table (entries : List (String × Value))
deriving Repr, Inhabited

namespace Value

open Text (isDigit)

/-! ### Decimal fractions -/

/-- The nearest binary64 number to `digits * 10 ^ exponent`. -/
def nearest (digits : Nat) (exponent : Int) : Float :=
  let size : Int := (Nat.toDigits 10 digits).length
  if digits = 0 then 0
  else if size + exponent < -400 then 0
  else if 400 < size + exponent then Float.ofBits 0x7FF0000000000000
  else if exponent < 0 then Float.ofScientific digits true exponent.natAbs
  else Float.ofScientific digits false exponent.natAbs

/-- A number with a point or an exponent, without its sign: digits on at least one side of the
point. -/
def unsignedFloat? (cs : List Char) : Option Float := do
  let whole := cs.takeWhile isDigit
  let (fraction, rest) := match cs.dropWhile isDigit with
    | '.' :: rest => (rest.takeWhile isDigit, rest.dropWhile isDigit)
    | rest => ([], rest)
  let digits ← Text.natural? (whole ++ fraction)
  let exponent ← match rest with
    | [] => some 0
    | e :: rest => if e = 'e' ∨ e = 'E' then Text.integer? rest else none
  some (nearest digits (exponent - fraction.length))

def float? (cs : List Char) : Option Binary64 := do
  let (negative, body) := match cs with
    | '-' :: rest => (true, rest)
    | '+' :: rest => (false, rest)
    | _ => (false, cs)
  let name := String.ofList (body.map Char.toLower)
  let x ← if name = "inf" ∨ name = "infinity" then some (Float.ofBits 0x7FF0000000000000)
    else if name = "nan" then some (Float.ofBits 0x7FF8000000000000)
    else unsignedFloat? body
  some (.ofFloat (if negative then -x else x))

/-! ### Conversions -/

def natural? : Value → Option Nat
  | int n => if 0 ≤ n then some n.toNat else none
  | bool b => some (if b then 1 else 0)
  | float x => some x.toFloat.round.toUInt64.toNat
  | text s =>
    match s.map Char.toLower with
    | "true" | "on" | "yes" => some 1
    | "false" | "off" | "no" => some 0
    | _ => Text.word64? s.toList
  | null | list _ | table _ => none

def bool? : Value → Option Bool
  | bool b => some b
  | int n => some (n ≠ 0)
  | float x => some (x.toFloat != 0)
  | text s =>
    match s.map Char.toLower with
    | "1" | "true" | "on" | "yes" => some true
    | "0" | "false" | "off" | "no" => some false
    | _ => none
  | null | list _ | table _ => none

def text? : Value → Option String
  | text s => some s
  | bool true => some "true"
  | bool false => some "false"
  | int n => some (String.ofList (Text.integer n))
  | float x => some x.toPlainText
  | null | list _ | table _ => none

/-! ### Tables -/

def place (key : String) (value : Value) : List (String × Value) → List (String × Value)
  | [] => [(key, value)]
  | (k, v) :: rest => if k = key then (key, value) :: rest else (k, v) :: place key value rest

def entries : Value → List (String × Value)
  | table es => es
  | _ => []

def find? (key : String) (es : List (String × Value)) : Option Value :=
  (es.find? (·.1 = key)).map Prod.snd

mutual
/-- Lays a value over the one under `key`. A table is laid over entry by entry, and makes room for
its entries if what is there is no table. Keys are in lower case. -/
def overlay (root : Value) (key : String) : Value → Value
  | .table es =>
    let key := key.map Char.toLower
    let below := (find? key root.entries).getD (.table [])
    .table (place key (overlayAll below es) root.entries)
  | v => .table (place (key.map Char.toLower) v root.entries)

def overlayAll (root : Value) : List (String × Value) → Value
  | [] => root
  | (k, v) :: rest => overlayAll (overlay root k v) rest
end

/-! ### Reading settings -/

/-- The fields of a record: a table, or a list of them in order. -/
def record? (names : List String) : Value → Option (List (String × Value))
  | table es => some es
  | list items => some (names.zip items)
  | _ => none

def field (es : List (String × Value)) (name : String) (read : Value → Option α) (default : α) :
    Option α :=
  match find? name es with
  | some v => read v
  | none => some default

def publishSettings? (v : Value) : Option PublishSettings := do
  let r ← v.record? ["max_outstanding_messages", "max_outstanding_bytes", "flush_interval_ms",
    "bundle_size"]
  let d : PublishSettings := {}
  some {
    maxMessages := ← field r "max_outstanding_messages" natural? d.maxMessages
    maxBytes := ← field r "max_outstanding_bytes" natural? d.maxBytes
    flushInterval := ← field r "flush_interval_ms" natural? d.flushInterval
    bundleSize := ← field r "bundle_size" natural? d.bundleSize }

def source? (v : Value) : Option Source := do
  let r ← v.record? ["path", "poll_interval_ms"]
  let d : Source := {}
  some {
    path := ← field r "path" text? d.path
    pollInterval := ← field r "poll_interval_ms" natural? d.pollInterval }

def kindOfName? (name : String) : Option QueueKind :=
  match name.map Char.toLower with
  | "channel" => some .channel
  | "pubsub" => some .pubsub
  | _ => none

/-- A name in any case, or a table with one entry of that name. -/
def kind? : Value → Option QueueKind
  | text s => kindOfName? s
  | table [(name, _)] => kindOfName? name
  | _ => none

def queue? (v : Value) : Option QueueService := do
  let r ← v.record? ["type", "project_id", "redelivery_delay_ms"]
  let d : QueueService := {}
  some {
    kind := ← field r "type" kind? d.kind
    project := ← field r "project_id" text? d.project
    redeliveryDelay := ← field r "redelivery_delay_ms" natural? d.redeliveryDelay }

def pool? (v : Value) : Option PoolSettings := do
  let r ← v.record? ["handler_concurrency", "timeout_per_event_ms", "delivery_timeout_ms",
    "max_concurrency_per_event", "retry_publish"]
  let d : PoolSettings := {}
  some {
    concurrency := ← field r "handler_concurrency" natural? d.concurrency
    eventTimeout := ← field r "timeout_per_event_ms" natural? d.eventTimeout
    deliveryTimeout := ← field r "delivery_timeout_ms" natural? d.deliveryTimeout
    fanoutLimit := ← field r "max_concurrency_per_event" natural? d.fanoutLimit
    retryPublish := ← field r "retry_publish" publishSettings? d.retryPublish }

def ingress? (v : Value) : Option IngressSettings := do
  let r ← v.record? ["enable_event_filtering", "publish"]
  let d : IngressSettings := {}
  some {
    filtering := ← field r "enable_event_filtering" bool? d.filtering
    publish := ← field r "publish" publishSettings? d.publish }

def config? (v : Value) : Option Config := do
  let r ← v.record? ["targets", "queue", "fanout", "retry", "ingress"]
  some {
    source := ← field r "targets" source? {}
    queue := ← field r "queue" queue? {}
    fanout := ← field r "fanout" pool? {}
    retry := ← field r "retry" pool? {}
    ingress := ← field r "ingress" ingress? {} }

end Value

end EventBroker.Config
