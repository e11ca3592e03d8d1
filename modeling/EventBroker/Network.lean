import EventBroker.Event.Http

/-!
The hosts that the broker can post to. A host answers its requests from a list, in order, and
repeats the last answer. There are only hosts of plain `http`, and a redirection is an answer like any
other: it is not followed.
-/

namespace EventBroker

namespace Network

/-- What a host does with a request. -/
inductive Reply
  | response (r : Http.Response)
  /-- The host takes the request and never answers. -/
  | silence
deriving DecidableEq, Repr, Inhabited

structure Host where
  replies : List Reply := []
  /-- How many requests have been answered. -/
  served : Nat := 0
  /-- The requests that have not been looked at. -/
  received : List Http.Request := []
deriving DecidableEq, Repr, Inhabited

def Host.reply (h : Host) : Reply :=
  (h.replies[h.served]?.or h.replies.getLast?).getD (.response {})

def Host.serve (h : Host) (r : Http.Request) : Host :=
  { h with served := h.served + 1, received := h.received ++ [r] }

/-- The host and the path of an address that can be posted to. A port other than that of the scheme
is not listened at. -/
def destination? (address : String) : Option (String × String) := do
  let url ← Url.parse? address
  let (scheme, rest) ← Url.scheme? url.text.toList
  let (rest, _) := Url.cutAt '#' rest
  match scheme, rest with
  | ['h', 't', 't', 'p'], '/' :: '/' :: rest =>
    let (host, path) := rest.span (· ≠ '/')
    let host := match Url.cutAt '@' host with
      | (_, some host) => host
      | (host, none) => host
    some (String.ofList host, String.ofList path)
  | _, _ => none

inductive Posted
  /-- Nothing could be sent, or nobody takes it. -/
  | failed
  | answered (r : Http.Response)
  | pending
deriving DecidableEq, Repr

end Network

structure Network where
  hosts : TextMap Network.Host := ∅
  /-- Whether no host can be reached. -/
  isCut : Bool := false
deriving DecidableEq, Repr, Inhabited

namespace Network

def post (n : Network) (address : String) (e : Event) : Posted × Network :=
  match destination? address, e.headers? with
  | some (name, path), some headers =>
    match n.isCut, n.hosts.get? name with
    | false, some host =>
      let posted := match host.reply with
        | .response r => Posted.answered r
        | .silence => .pending
      let request := { path, headers, body := e.dataBytes }
      (posted, { n with hosts := n.hosts.insert name (host.serve request) })
    | _, _ => (.failed, n)
  | _, _ => (.failed, n)

/-- The requests that a host has received since they were last taken. -/
def takeRequests (n : Network) (name : String) : List Http.Request × Network :=
  match n.hosts.get? name with
  | some host =>
    (host.received, { n with hosts := n.hosts.insert name { host with received := [] } })
  | none => ([], n)

end Network

end EventBroker
