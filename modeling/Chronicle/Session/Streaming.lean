import Chronicle.Session.Basic

/-!
Streams of a session: subscribing to a running tool, and stopping the hero.
-/

namespace Chronicle.Session

/-- A stream into the running tool with an id. -/
def subscribe (s : Session) (id : CorrelationId) : Option Subscription × Session :=
  match s.store.keyOf? id with
  | none => (none, s)
  | some k =>
    match s.store.get? k, s.store.lease? k with
    | some e, some lease =>
      if e.isRunning && e.kind.isToolUse then
        let (token, tokens) := s.tokens.obtain k
        (some ⟨k, lease, token⟩, { s with tokens })
      else (none, s)
    | _, _ => (none, s)

/-- Cancels a token that was handed out. -/
def cancelToken (s : Session) (token : Nat) : Session :=
  { s with tokens := s.tokens.cancel token }

/-- Cancels the streams of the hero, when it is a tool, and asks to stop it. -/
def stopHero (s : Session) : Bool × Session :=
  match Hero.candidate? s.store with
  | none => (false, s)
  | some (k, _) =>
    match s.store.get? k with
    | none => (false, s)
    | some e =>
      if e.kind.isToolUse then
        let tokens := match s.tokens.get? k with
          | some token => s.tokens.cancel token
          | none => s.tokens
        (true, { s with tokens, outbound := s.outbound ++ [.stopTool e.id] })
      else (false, s)

end Chronicle.Session
