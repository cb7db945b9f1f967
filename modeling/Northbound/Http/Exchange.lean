import Northbound.Http.Request
import Northbound.Http.Response

/-!
# Exchanges

An exchange builds a request, sends it through a transport and has the response handled. Nothing is
sent unless the whole request could be built, and the body of a response is closed in any case.
-/

namespace Northbound.Http

/-- A failure to get a request across. There may be a response all the same. -/
structure TransportError where
  reason : String
  response? : Option Response := none
deriving DecidableEq, Repr

/-- The debugging text of a failure in transit. -/
def TransportError.debug (e : TransportError) : String :=
  "TransportError \x7b source: " ++ Text.quoted e.reason ++ ", response: " ++
    Text.optional Response.debug e.response? ++ " \x7d"

/-- What sends a request and gets the response. -/
abbrev Transport (σ : Type) := Request → σ → Except TransportError Response × σ

/-- A transport that sends requests to their targets, and no request without one. -/
def Transport.toTarget {σ : Type} (send : Url → Transport σ) : Transport σ := fun r s =>
  match r.url? with
  | none => (.error { reason := "request has no target URL" }, s)
  | some url => send url r s

/-- What builds a request, and what handles the response. -/
structure Exchange (σ τ : Type) where
  builders : List (Builder σ)
  handlers : List (Handler τ) := []

/-- How an exchange ended: its result, the memory of its handlers, and what became of the response
if there was one. -/
structure Outcome (τ : Type) where
  result : Except HttpError Reply
  memory : τ
  response? : Option Response := none

namespace Exchange

variable {σ τ : Type}

/-- The exchange with one more builder at the end. -/
def withBuilder (x : Exchange σ τ) (b : Builder σ) : Exchange σ τ :=
  { x with builders := x.builders ++ [b] }

/-- Has a response handled, and closes it. -/
def receive (handlers : List (Handler τ)) (response : Response) (m : τ) : Outcome τ :=
  match Handler.runAll handlers (response, m) with
  | (.ok (), r, m) => { result := .ok r.reply, memory := m, response? := some r.close }
  | (.error e, r, m) => { result := .error e, memory := m, response? := some r.close }

/-- Ends an exchange whose request did not get across. -/
def abandon (e : TransportError) (m : τ) : Outcome τ :=
  { result := .error (.transport (e.response?.map Response.reply) e.reason)
    memory := m
    response? := e.response?.map Response.close }

/-- Runs an exchange over a transport, with the handlers' memory as given. -/
def run (x : Exchange σ τ) (transport : Transport σ) (m : τ) (s : σ) : Outcome τ × σ :=
  match Builder.build x.builders s with
  | (.error e, s) => ({ result := .error e, memory := m }, s)
  | (.ok request, s) =>
    match transport request s with
    | (.error e, s) => (abandon e m, s)
    | (.ok response, s) => (receive x.handlers response m, s)

/-- Runs an exchange for what its handlers remember in the end. -/
def perform (x : Exchange σ τ) (transport : Transport σ) (m : τ) :
    Action HttpError σ (Reply × τ) := fun s =>
  match x.run transport m s with
  | ({ result := .ok reply, memory, .. }, s) => (.ok (reply, memory), s)
  | ({ result := .error e, .. }, s) => (.error e, s)

end Exchange

end Northbound.Http
