import Formulary.Http.Handler

/-!
# The server over time

A store together with the clock and the ids given out so far, and the events
that move it on: operations of customers, requests, rows written by other hands
and changes of the storage's mode.  Every event takes one second, so that no two
rows are made or changed at the same time, and every id is given out once.

Main statement: `idOf_inj`, by which different numbers give different ids.
-/

namespace Formulary

/-- The id of a number: 32 hexadecimal digits. -/
def idOf (n : Nat) : String := String.ofList (Text.hexDigits 32 n)

theorem idOf_inj {m n : Nat} (hm : m < Nat.pow 16 32) (hn : n < Nat.pow 16 32)
    (h : idOf m = idOf n) : m = n :=
  Text.hexDigits_inj hm hn (String.ofList_inj.1 h)

/-- A server. -/
structure Server where
  store : Store
  policy : Policy
  now : Instant
  /-- How many ids have been given out. -/
  issued : Nat
deriving Inhabited

/-- Something that happens to a server. -/
inductive Event where
  | operation (customer : Text) (operation : Operation)
  | request (request : Http.Request)
  /-- A template row written by other hands, under the names of its attributes. -/
  | templateRow (members : Entries Value)
  | storage (mode : StorageMode)

/-- What is seen of an event. -/
inductive Report where
  | answered (outcome : Outcome Failure Answer)
  | responded (notices : List Notice) (response : Http.Response)
  /-- The row that was written, or why it was not. -/
  | wrote (result : Except Failure TemplateRow)
  | nothing

/-- A template row from its attributes, unchecked.  A group that is left out is
empty, a description that is left out is the empty text. -/
def TemplateRow.ofMembers (members : Entries Value) (freshId : Text) (now : Instant) :
    TemplateRow where
  id := ((members.get? idAttribute.row).bind Value.text?).getD freshId
  name := ((members.get? nameAttribute.row).bind Value.text?).getD ""
  description :=
    match members.get? descriptionAttribute.row with
    | some v => v.text?
    | none => some ""
  connectionId := (members.get? connectionAttribute.row).bind Value.text?
  groups := .ofFun fun g => ((members.get? g.fields.row).getD (.list [])).settled
  customer := ((members.get? customerAttribute.row).bind Value.text?).getD ""
  createdAt := now
  updatedAt := now

namespace Server

/-- A server at its start, with an empty store. -/
def start (policy : Policy) : Server := ⟨.empty, policy, 0, 0⟩

/-- The id that is given out next. -/
def freshId (server : Server) : String := idOf (server.issued + 1)

/-- The server after one second more. -/
def tick (server : Server) : Server := { server with now := server.now + 1 }

/-- The server with another store; the fresh id may have been used up. -/
def advance (server : Server) (store : Store) (tookId : Bool) : Server :=
  { server with store := store, issued := server.issued + if tookId then 1 else 0 }

/-- What an event does at the present second. -/
def react (server : Server) : Event → Report × Server
  | .operation customer operation =>
    let reply := server.store.run server.policy ⟨customer, server.now, server.freshId⟩ operation
    (.answered reply.outcome, server.advance reply.store reply.tookId)
  | .request request =>
    let exchange := Http.handle server.policy server.now server.freshId server.store request
    (.responded exchange.notices exchange.response, server.advance exchange.store exchange.tookId)
  | .templateRow members =>
    let row := TemplateRow.ofMembers members server.freshId server.now
    let reply := server.store.perform (.ok ⟨some (.insertTemplate row), .template row, []⟩)
    (.wrote (reply.outcome.result.map fun _ => row),
      server.advance reply.store (!Entries.has members idAttribute.row))
  | .storage mode => (.nothing, server.advance { server.store with mode := mode } false)

/-- The next second, in which an event happens. -/
def step (server : Server) (event : Event) : Report × Server := server.tick.react event

/-- Events one after the other: what is seen of each, and the server at the end. -/
def run (server : Server) : List Event → List Report × Server
  | [] => ([], server)
  | event :: events =>
    let (report, server) := server.step event
    let (reports, server) := server.run events
    (report :: reports, server)

end Server

end Formulary
