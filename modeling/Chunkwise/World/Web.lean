import Chunkwise.World.Plan

/-!
Fetching texts over the network.
-/
namespace Chunkwise.World

/-- What the network does when asked for an address. -/
inductive Reply where
  | response (status : Int) (text : String) (reason : Option String)
  | failure (plan : Plan)
  deriving DecidableEq, Repr

/-- A request: its address, its time limit and whether the program waits for it. -/
structure Request where
  url : Datum
  timeout : Datum
  blocking : Bool

structure Web where
  /-- The turns that a fetch takes when the program does not wait for it. -/
  turns : Nat := 0
  replies : List (String × Reply) := []
  requests : List Request := []

def Web.update (web : Web) (replies : List (String × Reply)) : Web :=
  { web with replies := replies ++ web.replies }

/-- Only the statuses from 200 to 299 are a success. -/
def Reply.text (url : String) : Reply → Except Fault String
  | .response status text reason =>
    if 200 ≤ status ∧ status < 300 then .ok text
    else .error (.fetchError url status (reason.getD ""))
  | .failure plan => .error (plan.fault [])

/-- What comes of asking for an address. There is no way to one that the network does not know. -/
def Web.reply (web : Web) (url : Datum) : Except Fault String :=
  let noRoute : Reply := .failure ⟨.connectError, "no route", none, none⟩
  match url with
  | .str url => ((web.replies.lookup url).getD noRoute).text url
  | _ => noRoute.text ""

/-- Asks for an address. -/
def Web.fetch (web : Web) (request : Request) : Except Fault String × Web :=
  let result := web.reply request.url
  (if request.blocking then result else result.mapError Fault.sealed,
    { web with requests := web.requests ++ [request] })

end Chunkwise.World
