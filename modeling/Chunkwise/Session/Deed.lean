import Chunkwise.Settings.Basic
import Chunkwise.World.Host

/-!
What is done in a session and for whom. Nothing reads it back: it is kept for what is said of the
order of things.
-/
namespace Chunkwise.Session

inductive Deed where
  /-- A job waits for a construction. -/
  | awaitConstruction (job construction : Nat)
  /-- The installer is asked to get ready. -/
  | prepare (construction : Nat)
  /-- The installer has got ready, or has failed to. -/
  | prepared (construction : Nat) (success : Bool)
  /-- A job goes on in an interpreter. -/
  | enter (job interpreter : Nat)
  /-- A job waits for an attempt. -/
  | awaitAttempt (job attempt : Nat)
  /-- An attempt begins: it looks at the means of the host for a way to load its scripts. -/
  | choose (attempt : Nat) (means : World.Means)
  /-- The host is asked to load a script. -/
  | load (attempt : Nat) (url : Datum)
  /-- The host is asked to load all scripts in one call. -/
  | loadAll (attempt : Nat) (urls : List Datum)
  /-- The heavy library is looked for among the names of the host, and this is there. -/
  | seek (attempt : Nat) (found : Option Value)
  /-- The name that a setting gives is bound for chunks. -/
  | bind (attempt : Nat) (field : Settings.Field)
  /-- Adapters are made around the heavy library, which has this tensor class. -/
  | wrap (attempt : Nat) (tensor : Option Value)
  /-- The adapter source is asked for. -/
  | fetch (attempt : Nat)
  /-- The adapter source begins to run. -/
  | adapt (attempt : Nat)
  /-- What an attempt has done last has succeeded, or has failed. -/
  | settled (attempt : Nat) (success : Bool)
  /-- The heavy library has been loaded for an interpreter. -/
  | crossed (attempt interpreter : Nat)
  /-- A search for packages begins. -/
  | search (job : Nat)
  /-- A package was probed. There is no answer if that failed. -/
  | probe (job : Nat) (root : String) (answer : Option Bool)
  /-- The installer is asked for packages. -/
  | request (job : Nat) (packages : List String)
  /-- The installer has answered a request. -/
  | installed (job : Nat) (packages : List String) (success : Bool)
  /-- A search for packages is over. -/
  | searched (job : Nat)
  /-- The code of a chunk begins to run. -/
  | run (job interpreter : Nat)

namespace Deed

/-- The attempt that takes a step, or learns how it went. -/
def attempt? : Deed → Option Nat
  | .choose a _ | .load a _ | .loadAll a _ | .seek a _ | .bind a _ | .wrap a _ | .fetch a
  | .adapt a | .settled a _ => some a
  | _ => none

/-- The job in whose search for packages something is done. -/
def searcher? : Deed → Option Nat
  | .search n | .probe n _ _ | .request n _ | .installed n _ _ | .searched n => some n
  | _ => none

/-- The attempt that has succeeded, with its interpreter. -/
def crossing? : Deed → Option (Nat × Nat)
  | .crossed a i => some (a, i)
  | _ => none

end Deed

end Chunkwise.Session
