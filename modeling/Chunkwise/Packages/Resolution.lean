import Chunkwise.Text.Sorted
import Chunkwise.World.Journal
import Chunkwise.World.Plan

/-!
Making packages importable: each is probed, and what is missing is installed in one batch.
-/
namespace Chunkwise.Packages
open Chunkwise.Text

variable {σ : Type}

/-- Where packages are looked for. A probe may run code and fail; a note is kept of each. -/
structure Environment (σ : Type) where
  probe : String → σ → Except Fault Bool × σ
  note : World.Entry → σ → σ

/-- The note on a probe. -/
def probeEntry (root : String) (importable : Bool) : World.Entry :=
  let found := if importable then "importable" else "missing"
  ⟨.debug, .packages, s!"Probe {root}: {found}"⟩

/-- Probes names in order and gives those that are missing. -/
def missing (env : Environment σ) : List String → σ → Except Fault (List String) × σ
  | [], s => (.ok [], s)
  | root :: rest, s =>
    match env.probe root s with
    | (.error fault, s') => (.error fault, s')
    | (.ok importable, s') =>
      match missing env rest (env.note (probeEntry root importable) s') with
      | (.ok names, s'') => (.ok (if importable then names else root :: names), s'')
      | (.error fault, s'') => (.error fault, s'')

/-- The fault of a failed install as the caller sees it: an ordinary fault other than a failed
resolution becomes one. -/
def installFault (names : List String) (fault : Fault) : Fault :=
  if fault.kind.isA .resolutionFailure ∨ ¬ fault.kind.isOrdinary then fault
  else (Fault.resolutionFailure names fault.safeText).causedBy fault

/-- Makes the names importable and gives those that had to be installed. -/
def resolve (env : Environment σ) (install : List String → σ → Option Fault × σ)
    (roots : List String) (s : σ) : Except Fault (List String) × σ :=
  match missing env (sortedSet roots) s with
  | (.error fault, s') => (.error fault, s')
  | (.ok [], s') => (.ok [], s')
  | (.ok names, s') =>
    match install names s' with
    | (none, s'') => (.ok names, s'')
    | (some fault, s'') => (.error (installFault names fault), s'')

end Chunkwise.Packages
