import Chunkwise.Execution.Frame
import Chunkwise.Store.Attribute
import Chunkwise.Store.Subscript

/-!
What can stand on the left of an assignment: names, items and attributes. The parts of a target are
evaluated once, however often it is read or given a value.
-/
namespace Chunkwise.Execution
open Chunkwise.Code Store

/-- A target whose parts have been evaluated. -/
inductive Spot where
  | name (pos : Pos) (id : String)
  | item (pos : Pos) (container index : Value)
  | attribute (pos : Pos) (object : Value) (id : String)

namespace Spot

/-- The spot that a target stands for. -/
def reach (value : Expr → Eval Value) : Expr → Eval (Option Spot)
  | .name pos id => pure (some (.name pos id))
  | .subscript pos container index => do
    let c ← value container
    return some (.item pos c (← value index))
  | .attribute pos line object id => do
    return some (.attribute { pos with line := line } (← value object) id)
  | _ => pure none

def get (frame : Frame) : Spot → Eval Value
  | .name pos id => frame.here pos (frame.read id)
  | .item pos container index => frame.here pos (Eval.check (·.subscript container index))
  | .attribute pos object id => frame.here pos (Eval.act (getAttribute object id))

def put (frame : Frame) (v : Value) : Spot → Eval Unit
  | .name _ id => frame.bind id v
  | .item pos container index => frame.here pos (Eval.act (setItem container index v))
  | .attribute pos object id => frame.here pos (Eval.act (setAttribute object id v))

def remove (frame : Frame) : Spot → Eval Unit
  | .name pos id => frame.here pos (frame.unbind id)
  | .item pos container index => frame.here pos (Eval.act (deleteItem container index))
  | .attribute pos object id => frame.here pos (Eval.act (deleteAttribute object id))

end Spot

mutual

/-- Gives a value to a target. -/
def assignTo (frame : Frame) (value : Expr → Eval Value) : Expr → Value → Eval Unit
  | .tuple pos targets, v | .list pos targets, v => do
    assignEach frame value targets (← frame.here pos (Eval.act (spread targets.length v)))
  | target, v => do
    match ← Spot.reach value target with
    | some spot => spot.put frame v
    | none => pure ()

def assignEach (frame : Frame) (value : Expr → Eval Value) : List Expr → List Value → Eval Unit
  | target :: targets, v :: rest => do
    assignTo frame value target v
    assignEach frame value targets rest
  | _, _ => pure ()

end

mutual

/-- Takes away what a target names. -/
def deleteTarget (frame : Frame) (value : Expr → Eval Value) : Expr → Eval Unit
  | .tuple _ targets | .list _ targets => deleteEach frame value targets
  | target => do
    match ← Spot.reach value target with
    | some spot => spot.remove frame
    | none => pure ()

def deleteEach (frame : Frame) (value : Expr → Eval Value) : List Expr → Eval Unit
  | [] => pure ()
  | target :: targets => do
    deleteTarget frame value target
    deleteEach frame value targets

end

/-- Gives one value to several targets, one after another. -/
def assignAll (frame : Frame) (value : Expr → Eval Value) (v : Value) : List Expr → Eval Unit
  | [] => pure ()
  | target :: targets => do
    assignTo frame value target v
    assignAll frame value v targets

/-- Gives a target what an operator makes of its value and another. -/
def augment (frame : Frame) (value : Expr → Eval Value) (pos : Pos) (op : BinaryOp)
    (target e : Expr) : Eval Unit := do
  match ← Spot.reach value target with
  | none => pure ()
  | some spot =>
    let old ← spot.get frame
    let v ← value e
    let new ← frame.here pos (Eval.act (update op old v))
    spot.put frame new

end Chunkwise.Execution
