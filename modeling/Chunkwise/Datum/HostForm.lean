import Chunkwise.Datum.Iterate

/-!
Plain host data: lists, mappings and leaves. An object that converts itself has the word, and
what it returns is taken as it is.
-/
namespace Chunkwise

/-- What calling a conversion gives; a number cannot be called. -/
def Conversion.call? : Conversion Datum → Option (Except Fault Datum)
  | .returns value => some (.ok value)
  | .raises message => some (.error (.make .valueError [message]))
  | .number _ => none

namespace Datum

mutual

/-- The datum for the host. Texts and bytes are leaves although they have items. -/
def toHost : Datum → Except Fault Datum
  | .convertible type toHost toList items =>
    match toHost.bind Conversion.call?, toList.bind Conversion.call? with
    | some result, _ => result
    | none, some result => result
    | none, none =>
      match items with
      | none => .ok (.convertible type toHost toList none)
      | some inner => (toHostAll inner).map .list
  | .seq _ items => (toHostAll items).map .list
  | .map _ entries => (toHostEntries entries).map .dict
  | .leaf (.range start stop step) => .ok (.list ((rangeItems start stop step).map .leaf))
  | .again _ => .error (.of .recursionError "maximum recursion depth exceeded")
  | v => .ok v

def toHostAll : List Datum → Except Fault (List Datum)
  | [] => .ok []
  | v :: rest =>
    match v.toHost with
    | .error e => .error e
    | .ok value => (toHostAll rest).map (value :: ·)

def toHostEntries : List (Datum × Datum) → Except Fault (List (Datum × Datum))
  | [] => .ok []
  | (key, v) :: rest =>
    match v.toHost with
    | .error e => .error e
    | .ok value => (toHostEntries rest).map ((key, value) :: ·)

end

end Datum

end Chunkwise
