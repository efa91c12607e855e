import Chunkwise.Code.Tree

/-!
The names that the statements of a function bind: these are local to it.
-/
namespace Chunkwise.Code

mutual

/-- The names that a target binds. -/
def Expr.boundNames : Expr → List String
  | .name _ id => [id]
  | .tuple _ items | .list _ items => boundIn items
  | _ => []

def boundIn : List Expr → List String
  | [] => []
  | e :: rest => e.boundNames ++ boundIn rest

end

/-- The first part of a dotted path. -/
def pathRoot (path : String) : String :=
  String.ofList (path.toList.takeWhile (· ≠ '.'))

/-- The name that a whole module is bound to. -/
def Alias.moduleName (item : Alias) : String :=
  item.as.getD (pathRoot item.path)

/-- The name that an item of a module is bound to. -/
def Alias.itemName (item : Alias) : String :=
  item.as.getD item.path

mutual

def Stmt.boundNames : Stmt → List String
  | .assign _ targets _ | .delete _ targets => boundIn targets
  | .augment _ target _ _ => target.boundNames
  | .importModules _ items => items.map Alias.moduleName
  | .importFrom _ _ _ items => items.map Alias.itemName
  | .branch _ _ yes no => blockNames yes ++ blockNames no
  | .forEach _ target _ body after => target.boundNames ++ blockNames body ++ blockNames after
  | .loop _ _ body after => blockNames body ++ blockNames after
  | .attempt _ body handlers otherwise finally_ =>
    blockNames body ++ handlerNames handlers ++ blockNames otherwise ++ blockNames finally_
  | .define _ _ name _ _ => [name]
  | .importAll .. | .expr .. | .pass .. | .assert .. | .raise .. | .returns .. | .breaks .. | .continues .. => []

def blockNames : List Stmt → List String
  | [] => []
  | s :: rest => s.boundNames ++ blockNames rest

def handlerNames : List Handler → List String
  | [] => []
  | .mk _ _ as body :: rest => as.toList ++ blockNames body ++ handlerNames rest

end

end Chunkwise.Code
