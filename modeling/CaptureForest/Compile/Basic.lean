import CaptureForest.Declaration.Outline
import CaptureForest.Declaration.Validity
import CaptureForest.Entry.Resolve
import CaptureForest.Settings
/-!
# Compiling forests

A forest becomes a flat list of entries and a list of hook registrations. The full key of an entry is
made of the keys on the way from the root. Every declaration is checked before it is resolved, children
are put in order before their entries follow the entry of their group, and the first failure on this way
fails the whole compilation.
-/

namespace CaptureForest

/-- What one tree compiles to. -/
structure Compiled where
  tree : EntryTree
  hooks : List HookRegistration
deriving Repr, Inhabited

/-- What a forest compiles to: one tree for each root. -/
structure Compilation where
  trees : List EntryTree := []
  hooks : List HookRegistration := []
deriving Repr, Inhabited

/-- All entries, tree after tree. -/
def Compilation.entries (c : Compilation) : List Entry := EntryTree.flattenAll c.trees

namespace Compile

/-- The keys of a declaration and its ancestors, root first. -/
def fullKey (ancestors : List Declaration) (node : Declaration) : String :=
  String.join ((ancestors ++ [node]).map fun d => d.keys?.getD "")

/-- Puts what belongs to declarations in the order of the declarations. -/
def arrange {α : Type} (sorter : Sorter) (order : Option Less) (parts : List (Declaration × α)) :
    Except Fault (List (Declaration × α)) :=
  match order with
  | none => .ok parts
  | some less => sorter.sort (fun a b => less a.1 b.1) parts

/-- The results of all parts, or the first failure. -/
def gather : List (Declaration × Except Fault Compiled) → Except Fault (List Compiled)
  | [] => .ok []
  | (_, .error e) :: _ => .error e
  | (_, .ok first) :: rest =>
    match gather rest with
    | .ok others => .ok (first :: others)
    | .error e => .error e

/-- The entry of a declaration without children, with its hooks. -/
def leaf (plan : Plan) (ancestors : List Declaration) (node : Declaration) : Except Fault Compiled :=
  let key := fullKey ancestors node
  match node.leaf plan.defaultType ancestors key with
  | .ok l => .ok ⟨.leaf l, node.hooks key⟩
  | .error e => .error e

/-- The entry of a group above what its children compile to. -/
def group (ancestors : List Declaration) (node : Declaration) (children : List Compiled) : Compiled :=
  ⟨.group (fullKey ancestors node) node.name (children.map (·.tree)), children.flatMap (·.hooks)⟩

mutual

/-- Compiles one tree below the given ancestors. -/
def tree (plan : Plan) (ancestors : List Declaration) : Outline → Except Fault Compiled
  | .node d cs =>
    match d.validate ancestors with
    | .error e => .error e
    | .ok () =>
      if d.hasChildren then
        match arrange plan.sorter plan.sortChildren (trees plan (ancestors ++ [d]) cs) with
        | .error e => .error e
        | .ok parts =>
          match gather parts with
          | .error e => .error e
          | .ok children => .ok (group ancestors d children)
      else leaf plan ancestors d

/-- Compiles trees side by side, keeping each result with its declaration. -/
def trees (plan : Plan) (ancestors : List Declaration) :
    List Outline → List (Declaration × Except Fault Compiled)
  | [] => []
  | o :: rest => (o.declaration, tree plan ancestors o) :: trees plan ancestors rest

end

/-- Compiles the declarations of a forest. -/
def roots (plan : Plan) (nodes : List Declaration) : Except Fault Compilation :=
  match arrange plan.sorter plan.sortForest (trees plan [] (nodes.map Declaration.outline)) with
  | .error e => .error e
  | .ok parts =>
    match gather parts with
    | .error e => .error e
    | .ok compiled => .ok { trees := compiled.map (·.tree), hooks := compiled.flatMap (·.hooks) }

/-- Compiles a value that is meant to be a forest. -/
def forest (plan : Plan) (forest : Value) : Except Fault Compilation :=
  match Declaration.ofForest forest with
  | .error e => .error (.capture e)
  | .ok nodes => roots plan nodes

end Compile

namespace Compilation

/-- The records of the entries, for the capture engine. -/
def records (c : Compilation) : List Value := c.entries.map fun e => .list e.record

/-- The descriptions of the hooks, which fail if a hook names no phase. -/
def hookDescriptions (c : Compilation) : Except Fault (List Value) :=
  c.hooks.mapM HookRegistration.description

/-- The compilation in structured output. -/
def description (c : Compilation) : Except Fault Value :=
  match c.hookDescriptions with
  | .error e => .error e
  | .ok hooks => .ok <| .record [
      ("entries", .list (c.entries.map Entry.description)),
      ("hooks", .list hooks),
      ("total_entries", .int c.entries.length),
      ("total_hooks", .int c.hooks.length)]

end Compilation

end CaptureForest
