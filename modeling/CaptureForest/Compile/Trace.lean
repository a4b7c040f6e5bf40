import CaptureForest.Compile.Basic
import CaptureForest.Log.Message
/-!
# The trace of a compilation

What a compilation reports on its way: each entry that is resolved and each group after its children, up
to the first failure, and a summary if there is none. On the same way it asks which of two declarations
goes first: among the roots before the first tree is compiled, and among children when their group is
reached.
-/

namespace CaptureForest

namespace Compile

/-- A question about two declarations: two roots, or two children of one group. -/
structure Question where
  isAmongRoots : Bool
  first : Declaration
  second : Declaration

/-- What was reported and asked, and whether the way went on to its end. -/
structure Trace where
  messages : List LogMessage := []
  questions : List Question := []
  completed : Bool

namespace Trace

/-- The reports of parts one after another, up to the first part that fails. -/
def join : List Trace → Trace
  | [] => { completed := true }
  | t :: rest =>
    if t.completed then
      let others := join rest
      ⟨t.messages ++ others.messages, t.questions ++ others.questions, others.completed⟩
    else t

end Trace

def report (text : String) : LogMessage := ⟨.debug, "services.compiler", text⟩

/-- The questions that putting declarations in order asks. -/
def questions (isAmongRoots : Bool) (sorter : Sorter) (order : Option Less) (nodes : List Declaration) :
    List Question :=
  match order with
  | none => []
  | some less => (sorter.asked less nodes).map fun (a, b) => ⟨isAmongRoots, a, b⟩

mutual

/-- The reports and the questions from one tree. -/
def traceTree (plan : Plan) (ancestors : List Declaration) : Outline → Trace
  | .node d cs =>
    let key := fullKey ancestors d
    match d.validate ancestors with
    | .error _ => { completed := false }
    | .ok () =>
      if d.hasChildren then
        let parts := traceTrees plan (ancestors ++ [d]) cs
        let asked := questions false plan.sorter plan.sortChildren (parts.map (·.1))
        match arrange plan.sorter plan.sortChildren parts with
        | .error _ => { questions := asked, completed := false }
        | .ok parts =>
          let below := Trace.join (parts.map (·.2))
          let below := { below with questions := asked ++ below.questions }
          let summary := report <| "Group " ++ d.name.quoted ++ " (" ++ key ++ ") with " ++
            toString parts.length ++ " children"
          if below.completed then { below with messages := below.messages ++ [summary] } else below
      else
        match leaf plan ancestors d with
        | .error _ => { completed := false }
        | .ok _ =>
          { messages := [report ("Entry " ++ d.name.quoted ++ " (" ++ key ++ ") resolved")], completed := true }

def traceTrees (plan : Plan) (ancestors : List Declaration) : List Outline → List (Declaration × Trace)
  | [] => []
  | o :: rest => (o.declaration, traceTree plan ancestors o) :: traceTrees plan ancestors rest

end

/-- The summary of a compilation. -/
def summary (nodes : List Declaration) (c : Compilation) : LogMessage :=
  ⟨.info, "services.compiler", "Compiled " ++ toString nodes.length ++ " declarations into " ++
    toString c.entries.length ++ " entries and " ++ toString c.hooks.length ++ " hooks"⟩

/-- The reports and the questions from the trees of a forest. -/
def traceRoots (plan : Plan) (nodes : List Declaration) : Trace :=
  let asked := questions true plan.sorter plan.sortForest nodes
  match arrange plan.sorter plan.sortForest (traceTrees plan [] (nodes.map Declaration.outline)) with
  | .error _ => { questions := asked, completed := false }
  | .ok parts =>
    let below := Trace.join (parts.map (·.2))
    { below with questions := asked ++ below.questions }

/-- All reports from the compilation of a forest. -/
def trace (plan : Plan) (forest : Value) : List LogMessage :=
  match Declaration.ofForest forest with
  | .error _ => []
  | .ok nodes =>
    (traceRoots plan nodes).messages ++
      match roots plan nodes with
      | .ok c => [summary nodes c]
      | .error _ => []

/-- All questions that the compilation of a forest asks. -/
def asked (plan : Plan) (forest : Value) : List Question :=
  match Declaration.ofForest forest with
  | .error _ => []
  | .ok nodes => (traceRoots plan nodes).questions

end Compile

end CaptureForest
