import CaptureForest.Declaration.Height
/-!
# Outlines

The tree below a declaration, made explicit: a declaration with the outlines of its children. Functions
on forests recurse on outlines. The main statement is `outline_eq`: the outline of a declaration holds
the outlines of its children, in order.
-/

namespace CaptureForest

inductive Outline where
  | node (declaration : Declaration) (children : List Outline)
deriving Repr, Inhabited

namespace Outline

def declaration : Outline → Declaration
  | .node d _ => d

def children : Outline → List Outline
  | .node _ cs => cs

end Outline

namespace Declaration

/-- The outline of a declaration down to the given depth. -/
def outlineWithin : Nat → Declaration → Outline
  | 0, d => .node d []
  | depth + 1, d => .node d (d.children.map (outlineWithin depth))

/-- The whole tree below a declaration. -/
def outline (d : Declaration) : Outline := outlineWithin (d.height + 1) d

theorem outlineWithin_of_height_lt {depth : Nat} {d : Declaration} (h : d.height < depth) :
    outlineWithin depth d = d.outline := by
  induction depth using Nat.strongRecOn generalizing d with
  | ind depth ih =>
    match depth with
    | 0 => omega
    | depth + 1 =>
      simp only [outline, outlineWithin]
      congr 1
      apply List.map_congr_left
      intro child hchild
      have hlt := height_lt_of_mem_children hchild
      rw [ih depth (by omega) (by omega)]
      by_cases heq : d.height = depth
      · subst heq
        exact (ih d.height (by omega) (by omega)).symm
      · exact (ih d.height (by omega) (by omega)).symm

/-- The outline of a declaration holds the outlines of its children. -/
theorem outline_eq (d : Declaration) : d.outline = .node d (d.children.map outline) := by
  conv => lhs; unfold outline
  simp only [outlineWithin]
  congr 1
  apply List.map_congr_left
  intro child hchild
  exact outlineWithin_of_height_lt (height_lt_of_mem_children hchild)

end Declaration

end CaptureForest
