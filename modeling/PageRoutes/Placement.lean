import PageRoutes.Page

/-!
# Where a directory hangs in the tree

Only nested scopes make children.  A directory that is itself a nested scope hangs below the
directory around it; any other directory hangs below its innermost nested scope, or below the root
when it has none, with the path from there.  Going from a directory to its parent again and again
ends at the root, since every parent is shorter: these directories are the lineage.
-/

namespace PageRoutes.Placement

/-- The directory up to and including its innermost nested scope; the root if it has none. -/
def innermostScope (directory : List Segment) : List Segment :=
  (directory.reverse.dropWhile (!·.isNestedScope)).reverse

/-- The directory below which a directory hangs; `[]` stands for the root. -/
def parent (directory : List Segment) : List Segment :=
  if directory.getLast?.any (·.isNestedScope) then directory.dropLast
  else innermostScope directory

/-- The path of a directory as seen from its parent. -/
def path (directory : List Segment) : String :=
  Segment.pattern (directory.drop (parent directory).length)

/-- The innermost scope of a directory that is not a scope itself leaves out its last segment. -/
theorem length_innermostScope_lt {directory : List Segment} (ne : directory ≠ [])
    (last : ¬directory.getLast?.any (·.isNestedScope) = true) :
    (innermostScope directory).length < directory.length := by
  obtain ⟨front, segment, rfl⟩ : ∃ front segment, directory = front ++ [segment] :=
    ⟨_, _, (List.dropLast_concat_getLast ne).symm⟩
  have plain : segment.isNestedScope = false := by simpa using last
  have shorter := (List.dropWhile_sublist (l := front.reverse) (!·.isNestedScope)).length_le
  simp only [List.length_reverse] at shorter
  simp only [innermostScope, List.reverse_append, List.reverse_singleton, List.singleton_append,
    List.dropWhile_cons, plain, Bool.not_false, if_true, List.length_reverse,
    List.length_append, List.length_singleton]
  omega

/-- Every parent is shorter than its child. -/
theorem length_parent_lt {directory : List Segment} (ne : directory ≠ []) :
    (parent directory).length < directory.length := by
  unfold parent
  split
  · have := List.length_pos_iff.2 ne
    rw [List.length_dropLast]
    omega
  · exact length_innermostScope_lt ne ‹_›

/-- A directory, its parent, the parent of that and so on; the root is left out. -/
def lineage (directory : List Segment) : List (List Segment) :=
  if directory = [] then []
  else directory :: lineage (parent directory)
termination_by directory.length
decreasing_by exact length_parent_lt ‹_›

end PageRoutes.Placement
