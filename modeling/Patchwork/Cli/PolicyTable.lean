import Patchwork.Policy

/-!
# The table of management policies

`PolicyTable.render` draws decisions as a table with one row for each policy, under a title that is
centred over it.  The first column is aligned to the left and the others are centred; where the
space around a centred text is odd, the greater part is on the right.
-/

set_option autoImplicit false

namespace Patchwork
namespace PolicyTable

/-- The text followed by spaces up to a width. -/
def left (width : Nat) (s : String) : String :=
  s ++ String.ofList (List.replicate (width - s.length) ' ')

/-- The text in the middle of a width. -/
def centred (width : Nat) (s : String) : String :=
  let space := width - s.length
  String.ofList (List.replicate (space / 2) ' ') ++ s
    ++ String.ofList (List.replicate (space - space / 2) ' ')

/-- A horizontal line of the frame, for columns of given widths. -/
def rule (first fill joint last : String) (widths : List Nat) : String :=
  let column (width : Nat) : String := String.join (List.replicate (width + 2) fill)
  first ++ joint.intercalate (widths.map column) ++ last

/-- A row of cells between separators. -/
def row (separator : String) (widths : List Nat) (cells : List String) : String :=
  let padded := match widths, cells with
    | width :: widths, cell :: cells => left width cell :: List.zipWith centred widths cells
    | _, _ => []
  separator ++ separator.intercalate (padded.map fun cell => " " ++ cell ++ " ") ++ separator

/-- The greatest width in each column. -/
def widths (rows : List (List String)) : List Nat :=
  match rows with
  | [] => []
  | first :: rest =>
    rest.foldl (fun widths cells => List.zipWith max widths (cells.map String.length))
      (first.map String.length)

/-- The heads of the columns. -/
def head : List String := "Policy" :: ObjectAction.all.map (·.text)

/-- The cells of a policy: its name, and a verdict for each of its decisions. -/
def cells (decisions : List PolicyDecision) (policy : ManagementPolicy) : List String :=
  policy.text :: (decisions.filter (·.policy = policy)).map fun d =>
    if d.allowed then "allow" else "deny"

/-- The title of the table. -/
def title : String := "Management Policies"

/-- The lines of the table of decisions. -/
def render (decisions : List PolicyDecision) : List String :=
  let policies := ManagementPolicy.known.filter fun p => decisions.any (·.policy = p)
  let rows := policies.map (cells decisions)
  let widths := widths (head :: rows)
  let top := rule "┏" "━" "┳" "┓" widths
  [centred top.length title, top, row "┃" widths head, rule "┡" "━" "╇" "┩" widths]
    ++ rows.map (row "│" widths)
    ++ [rule "└" "─" "┴" "┘" widths]

end PolicyTable
end Patchwork
