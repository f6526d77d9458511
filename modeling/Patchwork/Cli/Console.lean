import Patchwork.KindError
import Patchwork.Text.Digit
import Patchwork.Text.Width

/-!
# Console text

What becomes of a text when it is printed to the console, where brackets with a name in them set
styles.

* `Console` is a console.  It folds lines that are too long for it, so what comes out is its own
  affair; but all that can be seen of a plain text does come out.
* `Console.print` prints a text, which must have an encoding.
* `Console.unfolded` is a console that is wide enough for every line.  A backslash before a bracket
  is dropped there, control characters are left out, and tabs become spaces.
* `Console.styled` is a text between two style marks.
-/

set_option autoImplicit false

namespace Patchwork
namespace Console

/-! ## What can be seen -/

/-- The characters that are left out: bell, backspace, vertical tab, form feed, carriage return. -/
def isDropped (c : Char) : Bool := [7, 8, 11, 12, 13].contains c.toNat

/-- The character shows on a console. -/
def isVisible (c : Char) : Bool := !Text.isSpace c && !isDropped c

/-- The characters of a text that show on a console. -/
def visible (s : String) : List Char := s.toList.filter isVisible

/-- The character can follow the bracket that opens a mark. -/
def startsMark (c : Char) : Bool := ('a' ≤ c && c ≤ 'z') || ['#', '/', '@'].contains c

/-- The text holds nothing that a console takes for a mark: no bracket that opens one, no backslash
before a bracket, and no name between two colons. -/
def isPlain : List Char → Bool
  | [] => true
  | c :: rest =>
    !(c = '[' && rest.head?.any startsMark) && !(c = '\\' && rest.head? = some '[')
      && !(c = ':' && (rest.takeWhile fun c => !Text.isSpace c).contains ':') && isPlain rest

end Console

/-- A console of at least two columns. -/
structure Console where
  /-- What comes out of a text, with the end of its line. -/
  shown : String → String
  visible_shown : ∀ s, Console.isPlain s.toList = true →
    Console.visible (shown s) = Console.visible s

namespace Console

/-- What comes out of a text, if it has an encoding. -/
def print (console : Console) (t : Text) : Except KindError String :=
  match t.toString? with
  | some s => .ok (console.shown s)
  | none => .error .notEncodable

/-- What comes out of texts one after another. -/
def printed (console : Console) (texts : List String) : String :=
  String.join (texts.map console.shown)

/-- The text as it stands between style marks.  Of the backslashes at its end every second one is
left, and an odd one makes text of the mark that closes the style. -/
def styled (s : String) : String :=
  let chars := s.toList
  let count := (chars.reverse.takeWhile (· = '\\')).length
  String.ofList (chars.take (chars.length - count) ++ List.replicate (count / 2) '\\')
    ++ (if count % 2 = 1 then "[/]" else "")

/-! ## A console that folds nothing -/

/-- The distance between tab stops. -/
def tabWidth : Nat := 8

/-- The text with spaces up to the next tab stop for each tab; `column` counts the cells from the
start of the line. -/
def expandTabs (column : Nat) : List Char → List Char
  | [] => []
  | c :: rest =>
    if c = '\n' then c :: expandTabs 0 rest
    else if c = '\t' then
      let spaces := tabWidth - column % tabWidth
      List.replicate spaces ' ' ++ expandTabs (column + spaces) rest
    else c :: expandTabs (column + Text.width c) rest

/-- The text without backslashes that stand before an opening bracket. -/
def dropEscapes : List Char → List Char
  | '\\' :: '[' :: rest => '[' :: dropEscapes rest
  | c :: rest => c :: dropEscapes rest
  | [] => []

/-- The text as it appears in one line, with its end. -/
def shownWhole (s : String) : String :=
  String.ofList (expandTabs 0 ((dropEscapes s.toList).filter (!isDropped ·)) ++ ['\n'])

theorem visible_expandTabs (column : Nat) (chars : List Char) :
    (expandTabs column chars).filter isVisible = chars.filter isVisible := by
  have hspace : isVisible ' ' = false := rfl
  have htab : isVisible '\t' = false := rfl
  induction chars generalizing column with
  | nil => rfl
  | cons c rest ih =>
    rw [expandTabs]
    split
    · rw [List.filter_cons, List.filter_cons, ih]
    · split
      · rename_i hc
        rw [List.filter_append, ih, List.filter_replicate, hspace, hc, List.filter_cons, htab]
        rfl
      · rw [List.filter_cons, List.filter_cons, ih]

theorem dropEscapes_of_isPlain {chars : List Char} (h : isPlain chars = true) :
    dropEscapes chars = chars := by
  fun_induction dropEscapes chars with
  | case1 rest ih => simp [isPlain] at h
  | case2 c rest hne ih =>
    rw [isPlain, Bool.and_eq_true] at h
    rw [ih h.2]
  | case3 => rfl

theorem visible_shownWhole (s : String) (h : isPlain s.toList = true) :
    visible (shownWhole s) = visible s := by
  have hend : isVisible '\n' = false := rfl
  have hdropped : (fun c => isVisible c && !isDropped c) = isVisible := by
    funext c
    unfold isVisible
    cases isDropped c <;> simp
  rw [visible, visible, shownWhole, String.toList_ofList, dropEscapes_of_isPlain h,
    List.filter_append, visible_expandTabs, List.filter_filter, hdropped, List.filter_cons, hend]
  exact List.append_nil _

/-- A console that is wide enough for every line. -/
def unfolded : Console := ⟨shownWhole, visible_shownWhole⟩

end Console
end Patchwork
