import LiveTree.Text.CombiningClass
import LiveTree.Text.Decomposition

/-!
# Composed texts

Texts that mean the same can be spelled in several ways.  The composed form is the same for all of
them: every character is taken apart, the marks after a letter are put in the order of their classes,
and then as much as possible is put together again.
-/

namespace LiveTree.Text

/-- Marks in the order of their classes; marks of one class keep theirs.  Characters without a class
    stay where they are. -/
def ordered (text : Text) : Text :=
  (text.splitBy fun a b => combiningClass a != 0 && combiningClass b != 0).flatMap
    (·.mergeSort fun a b => combiningClass a ≤ combiningClass b)

/-- A text half composed: what is done, last character first, the character that the next ones may be
    put together with, and the marks after it that stay apart, last one first. -/
structure Composing where
  done : Text := []
  starter : Option Char := none
  apart : Text := []

namespace Composing

/-- The text so far, last character first. -/
def reversed (state : Composing) : Text := state.apart ++ state.starter.toList ++ state.done

/-- Whether a character can reach the starter: between them there is no mark of its class, and no
    later one. -/
def reaches (state : Composing) (c : Char) : Bool :=
  state.apart.head?.all fun mark => combiningClass mark < combiningClass c

/-- Takes one more character. -/
def push (state : Composing) (c : Char) : Composing :=
  let composite := do
    let starter ← state.starter
    if state.reaches c then composite? starter.toNat c.toNat else none
  match composite with
  | some point => { state with starter := some (Char.ofNat point) }
  | none =>
    if combiningClass c = 0 then { done := state.reversed, starter := some c }
    else { state with apart := c :: state.apart }

end Composing

/-- The composed form of a text. -/
def composed (text : Text) : Text :=
  let parts := text.flatMap fun c => (decomposition c.toNat).map Char.ofNat
  ((ordered parts).foldl Composing.push {}).reversed.reverse

end LiveTree.Text
