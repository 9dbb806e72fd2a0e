/-!
# Colours in messages

Messages mark a few of their parts with a colour. Where they are written to a terminal a part
is wrapped in control sequences; elsewhere it stands as it is.
-/

namespace Lookahead.Text

/-- The colours that messages use. -/
inductive Hue where
  | red
  | yellow
  | brightBlue
  deriving DecidableEq, Repr

/-- The control sequence that turns a colour on. -/
def Hue.sequence : Hue → String
  | .red => "\x1b[31m"
  | .yellow => "\x1b[33m"
  | .brightBlue => "\x1b[94m"

/-- The control sequence that turns every colour off. -/
def resetSequence : String := "\x1b[0m"

/-- Writes `style` again after every reset inside a text, so that the rest of the text keeps
its colour. -/
def reopen (style : List Char) : List Char → List Char
  | '\x1b' :: '[' :: '0' :: 'm' :: rest => resetSequence.toList ++ style ++ reopen style rest
  | c :: rest => c :: reopen style rest
  | [] => []

/-- Whether messages carry colours. -/
inductive Paint where
  | plain
  | coloured
  deriving DecidableEq, Repr

/-- `text` in the colour `hue`, or just `text` in plain messages. -/
def Paint.apply (paint : Paint) (hue : Hue) (text : String) : String :=
  match paint with
  | .plain => text
  | .coloured =>
    hue.sequence ++ String.ofList (reopen hue.sequence.toList text.toList) ++ resetSequence

@[simp] theorem Paint.plain_apply (hue : Hue) (text : String) :
    Paint.plain.apply hue text = text := rfl

end Lookahead.Text
