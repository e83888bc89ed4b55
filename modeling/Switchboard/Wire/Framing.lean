import Switchboard.Stream.Event
import Switchboard.Text.Cut
import Switchboard.Text.Utf8

/-!
# Framing of events

A stream of events is text: lines of fields, and an empty line after each event. Data of several
lines is joined; an event without data is none; what follows the last empty line is lost.
-/

namespace Switchboard

namespace Framing

/-- The finished lines of a text, which end with a line feed, a carriage return, or both. -/
def lines (line : List Char) : List Char → List (List Char)
  | [] => []
  | '\r' :: '\n' :: cs => line.reverse :: lines [] cs
  | c :: cs =>
    if c == '\n' || c == '\r' then line.reverse :: lines [] cs else lines (c :: line) cs

/-- The name and the value of the field on a line; a comment has no name. -/
def field (line : List Char) : List Char × List Char :=
  match Text.cutAt [':'] line with
  | none => (line, [])
  | some (name, ' ' :: value) => (name, value)
  | some (name, value) => (name, value)

/-- The event being put together: its name, and the lines of its data, the last first. -/
structure Draft where
  name : List Char
  data : List (List Char)

def Draft.empty : Draft := ⟨[], []⟩

/-- The event that a draft makes, if it has data. -/
def Draft.event? (d : Draft) : Option ServerEvent :=
  if d.data.isEmpty then none
  else some ⟨if d.name.isEmpty then ServerEvent.defaultName else String.ofList d.name,
    String.ofList (['\n'].intercalate d.data.reverse)⟩

/-- What a line that is not empty makes of the draft. -/
def Draft.add (d : Draft) (line : List Char) : Draft :=
  match field line with
  | (['e', 'v', 'e', 'n', 't'], value) => { d with name := value }
  | (['d', 'a', 't', 'a'], value) => { d with data := value :: d.data }
  | _ => d

/-- The events on lines, after those of the draft. -/
def events (d : Draft) : List (List Char) → List ServerEvent
  | [] => []
  | line :: rest =>
    if line.isEmpty then d.event?.toList ++ events .empty rest else events (d.add line) rest

/-- The mark that may open a text. -/
def byteOrderMark : Char := '\uFEFF'

end Framing

/-- The events framed in a text. -/
def ServerEvent.ofText (cs : List Char) : List ServerEvent :=
  Framing.events .empty (Framing.lines []
    (if cs.head? = some Framing.byteOrderMark then cs.tail else cs))

/-- The events framed in bytes up to where they are no text, and whether all of them are text. -/
def ServerEvent.ofBytes (bytes : List UInt8) : List ServerEvent × Bool :=
  let chars := Text.decodeUtf8 bytes
  (ServerEvent.ofText ((chars.takeWhile Option.isSome).filterMap id), chars.all Option.isSome)

end Switchboard
