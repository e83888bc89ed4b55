import Switchboard.Failure
import Switchboard.Text.Cut

/-!
# Messages

A message has a role and a content, which is a bare text or a list of parts. A part is a text, an
image, a call of a tool, or the result of one.
-/

namespace Switchboard

inductive Role where
  | system
  | user
  | assistant
  | tool
deriving DecidableEq, Repr

namespace Role

def all : List Role := [system, user, assistant, tool]

def name : Role → String
  | system => "system"
  | user => "user"
  | assistant => "assistant"
  | tool => "tool"

def ofName? (name : String) : Option Role := all.find? fun r => r.name == name

/-- The role a caller names, in any mix of ASCII cases. -/
def parse (text : String) : Outcome Role :=
  match ofName? text.toLower with
  | some role => .ok role
  | none => .error (.unsupportedRole "gateway" text)

end Role

structure Image where
  url : Option String
  data : Option String
  mimeType : Option String
deriving DecidableEq, Repr

/-- Where the bytes of an image are. -/
inductive ImageSource where
  | url (url : String)
  | base64 (mimeType data : String)
deriving DecidableEq, Repr

namespace Image

def ofUrl (url : String) : Image := ⟨some url, none, none⟩

def ofBase64 (data mimeType : String) : Image := ⟨none, some data, some mimeType⟩

/-- The media type and the data of a `data:` URL in base 64. -/
def dataUrl? (url : String) : Option (String × String) := do
  let rest ← Text.after? "data:" url
  let (mimeType, data) ← Text.cutAt ";base64,".toList rest.toList
  return (String.ofList mimeType, String.ofList data)

/-- Inline data comes before a URL, and a `data:` URL is inline data too. -/
def source (image : Image) : Outcome ImageSource :=
  match image.data, image.mimeType, image.url with
  | some data, some mimeType, _ => .ok (.base64 mimeType data)
  | some _, none, _ => .error (.untranslatable "inline image data requires mime_type")
  | none, _, some url =>
    match dataUrl? url with
    | some (mimeType, data) => .ok (.base64 mimeType data)
    | none => .ok (.url url)
  | none, _, none => .error (.untranslatable "image content needs either url or data")

end Image

inductive Part where
  | text (text : String)
  | image (image : Image)
  | toolCall (id name : String) (arguments : Json)
  | toolResult (callId content : String) (isError : Bool)
deriving DecidableEq

namespace Part

def text? : Part → Option String
  | text t => some t
  | _ => none

def toolCall? : Part → Option (String × String × Json)
  | toolCall id name arguments => some (id, name, arguments)
  | _ => none

end Part

inductive Content where
  | text (text : String)
  | parts (parts : List Part)
deriving DecidableEq

namespace Content

instance : Inhabited Content := ⟨text ""⟩

def isEmpty : Content → Bool
  | text t => t.isEmpty
  | parts ps => ps.isEmpty

/-- All the text in it, in order. -/
def allText : Content → String
  | text t => t
  | parts ps => String.join (ps.filterMap Part.text?)

def toParts : Content → List Part
  | text t => [.text t]
  | parts ps => ps

def toolCalls : Content → List (String × String × Json)
  | text _ => []
  | parts ps => ps.filterMap Part.toolCall?

/-- Bare text when nothing but text was said. -/
def assemble (said : String) (parts : List Part) : Content :=
  if parts.isEmpty then text said
  else if said.isEmpty then .parts parts
  else .parts (.text said :: parts)

end Content

structure Message where
  role : Role
  content : Content
  name : Option String
deriving DecidableEq

namespace Message

def of (role : Role) (content : Content) : Message := ⟨role, content, none⟩

def toolResult (callId content : String) : Message :=
  of .tool (.parts [.toolResult callId content false])

/-- The message with one more part; an empty text makes way for it. -/
def withPart (m : Message) (part : Part) : Message :=
  let before := match m.content with
    | .text t => if t.isEmpty then [] else [.text t]
    | .parts ps => ps
  { m with content := .parts (before ++ [part]) }

end Message

end Switchboard
