/-!
# Routes

The operations the server offers, by path and method. Paths are compared exactly.
-/

namespace Switchboard

inductive Operation where
  | chat
  | chatStream
  | embed
  | listModels
  | health
deriving DecidableEq, Repr

namespace Operation

def all : List Operation := [chat, chatStream, embed, listModels, health]

def name : Operation → String
  | chat => "Chat"
  | chatStream => "ChatStream"
  | embed => "Embed"
  | listModels => "ListModels"
  | health => "Health"

def path : Operation → String
  | chat => "/v1/chat"
  | chatStream => "/v1/chat/stream"
  | embed => "/v1/embed"
  | listModels => "/v1/models"
  | health => "/health"

def ofPath? (path : String) : Option Operation := all.find? fun o => o.path == path

/-- The methods of an operation. What can be got can be asked about, too. -/
def methods : Operation → List String
  | chat | chatStream | embed => ["POST"]
  | listModels | health => ["GET", "HEAD"]

def serves (o : Operation) (method : String) : Bool := o.methods.contains method

/-- What a path is called in records. -/
def nameOfPath (path : String) : String := (ofPath? path).elim "Unknown" name

/-- Whether answers on a path are streams. -/
def isStreamPath (path : String) : Bool := ofPath? path == some chatStream

end Operation

end Switchboard
