import Switchboard.Gateway.Chat

/-!
# Embedding through the gateway

As for a chat, but the model has to be one for embeddings, and an answer with another number of
vectors than there were texts is no answer.
-/

namespace Switchboard.Router

/-- The call that an embedding request leads to. -/
def dispatchEmbed (router : Router) (fresh : String) (r : EmbedRequest) :
    Outcome (Dispatch EmbedRequest) := do
  r.validate
  let (provider, route) ← router.resolve r.model
  if !route.model.capabilities.supports .embed then
    .error ((Provider.lacks route.model.family .embed).withModel r.model)
  else return ⟨provider, route, { r with id := some (requestIdOr fresh r.id) }⟩

def embed (router : Router) (fresh : String) (c : CallContext) (now : Nat) (r : EmbedRequest) :
    Handled EmbedResponse :=
  match router.dispatchEmbed fresh r with
  | .error f => .refused f
  | .ok d =>
    let served := d.provider.embed c now d.request
    let aligned (o : Outcome EmbedResponse) : Outcome EmbedResponse := do
      (← o).ensureAligned r.contents.length
    ⟨served.ending.map fun o => (aligned o).ofModel r.model, [d.route.provider], served.sent⟩

end Switchboard.Router
