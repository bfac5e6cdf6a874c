import ScriptDoc.Document.Address
import ScriptDoc.Document.MediaType

/-!
# Asking servers

Documents may come from servers.  The client that asks them is a library of its own, of which the program
knows what `HttpClient` says: an address may be one that cannot be asked, and an answer may be one whose
bytes are no text.  It follows redirections by itself, so that an answer is what comes at their end.
-/

namespace ScriptDoc

/-- The answer of a server. -/
structure HttpReply where
  status : Nat := 200
  contentType : Option String := none
  body : List UInt8 := []
  deriving DecidableEq, Repr

/-- The text of an answer in the character set that its media type gives. An empty body is an empty text in
every character set. -/
def HttpReply.text? (reply : HttpReply) : Option String :=
  if reply.body.isEmpty then some ""
  else ((MediaType.charset (reply.contentType.getD "")).decode? reply.body).map String.ofList

/-- What the program knows of the client that asks servers. -/
structure HttpClient where
  /-- Whether an address can be asked. Any other one stops the program, before or while its name is looked
  up. -/
  accepts : String → Bool := Address.isWellFormed
  /-- The text of an answer. An answer without one stops the program. -/
  text? : HttpReply → Option String := HttpReply.text?

end ScriptDoc
