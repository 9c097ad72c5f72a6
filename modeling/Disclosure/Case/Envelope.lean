import Disclosure.Case.Message
import Disclosure.Text.Timestamp
import Disclosure.Text.Uuid

/-!
# Envelopes

A message as it is stored and sent: with an identifier of its own and the time
at which it was sent.  The protocol itself looks at neither.
-/

namespace Disclosure

/-- A message with an identifier and a time. -/
structure Envelope where
  /-- The identifier in its usual form. -/
  id : String
  message : Message
  sentAt : Text.Timestamp

namespace Envelope

def columns : List String :=
  ["id", "msg_type", "sender", "recipient", "body", "sent_at"]

def toJson (envelope : Envelope) : Json :=
  .record
    (("id", .text envelope.id) :: envelope.message.fields
      ++ [("sent_at", .text envelope.sentAt.render)])

/-- Reads the JSON form; a recipient may be missing. -/
def ofJson? (value : Json) : Option Envelope := do
  match ← value.columns? columns with
  | [some id, some type, some sender, recipient, some body, some sentAt] =>
    return {
      id := ← Text.Uuid.parse? (← id.text?)
      message := {
        type := ← MessageType.ofJson? type
        sender := ← sender.text?
        recipient := ← Json.optional? Json.text? recipient
        body := body }
      sentAt := ← Text.Timestamp.parse? (← sentAt.text?) }
  | _ => failure

end Envelope

end Disclosure
