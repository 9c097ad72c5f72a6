import Disclosure.Case.Message

/-!
# The router

A directory of mailboxes by name, for actors that run side by side.  A message
for somebody who has not joined is held until that name is registered; one for
somebody who has left is dropped.  A name is registered once at most.
-/

namespace Disclosure

/-- The mailbox of one actor. -/
structure Mailbox where
  name : String
  /-- Messages that were not taken out yet, the oldest first. -/
  mail : List Message
  /-- Whether somebody is there to take messages out. -/
  attended : Bool
  /-- Whether the router still delivers to it. -/
  registered : Bool

/-- Mailboxes, names that have left, and messages that wait for a name. -/
structure Router where
  mailboxes : List Mailbox
  retired : List String
  held : List Message
  delivered : Nat
  dropped : Nat

namespace Router

def empty : Router := ⟨[], [], [], 0, 0⟩

/-- The mailbox that is registered under a name. -/
def mailbox? (router : Router) (name : String) : Option Mailbox :=
  router.mailboxes.find? fun mailbox =>
    mailbox.registered && mailbox.name == name

def isRegistered (router : Router) (name : String) : Bool :=
  (router.mailbox? name).isSome

/-- Whether a message is for this name alone. -/
def isFor (name : String) (message : Message) : Bool :=
  message.recipient == some name

/--
Register a mailbox under a name and put into it what is held for that name.  It
fails if the name is or was taken.  What cannot be put into an unattended mailbox
is lost.
-/
def register (router : Router) (name : String) (attended : Bool) :
    Bool × Router :=
  if router.isRegistered name || router.retired.contains name then
    (false, router)
  else
    let waiting := router.held.filter (isFor name)
    let mail := if attended then waiting else []
    (true,
      { router with
        mailboxes := router.mailboxes ++ [⟨name, mail, attended, true⟩]
        held := router.held.filter fun message => !isFor name message
        delivered := router.delivered + mail.length })

/-- Take a name out of the directory for good. -/
def retire (router : Router) (name : String) : Router :=
  { router with
    mailboxes := router.mailboxes.map fun mailbox =>
      if mailbox.name = name then { mailbox with registered := false }
      else mailbox
    retired :=
      if router.retired.contains name then router.retired
      else name :: router.retired }

/-- Put a message into those mailboxes that a test selects and that are
attended. -/
def post (message : Message) (selects : Mailbox → Bool)
    (mailboxes : List Mailbox) : List Mailbox :=
  mailboxes.map fun mailbox =>
    if selects mailbox && mailbox.attended then
      { mailbox with mail := mailbox.mail ++ [message] }
    else mailbox

/-- Deliver a message to the registered mailboxes that a test selects; those
that are not attended count as dropped. -/
def deliver (router : Router) (message : Message)
    (selects : Mailbox → Bool) : Router :=
  let selects mailbox := mailbox.registered && selects mailbox
  let selected := router.mailboxes.filter selects
  { router with
    mailboxes := post message selects router.mailboxes
    delivered := router.delivered + selected.countP Mailbox.attended
    dropped :=
      router.dropped + selected.countP fun mailbox => !mailbox.attended }

/-- Deliver a message to its recipient, or to everybody but its sender. -/
def route (router : Router) (message : Message) : Router :=
  match message.recipient with
  | none =>
    router.deliver message fun mailbox => mailbox.name != message.sender
  | some recipient =>
    if router.retired.contains recipient then
      { router with dropped := router.dropped + 1 }
    else if router.isRegistered recipient then
      router.deliver message fun mailbox => mailbox.name == recipient
    else { router with held := router.held ++ [message] }

/-- How many messages are held for names that have not joined. -/
def undelivered (router : Router) : Nat := router.held.length

/-- Take all messages out of a mailbox. -/
def drain (router : Router) (name : String) : List Message × Router :=
  let mine (mailbox : Mailbox) := mailbox.name == name
  ((router.mailboxes.filter mine).flatMap Mailbox.mail,
    { router with
      mailboxes := router.mailboxes.map fun mailbox =>
        if mine mailbox then { mailbox with mail := [] } else mailbox })

/-- Leave a mailbox unattended; tells whether it was attended. -/
def hangUp (router : Router) (name : String) : Bool × Router :=
  let mine (mailbox : Mailbox) := mailbox.name == name && mailbox.attended
  (router.mailboxes.any mine,
    { router with
      mailboxes := router.mailboxes.map fun mailbox =>
        if mine mailbox then { mailbox with mail := [], attended := false }
        else mailbox })

end Router

end Disclosure
