import Disclosure.Main
import Disclosure.Tree.Workbench
import Disclosure.Case.Envelope
import Disclosure.Proofs.Embargo.PublicCase
import Disclosure.Proofs.Embargo.Steps
import Disclosure.Proofs.Embargo.Agreement
import Disclosure.Proofs.Embargo.Exit
import Disclosure.Proofs.Actor.Histories
import Disclosure.Proofs.Mail.Replies
import Disclosure.Proofs.Mail.Redelivery
import Disclosure.Proofs.Mail.Arrival
import Disclosure.Proofs.Mail.Conservation
import Disclosure.Proofs.Mail.Stranding
import Disclosure.Proofs.Mail.Delivery
import Disclosure.Proofs.Mail.Accounting
import Disclosure.Proofs.Contacts.Bookkeeping
import Disclosure.Proofs.Contacts.Compatibility
import Disclosure.Proofs.Record.Ordering
import Disclosure.Proofs.Record.Authority
import Disclosure.Proofs.Record.Closing
import Disclosure.Proofs.Record.Announcing
import Disclosure.Proofs.Record.News
import Disclosure.Proofs.Simulation.Resting
import Disclosure.Proofs.Router.Mailboxes
import Disclosure.Proofs.Report.Priority
import Disclosure.Proofs.Report.Deferral
import Disclosure.Proofs.Actor.Log
import Disclosure.Proofs.Tree.Safety
import Disclosure.Proofs.Tree.Numbering
import Disclosure.Proofs.Tree.Statuses
import Disclosure.Proofs.Tree.Algebra
import Disclosure.Proofs.Tree.Polling
import Disclosure.Proofs.Tree.Recounts
import Disclosure.Proofs.Actor.Settling
import Disclosure.Proofs.Router.Copies
import Disclosure.Proofs.Mail.Transports
import Disclosure.Proofs.Actor.Resemblance
import Disclosure.Proofs.Simulation.Alone
import Disclosure.Proofs.Simulation.Enrolling
import Disclosure.Proofs.Case.Codes
import Disclosure.Proofs.Tree.Graphs
import Disclosure.Proofs.Report.Willingness
