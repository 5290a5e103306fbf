import TermSync.Main
import TermSync.Rest.Exchange
import TermSync.Session.Script
import TermSync.Proofs.Session.Input
import TermSync.Proofs.Session.Output
import TermSync.Proofs.Session.Convergence
import TermSync.Proofs.Console.History
import TermSync.Proofs.Session.Pairing
import TermSync.Proofs.Session.Debounce
import TermSync.Proofs.Session.Repetition
import TermSync.Proofs.Session.Attributes
import TermSync.Proofs.Session.Delivery
import TermSync.Proofs.Link.Moves
import TermSync.Proofs.Link.Queue
import TermSync.Proofs.Decimal.Value
import TermSync.Proofs.Json.Tokens
import TermSync.Proofs.Json.Trees
import TermSync.Proofs.Link.Stream
import TermSync.Proofs.Wire.Catalogue
import TermSync.Proofs.Wire.Codec
import TermSync.Proofs.Session.Dispatch
import TermSync.Proofs.Session.Selection
import TermSync.Proofs.Session.Fallback
import TermSync.Proofs.Session.Refusal
import TermSync.Proofs.Session.Handling
import TermSync.Proofs.Session.Countdown
import TermSync.Proofs.Session.Typing
import TermSync.Proofs.Session.Sending
import TermSync.Proofs.Rest.Addressing
import TermSync.Proofs.Roster.Record
