import Perimeter.Deployment
import Perimeter.Main
import Perimeter.Proofs.Gateway.FirstGate
import Perimeter.Proofs.Passage
import Perimeter.Proofs.Token.Genuine
import Perimeter.Proofs.Validation.Agreement
import Perimeter.Tls.Pem
import Perimeter.Proofs.Validation.Isolation
import Perimeter.Proofs.Agent.Contacts
import Perimeter.Proofs.Agent.Presented
import Perimeter.Proofs.Gateway.SecondGate
import Perimeter.Proofs.Starting
import Perimeter.Proofs.Agent.Identity
import Perimeter.Proofs.Controller.Granted
import Perimeter.Proofs.Gateway.AllOrNothing
import Perimeter.Proofs.Validation.NoTrace
import Perimeter.Proofs.Wire.Grammar
import Perimeter.Proofs.Forgery
import Perimeter.Proofs.Agent.Itinerary
import Perimeter.Proofs.Agent.Forwarded
import Perimeter.Proofs.Agent.Reply
import Perimeter.Proofs.Enrolled
import Perimeter.Proofs.Gateway.Recency
import Perimeter.Proofs.Ledger
import Perimeter.Proofs.Gateway.Authenticable
import Perimeter.Proofs.Wire.Covered
import Perimeter.Proofs.Introspection
import Perimeter.Proofs.Digits
import Perimeter.Proofs.Settings.Reloaded
import Perimeter.Proofs.Hex
import Perimeter.Proofs.Store.Overflow
import Perimeter.Proofs.Wire.Strict
