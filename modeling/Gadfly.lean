import Gadfly.Discord.Encounter
import Gadfly.Folder
import Gadfly.Main
import Gadfly.Proofs.Blank
import Gadfly.Proofs.Fallback
import Gadfly.Proofs.Indifference
import Gadfly.Proofs.Isolation
import Gadfly.Proofs.Meter
import Gadfly.Proofs.Order
import Gadfly.Proofs.Outcome
import Gadfly.Proofs.Question
import Gadfly.Proofs.Reply
import Gadfly.Proofs.Sentinel
import Gadfly.Proofs.Transcript
import Gadfly.Proofs.Truncation
import Gadfly.Rehearsal
import Gadfly.Proofs.Gateway.Turn
import Gadfly.Proofs.Gateway.Chronicle
import Gadfly.Proofs.Gateway.Session
import Gadfly.Proofs.Gateway.Inbound
import Gadfly.Proofs.Gateway.Outbound
import Gadfly.Proofs.Gateway.Heartbeat
import Gadfly.Proofs.Gateway.Stop
import Gadfly.Proofs.Gateway.Retry
import Gadfly.Proofs.Gateway.Noise
import Gadfly.Proofs.Gateway.Restart
import Gadfly.Proofs.Gateway.Succession
import Gadfly.Proofs.Canonical
import Gadfly.Proofs.PriceTable
import Gadfly.Proofs.Settings
import Gadfly.Proofs.Terminal
import Gadfly.Proofs.Lowering
import Gadfly.Proofs.Address
import Gadfly.Proofs.Message
import Gadfly.Proofs.Post
import Gadfly.Proofs.Response
import Gadfly.Proofs.Candidates
import Gadfly.Proofs.Gathering
import Gadfly.Proofs.Network
import Gadfly.Proofs.Gateway.Mask
import Gadfly.Proofs.Secret
import Gadfly.Proofs.Precedence
import Gadfly.Proofs.Greeting
import Gadfly.Proofs.Invocation
import Gadfly.Proofs.Utf8
import Gadfly.Proofs.Reading
import Gadfly.Proofs.Presentation
import Gadfly.Proofs.Errand
import Gadfly.Proofs.Override
import Gadfly.Proofs.Snapshot
