import PgpCard.Main
import PgpCard.Proofs.Apdu.Forms
import PgpCard.Proofs.Cache.Staleness
import PgpCard.Proofs.Card.HistoricalBytes
import PgpCard.Proofs.Card.HolderName
import PgpCard.Proofs.Card.Layout
import PgpCard.Proofs.Card.Nesting
import PgpCard.Proofs.Classification
import PgpCard.Proofs.Link.Framing
import PgpCard.Proofs.Link.Segmentation
import PgpCard.Proofs.Link.ShortForm
import PgpCard.Proofs.Reader.Abandonment
import PgpCard.Proofs.Reader.Calls
import PgpCard.Proofs.Reader.Holding
import PgpCard.Proofs.Reader.Selection
import PgpCard.Proofs.Session.Authority
import PgpCard.Proofs.Session.Baseline
import PgpCard.Proofs.Session.Chain
import PgpCard.Proofs.Session.ChannelLife
import PgpCard.Proofs.Session.Coherence
import PgpCard.Proofs.Session.Fingerprints
import PgpCard.Proofs.Session.FreshStart
import PgpCard.Proofs.Session.Layering
import PgpCard.Proofs.Session.Marks
import PgpCard.Proofs.Session.PinConfinement
import PgpCard.Proofs.Session.PinHistory
import PgpCard.Proofs.Session.Policy
import PgpCard.Proofs.Session.Reassembly
import PgpCard.Proofs.Session.Refusal
import PgpCard.Proofs.Tool.HexArgument
import PgpCard.Proofs.Tool.RetryCounter
import PgpCard.Simulator.ScriptedService
